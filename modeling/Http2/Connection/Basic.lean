import Http2.Connection.Config
import Http2.Connection.Event
import Http2.Frame.Wire
import Http2.Header.Block
import Http2.Settings.Exchange
import Http2.Stream.Dependency

/-!
# Connections

A `Connection` is the state of one end.  Operations that always succeed are functions on it.  Those
that may be turned down are of type `Action`: they return the state in either case, since a frame
that fails halfway has already had its effect on the windows and on header compression.

Frames to send wait in `outbound` and what the application is told waits in `events`, both in order.
-/

namespace Http2

/-- What waits to be sent.  A frame is cut for the limit that held when it was written. -/
inductive Outgoing where
  | preface
  | frame (limit : Nat) (frame : Frame)
  deriving DecidableEq, Repr

def Outgoing.octets : Outgoing → Octets
  | preface => Http2.preface
  | frame limit content => content.encode limit

structure Farewell where
  sent : Option Nat := none
  received : Option Nat := none
  deriving DecidableEq, Repr

/-- The last stream that stands once another farewell names one. -/
def Farewell.least (previous : Option Nat) (last : Nat) : Nat :=
  (previous.map (min · last)).getD last

structure Connection where
  config : Config
  registry : Registry
  exchange : Exchange := {}
  encoder : Header.Table := .new
  decoder : Header.Table := .new
  sendWindows : Windows := .default
  receiveWindows : Windows := .default
  receiveTarget : Nat := defaultWindow
  /-- The initial window that the receive windows reflect. -/
  receiveInitial : Nat := defaultWindow
  frameLimit : Nat := leastFrameLimit
  farewell : Farewell := {}
  outbound : List Outgoing := []
  events : List Event := []
  closed : Bool := false
  deriving DecidableEq, Repr

abbrev Action := EStateM Error Connection

namespace Action

def ofExcept {α : Type} : Except Error α → Action α
  | .ok value => pure value
  | .error error => throw error

def require (condition : Bool) (error : Error) : Action Unit :=
  if condition then pure () else throw error

def onlyIf (condition : Bool) (action : Action Unit) : Action Unit :=
  if condition then action else pure ()

@[simp] theorem require_true (error : Error) : require true error = pure () := rfl

@[simp] theorem require_false (error : Error) : require false error = throw error := rfl

@[simp] theorem onlyIf_true (action : Action Unit) : onlyIf true action = action := rfl

@[simp] theorem onlyIf_false (action : Action Unit) : onlyIf false action = pure () := rfl

end Action

namespace Connection

def role (connection : Connection) : Role := connection.registry.role

def phase? (connection : Connection) (id : Nat) : Option Phase := connection.registry.phase? id

def ensureOpen : Action Unit := do
  let connection ← get
  Action.require (!connection.closed) .sessionClosed

/-! ## Output -/

def emit (connection : Connection) (event : Event) : Connection :=
  { connection with events := connection.events ++ [event] }

def write (connection : Connection) (frame : Frame) : Connection :=
  { connection with
    outbound := connection.outbound ++ [.frame connection.exchange.peer.maxFrameSize frame] }

def compress (connection : Connection) (fields : List Field) : Octets × Connection :=
  let (block, table) := Header.encodeBlock connection.encoder fields
  (block, { connection with encoder := table })

def writeHeaders (connection : Connection) (id : Nat) (fields : List Field)
    (priority : Option Priority) (endStream : Bool) : Connection :=
  let (block, connection) := connection.compress fields
  connection.write (.headers id priority block endStream)

/-! ## Limits on what the peer sends -/

/-- The larger of the acknowledged and the latest value: the peer may not know the latest yet. -/
def receiveLimit (connection : Connection) (setting : Setting) : Nat :=
  max (connection.exchange.own.get setting) (connection.exchange.latest.get setting)

def shiftReceiveWindows (initial : Nat) : Action Unit := do
  let connection ← get
  if initial = connection.receiveInitial then pure ()
  else
    match connection.receiveWindows.shift ((initial : Int) - connection.receiveInitial) with
    | .error error => throw (.connection (.window error))
    | .ok (_, windows) =>
        set { connection with receiveWindows := windows, receiveInitial := initial }

/-- Brings the receive windows and the frame limit in line with our settings.  Growth counts from
the announcement, a reduction from the acknowledgement. -/
def syncLimits : Action Unit := do
  let connection ← get
  shiftReceiveWindows (connection.receiveLimit .initialWindowSize)
  modify fun connection =>
    { connection with frameLimit := connection.receiveLimit .maxFrameSize }

def announce (changes : List (Setting × Nat)) (now : Nat) : Action Unit := do
  let connection ← get
  let exchange ← Action.ofExcept (connection.exchange.announce changes now)
  let parameters := changes.map fun (setting, value) => (setting.wireId, value)
  set ({ connection with exchange }.write (.settings false parameters))
  syncLimits

/-! ## Streams -/

def addStream (connection : Connection) (id : Nat) (stream : Stream) : Connection :=
  { connection with
    registry := connection.registry.insert id stream
    sendWindows := connection.sendWindows.openStream id
    receiveWindows := connection.receiveWindows.openStream id }

def addPromised (connection : Connection) (promised id : Nat) (stream : Stream) : Connection :=
  connection.addStream promised
    { stream with priority := ⟨id, Priority.defaultWeight, false⟩ }

def modifyStream (connection : Connection) (id : Nat) (f : Stream → Stream) : Connection :=
  { connection with registry := connection.registry.modify id f }

def reprioritize (connection : Connection) (id : Nat) (priority : Priority) : Connection :=
  { connection with registry := connection.registry.reprioritize id priority }

def reprioritizeIf (connection : Connection) (id : Nat) (priority : Option Priority) :
    Connection :=
  match priority with
  | some priority => connection.reprioritize id priority
  | none => connection

def finishStream (connection : Connection) (id : Nat) (reason : Option Reason) : Connection :=
  { connection with
    sendWindows := connection.sendWindows.closeStream id
    receiveWindows := connection.receiveWindows.closeStream id
    registry := ((connection.registry.detachChildren id).markClosed id).2 }.emit
      (.streamClosed id reason)

def advance (id : Nat) (signal : Signal) : Action Unit := do
  let connection ← get
  match connection.registry.get? id with
  | none => throw (.unknownStream id)
  | some stream =>
      match stream.advance? signal with
      | none => throw (.invalidState id .changeState)
      | some stream =>
          let connection := { connection with registry := connection.registry.insert id stream }
          set (if stream.isLive then connection else connection.finishStream id none)

def advanceAnyway (connection : Connection) (id : Nat) (signal : Signal) : Connection :=
  match (advance id signal).run connection with
  | .ok _ connection => connection
  | .error _ connection => connection

/-- Closes a live stream that the session or one end gives up.  `error` is what the application is
told of anything left unsent. -/
def dropStream (connection : Connection) (id : Nat) (reason : Reason) (announced : Bool)
    (error : Error) : Connection :=
  match connection.registry.get? id with
  | none => connection
  | some stream =>
      if stream.isLive then
        let connection :=
          { connection with registry := connection.registry.insert id (stream.reset reason) }
        let connection :=
          if announced then connection.write (.rstStream id reason.code) else connection
        let connection :=
          if stream.hasOutbound then
            connection.emit (.sendCancelled id stream.buffered error)
          else connection
        connection.finishStream id (some reason)
      else connection

def resetStream (connection : Connection) (id : Nat) (reason : Reason) (announced : Bool) :
    Connection :=
  connection.dropStream id reason announced (.stream id reason)

/-! ## The end of the session -/

def teardown (connection : Connection) (reason : Reason) : Connection :=
  let connection := connection.registry.liveIds.foldl
    (fun connection id => connection.dropStream id reason false .sessionClosed) connection
  { connection with sendWindows := { connection.sendWindows with parked := [] } }

def sayFarewell (connection : Connection) (last : Nat) (reason : Reason) (debug : Octets) :
    Connection :=
  let connection := connection.write (.goaway last reason.code debug)
  { connection with farewell := { connection.farewell with sent := some last } }

def fail (connection : Connection) (error : Error) : Connection :=
  if connection.closed then connection
  else
    let connection := connection.sayFarewell connection.registry.lastRemote error.reason
      (Header.encodeUtf8 error.debugText)
    let connection := (connection.teardown error.reason).emit (.sessionError error)
    { connection with closed := true }

def close (connection : Connection) : Connection :=
  if connection.closed then connection
  else
    let connection :=
      if connection.farewell.sent = none then
        connection.sayFarewell connection.registry.lastRemote .noError []
      else connection
    { connection.teardown .cancel with closed := true }

end Connection

end Http2
