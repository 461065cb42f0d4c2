import Http2.Connection.Call
import Http2.Connection.Receiving
import Http2.Frame.Reader

/-!
# Sessions

A `Session` is one end of a connection together with the octets that have arrived and are not read
yet.  It does no input or output of its own: octets of the peer are handed to `receive`, octets for
the peer and events for the application are taken out of it, and the time is an argument.
-/

namespace Http2

structure Session where
  reader : Reader
  connection : Connection
  deriving DecidableEq, Repr

namespace Session

/-! ## Setting up -/

def fresh (role : Role) (config : Config) : Connection :=
  { config
    registry := .new role config.retention
    outbound := if role = .client then [.preface] else [] }

def setUp (config : Config) (now : Nat) : Action Unit := do
  Connection.announce config.settings now
  Action.onlyIf (defaultWindow < config.connectionWindow)
    (Connection.resizeWindow config.connectionWindow)

def create (role : Role) (config : Config) (now : Nat) : Except Error Session :=
  match config.validate with
  | .error error => .error error
  | .ok () =>
      match (setUp config now).run (fresh role config) with
      | .error error _ => .error error
      | .ok _ connection =>
          .ok ⟨{ prefaceDue := role == .server, blockLimit := config.blockLimit }, connection⟩

/-! ## Input -/

/-- Applies every complete frame, in order.  A violation ends the session and is returned. -/
def consume (reader : Reader) (connection : Connection) : Except Error Unit × Session :=
  match _next : { reader with frameLimit := connection.frameLimit }.next with
  | (.error error, after) => (.error error, ⟨after, connection.fail error⟩)
  | (.ok none, after) => (.ok (), ⟨after, connection⟩)
  | (.ok (some frame), after) =>
      match (Connection.receiveFrame frame).run connection with
      | .ok _ connection => consume after connection
      | .error error connection =>
          if error.isFatal then (.error error, ⟨after, connection.fail error⟩)
          else consume after (connection.absorb error)
termination_by reader.buffer.length
decreasing_by
  all_goals
    have shorter := Reader.next_length _next
    exact shorter

def receive (session : Session) (octets : Octets) : Except Error Unit × Session :=
  if session.connection.closed then (.error .sessionClosed, session)
  else consume (session.reader.feed octets) session.connection

def receiveAll (session : Session) : List Octets → Except Error Unit × Session
  | [] => (.ok (), session)
  | piece :: rest =>
      match session.receive piece with
      | (.ok (), session) => session.receiveAll rest
      | failed => failed

def call (session : Session) (call : Call) : Except Error (Option Nat) × Session :=
  match (Connection.perform call).run session.connection with
  | .ok answer connection => (.ok answer, { session with connection })
  | .error error connection => (.error error, { session with connection })

def close (session : Session) : Session :=
  { session with connection := session.connection.close }

/-! ## Time -/

def deadline? (session : Session) : Option Nat :=
  if session.connection.closed then none
  else session.connection.exchange.deadline? session.connection.config.settingsTimeout

def tick (session : Session) (now : Nat) : Except Error Unit × Session :=
  match session.deadline? with
  | some deadline =>
      if deadline ≤ now then
        let error : Error := .connection .settingsTimeout
        (.error error, { session with connection := session.connection.fail error })
      else (.ok (), session)
  | none => (.ok (), session)

/-! ## Output -/

def outboundOctets (session : Session) : Octets :=
  session.connection.outbound.flatMap Outgoing.octets

def takeOutbound (session : Session) : Octets × Session :=
  (session.outboundOctets,
    { session with connection := { session.connection with outbound := [] } })

/-- Hands what waits to be sent to a transport and gives its length.  It stays where the transport
turns it down. -/
def flush {ε : Type} (transport : Octets → Except ε Unit) (session : Session) :
    Except ε Nat × Session :=
  let (octets, emptied) := session.takeOutbound
  if octets.isEmpty then (.ok 0, session)
  else
    match transport octets with
    | .error error => (.error error, session)
    | .ok () => (.ok octets.length, emptied)

def nextEvent? (session : Session) : Option (Event × Session) :=
  match session.connection.events with
  | [] => none
  | event :: rest =>
      some (event, { session with connection := { session.connection with events := rest } })

def takeEvents (session : Session) : List Event × Session :=
  (session.connection.events,
    { session with connection := { session.connection with events := [] } })

/-! ## Views -/

structure Stats where
  sendWindow : Int
  receiveWindow : Int
  receiveTarget : Nat
  nextLocal : Nat
  lastRemote : Nat
  live : Nat
  retained : Nat
  buffered : Nat
  outbound : Nat
  settingsOutstanding : Bool
  farewell : Farewell
  closed : Bool
  deriving DecidableEq, Repr

def stats (session : Session) : Stats :=
  let connection := session.connection
  { sendWindow := connection.sendWindows.connection
    receiveWindow := connection.receiveWindows.connection
    receiveTarget := connection.receiveTarget
    nextLocal := connection.registry.nextLocal
    lastRemote := connection.registry.lastRemote
    live := connection.registry.liveIds.length
    retained := connection.registry.size
    buffered := total (connection.registry.streams.values.map Stream.buffered)
    outbound := session.outboundOctets.length
    settingsOutstanding := !connection.exchange.outstanding.isEmpty
    farewell := connection.farewell
    closed := connection.closed }

structure StreamStats where
  phase : Phase
  priority : Priority
  sendWindow : Option Int
  receiveWindow : Option Int
  buffered : Nat
  resetReason : Option Reason
  deriving DecidableEq, Repr

def streamStats? (session : Session) (id : Nat) : Option StreamStats :=
  (session.connection.registry.get? id).map fun stream =>
    { phase := stream.phase
      priority := stream.priority
      sendWindow := session.connection.sendWindows.stream? id
      receiveWindow := session.connection.receiveWindows.stream? id
      buffered := stream.buffered
      resetReason := stream.resetReason }

def isDrained (session : Session) : Bool := session.connection.registry.liveIds.isEmpty

def isGoingAway (session : Session) : Bool :=
  session.connection.farewell.sent.isSome || session.connection.farewell.received.isSome

end Session

end Http2
