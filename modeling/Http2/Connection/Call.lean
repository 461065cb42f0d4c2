import Http2.Connection.Sending

/-!
# Calls of the application

`perform` carries out what the application asks of its end of the connection.  Calls that open or
promise a stream answer with its identifier.
-/

namespace Http2

inductive Call where
  | createStream (fields : List Field) (priority : Option Priority) (endStream : Bool)
  | sendData (stream : Nat) (octets : Octets) (endStream : Bool)
  | sendTrailers (stream : Nat) (fields : List Field)
  | reset (stream : Nat) (reason : Reason)
  | updatePriority (stream : Nat) (priority : Priority)
  | respond (stream : Nat) (fields : List Field) (endStream : Bool)
  | inform (stream : Nat) (fields : List Field)
  | pushPromise (stream : Nat) (fields : List Field)
  | sendSettings (changes : List (Setting × Nat)) (now : Nat)
  | sendGoaway (last : Nat) (reason : Reason) (debug : Octets)
  | sendPing (payload : UInt64)
  | sendAltSvc (stream : Nat) (origin value : Octets)
  | sendOrigin (origins : List Octets)
  | skipTo (stream : Nat)
  | resizeWindow (size : Nat)
  deriving DecidableEq, Repr

namespace Connection

/-! ## New streams -/

def ensureStaying : Action Unit := do
  let connection ← get
  match connection.farewell.received.or connection.farewell.sent with
  | some last => throw (.goingAway last)
  | none => pure ()

def allocate : Action Nat := do
  let connection ← get
  let (id, registry) ← Action.ofExcept connection.registry.allocate
  set { connection with registry }
  return id

def streamLimit (connection : Connection) : Nat :=
  min connection.exchange.peer.maxConcurrentStreams
    connection.exchange.latest.maxConcurrentStreams

def isFull (connection : Connection) : Bool :=
  connection.streamLimit ≤ connection.registry.activeCount true

def refuseOwn (connection : Connection) (id : Nat) : Connection :=
  { connection with
    registry := connection.registry.insert id (({} : Stream).reset .refusedStream) }.finishStream
      id (some .refusedStream)

def openLocal (id : Nat) (fields : List Field) (priority : Option Priority)
    (endStream : Bool) : Action Unit := do
  let connection ← get
  if connection.isFull then do
    set (connection.refuseOwn id)
    throw (.refused id)
  else
    match ({} : Stream).advance? (.sendHeaders endStream) with
    | none => throw (.invalidState id .openStream)
    | some stream =>
        let connection :=
          (connection.addStream id { stream with finalSent := true }).reprioritizeIf id priority
        set (connection.writeHeaders id fields priority endStream)

/-- Opens a stream.  Beyond the concurrency limit the identifier is used up all the same, and the
stream is recorded as refused. -/
def createStream (fields : List Field) (priority : Option Priority) (endStream : Bool) :
    Action Nat := do
  ensureOpen
  ensureStaying
  let connection ← get
  Action.require (priority.all Priority.hasValidWeight)
    (.invalidPriority connection.registry.nextLocal)
  let id ← allocate
  Action.require (priority.all (·.dependency ≠ id)) (.invalidPriority id)
  openLocal id fields priority endStream
  return id

def requirePushable (id : Nat) : Action Unit := do
  let connection ← get
  match connection.phase? id with
  | none => throw (.unknownStream id)
  | some phase => Action.require phase.canSend (.invalidState id .push)

def reserveLocal (promised id : Nat) (request : List Field) : Action Unit :=
  match ({} : Stream).advance? .sendPush with
  | none => throw (.invalidState promised .reserveStream)
  | some stream =>
      modify fun connection =>
        let (block, connection) := (connection.addPromised promised id stream).compress request
        connection.write (.pushPromise id promised block)

def pushPromise (id : Nat) (request : List Field) : Action Nat := do
  ensureOpen
  let connection ← get
  Action.require (connection.role = .server) (.invalidState id .push)
  Action.require connection.exchange.peer.enablePush .pushDisabled
  ensureStaying
  requirePushable id
  let promised ← allocate
  reserveLocal promised id request
  return promised

/-! ## Sending on a stream -/

def requireStream (id : Nat) : Action Stream := do
  let connection ← get
  match connection.registry.get? id with
  | some stream => return stream
  | none => throw (.unknownStream id)

def requireSender (id : Nat) (operation : Operation) : Action Unit := do
  let stream ← requireStream id
  Action.require (stream.phase.canSend && !stream.endQueued) (.invalidState id operation)

def sendData (id : Nat) (octets : Octets) (endStream : Bool) : Action Unit := do
  ensureOpen
  requireSender id .sendData
  modify fun connection =>
    (connection.modifyStream id (·.enqueue octets endStream)).flush id

def sendTrailers (id : Nat) (fields : List Field) : Action Unit := do
  ensureOpen
  requireSender id .sendTrailers
  modify fun connection =>
    (connection.modifyStream id (·.enqueueTrailers fields)).flush id

def reset (id : Nat) (reason : Reason) : Action Unit := do
  ensureOpen
  let _ ← requireStream id
  modify (·.resetStream id reason true)

def updatePriority (id : Nat) (priority : Priority) : Action Unit := do
  ensureOpen
  let stream ← requireStream id
  Action.require stream.isLive (.invalidState id .reprioritize)
  Action.require (priority.dependency ≠ id && priority.hasValidWeight) (.invalidPriority id)
  modify fun connection =>
    (connection.reprioritize id priority).write (.priority id priority)

def ensureRoom (id : Nat) : Action Unit := do
  let connection ← get
  if connection.isFull then do
    set (connection.resetStream id .refusedStream true)
    throw (.refused id)
  else pure ()

/-- Sends the final headers on a stream of the peer or on a promised one.  A promised stream becomes
active here, and is reset where that would pass the concurrency limit. -/
def respond (id : Nat) (fields : List Field) (endStream : Bool) : Action Unit := do
  ensureOpen
  let stream ← requireStream id
  let promised := stream.phase == .reservedLocal
  Action.require
    ((stream.phase.canSend || promised) && !stream.finalSent && !isInformational fields)
    (.invalidState id .respond)
  Action.onlyIf (promised && !endStream) (ensureRoom id)
  modify fun connection =>
    (connection.modifyStream id fun stream => { stream with finalSent := true }).writeHeaders
      id fields none endStream
  advance id (.sendHeaders endStream)

def inform (id : Nat) (fields : List Field) : Action Unit := do
  ensureOpen
  let stream ← requireStream id
  Action.require (stream.phase.canSend && !stream.finalSent && isInformational fields)
    (.invalidState id .sendInformational)
  modify (·.writeHeaders id fields none false)

/-! ## The connection -/

def sendSettings (changes : List (Setting × Nat)) (now : Nat) : Action Unit := do
  ensureOpen
  announce changes now

def dropAbove (connection : Connection) (last : Nat) (reason : Reason) (debug : Octets) :
    Connection :=
  let last := Farewell.least connection.farewell.sent last
  let connection := connection.sayFarewell last reason debug
  (connection.registry.liveIds.filter fun id =>
      !connection.registry.isLocal id && decide (last < id)).foldl
    (fun connection id => connection.resetStream id .refusedStream false) connection

def sendGoaway (last : Nat) (reason : Reason) (debug : Octets) : Action Unit := do
  ensureOpen
  modify (·.dropAbove last reason debug)

def sendPing (payload : UInt64) : Action Unit := do
  ensureOpen
  modify (·.write (.ping false payload))

def sendAltSvc (id : Nat) (origin value : Octets) : Action Unit := do
  ensureOpen
  let connection ← get
  Action.require (connection.role = .server) (.invalidState id .sendAltSvc)
  Action.require ((id == 0) != origin.isEmpty) (.invalidStream id)
  Action.require (id == 0 || (connection.registry.get? id).isSome) (.unknownStream id)
  modify (·.write (.altSvc id origin value))

def sendOrigin (origins : List Octets) : Action Unit := do
  ensureOpen
  let connection ← get
  Action.require (connection.role = .server) (.invalidState 0 .sendOrigin)
  modify (·.write (.origin origins))

def skipTo (id : Nat) : Action Unit := do
  let connection ← get
  let registry ← Action.ofExcept (connection.registry.skipTo id)
  set { connection with registry }

def grow (increment : Nat) : Action Unit := do
  let connection ← get
  match connection.receiveWindows.credit 0 increment with
  | .error error _ => throw (.window error)
  | .ok _ windows =>
      set ({ connection with receiveWindows := windows }.write (.windowUpdate 0 increment))

/-- A larger window is announced at once; a smaller one shows as credit is refilled. -/
def resizeWindow (size : Nat) : Action Unit := do
  ensureOpen
  Action.require (size ≤ maxWindow) (.invalidSetting 0 size)
  let connection ← get
  Action.onlyIf (connection.receiveTarget < size) (grow (size - connection.receiveTarget))
  modify fun connection => { connection with receiveTarget := size }

/-! ## All calls -/

def silently (action : Action Unit) : Action (Option Nat) := do
  action
  return none

def perform : Call → Action (Option Nat)
  | .createStream fields priority endStream => some <$> createStream fields priority endStream
  | .sendData id octets endStream => silently (sendData id octets endStream)
  | .sendTrailers id fields => silently (sendTrailers id fields)
  | .reset id reason => silently (reset id reason)
  | .updatePriority id priority => silently (updatePriority id priority)
  | .respond id fields endStream => silently (respond id fields endStream)
  | .inform id fields => silently (inform id fields)
  | .pushPromise id fields => some <$> pushPromise id fields
  | .sendSettings changes now => silently (sendSettings changes now)
  | .sendGoaway last reason debug => silently (sendGoaway last reason debug)
  | .sendPing payload => silently (sendPing payload)
  | .sendAltSvc id origin value => silently (sendAltSvc id origin value)
  | .sendOrigin origins => silently (sendOrigin origins)
  | .skipTo id => silently (skipTo id)
  | .resizeWindow size => silently (resizeWindow size)

end Connection

end Http2
