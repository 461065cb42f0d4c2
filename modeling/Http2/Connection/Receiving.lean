import Http2.Connection.Sending

/-!
# Receiving frames

`receiveFrame` applies a frame of the peer.  It fails with a violation, which ends the session, or
with an error of one stream, which `absorb` answers by resetting the stream.
-/

namespace Http2

namespace Connection

def missingStream (connection : Connection) (kind : FrameKind) (id : Nat) : Error :=
  if connection.registry.isIdle id then .protocol (.idleStream kind id)
  else .connection (.closedStream kind id)

def requirePhase (kind : FrameKind) (id : Nat) : Action Phase := do
  let connection ← get
  match connection.phase? id with
  | some phase => return phase
  | none => throw (connection.missingStream kind id)

/-- Reads a header block.  The table advances even if the block is faulty. -/
def decompress (block : Octets) : Action (List Field) := do
  let connection ← get
  let (result, table) := Header.decodeBlock connection.decoder block
  set { connection with decoder := table }
  match result with
  | .ok fields => return fields
  | .error failure => throw (.protocol (.compression failure))

/-! ## DATA -/

def refill (connection : Connection) (id target : Nat) : Connection :=
  match connection.receiveWindows.refill id target with
  | none => connection
  | some (increment, windows) =>
      { connection with receiveWindows := windows }.write (.windowUpdate id increment)

def chargeConnection (count : Nat) : Action Unit := do
  let connection ← get
  match connection.receiveWindows.chargeConnection count with
  | .error error => throw (.connection (.window error))
  | .ok windows =>
      set ({ connection with receiveWindows := windows }.refill 0 connection.receiveTarget)

def chargeStream (id count : Nat) : Action Unit := do
  let connection ← get
  match connection.receiveWindows.chargeStream id count with
  | .error _ => throw (.stream id .flowControlError)
  | .ok windows => set { connection with receiveWindows := windows }

def dataFault (id : Nat) (phase : Phase) : Error :=
  if phase = .halfClosedRemote ∨ phase = .closed then .stream id .streamClosed
  else .protocol (.wrongPhase .data id phase)

def receiveData (id : Nat) (octets : Octets) (endStream : Bool) (charged : Nat) :
    Action Unit := do
  chargeConnection charged
  let phase ← requirePhase .data id
  Action.require phase.canReceive (dataFault id phase)
  chargeStream id charged
  Action.onlyIf (!octets.isEmpty || endStream) (modify (·.emit (.data id octets endStream)))
  if endStream then advance id .receiveEnd
  else modify fun connection => connection.refill id connection.receiveInitial

/-! ## HEADERS -/

def refuseStream (connection : Connection) (id : Nat) (reason : Reason) : Connection :=
  { connection with
    registry :=
      ((connection.registry.insert id (({} : Stream).reset reason)).markClosed id).2 }.write
        (.rstStream id reason.code)

def refusal? (connection : Connection) (malformed : Bool) : Option Reason :=
  if connection.exchange.latest.maxConcurrentStreams ≤ connection.registry.activeCount false then
    some .refusedStream
  else if malformed then some .protocolError
  else none

def acceptRemote (id : Nat) : Action Unit := do
  let connection ← get
  let registry ← Action.ofExcept (connection.registry.acceptRemote id)
  set { connection with registry }

/-- The peer opens a stream.  After our GOAWAY those above the one it names are passed over. -/
def openRemote (id : Nat) (fields : List Field) (priority : Option Priority)
    (endStream malformed : Bool) : Action Unit := do
  acceptRemote id
  let connection ← get
  if connection.farewell.sent.any (· < id) then pure ()
  else
    match connection.refusal? malformed, ({} : Stream).advance? (.receiveHeaders endStream) with
    | some reason, _ => set (connection.refuseStream id reason)
    | none, none => throw (.protocol (.cannotOpen id))
    | none, some stream =>
        let connection :=
          (connection.addStream id
            { stream with finalReceived := !isInformational fields }).reprioritizeIf id priority
        set ((connection.emit (.streamCreated id none)).emit (.headers id fields endStream))

def deliverHeaders (connection : Connection) (id : Nat) (fields : List Field)
    (endStream : Bool) : Connection :=
  (connection.modifyStream id fun stream =>
    { stream with finalReceived := !isInformational fields }).emit (.headers id fields endStream)

/-- Headers on a stream that has not had its final ones.  Only final ones may end it. -/
def receiveMessageHeaders (id : Nat) (fields : List Field) (endStream : Bool) : Action Unit := do
  Action.require (!(endStream && isInformational fields)) (.stream id .protocolError)
  modify (·.deliverHeaders id fields endStream)

def receiveTrailers (id : Nat) (fields : List Field) (endStream : Bool) : Action Unit := do
  Action.require endStream (.stream id .protocolError)
  modify (·.emit (.trailers id fields))

def receiveSection (id : Nat) (fields : List Field) (endStream : Bool) : Action Unit := do
  let connection ← get
  if (connection.registry.get? id).any Stream.finalReceived then
    receiveTrailers id fields endStream
  else receiveMessageHeaders id fields endStream

def receiveMoreHeaders (id : Nat) (fields : List Field) (priority : Option Priority)
    (endStream : Bool) : Action Unit := do
  receiveSection id fields endStream
  modify (·.reprioritizeIf id priority)
  Action.onlyIf endStream (advance id .receiveEnd)

def receiveHeadersIn (phase : Phase) (id : Nat) (fields : List Field)
    (priority : Option Priority) (endStream : Bool) : Action Unit :=
  match phase with
  | .reservedRemote => do
      modify (·.deliverHeaders id fields endStream)
      advance id (.receiveHeaders endStream)
  | .opened | .halfClosedLocal => receiveMoreHeaders id fields priority endStream
  | .halfClosedRemote | .closed => throw (.stream id .streamClosed)
  | phase => throw (.protocol (.wrongPhase .headers id phase))

def isMalformed (connection : Connection) (id : Nat) (fields : List Field)
    (priority : Option Priority) : Bool :=
  priority.any (·.dependency = id) ||
    connection.receiveLimit .maxHeaderListSize < listSize fields

/-- The block is always read, even for a stream that is dropped, to keep the tables in step. -/
def receiveHeaders (id : Nat) (priority : Option Priority) (block : Octets)
    (endStream : Bool) : Action Unit := do
  let fields ← decompress block
  let connection ← get
  let malformed := connection.isMalformed id fields priority
  match connection.phase? id with
  | some phase =>
      if malformed then throw (.stream id .protocolError)
      else receiveHeadersIn phase id fields priority endStream
  | none =>
      if connection.registry.isLocal id then throw (connection.missingStream .headers id)
      else openRemote id fields priority endStream malformed

/-! ## PRIORITY, RST_STREAM -/

def receivePriority (id : Nat) (priority : Priority) : Action Unit := do
  Action.require (priority.dependency ≠ id) (.stream id .protocolError)
  let connection ← get
  Action.onlyIf ((connection.registry.get? id).any Stream.isLive)
    (modify (·.reprioritize id priority))

def receiveReset (id : Nat) (reason : Reason) : Action Unit := do
  let connection ← get
  Action.require ((connection.phase? id).isSome || !connection.registry.isIdle id)
    (.protocol (.idleStream .rstStream id))
  modify (·.resetStream id reason false)

/-! ## SETTINGS -/

def receiveSettingsAck : Action Unit := do
  let connection ← get
  match connection.exchange.acknowledge with
  | none => throw (.protocol .ackNotDue)
  | some (commit, exchange) => do
      set { connection with exchange }
      syncLimits
      modify (·.emit (.ownSettings commit.current))

def stageSettings (parameters : List (Nat × Nat)) : Action Unit := do
  let connection ← get
  let (result, exchange) := connection.exchange.stage parameters
  set { connection with exchange }
  Action.ofExcept result

def shiftSendWindows (delta : Int) : Action Unit := do
  let connection ← get
  if delta = 0 then pure ()
  else
    match connection.sendWindows.shift delta with
    | .error error => throw (.connection (.window error))
    | .ok (crossed, windows) =>
        let connection := { connection with sendWindows := windows }
        set (if crossed.isEmpty then connection else connection.resume)

def receiveSettings (parameters : List (Nat × Nat)) : Action Unit := do
  stageSettings parameters
  modify (·.write (.settings true []))
  let connection ← get
  match connection.exchange.commit with
  | none => pure ()
  | some (commit, exchange) => do
      set { connection with exchange }
      shiftSendWindows commit.windowDelta
      modify (·.emit (.peerSettings commit.current))

/-! ## PUSH_PROMISE -/

def receivePushPromise (id promised : Nat) (block : Octets) : Action Unit := do
  let connection ← get
  Action.require (connection.role ≠ .server) (.protocol .pushToServer)
  Action.require connection.exchange.own.enablePush (.protocol .pushRefused)
  let request ← decompress block
  let phase ← requirePhase .pushPromise id
  Action.require phase.canReceive (.protocol (.wrongPhase .pushPromise id phase))
  acceptRemote promised
  match ({} : Stream).advance? .receivePush with
  | none => throw (.protocol (.cannotReserve promised))
  | some stream =>
      modify fun connection =>
        (connection.addPromised promised id stream).emit
          (.streamCreated promised (some ⟨id, request⟩))

/-! ## GOAWAY -/

def receiveGoaway (connection : Connection) (last : Nat) (reason : Reason) (debug : Octets) :
    Connection :=
  let last := Farewell.least connection.farewell.received last
  let connection :=
    { connection with farewell := { connection.farewell with received := some last } }.emit
      (.goaway last reason debug)
  (connection.registry.liveIds.filter fun id =>
      connection.registry.isLocal id && decide (last < id)).foldl
    (fun connection id => connection.resetStream id .refusedStream false) connection

/-! ## WINDOW_UPDATE -/

def receiveConnectionCredit (increment : Nat) : Action Unit := do
  Action.require (increment ≠ 0) (.protocol .zeroIncrement)
  let connection ← get
  match connection.sendWindows.credit 0 increment with
  | .error error _ => throw (.connection (.window error))
  | .ok crossed windows =>
      let connection := { connection with sendWindows := windows }
      set (if crossed then connection.resume else connection)

def creditStream (id increment : Nat) : Action Unit := do
  Action.require (increment ≠ 0) (.stream id .protocolError)
  let connection ← get
  match connection.sendWindows.credit id increment with
  | .error _ _ => throw (.stream id .flowControlError)
  | .ok crossed windows =>
      if crossed && 0 < windows.available id && windows.isParked id then
        set ({ connection with sendWindows := windows.unpark id }.flush id)
      else set { connection with sendWindows := windows }

def receiveStreamCredit (id increment : Nat) : Action Unit := do
  let phase ← requirePhase .windowUpdate id
  Action.onlyIf (!phase.isClosed) (creditStream id increment)

/-! ## All frames -/

def tellClient (event : Event) : Action Unit := do
  let connection ← get
  Action.onlyIf (connection.role = .client) (modify (·.emit event))

def receiveFrame (frame : Frame) : Action Unit :=
  match frame with
  | .data id octets endStream _ => receiveData id octets endStream frame.chargedLength
  | .headers id priority block endStream => receiveHeaders id priority block endStream
  | .priority id priority => receivePriority id priority
  | .rstStream id code => receiveReset id ⟨code⟩
  | .settings true _ => receiveSettingsAck
  | .settings false parameters => receiveSettings parameters
  | .pushPromise id promised block => receivePushPromise id promised block
  | .ping true payload => modify (·.emit (.pingAck payload))
  | .ping false payload => modify (·.write (.ping true payload))
  | .goaway last code debug => modify (·.receiveGoaway last ⟨code⟩ debug)
  | .windowUpdate id increment =>
      if id = 0 then receiveConnectionCredit increment else receiveStreamCredit id increment
  | .altSvc id origin value => tellClient (.altSvc id origin value)
  | .origin origins => tellClient (.origin origins)
  | .unknown .. => pure ()

/-- Answers an error of one stream.  A stream that the peer never opened is not reset. -/
def resetFaulty (connection : Connection) (id : Nat) (reason : Reason) : Connection :=
  match connection.registry.get? id with
  | some stream =>
      if stream.isLive then connection.resetStream id reason true
      else connection.write (.rstStream id reason.code)
  | none =>
      if connection.registry.isIdle id then connection
      else connection.write (.rstStream id reason.code)

def absorb (connection : Connection) : Error → Connection
  | .stream id reason => connection.resetFaulty id reason
  | .refused id => connection.resetFaulty id .refusedStream
  | _ => connection

end Connection

end Http2
