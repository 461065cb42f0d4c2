import Http2.Connection.Receiving
import Http2.Proofs.Registry
import Http2.Proofs.Served
import Http2.Proofs.Settings

/-!
# How frames are dealt with

`Dealt connection frame result after` lists everything that can become of a frame: what lets it
happen, with which result it ends and how it leaves the connection.  `receiveFrame_dealt` says that
the list is complete.  What holds after every frame is proved from the list, and the checks that
come before are gone through here.

Data is charged to the connection, and a header block is read, before anything else is looked at.
`DataDealt` and `HeadersDealt` say how it goes on from there.
-/

namespace Http2.Connection

open Action

variable {conn : Connection} {id : Nat} {error : Error} {stream : Stream}
  {goal : Except Error Unit → Connection → Prop}

/-! ## The checks -/

theorem requirePhase_leads {kind : FrameKind} {goal : Except Error Phase → Connection → Prop} :
    (requirePhase kind id).Leads conn goal ↔
      (∀ phase, conn.phase? id = some phase → goal (.ok phase) conn) ∧
      (conn.phase? id = none → goal (.error (conn.missingStream kind id)) conn) := by
  unfold requirePhase
  rw [leads_get_bind]
  cases conn.phase? id with
  | none => simp
  | some phase => simp

theorem missingStream_isFatal (conn : Connection) (kind : FrameKind) (id : Nat) :
    (conn.missingStream kind id).isFatal = true := by
  unfold missingStream
  split <;> rfl

private theorem decompress_leads {block : Octets}
    {goal : Except Error (List Field) → Connection → Prop} :
    (decompress block).Leads conn goal ↔
      (∀ fields table, Header.decodeBlock conn.decoder block = (.ok fields, table) →
        goal (.ok fields) { conn with decoder := table }) ∧
      ∀ failure table, Header.decodeBlock conn.decoder block = (.error failure, table) →
        goal (.error (.protocol (.compression failure))) { conn with decoder := table } := by
  unfold decompress
  simp only [leads_bind, leads_get, onward_ok]
  generalize Header.decodeBlock conn.decoder block = decoded
  obtain ⟨result, table⟩ := decoded
  cases result with
  | ok fields => simp
  | error failure => simp

private theorem acceptRemote_leads :
    (acceptRemote id).Leads conn goal ↔ (∀ error, conn.registry.acceptRemote id = .error error →
        goal (.error error) conn) ∧
      ∀ registry, conn.registry.acceptRemote id = .ok registry →
        goal (.ok ()) { conn with registry } := by
  unfold acceptRemote
  simp only [leads_bind, leads_get, onward_ok, leads_ofExcept]
  cases conn.registry.acceptRemote id with
  | ok registry => simp
  | error error => simp

theorem acceptRemote_isFatal {registry : Registry}
    (failed : registry.acceptRemote id = .error error) :
    error.isFatal = true := by
  unfold Registry.acceptRemote at failed
  split at failed
  · cases failed
    rfl
  · split at failed <;> cases failed
    rfl

@[simp] theorem registry_refill (conn : Connection) (id target : Nat) :
    (conn.refill id target).registry = conn.registry := by
  unfold refill
  split <;> rfl

theorem phase?_eq_none_iff : conn.phase? id = none ↔ conn.registry.get? id = none :=
  Option.map_eq_none_iff

/-! ## Streams that move on -/

private theorem exists_receiveEnd (receives : stream.phase.canReceive) :
    ∃ next, stream.advance? .receiveEnd = some next := by
  unfold Stream.advance?
  cases phase : stream.phase <;> simp_all [Phase.canReceive, Phase.next?]

private theorem exists_receiveHeaders (reserved : stream.phase = .reservedRemote)
    (endStream : Bool) :
    ∃ next, stream.advance? (.receiveHeaders endStream) = some next := by
  unfold Stream.advance?
  rw [reserved]
  cases endStream <;> exact ⟨_, rfl⟩

variable (held : conn.registry.get? id = some stream)

include held

theorem get?_modifyStream {f : Stream → Stream} :
    (conn.modifyStream id f).registry.get? id = some (f stream) := by
  rw [modifyStream, Registry.get?_modify, if_pos rfl, held]
  rfl

theorem get?_deliverHeaders (fields : List Field) (endStream : Bool) :
    (conn.deliverHeaders id fields endStream).registry.get? id =
      some { stream with finalReceived := !isInformational fields } :=
  get?_modifyStream held

private theorem get?_reprioritizeIf (priority : Option Priority) :
    ∃ current, (conn.reprioritizeIf id priority).registry.get? id = some current ∧
      current.bare = stream.bare := by
  cases priority with
  | none => exact ⟨stream, held, rfl⟩
  | some priority =>
    have same := Registry.bare?_reprioritize conn.registry id id priority
    rw [Registry.bare?, Registry.bare?, held] at same
    exact Option.map_eq_some_iff.mp same

omit held

/-! ## What frames make of a connection -/

def debited (conn : Connection) (windows : Windows) : Connection :=
  { conn with receiveWindows := windows }.refill 0 conn.receiveTarget

def emitIf (conn : Connection) (condition : Bool) (event : Event) : Connection :=
  if condition then conn.emit event else conn

def resumeIf (condition : Bool) (conn : Connection) : Connection :=
  if condition then conn.resume else conn

@[simp]
theorem registry_emitIf (conn : Connection) (condition : Bool) (event : Event) :
    (conn.emitIf condition event).registry = conn.registry := by
  unfold emitIf
  split <;> rfl

def learned (conn : Connection) (changes : List (Setting × Nat)) : Connection :=
  { conn.write (.settings true []) with
    exchange := { conn.exchange with peer := conn.exchange.peer.apply changes, staged := none } }

def limited (conn : Connection) (windows : Windows) : Connection :=
  { conn with
    receiveWindows := windows
    receiveInitial := conn.receiveLimit .initialWindowSize
    frameLimit := conn.receiveLimit .maxFrameSize }

def Slides (windows : Windows) (delta : Int) (crossed : List Nat) (after : Windows) : Prop :=
  delta = 0 ∧ crossed = [] ∧ after = windows ∨ windows.shift delta = .ok (crossed, after)

/-! ## The list -/

/-- Why headers end the session once they have been read. -/
inductive Misplaced (conn : Connection) (id : Nat) : Error → Prop
  | missing (unknown : conn.phase? id = none) (ours : conn.registry.isLocal id) :
      Misplaced conn id (conn.missingStream .headers id)
  | unaccepted {error : Error} (unknown : conn.phase? id = none)
      (theirs : conn.registry.isLocal id = false)
      (failed : conn.registry.acceptRemote id = .error error) : Misplaced conn id error
  | wrongPhase {stream : Stream} (held : conn.registry.get? id = some stream)
      (unfit : stream.phase = .idle ∨ stream.phase = .reservedLocal) :
      Misplaced conn id (.protocol (.wrongPhase .headers id stream.phase))

/-- Why a promise ends the session once it has been read. -/
inductive Unfounded (conn : Connection) (id promised : Nat) : Error → Prop
  | missing (unknown : conn.phase? id = none) :
      Unfounded conn id promised (conn.missingStream .pushPromise id)
  | wrongPhase {stream : Stream} (held : conn.registry.get? id = some stream)
      (shut : stream.phase.canReceive = false) :
      Unfounded conn id promised (.protocol (.wrongPhase .pushPromise id stream.phase))
  | unaccepted {error : Error} (failed : conn.registry.acceptRemote promised = .error error) :
      Unfounded conn id promised error

inductive DataDealt (conn : Connection) (id : Nat) (octets : Octets) (count : Nat) :
    Bool → Except Error Unit → Connection → Prop
  | unheld {endStream : Bool} (unknown : conn.phase? id = none) :
      DataDealt conn id octets count endStream (.error (conn.missingStream .data id)) conn
  | unwelcome {endStream : Bool} {stream : Stream} (held : conn.registry.get? id = some stream)
      (shut : stream.phase.canReceive = false) :
      DataDealt conn id octets count endStream (.error (dataFault id stream.phase)) conn
  | overdrawn {endStream : Bool} {stream : Stream} {error : WindowError}
      (held : conn.registry.get? id = some stream) (receives : stream.phase.canReceive)
      (short : conn.receiveWindows.chargeStream id count = .error error) :
      DataDealt conn id octets count endStream (.error (.stream id .flowControlError)) conn
  | delivered {stream : Stream} {windows : Windows} (held : conn.registry.get? id = some stream)
      (receives : stream.phase.canReceive)
      (drawn : conn.receiveWindows.chargeStream id count = .ok windows) :
      DataDealt conn id octets count false (.ok ())
        (({ conn with receiveWindows := windows }.emitIf (!octets.isEmpty)
          (.data id octets false)).refill id conn.receiveInitial)
  | finished {stream next : Stream} {windows : Windows} (held : conn.registry.get? id = some stream)
      (receives : stream.phase.canReceive)
      (drawn : conn.receiveWindows.chargeStream id count = .ok windows)
      (moves : stream.advance? .receiveEnd = some next) :
      DataDealt conn id octets count true (.ok ())
        (({ conn with receiveWindows := windows }.emit (.data id octets true)).settled id next)

inductive HeadersDealt (conn : Connection) (id : Nat) (fields : List Field)
    (priority : Option Priority) : Bool → Except Error Unit → Connection → Prop
  | misplaced {endStream : Bool} {error : Error} (fault : Misplaced conn id error) :
      HeadersDealt conn id fields priority endStream (.error error) conn
  | declined {endStream : Bool} {stream : Stream} {reason : Reason}
      (held : conn.registry.get? id = some stream)
      (complains : reason = .protocolError ∨ reason = .streamClosed)
      (fault : conn.isMalformed id fields priority ∨ stream.phase ≠ .reservedRemote) :
      HeadersDealt conn id fields priority endStream (.error (.stream id reason)) conn
  | passed {endStream : Bool} {registry : Registry} (unknown : conn.phase? id = none)
      (taken : conn.registry.acceptRemote id = .ok registry)
      (beyond : conn.farewell.sent.any (· < id) = true) :
      HeadersDealt conn id fields priority endStream (.ok ()) { conn with registry }
  | turnedAway {endStream : Bool} {registry : Registry} {reason : Reason}
      (unknown : conn.phase? id = none) (taken : conn.registry.acceptRemote id = .ok registry)
      (within : conn.farewell.sent.any (· < id) = false)
      (refused : conn.refusal? (conn.isMalformed id fields priority) = some reason) :
      HeadersDealt conn id fields priority endStream (.ok ())
        ({ conn with registry }.refuseStream id reason)
  | accepted {endStream : Bool} {registry : Registry} {stream : Stream}
      (unknown : conn.phase? id = none) (taken : conn.registry.acceptRemote id = .ok registry)
      (within : conn.farewell.sent.any (· < id) = false)
      (welcome : conn.refusal? (conn.isMalformed id fields priority) = none)
      (begun : ({} : Stream).advance? (.receiveHeaders endStream) = some stream) :
      HeadersDealt conn id fields priority endStream (.ok ())
        (((({ conn with registry }.addStream id
          { stream with finalReceived := !isInformational fields }).reprioritizeIf id priority).emit
            (.streamCreated id none)).emit (.headers id fields endStream))
  | started {endStream : Bool} {stream next : Stream} (held : conn.registry.get? id = some stream)
      (wellFormed : conn.isMalformed id fields priority = false)
      (reserved : stream.phase = .reservedRemote)
      (moves : { stream with finalReceived := !isInformational fields }.advance?
        (.receiveHeaders endStream) = some next) :
      HeadersDealt conn id fields priority endStream (.ok ())
        ((conn.deliverHeaders id fields endStream).settled id next)
  | continued {stream : Stream} (held : conn.registry.get? id = some stream)
      (wellFormed : conn.isMalformed id fields priority = false)
      (receives : stream.phase.canReceive) (early : stream.finalReceived = false) :
      HeadersDealt conn id fields priority false (.ok ())
        ((conn.deliverHeaders id fields false).reprioritizeIf id priority)
  | concluded {stream current next : Stream} (held : conn.registry.get? id = some stream)
      (wellFormed : conn.isMalformed id fields priority = false)
      (receives : stream.phase.canReceive) (early : stream.finalReceived = false)
      (holds : ((conn.deliverHeaders id fields true).reprioritizeIf id priority).registry.get? id =
        some current)
      (same : current.bare = { stream with finalReceived := !isInformational fields }.bare)
      (moves : current.advance? .receiveEnd = some next) :
      HeadersDealt conn id fields priority true (.ok ())
        (((conn.deliverHeaders id fields true).reprioritizeIf id priority).settled id next)
  | trailed {stream current next : Stream} (held : conn.registry.get? id = some stream)
      (wellFormed : conn.isMalformed id fields priority = false)
      (receives : stream.phase.canReceive) (late : stream.finalReceived)
      (holds : ((conn.emit (.trailers id fields)).reprioritizeIf id priority).registry.get? id =
        some current)
      (same : current.bare = stream.bare) (moves : current.advance? .receiveEnd = some next) :
      HeadersDealt conn id fields priority true (.ok ())
        (((conn.emit (.trailers id fields)).reprioritizeIf id priority).settled id next)

inductive Dealt (conn : Connection) : Frame → Except Error Unit → Connection → Prop
  -- messages
  | overspent {id : Nat} {octets : Octets} {endStream : Bool} {padding : Option UInt8}
      {error : WindowError} (short : conn.receiveWindows.chargeConnection
        (Frame.data id octets endStream padding).chargedLength = .error error) :
      Dealt conn (.data id octets endStream padding) (.error (.connection (.window error))) conn
  | data {id : Nat} {octets : Octets} {endStream : Bool} {padding : Option UInt8}
      {windows : Windows} {result : Except Error Unit} {after : Connection}
      (paid : conn.receiveWindows.chargeConnection
        (Frame.data id octets endStream padding).chargedLength = .ok windows)
      (dealt : DataDealt (conn.debited windows) id octets
        (Frame.data id octets endStream padding).chargedLength endStream result after) :
      Dealt conn (.data id octets endStream padding) result after
  | garbled {id : Nat} {priority : Option Priority} {block : Octets} {endStream : Bool}
      {failure : Header.Failure} {table : Header.Table}
      (decoded : Header.decodeBlock conn.decoder block = (.error failure, table)) :
      Dealt conn (.headers id priority block endStream) (.error (.protocol (.compression failure)))
        { conn with decoder := table }
  | headers {id : Nat} {priority : Option Priority} {block : Octets} {endStream : Bool}
      {fields : List Field} {table : Header.Table} {result : Except Error Unit} {after : Connection}
      (decoded : Header.decodeBlock conn.decoder block = (.ok fields, table))
      (dealt : HeadersDealt { conn with decoder := table } id fields priority
        endStream result after) :
      Dealt conn (.headers id priority block endStream) result after
  | pushToServer {id promised : Nat} {block : Octets} (server : conn.role = .server) :
      Dealt conn (.pushPromise id promised block) (.error (.protocol .pushToServer)) conn
  | pushRefused {id promised : Nat} {block : Octets} (refuses : conn.exchange.own.enablePush =
      false) :
      Dealt conn (.pushPromise id promised block) (.error (.protocol .pushRefused)) conn
  | garbledPromise {id promised : Nat} {block : Octets} {failure : Header.Failure}
      {table : Header.Table}
      (decoded : Header.decodeBlock conn.decoder block = (.error failure, table)) :
      Dealt conn (.pushPromise id promised block) (.error (.protocol (.compression failure)))
        { conn with decoder := table }
  | unfounded {id promised : Nat} {block : Octets} {request : List Field} {table : Header.Table}
      {error : Error} (decoded : Header.decodeBlock conn.decoder block = (.ok request, table))
      (fault : Unfounded conn id promised error) :
      Dealt conn (.pushPromise id promised block) (.error error) { conn with decoder := table }
  | promised {id promised : Nat} {block : Octets} {request : List Field} {table : Header.Table}
      {registry : Registry} {stream : Stream}
      (client : conn.role = .client) (pushes : conn.exchange.own.enablePush)
      (decoded : Header.decodeBlock conn.decoder block = (.ok request, table))
      (held : conn.registry.get? id = some stream) (receives : stream.phase.canReceive)
      (taken : conn.registry.acceptRemote promised = .ok registry) :
      Dealt conn (.pushPromise id promised block) (.ok ())
        (({ conn with decoder := table, registry }.addPromised promised id
          { phase := .reservedRemote }).emit (.streamCreated promised (some ⟨id, request⟩)))
  -- PRIORITY and RST_STREAM
  | looped {id : Nat} {priority : Priority} (own : priority.dependency = id) :
      Dealt conn (.priority id priority) (.error (.stream id .protocolError)) conn
  | unplaced {id : Nat} {priority : Priority} (dead : (conn.registry.get? id).any Stream.isLive =
      false) :
      Dealt conn (.priority id priority) (.ok ()) conn
  | placed {id : Nat} {priority : Priority} (apart : priority.dependency ≠ id)
      (live : (conn.registry.get? id).any Stream.isLive = true) :
      Dealt conn (.priority id priority) (.ok ()) (conn.reprioritize id priority)
  | unopened {id code : Nat} (unknown : conn.phase? id = none) (idle : conn.registry.isIdle id) :
      Dealt conn (.rstStream id code) (.error (.protocol (.idleStream .rstStream id))) conn
  | dropped {id code : Nat} (known : (conn.phase? id).isSome = true ∨
      conn.registry.isIdle id = false) :
      Dealt conn (.rstStream id code) (.ok ()) (conn.resetStream id ⟨code⟩ false)
  -- SETTINGS
  | ackNotDue {parameters : List (Nat × Nat)} (none : conn.exchange.acknowledge = none) :
      Dealt conn (.settings true parameters) (.error (.protocol .ackNotDue)) conn
  | unlimited {parameters : List (Nat × Nat)} {commit : Commit} {exchange : Exchange}
      {error : WindowError} (due : conn.exchange.acknowledge = some (commit, exchange))
      (failed : conn.receiveWindows.shift
        (({ conn with exchange }.receiveLimit .initialWindowSize : Int) -
          conn.receiveInitial) = .error error) :
      Dealt conn (.settings true parameters) (.error (.connection (.window error)))
        { conn with exchange }
  | acknowledged {parameters : List (Nat × Nat)} {commit : Commit} {exchange : Exchange}
      {crossed : List Nat} {windows : Windows}
      (due : conn.exchange.acknowledge = some (commit, exchange))
      (shifts : Slides conn.receiveWindows
        (({ conn with exchange }.receiveLimit .initialWindowSize : Int) -
          conn.receiveInitial) crossed windows) :
      Dealt conn (.settings true parameters) (.ok ())
        (({ conn with exchange }.limited windows).emit (.ownSettings commit.current))
  | malformed {parameters : List (Nat × Nat)} {error : Error}
      (fault : Exchange.readParameters parameters = .error error) :
      Dealt conn (.settings false parameters) (.error error)
        { conn with exchange := { conn.exchange with staged := none } }
  | outgrown {parameters : List (Nat × Nat)} {changes : List (Setting × Nat)} {error : WindowError}
      (read : Exchange.readParameters parameters = .ok changes)
      (failed : conn.sendWindows.shift (Commit.windowDelta ⟨conn.exchange.peer,
        conn.exchange.peer.apply (conn.exchange.staged.getD [] ++ changes)⟩) = .error error) :
      Dealt conn (.settings false parameters) (.error (.connection (.window error)))
        (conn.learned (conn.exchange.staged.getD [] ++ changes))
  | applied {parameters : List (Nat × Nat)} {changes : List (Setting × Nat)} {crossed : List Nat}
      {windows : Windows} (read : Exchange.readParameters parameters = .ok changes)
      (shifts : Slides conn.sendWindows (Commit.windowDelta ⟨conn.exchange.peer,
        conn.exchange.peer.apply (conn.exchange.staged.getD [] ++ changes)⟩) crossed windows) :
      Dealt conn (.settings false parameters) (.ok ()) ((resumeIf (!crossed.isEmpty)
          { conn.learned (conn.exchange.staged.getD [] ++ changes) with
            sendWindows := windows }).emit
          (.peerSettings (conn.exchange.peer.apply (conn.exchange.staged.getD [] ++ changes))))
  -- WINDOW_UPDATE
  | zeroCredit : Dealt conn (.windowUpdate 0 0) (.error (.protocol .zeroIncrement)) conn
  | overfilled {increment : Nat} {error : WindowError} {windows : Windows}
      (failed : conn.sendWindows.credit 0 increment = .error error windows) :
      Dealt conn (.windowUpdate 0 increment) (.error (.connection (.window error))) conn
  | credited {increment : Nat} {crossed : Bool} {windows : Windows} (positive : increment ≠ 0)
      (entered : conn.sendWindows.credit 0 increment = .ok crossed windows) :
      Dealt conn (.windowUpdate 0 increment) (.ok ())
        (resumeIf crossed { conn with sendWindows := windows })
  | uncredited {id increment : Nat} (stands : id ≠ 0) (unknown : conn.phase? id = none) :
      Dealt conn (.windowUpdate id increment) (.error (conn.missingStream .windowUpdate id)) conn
  | unneeded {id increment : Nat} {stream : Stream} (stands : id ≠ 0)
      (held : conn.registry.get? id = some stream) (dead : stream.isLive = false) :
      Dealt conn (.windowUpdate id increment) (.ok ()) conn
  | emptyCredit {id : Nat} {stream : Stream} (stands : id ≠ 0)
      (held : conn.registry.get? id = some stream) (live : stream.isLive) :
      Dealt conn (.windowUpdate id 0) (.error (.stream id .protocolError)) conn
  | overflowed {id increment : Nat} {stream : Stream} {error : WindowError} {windows : Windows}
      (stands : id ≠ 0) (held : conn.registry.get? id = some stream) (live : stream.isLive)
      (failed : conn.sendWindows.credit id increment = .error error windows) :
      Dealt conn (.windowUpdate id increment) (.error (.stream id .flowControlError)) conn
  | served {id increment : Nat} {stream : Stream} {crossed : Bool}
      {windows : Windows} (stands : id ≠ 0)
      (held : conn.registry.get? id = some stream) (live : stream.isLive)
      (positive : increment ≠ 0)
      (entered : conn.sendWindows.credit id increment = .ok crossed windows)
      (waits : (crossed && 0 < windows.available id && windows.isParked id) = true) :
      Dealt conn (.windowUpdate id increment) (.ok ())
        ({ conn with sendWindows := windows.unpark id }.flush id)
  | saved {id increment : Nat} {stream : Stream} {crossed : Bool}
      {windows : Windows} (stands : id ≠ 0)
      (held : conn.registry.get? id = some stream) (live : stream.isLive)
      (positive : increment ≠ 0)
      (entered : conn.sendWindows.credit id increment = .ok crossed windows)
      (rests : (crossed && 0 < windows.available id && windows.isParked id) = false) :
      Dealt conn (.windowUpdate id increment) (.ok ()) { conn with sendWindows := windows }
  -- the connection
  | pinged {payload : UInt64} :
      Dealt conn (.ping false payload) (.ok ()) (conn.write (.ping true payload))
  | answered {payload : UInt64} :
      Dealt conn (.ping true payload) (.ok ()) (conn.emit (.pingAck payload))
  | parted {last code : Nat} {debug : Octets} :
      Dealt conn (.goaway last code debug) (.ok ()) (conn.receiveGoaway last ⟨code⟩ debug)
  | offered {id : Nat} {origin value : Octets} (client : conn.role = .client) :
      Dealt conn (.altSvc id origin value) (.ok ()) (conn.emit (.altSvc id origin value))
  | unoffered {id : Nat} {origin value : Octets} :
      Dealt conn (.altSvc id origin value) (.ok ()) conn
  | named {origins : List Octets} (client : conn.role = .client) :
      Dealt conn (.origin origins) (.ok ()) (conn.emit (.origin origins))
  | unnamed {origins : List Octets} : Dealt conn (.origin origins) (.ok ()) conn
  | unknown {kind : UInt8} {flags : Flags} {id : Nat} {payload : Octets} :
      Dealt conn (.unknown kind flags id payload) (.ok ()) conn

theorem Misplaced.isFatal (misplaced : Misplaced conn id error) : error.isFatal := by
  cases misplaced with
  | missing => exact missingStream_isFatal ..
  | unaccepted _ _ failed => exact acceptRemote_isFatal failed
  | wrongPhase => rfl

theorem Unfounded.isFatal {promised : Nat} (unfounded : Unfounded conn id promised error) :
    error.isFatal = true := by
  cases unfounded with
  | missing => exact missingStream_isFatal ..
  | wrongPhase => rfl
  | unaccepted failed => exact acceptRemote_isFatal failed

theorem refusal?_eq_none {malformed : Bool} : conn.refusal? malformed = none ↔
    conn.registry.activeCount false < conn.exchange.latest.maxConcurrentStreams ∧
    malformed = false := by
  unfold refusal?
  split <;> cases malformed <;> simp <;> omega

/-! ## The list is complete -/

private theorem tellClient_leads {event : Event}
    (tells : conn.role = .client → goal (.ok ()) (conn.emit event)) (skips : goal (.ok ()) conn) :
    (tellClient event).Leads conn goal := by
  unfold tellClient
  rw [leads_get_bind, leads_onlyIf]
  exact ⟨fun client => tells (by simpa using client), fun _ => skips⟩

private theorem takeData_dealt {windows : Windows} {count : Nat}
    (held : conn.registry.get? id = some stream) (receives : stream.phase.canReceive)
    (drawn : conn.receiveWindows.chargeStream id count = .ok windows) (octets : Octets)
    (endStream : Bool) :
    (do
      onlyIf (!octets.isEmpty || endStream) (modify (·.emit (.data id octets endStream)))
      if endStream then advance id .receiveEnd
      else modify fun conn => conn.refill id conn.receiveInitial :
      Action Unit).Leads { conn with receiveWindows := windows }
        (DataDealt conn id octets count endStream) := by
  rw [leads_bind, leads_onlyIf]
  cases endStream with
  | true =>
    refine ⟨fun _ => ?_, fun empty => by simp at empty⟩
    obtain ⟨next, moves⟩ := exists_receiveEnd receives
    exact (advance_leads (by exact held) moves).mpr (.finished held receives drawn moves)
  | false =>
    have dealt : DataDealt conn id octets count false _ _ := .delivered held receives drawn
    unfold emitIf at dealt
    cases empty : octets.isEmpty with
    | true =>
      rw [empty] at dealt
      exact ⟨fun some => (by cases some), fun _ => dealt⟩
    | false =>
      rw [empty] at dealt
      exact ⟨fun _ => dealt, fun none => by cases none⟩

private theorem openRemote_dealt (unknown : conn.phase? id = none)
    (theirs : conn.registry.isLocal id = false) (fields : List Field) (priority : Option Priority)
    (endStream : Bool) :
    (openRemote id fields priority endStream (conn.isMalformed id fields priority)).Leads conn
      (HeadersDealt conn id fields priority endStream) := by
  unfold openRemote
  rw [leads_bind]
  refine acceptRemote_leads.mpr ⟨fun error failed => .misplaced (.unaccepted unknown theirs failed),
    fun registry taken => ?_⟩
  obtain ⟨-, -, same⟩ := Registry.acceptRemote_eq taken
  have alike : { conn with registry }.refusal? (conn.isMalformed id fields priority) =
      conn.refusal? (conn.isMalformed id fields priority) := by
    rw [same]
    rfl
  rw [onward_ok, leads_get_bind, leads_ite]
  refine ⟨fun beyond => .passed unknown taken beyond, fun within => ?_⟩
  have within : conn.farewell.sent.any (· < id) = false := Bool.eq_false_iff.mpr within
  split
  · rename_i refused
    exact .turnedAway unknown taken within (alike.symm.trans refused)
  · rename_i impossible
    cases endStream <;> cases impossible
  · rename_i welcome begun
    exact .accepted unknown taken within (alike.symm.trans welcome) begun

private theorem receiveMoreHeaders_dealt (held : conn.registry.get? id = some stream)
    {fields : List Field}
    {priority : Option Priority} (wellFormed : conn.isMalformed id fields priority = false)
    (receives : stream.phase.canReceive) (endStream : Bool) :
    (receiveMoreHeaders id fields priority endStream).Leads conn
      (HeadersDealt conn id fields priority endStream) := by
  -- whatever the headers are, the priority that comes with them leaves the phase of the stream
  -- alone
  have ends : ∀ {middle : Connection} {told : Stream}, middle.registry.get? id = some told →
      told.phase = stream.phase → ∃ current next,
        (middle.reprioritizeIf id priority).registry.get? id = some current ∧
        current.bare = told.bare ∧
          current.advance? .receiveEnd = some next := by
    intro middle told holds phase
    obtain ⟨current, holds, same⟩ := get?_reprioritizeIf holds priority
    have alike : current.phase = told.phase := congrArg (fun stream => stream.phase) same
    obtain ⟨next, moves⟩ : ∃ next, current.advance? .receiveEnd = some next :=
      exists_receiveEnd (by rw [alike, phase]; exact receives)
    exact ⟨current, next, holds, same, moves⟩
  unfold receiveMoreHeaders receiveSection receiveTrailers receiveMessageHeaders
  rw [leads_bind, leads_get_bind, held]
  simp only [Option.any_some, leads_ite, leads_bind, leads_require,
    leads_modify, onward_ok, onward_error, leads_onlyIf]
  have declined : HeadersDealt conn id fields priority endStream
      (.error (.stream id .protocolError))
      conn := by
    refine .declined held (.inl rfl) (.inr fun reserved => ?_)
    rw [reserved] at receives
    cases receives
  refine ⟨fun late => ⟨fun last => ⟨fun _ => ?_, fun more => by cases last.symm.trans more⟩,
      fun _ => declined⟩,
    fun early => ⟨fun _ => ⟨fun last => ?_, fun more => ?_⟩, fun _ => declined⟩⟩
  · subst last
    obtain ⟨current, next, holds, same, moves⟩ :=
      @ends (conn.emit (.trailers id fields)) stream held rfl
    exact (advance_leads holds moves).mpr (.trailed held wellFormed receives late holds same moves)
  · subst last
    obtain ⟨current, next, holds, same, moves⟩ := ends (get?_deliverHeaders held fields true) rfl
    exact (advance_leads holds moves).mpr
      (.concluded held wellFormed receives (Bool.eq_false_iff.mpr early) holds same moves)
  · subst more
    exact .continued held wellFormed receives (Bool.eq_false_iff.mpr early)

variable (conn)

private theorem receiveData_dealt (id : Nat) (octets : Octets) (endStream : Bool)
    (padding : Option UInt8) :
    (receiveFrame (.data id octets endStream padding)).Leads conn
      (Dealt conn (.data id octets endStream padding)) := by
  unfold receiveFrame receiveData chargeConnection
  simp only [leads_bind, leads_get, onward_ok]
  cases paid : conn.receiveWindows.chargeConnection
      (Frame.data id octets endStream padding).chargedLength with
  | error error => exact .overspent paid
  | ok windows =>
    rw [leads_set, onward_ok, leads_bind]
    refine requirePhase_leads.mpr ⟨fun phase known => ?_, fun unknown => .data
      paid (.unheld unknown)⟩
    obtain ⟨stream, held, rfl⟩ := Option.map_eq_some_iff.mp known
    rw [onward_ok, leads_bind, leads_require]
    refine ⟨fun receives => ?_, fun shut => .data paid (.unwelcome held shut)⟩
    unfold chargeStream
    rw [onward_ok, leads_bind, leads_get_bind]
    split
    · rename_i short
      exact .data paid (.overdrawn held receives short)
    · rename_i rest drawn
      exact (takeData_dealt held receives drawn octets endStream).mono fun _ _ dealt =>
        .data paid dealt

private theorem receiveHeaders_dealt (id : Nat) (priority : Option Priority) (block : Octets)
    (endStream : Bool) :
    (receiveHeaders id priority block endStream).Leads conn
      (Dealt conn (.headers id priority block endStream)) := by
  unfold receiveHeaders
  rw [leads_bind]
  refine decompress_leads.mpr ⟨fun fields table decoded => ?_, fun failure table decoded => .garbled
    decoded⟩
  suffices dealt : Leads _ { conn with decoder := table }
      (HeadersDealt { conn with decoder := table } id fields priority endStream) from
    dealt.mono fun _ _ dealt => .headers decoded dealt
  generalize { conn with decoder := table } = conn
  rw [leads_get_bind]
  split
  · rename_i phase known
    obtain ⟨stream, held, rfl⟩ := Option.map_eq_some_iff.mp known
    rw [leads_ite]
    refine ⟨fun malformed => .declined held (.inl rfl) (.inl malformed), fun wellFormed => ?_⟩
    have wellFormed : conn.isMalformed id fields priority = false :=
      Bool.eq_false_iff.mpr wellFormed
    have more := fun receives => receiveMoreHeaders_dealt held wellFormed receives endStream
    unfold receiveHeadersIn
    split
    · rename_i reserved
      obtain ⟨next, moves⟩ :
        ∃ next, { stream with finalReceived := !isInformational fields }.advance?
          (.receiveHeaders endStream) = some next :=
          exists_receiveHeaders (by exact reserved) endStream
      rw [leads_bind, leads_modify, onward_ok]
      exact (advance_leads (get?_deliverHeaders held fields endStream) moves).mpr
        (.started held wellFormed reserved moves)
    · rename_i opened
      exact more (by rw [opened]; rfl)
    · rename_i halfClosed
      exact more (by rw [halfClosed]; rfl)
    · rename_i halfClosed
      exact .declined held (.inr rfl) (.inr (by simp [halfClosed]))
    · rename_i closed
      exact .declined held (.inr rfl) (.inr (by simp [closed]))
    · rename_i other
      refine .misplaced (.wrongPhase held ?_)
      cases phase : stream.phase <;> simp_all
  · rename_i unknown
    rw [leads_ite]
    exact ⟨fun ours => .misplaced (.missing unknown ours),
      fun theirs => openRemote_dealt unknown (Bool.eq_false_iff.mpr theirs)
      fields priority endStream⟩

private theorem receivePushPromise_dealt (id promised : Nat) (block : Octets) :
    (receivePushPromise id promised block).Leads conn
      (Dealt conn (.pushPromise id promised block)) := by
  unfold receivePushPromise
  rw [leads_get_bind, leads_bind, leads_require]
  refine ⟨fun client => ?_, fun server => .pushToServer (by simpa using server)⟩
  rw [onward_ok, leads_bind, leads_require]
  refine ⟨fun pushes => ?_, fun refuses => .pushRefused refuses⟩
  rw [onward_ok, leads_bind]
  refine decompress_leads.mpr ⟨fun request table decoded => ?_,
    fun failure table decoded => .garbledPromise decoded⟩
  rw [onward_ok, leads_bind]
  refine requirePhase_leads.mpr ⟨fun phase known => ?_, fun unknown => .unfounded
    decoded (.missing unknown)⟩
  obtain ⟨stream, held, rfl⟩ := Option.map_eq_some_iff.mp known
  rw [onward_ok, leads_bind, leads_require]
  refine ⟨fun receives => ?_, fun shut => .unfounded decoded (.wrongPhase held shut)⟩
  rw [onward_ok, leads_bind]
  refine acceptRemote_leads.mpr ⟨fun error failed => .unfounded decoded (.unaccepted failed),
    fun registry taken => .promised ?_ pushes decoded held receives taken⟩
  cases role : conn.role with
  | client => rfl
  | server => simp [role] at client

private theorem receivePriority_dealt (id : Nat) (priority : Priority) :
    (receivePriority id priority).Leads conn (Dealt conn (.priority id priority)) := by
  unfold receivePriority
  simp only [leads_bind, leads_require, onward_ok, onward_error,
    leads_get, leads_onlyIf, leads_modify]
  refine ⟨fun apart => ⟨fun live => .placed (by simpa using apart) live,
    fun dead => .unplaced dead⟩, fun own => .looped (by simpa using own)⟩

private theorem receiveReset_dealt (id code : Nat) :
    (receiveReset id ⟨code⟩).Leads conn (Dealt conn (.rstStream id code)) := by
  unfold receiveReset
  simp only [leads_bind, leads_get, onward_ok, leads_require,
    leads_modify, onward_error, Bool.or_eq_true, Bool.or_eq_false_iff, Bool.not_eq_true',
    Bool.not_eq_false']
  exact ⟨fun known => .dropped known, fun unknown => .unopened (by simpa using unknown.1) unknown.2⟩

theorem syncLimits_limits :
    syncLimits.Leads conn fun result after =>
      (∃ error, conn.receiveWindows.shift ((conn.receiveLimit .initialWindowSize : Int) -
          conn.receiveInitial) = .error error ∧
        result = .error (.connection (.window error)) ∧ after = conn) ∨
      ∃ crossed windows, Slides conn.receiveWindows
          ((conn.receiveLimit .initialWindowSize : Int) - conn.receiveInitial) crossed windows ∧
        result = .ok () ∧ after = conn.limited windows := by
  unfold syncLimits shiftReceiveWindows
  simp only [leads_bind, leads_get, onward_ok, leads_ite, leads_pure,
    leads_modify]
  refine ⟨fun same => .inr ⟨[], _, .inl ⟨by rw [same, Int.sub_self], rfl, rfl⟩, trivial, ?_⟩,
    fun _ => ?_⟩
  · rw [limited, same]
  · split
    · rename_i error failed
      exact .inl ⟨error, failed, rfl, rfl⟩
    · rename_i crossed windows shifted
      exact .inr ⟨crossed, windows, .inr shifted, rfl, rfl⟩

private theorem receiveSettingsAck_dealt (parameters : List (Nat × Nat)) :
    receiveSettingsAck.Leads conn (Dealt conn (.settings true parameters)) := by
  unfold receiveSettingsAck
  rw [leads_get_bind]
  split
  · rename_i none
    exact .ackNotDue none
  · rename_i commit exchange due
    rw [leads_bind, leads_set, onward_ok, leads_bind]
    refine (syncLimits_limits { conn with exchange }).mono ?_
    rintro _ _ (⟨error, failed, rfl, rfl⟩ | ⟨crossed, windows, shifts, rfl, rfl⟩)
    · exact .unlimited due failed
    · exact .acknowledged due shifts

private theorem receiveSettings_dealt (parameters : List (Nat × Nat)) :
    (receiveSettings parameters).Leads conn (Dealt conn (.settings false parameters)) := by
  unfold receiveSettings stageSettings Exchange.stage
  simp only [leads_bind, leads_get, onward_ok]
  cases read : Exchange.readParameters parameters with
  | error error => exact .malformed read
  | ok changes =>
    have applied := fun crossed windows => @Dealt.applied conn parameters changes
      crossed windows read
    unfold shiftSendWindows
    simp only [leads_set, onward_ok, leads_ofExcept, leads_modify,
      leads_bind, leads_get, write, Exchange.commit, leads_ite, leads_pure]
    refine ⟨fun same => applied [] _ (.inl ⟨same, rfl, rfl⟩), fun _ => ?_⟩
    split
    · rename_i failed
      exact .outgrown read failed
    · rename_i crossed windows shifted
      have applied := applied crossed windows (.inr shifted)
      unfold resumeIf at applied
      rw [leads_set]
      cases crossed with
      | nil => exact applied
      | cons => exact applied

private theorem receiveConnectionCredit_dealt (increment : Nat) :
    (receiveConnectionCredit increment).Leads conn (Dealt conn (.windowUpdate 0 increment)) := by
  unfold receiveConnectionCredit
  rw [leads_bind, leads_require]
  refine ⟨fun positive => ?_, fun zero => ?_⟩
  · rw [onward_ok, leads_get_bind]
    split
    · rename_i failed
      exact .overfilled failed
    · rename_i entered
      exact .credited (by simpa using positive) entered
  · obtain rfl : increment = 0 := by simpa using zero
    exact .zeroCredit

private theorem receiveStreamCredit_dealt (stands : id ≠ 0) (increment : Nat) :
    (receiveStreamCredit id increment).Leads conn (Dealt conn (.windowUpdate id increment)) := by
  unfold receiveStreamCredit creditStream
  rw [leads_bind]
  refine requirePhase_leads.mpr ⟨fun phase known => ?_, fun unknown => .uncredited stands unknown⟩
  obtain ⟨stream, held, rfl⟩ := Option.map_eq_some_iff.mp known
  rw [onward_ok, leads_onlyIf]
  refine ⟨fun live => ?_, fun dead => .unneeded stands held dead⟩
  rw [leads_bind, leads_require]
  refine ⟨fun positive => ?_, fun zero => ?_⟩
  · have positive : increment ≠ 0 := by simpa using positive
    rw [onward_ok, leads_get_bind]
    split
    · rename_i failed
      exact .overflowed stands held live failed
    · rename_i entered
      rw [leads_ite]
      exact ⟨fun waits => .served stands held live positive entered waits,
        fun rests => .saved stands held live positive entered (Bool.eq_false_iff.mpr rests)⟩
  · obtain rfl : increment = 0 := by simpa using zero
    exact .emptyCredit stands held live

theorem receiveFrame_dealt (frame : Frame) :
    (receiveFrame frame).Leads conn (Dealt conn frame) := by
  cases frame with
  | data id octets endStream padding => exact receiveData_dealt conn id octets endStream padding
  | headers id priority block endStream =>
    exact receiveHeaders_dealt conn id priority block endStream
  | priority id priority => exact receivePriority_dealt conn id priority
  | rstStream id code => exact receiveReset_dealt conn id code
  | settings ack parameters =>
    cases ack with
    | true => exact receiveSettingsAck_dealt conn parameters
    | false => exact receiveSettings_dealt conn parameters
  | pushPromise id promised block => exact receivePushPromise_dealt conn id promised block
  | ping ack payload =>
    cases ack with
    | true => exact .answered
    | false => exact .pinged
  | goaway last code debug => exact .parted
  | windowUpdate id increment =>
    unfold receiveFrame
    rw [leads_ite]
    refine ⟨?_, fun stands => receiveStreamCredit_dealt conn stands increment⟩
    rintro rfl
    exact receiveConnectionCredit_dealt conn increment
  | altSvc id origin value => exact tellClient_leads .offered .unoffered
  | origin origins => exact tellClient_leads .named .unnamed
  | unknown kind flags id payload => exact .unknown

variable {conn}

inductive Announcing (conn : Connection) (changes : List (Setting × Nat)) :
    Except Error Unit → Connection → Prop
  | refused {error : Error} : Announcing conn changes (.error error) conn
  | stuck {exchange : Exchange} {error : Error} (peer : exchange.peer = conn.exchange.peer) :
      Announcing conn changes (.error error)
        ({ conn with exchange }.write (.settings false (wireForm changes)))
  | limited {exchange : Exchange} {delta : Int} {crossed : List Nat} {windows : Windows}
      (peer : exchange.peer = conn.exchange.peer)
      (slides : Slides conn.receiveWindows delta crossed windows) :
      Announcing conn changes (.ok ())
        (({ conn with exchange }.write (.settings false (wireForm changes))).limited windows)

theorem announcing_of_ends {changes : List (Setting × Nat)} {now : Nat}
    {outcome : Except Error Unit → Prop} {after : Connection}
    (ends : (announce changes now).Leads conn fun result last => outcome result ∧ last = after) :
    ∃ result, outcome result ∧ Announcing conn changes result after := by
  have leads : (announce changes now).Leads conn (Announcing conn changes) := by
    unfold announce
    rw [leads_get_bind, leads_bind, leads_ofExcept]
    cases announced : conn.exchange.announce changes now with
    | error error => exact .refused
    | ok exchange =>
      have peer : exchange.peer = conn.exchange.peer := by
        unfold Exchange.announce at announced
        split at announced <;> cases announced
        rfl
      rw [onward_ok, leads_bind, leads_set, onward_ok]
      refine (syncLimits_limits _).mono ?_
      rintro _ _ (⟨_, -, rfl, rfl⟩ | ⟨_, _, slides, rfl, rfl⟩)
      · exact .stuck peer
      · exact .limited peer slides
  refine (ends.and leads).elim ?_
  rintro result _ ⟨⟨outcome, rfl⟩, announcing⟩
  exact ⟨result, outcome, announcing⟩

end Http2.Connection
