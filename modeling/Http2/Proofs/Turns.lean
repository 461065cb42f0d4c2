import Http2.Proofs.Uses

/-!
# Turns

What happens to a connection is upkeep or a farewell, or else it is one of seven turns: either end
opens a stream, either end promises one, we send the final headers of a stream that we did not open,
and headers come in on a promised stream or on one that the peer is sending on.  `Turn` lists the
turns, with what lets each of them happen and what it does to the streams, to the frames that wait
and to the events.

Between turns the registry only `Thins`: no stream comes to life, and none becomes active.  A turn
`Seats` one stream, new or moved on, and leaves the others alone.
-/

namespace Http2

open Registry
open Connection.ByUpkeep (endures)

def Event.fields? : Event → Option (List Field)
  | headers _ fields _ | trailers _ fields => some fields
  | streamCreated _ promise => promise.map Promise.request
  | _ => none

def Call.isTurning : Call → Bool
  | createStream .. | respond .. | pushPromise .. => true
  | _ => false

def Motion.isInner : Motion → Bool
  | handOver | tell _ => false
  | _ => true

/-! ## What becomes of the streams -/

/-- What upkeep makes of a live stream: its phase is the same unless one side has ended. -/
structure Stream.OnlyEnds (earlier later : Stream) : Prop where
  phase : later.phase = earlier.phase ∨ earlier.phase.isActive ∧ later.phase.isActive
  sends : later.phase.canSend → earlier.phase.canSend
  final : later.finalSent = earlier.finalSent

private theorem Phase.next?_end {phase next : Phase} {signal : Signal} (active : phase.isActive)
    (ends : signal.isEnd) (moved : phase.next? signal = some next) (lasts : next ≠ .closed) :
    next.isActive = true ∧ (next.canSend = true → phase.canSend) := by
  unfold next? at moved
  split at moved <;> cases moved <;> simp_all [Phase.isActive, Phase.canSend, Signal.isEnd]

namespace Stream

variable {earlier middle later : Stream}

theorem OnlyEnds.of_bare (same : later.bare = earlier.bare) : earlier.OnlyEnds later := by
  have phase : later.phase = earlier.phase := congrArg (fun stream => stream.phase) same
  refine ⟨.inl phase, fun sends => ?_, congrArg (fun stream => stream.finalSent) same⟩
  rwa [← phase]

theorem OnlyEnds.trans (first : earlier.OnlyEnds middle) (second : middle.OnlyEnds later) :
    earlier.OnlyEnds later := by
  refine ⟨?_, fun sends => first.sends (second.sends sends), second.final.trans first.final⟩
  rcases second.phase with same | ⟨active, still⟩
  · rw [same]
    exact first.phase
  · rcases first.phase with same | ⟨was, -⟩
    · exact .inr ⟨same ▸ active, still⟩
    · exact .inr ⟨was, still⟩

theorem isLive_of_isActive {stream : Stream} (active : stream.phase.isActive) :
    stream.isLive = true := by
  unfold isLive
  cases phase : stream.phase <;> simp_all [Phase.isActive, Phase.isClosed]

theorem OnlyEnds.isLive (follows : earlier.OnlyEnds later) (live : later.isLive) :
    earlier.isLive = true := by
  rcases follows.phase with same | ⟨was, -⟩
  · rw [Stream.isLive, ← same]
    exact live
  · exact isLive_of_isActive was

/-- A stream whose one side has ended stays active as long as the other side has not. -/
theorem OnlyEnds.of_end {signal : Signal} (active : earlier.phase.isActive)
    (ends : signal.isEnd) (moves : earlier.advance? signal = some later)
    (live : later.isLive) : earlier.OnlyEnds later := by
  obtain ⟨moved, same⟩ := advance?_eq moves
  have phases :=
    Phase.next?_end active ends moved (by simpa [Stream.isLive, Phase.isClosed] using live)
  refine ⟨.inr ⟨active, phases.1⟩, phases.2, ?_⟩
  rw [same]

end Stream

namespace Registry

variable {registry before middle after : Registry} {id other : Nat} {stream : Stream}

/-- No stream has come to life, and those that live on have only ended on one side. -/
structure Thins (before after : Registry) : Prop where
  role : after.role = before.role
  streams {id : Nat} {later : Stream} : after.get? id = some later → later.isLive →
    ∃ earlier, before.get? id = some earlier ∧ earlier.OnlyEnds later

namespace Thins

theorem of_bare? (role : after.role = before.role) (same : ∀ id, after.bare? id = before.bare? id) :
    before.Thins after := by
  refine ⟨role, fun {id later} held live => ?_⟩
  have bare := same id
  rw [bare?, held, bare?] at bare
  obtain ⟨earlier, held, same⟩ := Option.map_eq_some_iff.mp bare.symm
  exact ⟨earlier, held, .of_bare same.symm⟩

theorem refl (registry : Registry) : registry.Thins registry := of_bare? rfl fun _ => rfl

theorem trans (first : before.Thins middle) (second : middle.Thins after) : before.Thins after := by
  refine ⟨second.role.trans first.role, fun held live => ?_⟩
  obtain ⟨earlier, held, follows⟩ := second.streams held live
  obtain ⟨earliest, held, follows'⟩ := first.streams held (follows.isLive live)
  exact ⟨earliest, held, follows'.trans follows⟩

theorem forget (registry : Registry) (id : Nat) : registry.Thins (registry.markClosed id).2 := by
  refine ⟨rfl, fun {other later} held _ => ?_⟩
  rcases get?_markClosed registry id other with same | ⟨gone, -⟩
  · exact ⟨later, same ▸ held, .of_bare rfl⟩
  · cases gone.symm.trans held

theorem insert (held : registry.get? id = some stream) {next : Stream}
    (follows : next.isLive → stream.OnlyEnds next) : registry.Thins (registry.insert id next) := by
  refine ⟨rfl, fun {other later} held' live => ?_⟩
  rw [get?_insert] at held'
  split at held'
  · rename_i same
    cases held'
    exact ⟨stream, same ▸ held, follows live⟩
  · exact ⟨later, held', .of_bare rfl⟩

theorem shut (registry : Registry) (id : Nat) (ended : stream.isLive = false) :
    registry.Thins (registry.insert id stream) := by
  refine ⟨rfl, fun {other later} held live => ?_⟩
  rw [get?_insert] at held
  split at held
  · cases held
    cases ended.symm.trans live
  · exact ⟨later, held, .of_bare rfl⟩

theorem modify (registry : Registry) (id : Nat) {f : Stream → Stream}
    (phase : ∀ stream, (f stream).phase = stream.phase)
    (final : ∀ stream, (f stream).finalSent = stream.finalSent) :
    registry.Thins (registry.modify id f) := by
  refine ⟨rfl, fun {other later} held _ => ?_⟩
  rw [get?_modify] at held
  split at held
  · obtain ⟨earlier, holds, rfl⟩ := Option.map_eq_some_iff.mp held
    exact ⟨earlier, holds, .inl (phase earlier), fun sends => phase earlier ▸ sends, final earlier⟩
  · exact ⟨later, held, .of_bare rfl⟩

theorem endures (start : Registry) : Connection.Endures fun conn => start.Thins conn.registry where
  keep thins registry _ _ _ _ := registry ▸ thins
  number _ _ thins := thins.trans (of_bare? rfl fun _ => rfl)
  emit thins _ := thins
  write thins _ := thins
  say thins _ _ _ := thins
  reprioritize id priority thins := by
    refine thins.trans (of_bare? ?_ fun other => bare?_reprioritize _ id other priority)
    rw [Connection.reprioritize, reprioritize_eq]
  detach id thins := thins.trans (of_bare? rfl fun other => bare?_detachChildren _ id other)
  forget id thins := thins.trans (forget _ id)
  shut id thins ended := thins.trans (shut _ id ended)
  finish thins held active ends moves := thins.trans (insert held (.of_end active ends moves))
  touch id _ thins phase final := thins.trans (modify _ id phase final)
  part thins registry _ _ := registry ▸ thins
  bid _ _ _ thins := thins
  warn thins _ := thins

end Thins

/-- The stream stands under the identifier, and no other stream has changed but for its place among
the priorities. -/
structure Seats (before : Registry) (id : Nat) (stream : Stream) (after : Registry) : Prop where
  role : after.role = before.role
  bare : ∀ other, after.bare? other = if id = other then some stream.bare else before.bare? other

namespace Seats

theorem insert (role : registry.role = before.role)
    (same : ∀ other, id ≠ other → registry.bare? other = before.bare? other) (stream : Stream) :
    before.Seats id stream (registry.insert id stream) := by
  refine ⟨role, fun other => ?_⟩
  rw [bare?, get?_insert]
  split
  · rfl
  · rename_i differ
    exact same other differ

theorem reprioritizeIf {conn : Connection} (seats : before.Seats id stream conn.registry)
    (other : Nat) (priority : Option Priority) :
    before.Seats id stream (conn.reprioritizeIf other priority).registry := by
  cases priority with
  | none => exact seats
  | some priority =>
    refine ⟨?_, fun third => (bare?_reprioritize _ other third priority).trans (seats.bare third)⟩
    change (conn.registry.reprioritize other priority).role = before.role
    rw [reprioritize_eq]
    exact seats.role

theorem thins (seats : before.Seats id stream after) : (before.insert id stream).Thins after := by
  refine .of_bare? seats.role fun other => (seats.bare other).trans ?_
  rw [bare?, bare?, get?_insert]
  split <;> rfl

end Seats

end Registry

namespace Connection

variable {conn after : Connection} {id : Nat} {next : Stream}

theorem ByUpkeep.thins (byUpkeep : conn.ByUpkeep after) : conn.registry.Thins after.registry :=
  byUpkeep _ (Thins.endures conn.registry) (Thins.refl _)

private theorem modify_seats (registry : Registry) (id : Nat)
    (f : Stream → Stream) (next : Stream) :
    registry.Seats id next ((registry.modify id f).insert id next) := by
  have role : (registry.modify id f).role = registry.role := rfl
  refine .insert role (fun other differ => ?_) next
  rw [bare?, get?_modify, if_neg (Ne.symm differ), bare?]

private theorem settled_byUpkeep (conn : Connection) (id : Nat) (next : Stream) :
    { conn with registry := conn.registry.insert id next }.ByUpkeep (conn.settled id next) := by
  unfold settled
  split
  · exact ByUpkeep.refl _
  · exact endures.finishStream (ByUpkeep.refl _) none

end Connection

/-! ## The turns -/

namespace Connection

/-- The fields are no longer than our settings allow, whichever of them the peer goes by. -/
def Fits (conn : Connection) (fields : List Field) : Prop :=
  listSize fields ≤ conn.receiveLimit .maxHeaderListSize

/-- The stream stands under the identifier unless it has closed, and no other has come to life. -/
structure Shifts (conn : Connection) (id : Nat) (next : Stream) (after : Connection) : Prop where
  thins : (conn.registry.insert id next).Thins after.registry
  seats : next.isLive → conn.registry.Seats id next after.registry

/-- The events have been told, and then perhaps that a stream has closed. -/
def Tells (conn : Connection) (events : List Event) (after : Connection) : Prop :=
  ∃ more, after.events = conn.events ++ events ++ more ∧ ∀ event ∈ more, event.fields? = none

def Writes (conn : Connection) (frame : Frame) (after : Connection) : Prop :=
  ∃ limit, after.outbound = conn.outbound ++ [.frame limit frame]

inductive Turn (conn : Connection) : Motion → Connection → Prop
  | opens {fields : List Field} {priority : Option Priority} {endStream : Bool} {stream : Stream}
      {block : Octets} {after : Connection} (room : conn.isFull = false)
      (begun : ({} : Stream).advance? (.sendHeaders endStream) = some stream)
      (seats : conn.registry.Seats conn.registry.nextLocal { stream with finalSent := true }
        after.registry)
      (tells : conn.Tells [] after)
      (writes : conn.Writes (.headers conn.registry.nextLocal priority block endStream) after)
      (exchange : after.exchange = conn.exchange) :
      Turn conn (.call (.createStream fields priority endStream)) after
  | promises {id : Nat} {request : List Field} {block : Octets} {after : Connection}
      (seats : conn.registry.Seats conn.registry.nextLocal
        { phase := .reservedLocal, priority := ⟨id, Priority.defaultWeight, false⟩ } after.registry)
      (tells : conn.Tells [] after)
      (writes : conn.Writes (.pushPromise id conn.registry.nextLocal block) after) :
      Turn conn (.call (.pushPromise id request)) after
  /-- We send the final headers of a stream that the peer has opened or that we have promised. -/
  | responds {id : Nat} {fields : List Field} {endStream : Bool}
      {stream next : Stream} {block : Octets}
      {after : Connection} (held : conn.registry.get? id = some stream)
      (sends : stream.phase.canSend ∨ stream.phase = .reservedLocal)
      (early : stream.finalSent = false) (final : isInformational fields = false)
      (room : stream.phase = .reservedLocal → endStream = false → conn.isFull = false)
      (moved : { stream with finalSent := true }.advance? (.sendHeaders endStream) = some next)
      (shifts : conn.Shifts id next after) (tells : conn.Tells [] after)
      (writes : conn.Writes (.headers id none block endStream) after)
      (exchange : after.exchange = conn.exchange) :
      Turn conn (.call (.respond id fields endStream)) after
  | accepts {id : Nat} {priority : Option Priority} {block : Octets} {endStream : Bool}
      {fields : List Field} {stream : Stream} {after : Connection}
      (unknown : conn.phase? id = none)
      (theirs : conn.registry.role.peer.initiates id)
      (room : conn.registry.activeCount false < conn.exchange.latest.maxConcurrentStreams)
      (fits : conn.Fits fields)
      (begun : ({} : Stream).advance? (.receiveHeaders endStream) = some stream)
      (seats : conn.registry.Seats id { stream with finalReceived := !isInformational fields }
        after.registry)
      (tells : conn.Tells [.streamCreated id none, .headers id fields endStream] after)
      (outbound : after.outbound = conn.outbound)
      (exchange : after.exchange = conn.exchange) :
      Turn conn (.frame (.headers id priority block endStream)) after
  | starts {id : Nat} {priority : Option Priority} {block : Octets} {endStream : Bool}
      {fields : List Field} {stream next : Stream} {after : Connection}
      (held : conn.registry.get? id = some stream) (reserved : stream.phase = .reservedRemote)
      (fits : conn.Fits fields)
      (moved : { stream with finalReceived := !isInformational fields }.advance?
        (.receiveHeaders endStream) = some next)
      (shifts : conn.Shifts id next after)
      (tells : conn.Tells [.headers id fields endStream] after)
      (outbound : after.outbound = conn.outbound) :
      Turn conn (.frame (.headers id priority block endStream)) after
  /-- The peer sends more headers, which are told of, and may end the stream with them. -/
  | continues {id : Nat} {priority : Option Priority} {block : Octets} {endStream : Bool}
      {fields : List Field} {event : Event} {phase : Phase} {after : Connection}
      (known : conn.phase? id = some phase) (receives : phase.canReceive)
      (thins : conn.registry.Thins after.registry)
      (named : event = .headers id fields endStream ∨ event = .trailers id fields)
      (fits : conn.Fits fields) (tells : conn.Tells [event] after)
      (outbound : after.outbound = conn.outbound) :
      Turn conn (.frame (.headers id priority block endStream)) after
  | notes {id promised : Nat} {block : Octets} {request : List Field} {after : Connection}
      (client : conn.role = .client)
      (theirs : conn.registry.role.peer.initiates promised)
      (seats : conn.registry.Seats promised
        { phase := .reservedRemote, priority := ⟨id, Priority.defaultWeight, false⟩ }
          after.registry)
      (tells : conn.Tells [.streamCreated promised (some ⟨id, request⟩)] after)
      (outbound : after.outbound = conn.outbound) :
      Turn conn (.frame (.pushPromise id promised block)) after

section Facets

variable {conn middle after : Connection} {id : Nat} {next stream : Stream} {frame : Frame}
  {events : List Event} {endStream : Bool}

theorem Tells.of_eq (told : after.events = conn.events ++ events) : conn.Tells events after :=
  ⟨[], by rw [told, List.append_nil], by simp⟩

variable (conn id next)

@[simp] theorem events_reprioritizeIf (priority : Option Priority) :
    (conn.reprioritizeIf id priority).events = conn.events := by
  cases priority <;> rfl

@[simp] theorem outbound_reprioritizeIf (priority : Option Priority) :
    (conn.reprioritizeIf id priority).outbound = conn.outbound := by
  cases priority <;> rfl

@[simp] theorem exchange_reprioritizeIf (priority : Option Priority) :
    (conn.reprioritizeIf id priority).exchange = conn.exchange := by
  cases priority <;> rfl

theorem outbound_settled : (conn.settled id next).outbound = conn.outbound := by
  unfold settled
  split <;> rfl

theorem exchange_settled : (conn.settled id next).exchange = conn.exchange := by
  unfold settled
  split <;> rfl

variable {conn id next}

private theorem tells_settled (told : middle.events = conn.events ++ events)
    (id : Nat) (next : Stream) :
    conn.Tells events (middle.settled id next) := by
  unfold settled
  split
  · exact .of_eq told
  · refine ⟨[.streamClosed id none], ?_, by simp [Event.fields?]⟩
    rw [← told]
    rfl

private theorem writes_headers (same : middle.outbound = conn.outbound) (id : Nat)
    (fields : List Field) (priority : Option Priority) (endStream : Bool) :
    conn.Writes (.headers id priority (middle.compress fields).1 endStream)
      (middle.writeHeaders id fields priority endStream) :=
  ⟨_, congrArg (· ++ _) same⟩

theorem Writes.settled (writes : conn.Writes frame middle) (id : Nat) (next : Stream) :
    conn.Writes frame (middle.settled id next) := by
  obtain ⟨limit, outbound⟩ := writes
  exact ⟨limit, (outbound_settled middle id next).trans outbound⟩

private theorem shifts_settled
    (seats : conn.registry.Seats id next (middle.registry.insert id next)) :
    conn.Shifts id next (middle.settled id next) := by
  refine ⟨seats.thins.trans (settled_byUpkeep middle id next).thins, fun live => ?_⟩
  unfold Connection.settled
  rwa [if_pos live]

/-- Where a turn takes off, all that it changes is still as it was. -/
structure Alike (conn middle : Connection) : Prop where
  role : middle.registry.role = conn.registry.role
  streams : middle.registry.streams = conn.registry.streams
  outbound : middle.outbound = conn.outbound
  events : middle.events = conn.events
  exchange : middle.exchange = conn.exchange

theorem Alike.seats (alike : conn.Alike middle) (id : Nat) (stream : Stream)
    (priority : Option Priority) :
    conn.registry.Seats id stream
      ((middle.addStream id stream).reprioritizeIf id priority).registry := by
  apply Seats.reprioritizeIf
  refine Seats.insert alike.role (fun other _ => ?_) stream
  rw [bare?, get?, alike.streams, ← get?, ← bare?]

theorem Alike.opens (alike : conn.Alike middle) (room : conn.isFull = false)
    (begun : ({} : Stream).advance? (.sendHeaders endStream) = some stream) (fields : List Field)
    (priority : Option Priority) :
    conn.Turn (.call (.createStream fields priority endStream))
      (((middle.addStream conn.registry.nextLocal { stream with finalSent := true }).reprioritizeIf
        conn.registry.nextLocal priority).writeHeaders
          conn.registry.nextLocal fields priority endStream) := by
  have seats := alike.seats conn.registry.nextLocal { stream with finalSent := true } priority
  have events : ((middle.addStream conn.registry.nextLocal
      { stream with finalSent := true }).reprioritizeIf conn.registry.nextLocal priority).events =
      conn.events ++ [] := by
    rw [events_reprioritizeIf, List.append_nil]
    exact alike.events
  refine .opens room begun seats (.of_eq events) (writes_headers ?_ _ _ _ _) ?_
  · exact (outbound_reprioritizeIf _ _ _).trans alike.outbound
  · exact (exchange_reprioritizeIf _ _ _).trans alike.exchange

theorem Alike.accepts {fields : List Field} (alike : conn.Alike middle)
    (unknown : conn.phase? id = none) (theirs : conn.registry.role.peer.initiates id)
    (room : conn.registry.activeCount false < conn.exchange.latest.maxConcurrentStreams)
    (fits : conn.Fits fields)
    (begun : ({} : Stream).advance? (.receiveHeaders endStream) = some stream)
    (priority : Option Priority) (block : Octets) :
    conn.Turn (.frame (.headers id priority block endStream))
      ((((middle.addStream id
        { stream with finalReceived := !isInformational fields }).reprioritizeIf
        id priority).emit (.streamCreated id none)).emit (.headers id fields endStream)) := by
  have seats := alike.seats id { stream with finalReceived := !isInformational fields } priority
  refine .accepts unknown theirs room fits begun seats (.of_eq ?_) ?_ ?_
  · rw [emit, emit, events_reprioritizeIf, List.append_assoc, ← alike.events]
    rfl
  · exact (outbound_reprioritizeIf _ _ _).trans alike.outbound
  · exact (exchange_reprioritizeIf _ _ _).trans alike.exchange

end Facets

/-! ## Calls -/

/-- Where the call succeeds it gives the answer and is a turn, and where it fails it is none. -/
def TurnsTo (conn : Connection) (motion : Motion) (answer : Option Nat) :
    Except Error (Option Nat) → Connection → Prop
  | .ok given, after => given = answer ∧ conn.Turn motion after
  | .error _, after => conn.ByUpkeep after

def reply (conn : Connection) : Call → Option Nat
  | .createStream .. | .pushPromise .. => some conn.registry.nextLocal
  | _ => none

section Calls

variable {conn after : Connection} {call : Call} {result : Except Error (Option Nat)}

theorem Served.turnsTo (served : Served conn call result after) (turning : call.isTurning) :
    conn.TurnsTo (.call call) (conn.reply call) result after := by
  have here := ByUpkeep.refl conn
  have alike : conn.Alike conn.passOver := ⟨rfl, rfl, rfl, rfl, rfl⟩
  have taken : conn.ByUpkeep conn.passOver := endures.setNextLocal here _
  cases served with
  | denied => exact here
  | looped allocated =>
    obtain ⟨rfl, rfl⟩ := allocate_eq allocated
    exact taken
  | crowded allocated =>
    obtain ⟨rfl, rfl⟩ := allocate_eq allocated
    exact endures.refuseOwn taken
  | opened _ allocated _ _ room begun =>
    obtain ⟨rfl, rfl⟩ := allocate_eq allocated
    exact ⟨rfl, alike.opens room begun _ _⟩
  | promised _ _ _ _ _ allocated =>
    obtain ⟨rfl, rfl⟩ := allocate_eq allocated
    exact ⟨rfl, .promises (alike.seats conn.registry.nextLocal _ none)
      (.of_eq (List.append_nil _).symm) ⟨_, rfl⟩⟩
  | overfull => exact endures.dropStream here .refusedStream true _
  | @responded id fields endStream stream next held sends early final room moves =>
    have seats :=
      modify_seats conn.registry id (fun stream => { stream with finalSent := true }) next
    have writes : conn.Writes _ ((conn.modifyStream id fun stream =>
        { stream with finalSent := true }).writeHeaders id fields none endStream) :=
      writes_headers rfl id fields none endStream
    exact ⟨rfl, .responds held sends early final room moves (shifts_settled seats)
      (tells_settled (List.append_nil _).symm _ _) (writes.settled _ _) (exchange_settled _ _ _)⟩
  | _ => cases turning

theorem answer_turns (turning : call.isTurning) :
    conn.TurnsTo (.call call) (conn.reply call) (conn.answer call) (conn.called call) :=
  answer_of_leads ((perform_served conn call).mono fun _ _ served => served.turnsTo turning)

private theorem called_turns (conn : Connection) (call : Call) :
    conn.ByUpkeep (conn.called call) ∨ conn.Turn (.call call) (conn.called call) := by
  have here := ByUpkeep.refl conn
  by_cases plain : call.isPlain
  · exact .inl (endures.called here plain)
  by_cases turning : call.isTurning
  · have turns : conn.TurnsTo _ _ _ _ := answer_turns turning
    cases answer : conn.answer call with
    | ok given =>
      rw [answer] at turns
      exact .inr turns.2
    | error error =>
      rw [answer] at turns
      exact .inl turns
  · cases call with
    | sendGoaway last reason debug =>
      left
      apply called_of_leads
      exact silently_leads (ensureOpen_leads (fun _ => here) fun _ =>
        endures.dropAbove here last reason debug)
    | createStream | respond | pushPromise => exact absurd rfl turning
    | _ => exact absurd rfl plain

end Calls

/-! ## Frames -/

/-- A frame that is accepted may be a turn, and one that is turned down is none. -/
def MayTurn (conn : Connection) (frame : Frame) : Except Error Unit → Connection → Prop
  | .ok _, after => conn.ByUpkeep after ∨ conn.Turn (.frame frame) after
  | .error _, after => conn.ByUpkeep after

section Frames

variable {start conn after : Connection} {id : Nat} {fields : List Field}
  {priority : Option Priority} {endStream : Bool} {result : Except Error Unit} {frame : Frame}

theorem ByUpkeep.mayTurn (byUpkeep : start.ByUpkeep conn) (frame : Frame)
    (result : Except Error Unit) :
    start.MayTurn frame result conn := by
  cases result with
  | ok => exact .inl byUpkeep
  | error => exact byUpkeep

private theorem fits_of_not_malformed (wellFormed : conn.isMalformed id fields priority = false) :
    conn.Fits fields := by
  simp only [isMalformed, Bool.or_eq_false_iff, decide_eq_false_iff_not, Nat.not_lt] at wellFormed
  exact wellFormed.2

private theorem emit_turns {middle : Connection} {event : Event} {phase : Phase} {block : Octets}
    (known : conn.phase? id = some phase) (receives : phase.canReceive) (fits : conn.Fits fields)
    (byUpkeep : conn.ByUpkeep middle) (told : middle.events = conn.events)
    (silent : middle.outbound = conn.outbound)
    (named : event = .headers id fields endStream ∨ event = .trailers id fields)
    (later : (middle.emit event).ByUpkeep after) (tells : (middle.emit event).Tells [] after)
    (kept : after.outbound = middle.outbound) :
    conn.Turn (.frame (.headers id priority block endStream)) after := by
  refine .continues known receives (byUpkeep.thins.trans later.thins) named fits
    ?_ (kept.trans silent)
  obtain ⟨more, events, closings⟩ := tells
  refine ⟨more, ?_, closings⟩
  rw [events, List.append_nil, ← told]
  rfl

theorem started_turns (conn : Connection) {stream next : Stream}
    (held : conn.registry.get? id = some stream)
    (wellFormed : conn.isMalformed id fields priority = false)
    (reserved : stream.phase = .reservedRemote)
    (moves : { stream with finalReceived := !isInformational fields }.advance?
      (.receiveHeaders endStream) = some next) (table : Header.Table) (block : Octets) :
    conn.Turn (.frame (.headers id priority block endStream))
      (({ conn with decoder := table }.deliverHeaders id fields endStream).settled id next) := by
  have seats := modify_seats conn.registry id
    (fun stream => { stream with finalReceived := !isInformational fields }) next
  exact .starts held reserved (fits_of_not_malformed wellFormed) moves (shifts_settled seats)
    (tells_settled rfl _ _) (outbound_settled _ _ _)

theorem HeadersDealt.mayTurn {table : Header.Table}
    (dealt : HeadersDealt { conn with decoder := table } id fields priority endStream result after)
    (block : Octets) : conn.MayTurn (.headers id priority block endStream) result after := by
  have read : conn.ByUpkeep { conn with decoder := table } :=
    endures.read (ByUpkeep.refl conn) table
  have noted := endures.touch id read (f := fun stream =>
    { stream with finalReceived := !isInformational fields }) (fun _ => rfl) fun _ => rfl
  cases dealt with
  | misplaced | declined => exact read
  | passed _ taken =>
    obtain ⟨-, -, rfl⟩ := acceptRemote_eq taken
    exact .inl (endures.setLastRemote read id)
  | turnedAway _ taken =>
    obtain ⟨-, -, rfl⟩ := acceptRemote_eq taken
    exact .inl (endures.refuseStream (endures.setLastRemote read id) _)
  | accepted unknown taken _ welcome begun =>
    obtain ⟨theirs, -, rfl⟩ := acceptRemote_eq taken
    obtain ⟨room, wellFormed⟩ := refusal?_eq_none.mp welcome
    have alike : conn.Alike
        { conn with decoder := table, registry := { conn.registry with lastRemote := id } } :=
      ⟨rfl, rfl, rfl, rfl, rfl⟩
    exact .inr (alike.accepts unknown theirs room (fits_of_not_malformed wellFormed)
      begun priority block)
  | started held wellFormed reserved moves =>
    exact .inr (started_turns conn held wellFormed reserved moves table block)
  | continued held wellFormed receives =>
    exact .inr (emit_turns (phase?_of_get? held) receives (fits_of_not_malformed wellFormed)
      noted rfl rfl (.inl rfl) (endures.reprioritizeIf (ByUpkeep.refl _) id priority)
      (.of_eq ((events_reprioritizeIf _ _ _).trans (List.append_nil _).symm))
      (outbound_reprioritizeIf _ _ _))
  | concluded held wellFormed receives _ holds _ moves =>
    have placed := endures.reprioritizeIf
      (ByUpkeep.refl ({ conn with decoder := table }.deliverHeaders id fields true)) id priority
    exact .inr (emit_turns (phase?_of_get? held) receives (fits_of_not_malformed wellFormed)
      noted rfl rfl (.inl rfl) (endures.settledEnd placed holds moves)
      (tells_settled ((events_reprioritizeIf _ _ _).trans (List.append_nil _).symm) _ _)
      ((outbound_settled _ _ _).trans (outbound_reprioritizeIf _ _ _)))
  | trailed held wellFormed receives _ holds _ moves =>
    have placed := endures.reprioritizeIf
      (ByUpkeep.refl ({ conn with decoder := table }.emit (.trailers id fields))) id priority
    exact .inr (emit_turns (phase?_of_get? held) receives (fits_of_not_malformed wellFormed)
      read rfl rfl (.inr rfl) (endures.settledEnd placed holds moves)
      (tells_settled ((events_reprioritizeIf _ _ _).trans (List.append_nil _).symm) _ _)
      ((outbound_settled _ _ _).trans (outbound_reprioritizeIf _ _ _)))

theorem Dealt.mayTurn (dealt : Dealt conn frame result after) :
    conn.MayTurn frame result after := by
  have here := ByUpkeep.refl conn
  by_cases plain : frame.isPlain
  · exact ByUpkeep.mayTurn (endures.dealt here dealt plain) frame result
  cases dealt with
  | garbled | garbledPromise | unfounded => exact endures.read here _
  | pushToServer | pushRefused => exact here
  | headers _ dealt => exact dealt.mayTurn _
  | @promised _ promised _ _ table _ _ client _ _ _ _ taken =>
    obtain ⟨theirs, -, rfl⟩ := acceptRemote_eq taken
    have alike : conn.Alike { conn with
        decoder := table, registry := { conn.registry with lastRemote := promised } } :=
      ⟨rfl, rfl, rfl, rfl, rfl⟩
    exact .inr (.notes client theirs (alike.seats promised _ none) (.of_eq rfl) rfl)
  | parted => exact .inl (endures.receiveGoaway here _ _ _)
  | _ => exact absurd rfl plain

private theorem receiveFrame_turns (conn : Connection) (frame : Frame) :
    (receiveFrame frame).Leads conn (conn.MayTurn frame) :=
  (receiveFrame_dealt conn frame).mono fun _ _ dealt => dealt.mayTurn

theorem handle_of_leads (goal : Connection → Prop)
    (leads : (receiveFrame frame).Leads conn fun result after => result = .ok () ∧ goal after) :
    goal (conn.handle frame) := by
  cases ran : (receiveFrame frame).run conn with
  | ok _ after =>
    rw [handle_of_ok ran]
    exact (leads.of_ok ran).2
  | error error after => cases (leads.of_error ran).1

private theorem handle_turns (conn : Connection) (frame : Frame) :
    conn.ByUpkeep (conn.handle frame) ∨ conn.Turn (.frame frame) (conn.handle frame) := by
  have turns := receiveFrame_turns conn frame
  cases ran : (receiveFrame frame).run conn with
  | ok _ after =>
    rw [handle_of_ok ran]
    exact turns.of_ok ran
  | error error after =>
    have byUpkeep : conn.ByUpkeep after := turns.of_error ran
    rw [handle_of_error ran]
    split
    · exact .inl (endures.fail byUpkeep error)
    · exact .inl (endures.absorb byUpkeep error)

end Frames

/-! ## All motions -/

/-- Whatever happens to a connection is upkeep or a farewell, or it is a turn. -/
theorem move_turns (conn : Connection) {motion : Motion} (inner : motion.isInner) :
    conn.ByUpkeep (conn.move motion) ∨ conn.Turn motion (conn.move motion) := by
  have here := ByUpkeep.refl conn
  cases motion with
  | call call => exact called_turns conn call
  | frame frame => exact handle_turns conn frame
  | fail error => exact .inl (endures.fail here error)
  | close => exact .inl (endures.close here)
  | handOver | tell => cases inner

end Connection

namespace Session

open Connection (ByUpkeep)

variable {role : Role} {config : Config} {now : Nat} {session : Session}

theorem byUpkeep_of_create (created : create role config now = .ok session) :
    (fresh role config).ByUpkeep session.connection := by
  have first :
      (fresh role config).ByUpkeep
      ((fresh role config).called (.sendSettings config.settings now)) :=
    endures.called (ByUpkeep.refl _) rfl
  rcases trail_of_create created with trail | trail <;> rw [← trail.moved]
  · exact first
  · exact endures.called first rfl

theorem reached_of_split (created : create role config now = .ok session) {uses : List Use}
    {earlier later : List Motion} (split : session.history uses = earlier ++ later) :
    (session.connection.moved earlier).Reached role := by
  have trail := trail_after (Run.create created) uses
  rw [split] at trail
  exact (reached_of_create created).trail trail.split.1

end Session

end Http2
