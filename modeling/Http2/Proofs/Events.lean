import Http2.Proofs.Life

/-!
# The events of a stream

The application is told of a stream in an order that it can rely on: a stream of the peer is
announced first, its final headers come once, nothing of a message comes after its end, and the
stream closes once and last.  `Telling` lists what can be told in an act on a stream, `Tale` is the
order, and `Tied` relates what was told to what the stream has become.
-/

namespace Http2

open Http2.Stream Phase Event List

/-! ## Events -/

namespace Event

def isCreation : Event → Bool
  | streamCreated .. => true
  | _ => false

def isFinal : Event → Bool
  | headers _ fields _ => !isInformational fields
  | _ => false

def isTrailers : Event → Bool
  | trailers .. => true
  | _ => false

def isMessage : Event → Bool
  | headers .. | data .. | trailers .. => true
  | _ => false

def endsMessage : Event → Bool
  | headers _ _ endStream | data _ _ endStream => endStream
  | trailers .. => true
  | _ => false

def isCancellation : Event → Bool
  | sendCancelled .. => true
  | _ => false

def isClosure : Event → Bool
  | streamClosed .. => true
  | _ => false

variable {id : Nat} {event : Event}

theorem eq_streamCreated (creation : event.isCreation) (about : event.isAbout id) :
    ∃ promise, event = .streamCreated id promise := by
  cases event <;> cases creation
  rename_i promise
  exact ⟨promise, by rw [eq_of_beq about]⟩

theorem eq_streamClosed (closure : event.isClosure) (about : event.isAbout id) :
    ∃ reason, event = .streamClosed id reason := by
  cases event <;> cases closure
  rename_i reason
  exact ⟨reason, by rw [eq_of_beq about]⟩

theorem endsMessage_of_isTrailers (trailers : event.isTrailers) : event.endsMessage := by
  cases event <;> first | rfl | cases trailers

private theorem isMessage_of_isFinal (final : event.isFinal) : event.isMessage := by
  cases event <;> first | rfl | cases final

theorem isMessage_of_endsMessage (ends : event.endsMessage) : event.isMessage := by
  cases event <;> first | rfl | cases ends

private theorem apart_of_isMessage (message : event.isMessage) :
    event.isCreation = false ∧ event.isClosure = false ∧ event.isCancellation = false := by
  cases event <;> first | exact ⟨rfl, rfl, rfl⟩ | cases message

/-- The one event may come somewhere after the other on the same stream. -/
structure Follows (earlier later : Event) : Prop where
  creation : later.isCreation = false
  closure : earlier.isClosure = false
  cancellation : earlier.isCancellation → later.isClosure
  message : earlier.endsMessage → later.isMessage = false
  final : earlier.isFinal → later.isFinal = false

end Event

/-! ## What an act tells -/

def Stream.heardFinal (stream : Stream) : Bool :=
  stream.finalReceived && stream.phase != .reservedRemote

/-- What can be told of a message at a time, by whether its final headers have been told and whether
more of it may be heard, before and after. -/
inductive Part (id : Nat) : Bool → Bool → List Event → Bool → Bool → Prop
  | none {final hears later : Bool} (less : later = true → hears = true) :
      Part id final hears [] final later
  | headers {fields : List Field} {endStream later : Bool} (ends : endStream = true →
      later = false) :
      Part id false true [.headers id fields endStream] (!isInformational fields) later
  | data {octets : Octets} {final endStream later : Bool} (ends : endStream = true →
      later = false) :
      Part id final true [.data id octets endStream] final later
  | trailers {fields : List Field} : Part id true true [.trailers id fields] true false

inductive Telling (id : Nat) : View → List Event → View → Prop
  | rest {view : View} : Telling id view [] view
  | pass {ours : Bool} : Telling id (.unused ours) [] .gone
  | begin {stream : Stream} (first : stream.heardFinal = false) :
      Telling id (.unused true) [] (.live stream)
  | refuse {reason : Option Reason} : Telling id (.unused true) [.streamClosed id reason] .gone
  | create {promise : Option Promise} {told : List Event} {stream : Stream}
      (part : Part id false true told stream.heardFinal stream.phase.hears) :
      Telling id (.unused false) (.streamCreated id promise :: told) (.live stream)
  | proceed {stream next : Stream} {told : List Event}
      (part : Part id stream.heardFinal stream.phase.hears told next.heardFinal next.phase.hears) :
      Telling id (.live stream) told (.live next)
  | finish {stream : Stream} {told cut : List Event} {final : Bool} {reason : Option Reason}
      (part : Part id stream.heardFinal stream.phase.hears told final false)
      (cuts : cut = [] ∨ ∃ unsent error, cut = [.sendCancelled id unsent error]) :
      Telling id (.live stream) (told ++ cut ++ [.streamClosed id reason]) .gone

section Acts

variable {id : Nat} {view next : View} {marks : List Mark} {phase : Phase}
  {stream : Stream} {signal : Signal}

private theorem toldIn_closing (id : Nat) (stream : Stream) :
    toldIn (closing id stream) = if stream.isLive then [] else [.streamClosed id none] := by
  unfold closing
  split <;> rfl

private theorem toldIn_dropping (id : Nat) (stream : Stream) (reason : Reason)
    (announced : Bool) (error : Error) :
    toldIn (dropping id stream reason announced error) =
      (if stream.hasOutbound then [.sendCancelled id stream.buffered error] else []) ++
        [.streamClosed id (some reason)] := by
  unfold dropping
  cases announced <;> cases stream.hasOutbound <;> rfl

private theorem Phase.entered_of_canSend (sends : phase.canSend) :
    phase ≠ .idle ∧ phase ≠ .reservedRemote := by
  cases phase <;> simp [canSend] at sends ⊢

private theorem Phase.entered_of_canReceive (receives : phase.canReceive) :
    phase ≠ .idle ∧ phase ≠ .reservedRemote := by
  cases phase <;> simp [canReceive] at receives ⊢

theorem Telling.of_next {next : Stream} {told : List Event}
    (part : Part id stream.heardFinal stream.phase.hears told next.heardFinal next.phase.hears) :
    Telling id (.live stream) (told ++ toldIn (closing id next)) (.of next) := by
  rw [toldIn_closing, View.of]
  cases live : next.isLive with
  | true =>
    rw [if_pos rfl, if_pos rfl, append_nil]
    exact .proceed part
  | false =>
    have deaf : next.phase.hears = false := by
      have closed : next.phase = .closed := by simpa [isLive, Phase.isClosed] using live
      rw [closed]
      rfl
    rw [deaf] at part
    have ended : Telling id (.live stream) (told ++ [] ++ [.streamClosed id none]) .gone :=
      .finish part (.inl rfl)
    rwa [append_nil] at ended

theorem Telling.drop {reason : Reason} {announced : Bool} {error : Error} :
    Telling id (.live stream) (toldIn (dropping id stream reason announced error)) .gone := by
  rw [toldIn_dropping]
  have part : Part id stream.heardFinal stream.phase.hears [] stream.heardFinal false :=
    .none (by simp)
  cases stream.hasOutbound with
  | true => exact .finish part (.inr ⟨_, _, rfl⟩)
  | false => exact .finish part (.inl rfl)

private theorem Phase.next?_ne_reservedRemote {next : Phase}
    (moves : phase.next? signal = some next) (opened : phase ≠ .idle) : next ≠ .reservedRemote := by
  rintro rfl
  unfold next? at moves
  split at moves <;> first | exact opened rfl | cases moves

private theorem Stream.heardFinal_of_advance? {next : Stream}
    (moves : stream.advance? signal = some next)
    (opened : stream.phase ≠ .idle) (unreserved : stream.phase ≠ .reservedRemote) :
    next.heardFinal = stream.heardFinal := by
  obtain ⟨moved, same⟩ := advance?_eq moves
  have still := Phase.next?_ne_reservedRemote moved opened
  rw [heardFinal, heardFinal, bne_iff_ne.mpr still, bne_iff_ne.mpr unreserved, same]

theorem Telling.of_advance? {current next : Stream} (moves : current.advance? signal = some next)
    (phase : current.phase = stream.phase) (final : current.finalReceived = stream.finalReceived)
    (opened : stream.phase ≠ .idle) (unreserved : stream.phase ≠ .reservedRemote) :
    Telling id (.live stream) (toldIn (closing id next)) (.of next) := by
  have same : next.heardFinal = stream.heardFinal := by
    rw [heardFinal_of_advance? moves (phase ▸ opened) (phase ▸ unreserved), heardFinal,
      heardFinal, final, phase]
  have part : Part id stream.heardFinal stream.phase.hears [] next.heardFinal next.phase.hears := by
    rw [same]
    exact .none fun hears => phase ▸ hears_of_next? (advance?_eq moves).1 hears
  exact .of_next part

theorem Act.telling (act : Act id view marks next) (own : ∀ mark ∈ marks, mark.isOn id) :
    Telling id view (toldIn marks) next := by
  cases act with
  | aside aside =>
    obtain rfl := eq_nil_of_aside aside own
    exact .rest
  | pass | refuseRemote | passOver => exact .pass
  | @openLocal _ _ endStream _ opens =>
    refine .begin ?_
    cases endStream <;> cases opens <;> rfl
  | reserveLocal => exact .begin rfl
  | refuseOwn => exact .refuse
  | @openRemote fields _ endStream stream opens =>
    refine .create ?_
    have final : ({ stream with finalReceived := !isInformational fields } : Stream).heardFinal =
        !isInformational fields := by
      cases endStream <;> cases opens <;> simp [heardFinal]
    rw [final]
    refine .headers fun ends => ?_
    subst ends
    exact deaf_of_receiveHeaders (advance?_eq opens).1
  | reserveRemote => exact .create (.none (fun _ => rfl))
  | enqueue | enqueueTrailers | dispatch | inform | promise | speak | hearPromise =>
    exact .proceed (.none (·))
  | conclude canSend ends rest moves | trail canSend waits empty moves =>
    obtain ⟨opened, unreserved⟩ := entered_of_canSend canSend
    exact .of_advance? moves rfl rfl opened unreserved
  | respond canSend early final moves =>
    obtain ⟨opened, unreserved⟩ := canSend.elim entered_of_canSend fun reserved => by
      simp [reserved]
    exact .of_advance? moves rfl rfl opened unreserved
  | drop => exact .drop
  | refuse => exact .drop
  | disown | ignore => exact .rest
  | @receiveData stream next octets endStream canReceive moves =>
    have hears := hears_of_canReceive canReceive
    obtain ⟨opened, unreserved⟩ := entered_of_canReceive canReceive
    rw [cons_append, toldIn_heard, toldIn_append]
    refine .of_next ?_
    cases endStream with
    | false =>
      cases moves
      rw [hears]
      split
      · exact .data (by simp)
      · exact .none (·)
    | true =>
      rw [heardFinal_of_advance? moves opened unreserved, hears]
      simp only [Bool.or_true, if_true]
      exact .data fun _ => deaf_of_receiveEnd (advance?_eq moves).1
  | @receiveFirst stream next fields _ endStream reserved moves =>
    obtain ⟨moved, same⟩ := advance?_eq moves
    have before : stream.heardFinal = false := by simp [heardFinal, reserved]
    have hears : stream.phase.hears := by rw [reserved]; rfl
    have left : next.phase ≠ .reservedRemote :=
      Phase.next?_ne_reservedRemote moved (by simp [reserved])
    have after : next.heardFinal = !isInformational fields := by
      rw [heardFinal, bne_iff_ne.mpr left, same, Bool.and_true]
    rw [toldIn_heard, toldIn_told, ← singleton_append]
    refine .of_next ?_
    rw [before, hears, after]
    exact .headers fun ends => deaf_of_receiveHeaders (ends ▸ moved)
  | @receiveHeaders stream next fields _ endStream canReceive early moves =>
    obtain ⟨opened, unreserved⟩ := entered_of_canReceive canReceive
    have before : stream.heardFinal = false := by simp [heardFinal, early]
    have after : next.heardFinal = !isInformational fields := by
      have taken : ({ stream with finalReceived := !isInformational fields } : Stream).heardFinal =
          !isInformational fields := by
        simp [heardFinal, unreserved]
      cases endStream with
      | false => cases moves; exact taken
      | true => exact (heardFinal_of_advance? moves opened unreserved).trans taken
    rw [toldIn_heard, toldIn_told, ← singleton_append]
    refine .of_next ?_
    rw [before, hears_of_canReceive canReceive, after]
    refine .headers fun ends => ?_
    subst ends
    exact deaf_of_receiveEnd (advance?_eq moves).1
  | @receiveTrailers stream next fields _ canReceive late moves =>
    obtain ⟨opened, unreserved⟩ := entered_of_canReceive canReceive
    have final : stream.heardFinal := by simp [heardFinal, late, unreserved]
    rw [toldIn_heard, toldIn_told, ← singleton_append]
    refine .of_next ?_
    rw [heardFinal_of_advance? moves opened unreserved, final, hears_of_canReceive canReceive,
      deaf_of_receiveEnd (advance?_eq moves).1]
    exact .trailers

end Acts

/-! ## All that was told -/

structure Tale (ours : Bool) (events : List Event) : Prop where
  follows : events.Pairwise Event.Follows
  trailers : (∃ event ∈ events, event.isTrailers) → ∃ event ∈ events, event.isFinal
  cancelled : (∃ event ∈ events, event.isCancellation) → ∃ event ∈ events, event.isClosure
  begins : ours = false → events ≠ [] → ∃ event ∈ events, event.isCreation

/-- What was told of a live stream, by whether this has final headers and whether more may come. -/
structure Going (ours : Bool) (events : List Event) (final hears : Bool) : Prop where
  lasts : ∀ event ∈ events, event.isClosure = false ∧ event.isCancellation = false
  final : (∃ event ∈ events, event.isFinal) ↔ final = true
  ended : ∀ event ∈ events, event.endsMessage → hears = false
  begun : ours = false → ∃ event ∈ events, event.isCreation

inductive Tied (ours : Bool) (events : List Event) : View → Prop
  | unused (none : events = []) : Tied ours events (.unused ours)
  | live {stream : Stream} (going : Going ours events stream.heardFinal stream.phase.hears) :
      Tied ours events (.live stream)
  | gone (closed : events = [] ∨ ∃ event ∈ events, event.isClosure) : Tied ours events .gone

section Tales

variable {id : Nat} {ours final hears final' hears' : Bool} {events told : List Event}
  {start view next : View} {marks : List Mark}

namespace Part

variable {event : Event} (part : Part id final hears told final' hears')

include part

theorem isMessage (member : event ∈ told) : event.isMessage ∧ hears = true := by
  cases part with
  | none => cases member
  | headers | data | trailers =>
    obtain rfl := mem_singleton.mp member
    exact ⟨rfl, rfl⟩

theorem ends (member : event ∈ told) (ends : event.endsMessage) : hears' = false := by
  cases part with
  | none => cases member
  | headers ceases | data ceases =>
    obtain rfl := mem_singleton.mp member
    exact ceases ends
  | trailers => rfl

theorem hears_of_hears (later : hears') : hears := by
  cases part with
  | none less => exact less later
  | headers | data | trailers => rfl

theorem final_iff : final' = true ↔ final = true ∨ ∃ event ∈ told, event.isFinal := by
  cases part <;> simp [isFinal]

theorem early (member : event ∈ told) (is : event.isFinal) : final = false := by
  cases part with
  | none => cases member
  | headers => rfl
  | data | trailers =>
    obtain rfl := mem_singleton.mp member
    cases is

theorem late (member : event ∈ told) (is : event.isTrailers) : final := by
  cases part with
  | none => cases member
  | headers | data =>
    obtain rfl := mem_singleton.mp member
    cases is
  | trailers => rfl

theorem pairwise (relation : Event → Event → Prop) : told.Pairwise relation := by
  cases part with
  | none => exact .nil
  | headers | data | trailers => exact pairwise_singleton ..

end Part

theorem Going.follows (going : Going ours events final hears) {earlier later : Event}
    (old : earlier ∈ events) (creation : later.isCreation = false)
    (message : later.isMessage → hears = true) (once : later.isFinal → final = false) :
    earlier.Follows later where
  creation := creation
  closure := (going.lasts earlier old).1
  cancellation cancelled := by simp [(going.lasts earlier old).2] at cancelled
  message ends := by
    refine Bool.eq_false_iff.mpr fun is => Bool.false_ne_true ?_
    exact (going.ended earlier old ends).symm.trans (message is)
  final is := by
    refine Bool.eq_false_iff.mpr fun again => Bool.false_ne_true ?_
    exact (once again).symm.trans (going.final.mp ⟨earlier, old, is⟩)

theorem exists_mem_append_left {first : List Event} {is : Event → Bool} (second : List Event)
    (some : ∃ event ∈ first, is event = true) : ∃ event ∈ first ++ second, is event = true := by
  obtain ⟨event, member, is⟩ := some
  exact ⟨event, mem_append_left _ member, is⟩

theorem Tale.part (tale : Tale ours events) (going : Going ours events final hears)
    (part : Part id final hears told final' hears') :
    Tale ours (events ++ told) ∧ Going ours (events ++ told) final' hears' := by
  refine ⟨⟨?_, ?_, ?_, ?_⟩, ?_, ?_, ?_, ?_⟩
  · refine pairwise_append.mpr ⟨tale.follows, part.pairwise _, fun earlier old later new => ?_⟩
    obtain ⟨message, hears⟩ := part.isMessage new
    exact going.follows old (apart_of_isMessage message).1 (fun _ => hears) (part.early new)
  · rintro ⟨event, member, is⟩
    rcases mem_append.mp member with old | new
    · exact exists_mem_append_left told (tale.trailers ⟨event, old, is⟩)
    · exact exists_mem_append_left told (going.final.mpr (part.late new is))
  · rintro ⟨event, member, is⟩
    rcases mem_append.mp member with old | new
    · exact exists_mem_append_left told (tale.cancelled ⟨event, old, is⟩)
    · simp [(apart_of_isMessage (part.isMessage new).1).2.2] at is
  · exact fun theirs _ => exists_mem_append_left told (going.begun theirs)
  · intro event member
    rcases mem_append.mp member with old | new
    · exact going.lasts event old
    · exact (apart_of_isMessage (part.isMessage new).1).2
  · rw [part.final_iff, ← going.final]
    simp only [mem_append, or_and_right, exists_or]
  · intro event member ends
    rcases mem_append.mp member with old | new
    · refine Bool.eq_false_iff.mpr fun later => Bool.false_ne_true ?_
      exact (going.ended event old ends).symm.trans (part.hears_of_hears later)
    · exact part.ends new ends
  · exact fun theirs => exists_mem_append_left told (going.begun theirs)

theorem Tale.finish (tale : Tale ours events) (going : Going ours events final hears)
    {cut : List Event} (cuts : cut = [] ∨ ∃ unsent error, cut = [.sendCancelled id unsent error])
    (reason : Option Reason) : Tale ours (events ++ (cut ++ [.streamClosed id reason])) := by
  have last : ∀ event ∈ cut ++ [.streamClosed id reason], event.isCreation = false ∧
      event.isMessage = false ∧ event.isFinal = false ∧ event.isTrailers = false := by
    rcases cuts with rfl | ⟨unsent, error, rfl⟩ <;>
      simp [isCreation, isMessage, isFinal, isTrailers]
  refine ⟨pairwise_append.mpr ⟨tale.follows, ?_, fun earlier old later new => ?_⟩, ?_, ?_, ?_⟩
  · rcases cuts with rfl | ⟨unsent, error, rfl⟩
    · exact pairwise_singleton ..
    · refine pairwise_pair.mpr ⟨rfl, rfl, fun _ => rfl, fun _ => rfl, fun _ => rfl⟩
  · obtain ⟨creation, message, once, -⟩ := last later new
    exact going.follows old creation (by simp [message]) (by simp [once])
  · rintro ⟨event, member, is⟩
    rcases mem_append.mp member with old | new
    · exact exists_mem_append_left _ (tale.trailers ⟨event, old, is⟩)
    · simp [(last event new).2.2.2] at is
  · exact fun _ => ⟨.streamClosed id reason, by simp, rfl⟩
  · exact fun theirs _ => exists_mem_append_left _ (going.begun theirs)

theorem Tale.nil (ours : Bool) : Tale ours [] := ⟨.nil, by simp, by simp, by simp⟩

theorem Tale.created (promise : Option Promise) :
    Tale false [.streamCreated id promise] ∧
    Going false [.streamCreated id promise] false true := by
  refine ⟨⟨pairwise_singleton .., ?_, ?_, ?_⟩, ?_, ?_, ?_, ?_⟩ <;>
    simp [isTrailers, isCancellation, isCreation, isClosure, isFinal,
      endsMessage]

theorem Tale.telling (tale : Tale ours events) (tied : Tied ours events view)
    (telling : Telling id view told next) :
    Tale ours (events ++ told) ∧ Tied ours (events ++ told) next := by
  cases telling with
  | rest =>
    rw [append_nil]
    exact ⟨tale, tied⟩
  | pass =>
    cases tied with
    | unused none =>
      subst none
      exact ⟨.nil _, .gone (.inl rfl)⟩
  | begin first =>
    cases tied with
    | unused none =>
      subst none
      exact ⟨.nil _, .live ⟨by simp, by simp [first], by simp, by simp⟩⟩
  | refuse =>
    cases tied with
    | unused none =>
      subst none
      refine ⟨⟨pairwise_singleton .., ?_, ?_, by simp⟩, .gone (.inr ?_)⟩ <;>
        simp [isTrailers, isCancellation, isClosure]
  | @create promise told stream part =>
    cases tied with
    | unused none =>
      subst none
      obtain ⟨tale, going⟩ := (Tale.created promise).1.part (Tale.created promise).2 part
      exact ⟨tale, .live going⟩
  | proceed part =>
    cases tied with
    | live going =>
      obtain ⟨tale, going⟩ := tale.part going part
      exact ⟨tale, .live going⟩
  | @finish stream told cut final reason part cuts =>
    cases tied with
    | live going =>
      obtain ⟨tale, going⟩ := tale.part going part
      rw [append_assoc, ← append_assoc]
      exact ⟨tale.finish going cuts reason, .gone (.inr ⟨.streamClosed id reason, by simp, rfl⟩)⟩

theorem Life.tale (life : Life id start marks view) (begun : start = .unused ours ∨ start = .gone) :
    Tale ours (toldIn marks) ∧ Tied ours (toldIn marks) view := by
  induction life with
  | refl =>
    refine ⟨.nil ours, ?_⟩
    rcases begun with rfl | rfl
    · exact .unused rfl
    · exact .gone (.inl rfl)
  | tail _ act own ih =>
    rw [toldIn_append]
    exact ih.1.telling ih.2 (act.telling own)

theorem Life.closure (life : Life id start marks view) (begun : ∃ stream, start = .live stream) :
    (∃ stream, view = .live stream) ∨ ∃ event ∈ toldIn marks, event.isClosure := by
  induction life with
  | refl => exact .inl begun
  | @tail marks more view next _ act own ih =>
    have telling := act.telling own
    rw [toldIn_append]
    generalize toldIn more = told at telling
    rcases ih with ⟨stream, rfl⟩ | closed
    · cases telling with
      | rest => exact .inl ⟨stream, rfl⟩
      | proceed => exact .inl ⟨_, rfl⟩
      | @finish _ _ _ _ reason => exact .inr ⟨.streamClosed id reason, by simp, rfl⟩
    · exact .inr (exists_mem_append_left _ closed)

end Tales

/-! ## The rules of the order -/

namespace Tale

variable {ours : Bool} {events before rest : List Event} {event : Event}

theorem eq_nil_or_created (tale : Tale false events) :
    events = [] ∨ ∃ first rest, events = first :: rest ∧ first.isCreation ∧
      ∀ event ∈ rest, event.isCreation = false := by
  cases events with
  | nil => exact .inl rfl
  | cons first rest =>
    obtain ⟨follows, -⟩ := pairwise_cons.mp tale.follows
    have none : ∀ event ∈ rest, event.isCreation = false :=
      fun event member => (follows event member).creation
    obtain ⟨event, member, creation⟩ := tale.begins rfl (by simp)
    rcases mem_cons.mp member with rfl | late
    · exact .inr ⟨event, rest, rfl, creation, none⟩
    · cases creation.symm.trans (none event late)

theorem countP_le_one {is : Event → Bool}
    (once : events.Pairwise fun earlier later => is earlier = true → is later = false) :
    events.countP is ≤ 1 := by
  induction events with
  | nil => simp
  | cons event rest ih =>
    obtain ⟨apart, once⟩ := pairwise_cons.mp once
    rw [countP_cons]
    split
    · rename_i here
      have none : rest.countP is = 0 :=
        countP_eq_zero.mpr fun later member => by simp [apart later member here]
      omega
    · exact ih once

variable (tale : Tale ours (before ++ event :: rest))

include tale

theorem split : (∀ earlier ∈ before, earlier.Follows event) ∧ ∀ later ∈ rest,
    event.Follows later := by
  obtain ⟨-, second, across⟩ := pairwise_append.mp tale.follows
  exact ⟨fun earlier member => across earlier member event (by simp), (pairwise_cons.mp second).1⟩

theorem after_final (trailers : event.isTrailers) : ∃ earlier ∈ before, earlier.isFinal := by
  obtain ⟨final, member, is⟩ := tale.trailers ⟨event, by simp, trailers⟩
  have message := isMessage_of_isFinal is
  have ends := endsMessage_of_isTrailers trailers
  rcases mem_append.mp member with early | late
  · exact ⟨final, early, is⟩
  · rcases mem_cons.mp late with rfl | late
    · cases final <;> first | cases is | cases trailers
    · cases message.symm.trans ((tale.split.2 final late).message ends)

theorem eq_nil_of_closure (closure : event.isClosure) : rest = [] := by
  refine eq_nil_iff_forall_not_mem.mpr fun later member => ?_
  cases closure.symm.trans (tale.split.2 later member).closure

theorem closure_of_cancellation (cancelled : event.isCancellation) :
    ∃ last, rest = [last] ∧ last.isClosure := by
  obtain ⟨last, member, closure⟩ := tale.cancelled ⟨event, by simp, cancelled⟩
  have late : last ∈ rest := by
    rcases mem_append.mp member with early | late
    · cases closure.symm.trans (tale.split.1 last early).closure
    · rcases mem_cons.mp late with rfl | late
      · cases last <;> simp [isClosure, isCancellation] at closure cancelled
      · exact late
  cases rest with
  | nil => cases late
  | cons first others =>
    have first_closes := (tale.split.2 first (by simp)).cancellation cancelled
    have whole : Tale ours ((before ++ [event]) ++ first :: others) := by simpa using tale
    rw [whole.eq_nil_of_closure first_closes]
    exact ⟨first, rfl, first_closes⟩

end Tale

end Http2
