import Http2.Proofs.Life

/-!
# Silence after the end

A stream is over for this end once it has said that it ends, and over altogether once it is closed.
From then on nothing that belongs to its message is written, and after a reset nothing about it at
all but another reset.  Both follow from one argument: the first frame leaves the stream in a state
that no act can leave and in which the later frames cannot be written.
-/

namespace Http2

open Connection Registry Phase List

/-! ## Frames on a stream -/

namespace Frame

def isSpeech (id : Nat) : Frame → Bool
  | data stream .. | headers stream .. | pushPromise stream .. => stream == id
  | _ => false

def isOn (id : Nat) : Frame → Bool
  | data stream .. | headers stream .. | pushPromise stream .. | priority stream _ |
    windowUpdate stream _ => stream == id
  | _ => false

def endsStream (id : Nat) : Frame → Bool
  | data stream _ endStream _ | headers stream _ _ endStream => stream == id && endStream
  | _ => false

def resets (id : Nat) : Frame → Bool
  | rstStream stream _ => stream == id
  | _ => false

end Frame

/-! ## What an act says -/

namespace View

def speaks : View → Bool
  | unused _ => true
  | gone => false
  | live stream => stream.phase.speaks

theorem speaks_of (stream : Stream) : (View.of stream).speaks = stream.phase.speaks := by
  unfold View.of Stream.isLive
  cases phase : stream.phase <;> simp [speaks, phase, Phase.isClosed, Phase.speaks]

end View

inductive Saying (id : Nat) : View → List Frame → View → Prop
  | nothing {view next : View} (speaks : next.speaks → view.speaks)
      (gone : view = .gone → next = .gone) : Saying id view [] next
  | message {view next : View} {frame : Frame} (speech : frame.isSpeech id)
      (speaks : view.speaks) (ends : frame.endsStream id → next.speaks = false) :
      Saying id view [frame] next
  | upkeep {stream : Stream} {frame : Frame} (about : frame.concerns id) :
      Saying id (.live stream) [frame] (.live stream)
  | reset {view : View} {code : Nat} : Saying id view [.rstStream id code] .gone

section Acts

variable {id : Nat} {view next : View} {marks : List Mark}

theorem Saying.drop {stream : Stream} {announced : Bool} {reason : Reason} :
    Saying id (.live stream) (if announced then [.rstStream id reason.code] else []) .gone := by
  cases announced with
  | true => exact .reset
  | false => exact .nothing (by simp [View.speaks]) (by simp)

theorem Act.saying (act : Act id view marks next) (own : ∀ mark ∈ marks, mark.isOn id) :
    Saying id view (saidIn marks) next := by
  have moves : ∀ {stream next : Stream} {signal : Signal}, stream.advance? signal = some next →
      (View.of next).speaks = true → stream.phase.speaks := by
    intro stream next signal moves speaks
    rw [View.speaks_of] at speaks
    exact speaks_of_next? (Stream.advance?_eq moves).1 speaks
  cases act with
  | aside aside =>
    obtain rfl := eq_nil_of_aside aside own
    exact .nothing (·) (·)
  | pass | refuseOwn | passOver => exact .nothing (by simp [View.speaks]) (by simp)
  | reserveLocal | openRemote | reserveRemote => exact .nothing (fun _ => rfl) (by simp)
  | openLocal opens =>
    refine .message (by simp [Frame.isSpeech]) rfl fun ends => ?_
    obtain rfl : _ := by simpa [Frame.endsStream] using ends
    exact silent_of_sendHeaders (Stream.advance?_eq opens).1
  | enqueue | enqueueTrailers | hearPromise => exact .nothing (·) (by simp)
  | dispatch canSend | inform canSend | promise canSend =>
    exact .message (by simp [Frame.isSpeech]) (speaks_of_canSend canSend)
      (by simp [Frame.endsStream])
  | conclude canSend ends rest moved =>
    rw [saidIn_said, saidIn_closing]
    refine .message (by simp [Frame.isSpeech]) (speaks_of_canSend canSend) fun _ => ?_
    rw [View.speaks_of]
    exact silent_of_sendEnd (Stream.advance?_eq moved).1
  | trail canSend waits empty moved =>
    rw [saidIn_said, saidIn_closing]
    refine .message (by simp [Frame.isSpeech]) (speaks_of_canSend canSend) fun _ => ?_
    rw [View.speaks_of]
    exact silent_of_sendHeaders (Stream.advance?_eq moved).1
  | respond canSend early final moved =>
    rw [saidIn_answered, saidIn_said, saidIn_closing]
    refine .message (by simp [Frame.isSpeech]) ?_ fun ends => ?_
    · exact canSend.elim speaks_of_canSend fun reserved => by
        simp [View.speaks, reserved, Phase.speaks]
    · obtain rfl : _ := by simpa [Frame.endsStream] using ends
      rw [View.speaks_of]
      exact silent_of_sendHeaders (Stream.advance?_eq moved).1
  | @speak stream frame about =>
    refine .upkeep ?_
    cases frame <;> exact about
  | drop reason announced error =>
    rw [saidIn_dropping]
    exact .drop
  | refuse about reason announced error =>
    rw [saidIn_heard, saidIn_dropping]
    exact .drop
  | disown | refuseRemote => exact .reset
  | ignore => exact .nothing (·) (·)
  | @receiveData stream next octets endStream canReceive moved =>
    have none : saidIn (if !octets.isEmpty || endStream then
        [Mark.told (.data id octets endStream)] else []) = [] := by
      split <;> rfl
    rw [cons_append, saidIn_heard, saidIn_append, none, saidIn_closing]
    refine .nothing (fun speaks => ?_) (by simp)
    rw [View.speaks_of] at speaks
    exact (Stream.endIf?_eq moved).1 speaks
  | receiveFirst reserved moved =>
    rw [saidIn_heard, saidIn_told, saidIn_closing]
    have spoke := moves moved
    exact .nothing spoke (by simp)
  | receiveHeaders canReceive early moved =>
    rw [saidIn_heard, saidIn_told, saidIn_closing]
    refine .nothing (fun speaks => ?_) (by simp)
    rw [View.speaks_of] at speaks
    exact (Stream.endIf?_eq moved).1 speaks
  | receiveTrailers canReceive late moved =>
    rw [saidIn_heard, saidIn_told, saidIn_closing]
    exact .nothing (moves moved) (by simp)

end Acts

/-! ## States that no act leaves -/

/-- Frames of the first kind leave the stream quiet.  Quiet it stays, and as long as it is no frame
of the second kind is said on it. -/
structure Silences (id : Nat) (first second : Frame → Bool) (quiet : View → Prop) : Prop where
  outline : ∀ frame, first frame.outline = first frame ∧ second frame.outline = second frame
  about : ∀ frame, first frame = true ∨ second frame = true → frame.isAbout id
  begins : ∀ {view said next}, Saying id view said next → ∀ frame ∈ said, first frame = true →
    quiet next
  stays : ∀ {view said next}, Saying id view said next → quiet view → quiet next
  silent : ∀ {view said next}, Saying id view said next → quiet view → ∀ frame ∈ said,
    second frame = false

private theorem silences_end (id : Nat) :
    Silences id (Frame.endsStream id) (Frame.isSpeech id) (fun view => view.speaks = false) where
  outline frame := by cases frame <;> exact ⟨rfl, rfl⟩
  about frame kind := by
    cases frame <;> simp [Frame.endsStream, Frame.isSpeech, Frame.isAbout] at kind ⊢ <;> omega
  begins saying frame member ends := by
    cases saying with
    | nothing => cases member
    | message speech speaks ceases =>
      obtain rfl := mem_singleton.mp member
      exact ceases ends
    | upkeep about =>
      obtain rfl := mem_singleton.mp member
      cases frame <;> first | cases about | cases ends
    | reset => rfl
  stays saying quiet := by
    cases saying with
    | nothing speaks => exact Bool.eq_false_iff.mpr fun next => by simp [speaks next] at quiet
    | message speech speaks => simp [speaks] at quiet
    | upkeep => exact quiet
    | reset => rfl
  silent saying quiet frame member := by
    cases saying with
    | nothing => cases member
    | message speech speaks => simp [speaks] at quiet
    | upkeep about =>
      obtain rfl := mem_singleton.mp member
      cases frame <;> first | rfl | cases about
    | reset =>
      obtain rfl := mem_singleton.mp member
      rfl

private theorem silences_reset {id : Nat} (stands : id ≠ 0) :
    Silences id (Frame.resets id) (Frame.isOn id) (fun view => view = .gone) where
  outline frame := by cases frame <;> exact ⟨rfl, rfl⟩
  about frame kind := by
    cases frame <;> simp [Frame.resets, Frame.isOn, Frame.isAbout] at kind ⊢ <;> omega
  begins saying frame member resets := by
    cases saying with
    | nothing => cases member
    | message speech =>
      obtain rfl := mem_singleton.mp member
      cases frame <;> first | cases resets | cases speech
    | upkeep about =>
      obtain rfl := mem_singleton.mp member
      cases frame <;> first | cases about | cases resets
    | reset => rfl
  stays saying quiet := by
    subst quiet
    cases saying with
    | nothing _ gone => exact gone rfl
    | message _ speaks => cases speaks
    | reset => rfl
  silent saying quiet frame member := by
    subst quiet
    cases saying with
    | nothing => cases member
    | message _ speaks => cases speaks
    | reset =>
      obtain rfl := mem_singleton.mp member
      rfl

section Lives

variable {id : Nat} {start view next : View} {marks : List Mark} {first second : Frame → Bool}
  {quiet : View → Prop}

theorem Saying.pairwise {said : List Frame} (saying : Saying id view said next)
    (relation : Frame → Frame → Prop) : said.Pairwise relation := by
  cases saying with
  | nothing => exact .nil
  | message | upkeep | reset => exact pairwise_singleton ..

variable (silences : Silences id first second quiet) (life : Life id start marks view)

include silences life

theorem Life.hushed :
    ((saidIn marks).Pairwise fun earlier later => first earlier = true → second later = false) ∧
      ∀ frame ∈ saidIn marks, first frame = true → quiet view := by
  induction life with
  | refl => exact ⟨.nil, by simp⟩
  | tail _ act own ih =>
    obtain ⟨pairwise, tied⟩ := ih
    have saying := act.saying own
    rw [saidIn_append]
    refine ⟨pairwise_append.mpr ⟨pairwise, saying.pairwise _, ?_⟩, fun frame member is => ?_⟩
    · intro earlier old later new is
      exact silences.silent saying (tied earlier old is) later new
    · rcases mem_append.mp member with old | new
      · exact silences.stays saying (tied frame old is)
      · exact silences.begins saying frame new is

theorem Life.silent (still : quiet start) :
    (∀ frame ∈ saidIn marks, second frame = false) ∧ quiet view := by
  induction life with
  | refl => exact ⟨by simp, still⟩
  | tail _ act own ih =>
    obtain ⟨silent, still⟩ := ih
    have saying := act.saying own
    refine ⟨fun frame member => ?_, silences.stays saying still⟩
    rw [saidIn_append] at member
    rcases mem_append.mp member with old | new
    · exact silent frame old
    · exact silences.silent saying still frame new

end Lives

/-! ## Along a run -/

namespace Connection

variable {start conn after : Connection} {log before rest : List Activity}
  {marks : List Mark} {id last : Nat}
  {first second : Frame → Bool} {quiet : View → Prop} {frame : Frame}

theorem Shown.outline_mem (shown : Shown start log marks conn) (member : frame ∈ writtenIn log)
    (about : frame.outline.isAbout id) : frame.outline ∈ saidIn (marks.filter (Mark.isOn id)) := by
  rw [saidIn_filter, ← shown.written]
  exact mem_filter.mpr ⟨mem_map_of_mem member, about⟩

section

variable (silences : Silences id first second quiet) (shown : Shown start log marks conn)

include silences shown

theorem Shown.hushed :
    (writtenIn log).Pairwise fun earlier later => first earlier = true → second later = false := by
  have pairwise := ((shown.life id).hushed silences).1
  rw [saidIn_filter, ← shown.written, pairwise_filter, pairwise_map] at pairwise
  refine pairwise.imp fun {earlier later} apart is => ?_
  rw [← (silences.outline earlier).1] at is
  rw [← (silences.outline later).2]
  refine Bool.eq_false_iff.mpr fun was => Bool.false_ne_true ?_
  exact (apart (silences.about _ (.inl is)) (silences.about _ (.inr was)) is).symm.trans was

theorem Shown.silent (still : quiet (start.registry.view id)) :
    ∀ frame ∈ writtenIn log, second frame = false := by
  intro frame member
  rw [← (silences.outline frame).2]
  refine Bool.eq_false_iff.mpr fun is => Bool.false_ne_true ?_
  have said := shown.outline_mem member (silences.about _ (.inr is))
  exact (((shown.life id).silent silences still).1 _ said).symm.trans is

end

private theorem not_accepted_wroteSince (frame : Frame) :
    .accepted frame ∉ conn.wroteSince after := by
  rw [wroteSince, mem_map]
  rintro ⟨_, _, same⟩
  cases same

theorem Step.accepted (step : Step conn (before ++ .accepted frame :: rest) after) :
    before = [] ∧ conn.closed = false ∧ (receiveFrame frame).run conn = .ok () after ∧
      rest = conn.wroteSince after := by
  generalize same : before ++ .accepted frame :: rest = more at step
  have member : .accepted frame ∈ more := by simp [← same]
  cases step with
  | accept opened ran =>
    cases before with
    | nil =>
      obtain ⟨rfl, rfl⟩ : frame = _ ∧ rest = _ := by simpa using same
      exact ⟨rfl, opened, ran, rfl⟩
    | cons first others =>
      have late : .accepted frame ∈ conn.wroteSince after := by
        rw [← (List.cons.inj same).2]
        simp
      exact absurd late (not_accepted_wroteSince frame)
  | handOver | tell => cases member
  | _ => exact absurd member (not_accepted_wroteSince frame)

/-- The steps accept the frame after the first part of their log, and go on with the rest. -/
def Accepting (start : Connection) (before : List Activity) (frame : Frame) (rest : List Activity)
    (conn : Connection) : Prop :=
  ∃ earlier later more, Steps start before earlier ∧ earlier.closed = false ∧
    (receiveFrame frame).run earlier = .ok () later ∧ Steps later more conn ∧
    rest = earlier.wroteSince later ++ more

theorem Steps.accepting (steps : Steps start (before ++ .accepted frame :: rest) conn) :
    Accepting start before frame rest conn := by
  generalize same : before ++ .accepted frame :: rest = log at steps
  induction steps generalizing rest with
  | refl => simp at same
  | @tail log more middle after steps step ih =>
    -- the frame is accepted in the last step
    have last : ∀ late, before = log ++ late → more = late ++ .accepted frame :: rest →
        Accepting start before frame rest after := by
      rintro late rfl rfl
      obtain ⟨rfl, opened, ran, rfl⟩ := step.accepted
      rw [append_nil]
      exact ⟨middle, after, [], steps, opened, ran, .refl, (append_nil _).symm⟩
    rcases append_eq_append_iff.mp same.symm with ⟨late, whole, split⟩ | ⟨late, whole, split⟩
    · exact last late whole split
    · cases late with
      | nil => exact last [] (by simpa using whole.symm) split.symm
      | cons activity late =>
        obtain ⟨rfl, rfl⟩ := List.cons.inj split
        obtain ⟨earlier, later, more', first, opened, ran, second, rfl⟩ := ih whole.symm
        exact ⟨earlier, later, more' ++ more, first, opened, ran, second.tail step, append_assoc ..⟩

/-! ## What closes a stream -/

private theorem hasClosed_of_reset (sound : conn.Sound) {code : Nat}
    (ran : (receiveFrame (.rstStream id code)).run conn = .ok () after) :
    after.registry.HasClosed id ∧ after.queued = conn.queued := by
  cases (receiveFrame_dealt conn _).of_ok ran with
  | dropped known =>
    refine ⟨?_, (dropStream_silent ..).queued⟩
    have used : conn.registry.isIdle id = false := by
      rcases known with held | used
      · obtain ⟨phase, held⟩ := Option.isSome_iff_exists.mp held
        obtain ⟨stream, held, -⟩ := Option.map_eq_some_iff.mp held
        exact sound.registry.used held
      · exact used
    rw [hasClosed_iff_view, resetStream, view_dropStream sound.registry, if_pos rfl]
    exact dropped_of_used used

private theorem least_le (previous : Option Nat) (last : Nat) :
    Farewell.least previous last ≤ last := by
  cases previous with
  | none => exact Nat.le_refl _
  | some previous => exact Nat.min_le_right ..

variable (sound : conn.Sound) (used : conn.registry.isIdle id = false)

include sound used

private theorem hasClosed_dropAll
    {chosen : Nat → Bool} (member : chosen id) (reason : Reason) (error : Nat → Error) :
    ((conn.registry.liveIds.filter chosen).foldl
      (fun conn id => conn.dropStream id reason false (error id))
        conn).registry.HasClosed id := by
  rw [hasClosed_iff_view, view_dropAll sound.registry]
  have gone := dropped_of_used used
  split
  · exact gone
  · rename_i unlisted
    have unlisted : id ∉ conn.registry.liveIds :=
      fun listed => unlisted (mem_filter.mpr ⟨listed, member⟩)
    rw [← not_live_of_not_mem unlisted, gone]

private theorem hasClosed_receiveGoaway
    (ours : conn.registry.isLocal id) (above : last < id) (reason : Reason) (debug : Octets) :
    (conn.receiveGoaway last reason debug).registry.HasClosed id := by
  have bound := least_le conn.farewell.received last
  unfold receiveGoaway
  refine hasClosed_dropAll ?_ ?_ ?_ .refusedStream fun id => .stream id .refusedStream
  · exact sound.congr rfl rfl rfl rfl rfl rfl
  · exact used
  · exact Bool.and_eq_true_iff.mpr ⟨ours, decide_eq_true (by omega)⟩

private theorem hasClosed_dropAbove
    (theirs : conn.registry.isLocal id = false) (above : last < id)
    (reason : Reason) (debug : Octets) :
    (conn.dropAbove last reason debug).registry.HasClosed id := by
  have bound := least_le conn.farewell.sent last
  unfold dropAbove
  refine hasClosed_dropAll ?_ ?_ ?_ .refusedStream fun id => .stream id .refusedStream
  · exact sound.congr rfl rfl rfl rfl rfl rfl
  · exact used
  · refine Bool.and_eq_true_iff.mpr ⟨?_, decide_eq_true (by omega)⟩
    exact (congrArg (! ·) theirs).trans rfl

omit sound used

theorem Steps.silent_of_closed (stands : id ≠ 0) (steps : Steps start log conn)
    (sound : start.closed = false → start.Sound) (closed : start.registry.HasClosed id) :
    ∀ frame ∈ writtenIn log, frame.isOn id = false := by
  obtain ⟨marks, shown⟩ := steps.shown sound
  exact shown.silent (silences_reset stands) (hasClosed_iff_view.mp closed)

end Connection

def Activity.resets (id : Nat) : Activity → Bool
  | accepted frame | wrote frame => frame.resets id

namespace Session

open Connection (Step Steps)

variable {session : Session} {log : List Activity} {id : Nat}

theorem Run.shown (run : Run session log) :
    ∃ role config marks, Shown (fresh role config) log marks session.connection := by
  obtain ⟨role, config, steps⟩ := run.steps
  obtain ⟨marks, shown⟩ := steps.shown fun _ => fresh_sound role config
  exact ⟨role, config, marks, shown⟩

theorem Run.silent_after_reset (run : Run session log) (stands : id ≠ 0)
    {before rest : List Activity} {activity : Activity} (split : log = before ++ activity :: rest)
    (resets : activity.resets id) : ∀ frame ∈ writtenIn rest, frame.isOn id = false := by
  subst split
  cases activity with
  | accepted frame =>
    obtain ⟨code, rfl⟩ : ∃ code, frame = .rstStream id code := by
      cases frame <;> first | cases resets | skip
      rename_i stream code
      exact ⟨code, by rw [eq_of_beq resets]⟩
    obtain ⟨role, config, steps⟩ := run.steps
    obtain ⟨earlier, later, more, first, opened, ran, second, rfl⟩ := steps.accepting
    have sound := first.sound (fresh_sound role config) opened
    obtain ⟨closed, queued⟩ := hasClosed_of_reset sound ran
    rw [wroteSince_eq (queued.trans (append_nil _).symm)]
    exact second.silent_of_closed stands (fun opened' => (Step.accept opened ran).sound
      sound opened') closed
  | wrote frame =>
    obtain ⟨role, config, marks, shown⟩ := run.shown
    have pairwise := shown.hushed (silences_reset stands)
    have written : writtenIn (before ++ .wrote frame :: rest) =
        writtenIn before ++ frame :: writtenIn rest := writtenIn_append ..
    rw [written] at pairwise
    intro later member
    have apart := (pairwise_append.mp pairwise).2.1
    exact (pairwise_cons.mp apart).1 later member resets

private theorem hasClosed_of_refused (sound : session.connection.Sound) {fields : List Field}
    {priority : Option Priority} {endStream : Bool}
    (refused : (session.call (.createStream fields priority endStream)).1 = .error (.refused id)) :
    (session.call (.createStream fields priority endStream)).2.connection.registry.HasClosed
      id := by
  have leads : (perform (.createStream fields priority endStream)).Leads
      session.connection fun result after =>
        result = .error (.refused id) → after.registry.HasClosed id := by
    refine (perform_served session.connection _).mono fun result after served failed => ?_
    cases served with
    | denied plain => exact absurd (Except.error.inj failed) (plain id)
    | crowded allocated =>
      cases failed
      exact hasClosed_refuseOwn sound allocated
    | _ => cases failed
  exact call_of_leads leads refused

private theorem hasClosed_sendGoaway (sound : session.connection.Sound)
    (opened : session.connection.closed = false)
    (used : session.connection.registry.isIdle id = false)
    (theirs : session.connection.registry.isLocal id = false) {last : Nat} (above : last < id)
    (reason : Reason) (debug : Octets) :
    (session.call (.sendGoaway last reason debug)).2.connection.registry.HasClosed id := by
  have leads : (perform (.sendGoaway last reason debug)).Leads session.connection
      fun _ after => after.registry.HasClosed id :=
    silently_leads (ensureOpen_leads (fun closed => by cases opened.symm.trans closed)
      fun _ => hasClosed_dropAbove sound used theirs above reason debug)
  exact call_of_leads leads

/-- Nothing is written on a stream after its end.  After the frame that ends it no other frame goes
on with its message, and once it has closed, by a reset of either end or in any other way, no frame
on it is written again.  A stream of ours that is refused has closed, and so has every stream that a
GOAWAY frame of either end leaves out. -/
theorem Run.silent_after_end (run : Run session log) (stands : id ≠ 0) :
    (writtenIn log).Pairwise
        (fun earlier later => earlier.endsStream id = true → later.isSpeech id = false) ∧
    (∀ before activity rest, log = before ++ activity :: rest → activity.resets id = true →
      ∀ frame ∈ writtenIn rest, frame.isOn id = false) ∧
    (session.connection.registry.HasClosed id → ∀ more after, Steps session.connection more after →
      ∀ frame ∈ writtenIn more, frame.isOn id = false) ∧
    (session.connection.closed = false → (∀ fields priority endStream,
        (session.call (.createStream fields priority endStream)).1 = .error (.refused id) →
        (session.call (.createStream fields priority endStream)).2.connection.registry.HasClosed
          id) ∧
      (session.connection.registry.isIdle id = false → ∀ last code debug, last < id →
        (session.connection.registry.isLocal id = true →
          (session.connection.handle (.goaway last code debug)).registry.HasClosed id) ∧
        (session.connection.registry.isLocal id = false →
          (session.call (.sendGoaway last ⟨code⟩ debug)).2.connection.registry.HasClosed id))) := by
  refine ⟨?_, ?_, ?_, fun opened => ⟨?_, ?_⟩⟩
  · obtain ⟨role, config, marks, shown⟩ := run.shown
    exact shown.hushed (silences_end id)
  · exact fun before activity rest split resets => run.silent_after_reset stands split resets
  · exact fun closed more after steps => steps.silent_of_closed stands run.sound closed
  · exact fun fields priority endStream refused => hasClosed_of_refused (run.sound opened) refused
  · intro used last code debug above
    refine ⟨fun ours => ?_, fun theirs => ?_⟩
    · exact Connection.hasClosed_receiveGoaway (run.sound opened) used ours above ⟨code⟩ debug
    · exact hasClosed_sendGoaway (run.sound opened) opened used theirs above ⟨code⟩ debug

/-- A client that has ended its first stream with the headers, and then has given it up. -/
def givenUp : Session :=
  newClient.after [.call (.createStream [] none true), .call (.reset 1 .cancel)]

theorem Run.silent_after_end_givenUp :
    ∃ log, Run givenUp log ∧ (∃ frame ∈ writtenIn log, frame.endsStream 1 = true) ∧
      (∃ frame ∈ writtenIn log, frame.resets 1 = true) ∧ givenUp.connection.registry.HasClosed 1 ∧
      ∀ more after, Steps givenUp.connection more after →
        ∀ frame ∈ writtenIn more, frame.isOn 1 = false := by
  have run : Run givenUp [.wrote (.settings false []), .wrote (.headers 1 none [] true),
      .wrote (.rstStream 1 8)] := (Run.create create_newClient).after _
  have closed : givenUp.connection.registry.HasClosed 1 := by
    refine ⟨rfl, fun stream held => ?_⟩
    obtain rfl := Option.some.inj held
    rfl
  exact ⟨_, run, ⟨_, .tail _ (.head _), rfl⟩, ⟨_, .tail _ (.tail _ (.head _)), rfl⟩, closed,
    (run.silent_after_end (by decide)).2.2.1 closed⟩

end Session

end Http2
