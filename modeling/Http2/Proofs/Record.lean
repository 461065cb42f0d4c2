import Http2.Proofs.Events

/-!
# What the application has seen

A `Record` is a run together with the events that have been taken out of the session and the streams
that calls have opened.  Behind a record are the lives of all streams, so that the events about each
of them are in order, and since closing ends every life, no stream is left without its last event.
-/

namespace Http2

/-! ## Closed connections -/

namespace Connection

variable {start conn after : Connection} {log : List Activity}

def Deserted (conn : Connection) : Prop :=
  ∀ id stream, conn.registry.view id ≠ .live stream

theorem Deserted.stays (deserted : conn.Deserted)
    (stays : ∀ id, (conn.registry.view id).Stays (after.registry.view id)) : after.Deserted := by
  intro id stream live
  rcases stays id with same | ⟨-, gone⟩
  · exact deserted id stream (same ▸ live)
  · cases gone.symm.trans live

private theorem teardown_deserted (sound : conn.registry.Sound) (reason : Reason) :
    (conn.teardown reason).Deserted := by
  intro id stream live
  rw [view_teardown sound] at live
  cases view : conn.registry.view id <;> rw [view] at live <;> cases live

theorem fail_deserted (sound : conn.registry.Sound) (opened : conn.closed = false)
    (error : Error) : (conn.fail error).Deserted := by
  unfold fail
  rw [opened]
  simp only [Bool.false_eq_true, if_false]
  exact @teardown_deserted (conn.sayFarewell ..) sound error.reason

theorem close_deserted (sound : conn.registry.Sound) (opened : conn.closed = false) :
    conn.close.Deserted := by
  unfold close
  rw [opened]
  simp only [Bool.false_eq_true, if_false]
  split
  · exact @teardown_deserted (conn.sayFarewell ..) sound .cancel
  · exact @teardown_deserted conn sound .cancel

private theorem called_stays (closed : conn.closed) (call : Call) (id : Nat) :
    (conn.registry.view id).Stays ((conn.called call).registry.view id) := by
  rcases called_eq_or_skips closed call with same | ⟨target, registry, skips, same⟩ <;> rw [same]
  · exact .inl rfl
  · exact Registry.skipTo_view skips id

theorem Step.deserted (step : Step conn log after) (sound : conn.closed = false → conn.Sound)
    (deserted : conn.closed → conn.Deserted) (closed : after.closed) : after.Deserted := by
  cases was : conn.closed with
  | true =>
    have empty := deserted was
    cases step with
    | call call => exact empty.stays (called_stays was call)
    | accept opened | absorb opened | collapse opened => cases opened.symm.trans was
    | fail error => rwa [Connection.fail, was]
    | close => rwa [Connection.close, was]
    | handOver | tell => exact empty
  | false =>
    have sound := sound was
    -- no other step closes the connection
    have stays : after.closed = conn.closed → after.Deserted := by
      intro same
      cases closed.symm.trans (same.trans was)
    cases step with
    | call call => exact stays (called_keeps sound call).2.1
    | accept opened ran =>
      obtain ⟨_, handled⟩ := accept_handled sound ran
      exact stays handled.closed
    | absorb opened ran harmless =>
      obtain ⟨_, handled⟩ := absorb_handled sound ran harmless
      exact stays handled.closed
    | collapse opened ran fatal =>
      obtain ⟨_, _, broken, -⟩ := collapse_ended sound was ran fatal
      have receipt := (receiveFrame_receipt sound _).of_error ran
      exact fail_deserted (receipt.registry_sound sound) (broken.closed.trans was) _
    | fail error => exact fail_deserted sound.registry was error
    | close => exact close_deserted sound.registry was
    | handOver | tell => exact stays rfl

theorem Steps.deserted (steps : Steps start log conn) (sound : start.Sound)
    (opened : start.closed = false) (closed : conn.closed) : conn.Deserted := by
  induction steps with
  | refl => cases opened.symm.trans closed
  | tail steps step ih => exact step.deserted (steps.sound sound) ih closed

end Connection

/-! ## What the application has seen -/

namespace Session

open Connection

def openedBy (session : Session) : Use → List Nat
  | .call call => (session.call call).1.toOption.join.toList
  | _ => []

/-- A session that was created in a role, with the events that have been taken out of it and the
streams that calls have opened. -/
def Record (role : Role) (session : Session) (handed : List Event) (opened : List Nat) : Prop :=
  ∃ config now first uses, create role config now = .ok first ∧ first.after uses = session ∧
    first.along handedBy uses = handed ∧ first.along openedBy uses = opened

variable {role : Role} {session : Session} {handed : List Event} {opened : List Nat} {id : Nat}

theorem Record.run (record : Record role session handed opened) : ∃ log, Run session log := by
  obtain ⟨config, now, first, uses, created, rfl, -⟩ := record
  exact ⟨_, (Run.create created).after uses⟩

def givenBy (session : Session) : Use → List Mark
  | .call call => session.connection.gives call
  | _ => []

theorem use_lived (sound : session.connection.closed = false → session.connection.Sound) {use : Use}
    (acts : use.takes = false) :
    ∃ marks, Lived session.connection (session.givenBy use) marks (session.use use).connection := by
  cases use with
  | call call =>
    simp only [Session.use, connection_call]
    exact called_lived sound call
  | receive octets => exact lived_frameWise.receive sound octets
  | close => exact close_lived sound
  | tick now => exact lived_frameWise.tick sound now
  | takeOutbound | flush | nextEvent | takeEvents => cases acts

def eventsOn (session : Session) (handed : List Event) (id : Nat) : List Event :=
  (handed ++ session.connection.events).filter (Event.isAbout id)

structure Recorded (start : Connection) (marks : List Mark) (conn : Connection)
    (handed : List Event) (opened : List Nat) : Prop where
  life : ∀ id, Life id (start.registry.view id) (marks.filter (Mark.isOn id))
    (conn.registry.view id)
  told : handed ++ conn.events = toldIn marks
  opened : ∀ id ∈ opened, (∃ stream, conn.registry.view id = .live stream) ∨
    ∃ event ∈ toldIn (marks.filter (Mark.isOn id)), event.isClosure

namespace Recorded

variable {start conn after : Connection} {given marks more : List Mark}

variable (recorded : Recorded start marks conn handed opened)

include recorded

theorem lived (lived : Lived conn given more after) :
    Recorded start (marks ++ more) after handed opened where
  life id := by
    rw [List.filter_append]
    exact (recorded.life id).trans (lived.life id)
  told := by rw [lived.events, ← List.append_assoc, recorded.told, toldIn_append]
  opened id member := by
    rw [List.filter_append, toldIn_append]
    rcases recorded.opened id member with live | closed
    · rcases (lived.life id).closure live with live | ⟨event, told, closure⟩
      · exact .inl live
      · exact .inr ⟨event, List.mem_append_right _ told, closure⟩
    · exact .inr (exists_mem_append_left _ closed)

theorem hand {taken rest : List Event} (split : conn.events = taken ++ rest)
    (outbound : List Outgoing) :
    Recorded start marks { conn with outbound, events := rest } (handed ++ taken) opened where
  life := recorded.life
  told := by rw [← recorded.told, split, List.append_assoc]
  opened := recorded.opened

theorem opens {others : List Nat}
    (live : ∀ id ∈ others, ∃ stream, conn.registry.view id = .live stream) :
    Recorded start marks conn handed (opened ++ others) where
  life := recorded.life
  told := recorded.told
  opened id member := (List.mem_append.mp member).elim (recorded.opened id) fun new =>
    .inl (live id new)

end Recorded

private theorem live_of_call (sound : session.connection.closed = false → session.connection.Sound)
    {call : Call} (gives : (session.call call).1 = .ok (some id)) :
    ∃ stream, (session.call call).2.connection.registry.view id = .live stream := by
  have leads : (perform call).Leads session.connection fun result after =>
      result = .ok (some id) → ∃ stream, after.registry.view id = .live stream :=
    (perform_served session.connection call).mono fun _ _ served => served.live sound
  exact call_of_leads leads gives

private theorem live_of_openedBy
    (sound : session.connection.closed = false → session.connection.Sound) {use : Use}
    (member : id ∈ session.openedBy use) :
    ∃ stream, (session.use use).connection.registry.view id = .live stream := by
  cases use with
  | call call =>
    have given : (session.call call).1.toOption.join = some id := Option.mem_toList.mp member
    refine live_of_call sound ?_
    cases answer : (session.call call).1 with
    | ok given' =>
      rw [answer] at given
      exact congrArg Except.ok given
    | error => rw [answer] at given; cases given
  | _ => cases member

theorem Recorded.used {start : Connection} {marks : List Mark}
    (recorded : Recorded start marks session.connection handed opened)
    (sound : session.connection.closed = false → session.connection.Sound) (use : Use) :
    ∃ marks, Recorded start marks (session.use use).connection (handed ++ session.handedBy use)
      (opened ++ session.openedBy use) := by
  have live := fun id => @live_of_openedBy session id sound use
  cases takes : use.takes with
  | true =>
    obtain ⟨rest, events, same | same⟩ := use_takes takes <;> rw [same] at live ⊢
    · exact ⟨marks, (recorded.hand events _).opens live⟩
    · exact ⟨marks, (recorded.hand events _).opens live⟩
  | false =>
    obtain ⟨more, lived⟩ := use_lived sound takes
    rw [handedBy_of_acts takes, List.append_nil]
    exact ⟨_, (recorded.lived lived).opens live⟩

theorem create_recorded {config : Config} {now : Nat}
    (created : create role config now = .ok session) :
    ∃ marks, Recorded (fresh role config) marks session.connection [] [] := by
  have begins : Recorded (fresh role config) [] (fresh role config) [] [] :=
    ⟨fun _ => .refl, rfl, by simp⟩
  refine create_induct (motive := fun conn => ∃ marks, Recorded _ marks conn [] []) created
    ⟨_, begins⟩ fun sound _ holds => ?_
  obtain ⟨marks, recorded⟩ := holds
  obtain ⟨more, lived⟩ := called_lived (fun _ => sound) _
  exact ⟨_, recorded.lived lived⟩

theorem Record.recorded (record : Record role session handed opened) :
    ∃ config marks, Recorded (fresh role config) marks session.connection handed opened := by
  obtain ⟨config, now, first, uses, created, rfl, rfl, rfl⟩ := record
  refine ⟨config, ?_⟩
  induction uses using List.reverseRecOn with
  | nil => exact create_recorded created
  | append_singleton uses use ih =>
    obtain ⟨marks, recorded⟩ := ih
    rw [after_concat, along_concat, along_concat]
    exact recorded.used ((Run.create created).after uses).sound use

theorem fresh_view (role : Role) (config : Config) (id : Nat) :
    (fresh role config).registry.view id = .unused (role.initiates id) ∨
      (fresh role config).registry.view id = .gone := by
  have view : (fresh role config).registry.view id =
      if (fresh role config).registry.isIdle id then .unused (role.initiates id) else .gone := rfl
  rw [view]
  split
  · exact .inl rfl
  · exact .inr rfl

theorem Record.tale (record : Record role session handed opened) (id : Nat) :
    Tale (role.initiates id) (session.eventsOn handed id) ∧ (session.connection.closed = true →
        (∃ event ∈ session.eventsOn handed id, event.isCreation) ∨ id ∈ opened →
        ∃ event ∈ session.eventsOn handed id, event.isClosure) := by
  obtain ⟨config, marks, recorded⟩ := record.recorded
  have events : toldIn (marks.filter (Mark.isOn id)) = session.eventsOn handed id := by
    rw [toldIn_filter, ← recorded.told, eventsOn]
  obtain ⟨tale, tied⟩ := (recorded.life id).tale (fresh_view role config id)
  rw [events] at tale tied
  refine ⟨tale, fun closed known => ?_⟩
  obtain ⟨role', config', steps⟩ := record.run.choose_spec.steps
  have deserted := steps.deserted (fresh_sound role' config') rfl closed
  rcases known with ⟨event, member, -⟩ | member
  · generalize view : session.connection.registry.view id = now at tied
    cases tied with
    | unused none => simp [none] at member
    | live => exact absurd view (deserted id _)
    | gone ended => exact ended.resolve_left (List.ne_nil_of_mem member)
  · rcases recorded.opened id member with ⟨stream, live⟩ | ended
    · exact absurd live (deserted id stream)
    · rwa [events] at ended

/-- The events about a stream come in order.  A stream of the peer is announced first and once.
Final headers come at most once, trailers only after them and at most once, and nothing of a message
after its end.  That something was left unsent is told at most once and right before the closing,
the closing comes last, and once the session is closed it has come for every stream that was
announced or given. -/
theorem Record.events_in_order (record : Record role session handed opened) (id : Nat) :
    (role.peer.initiates id = true → session.eventsOn handed id = [] ∨
      ∃ promise rest, session.eventsOn handed id = .streamCreated id promise :: rest ∧
        ∀ event ∈ rest, event.isCreation = false) ∧
    (session.eventsOn handed id).countP Event.isFinal ≤ 1 ∧
    (∀ before event rest, session.eventsOn handed id = before ++ event :: rest →
      (event.isTrailers = true → (∃ earlier ∈ before, earlier.isFinal = true) ∧
        ∀ later ∈ rest, later.isTrailers = false) ∧
      (event.endsMessage = true → ∀ later ∈ rest, later.isMessage = false) ∧
      (event.isCancellation = true → (∀ earlier ∈ before, earlier.isCancellation = false) ∧
        ∃ reason, rest = [.streamClosed id reason]) ∧
      (event.isClosure = true → rest = [])) ∧
    (session.connection.closed = true →
      (∃ event ∈ session.eventsOn handed id, event.isCreation = true) ∨ id ∈ opened →
      (session.eventsOn handed id).countP Event.isClosure = 1) := by
  obtain ⟨tale, closes⟩ := record.tale id
  have about : ∀ event ∈ session.eventsOn handed id, event.isAbout id = true :=
    fun event member => (List.mem_filter.mp member).2
  generalize session.eventsOn handed id = events at tale closes about
  refine ⟨fun theirs => ?_, ?_, ?_, fun closed known => ?_⟩
  · rw [Registry.not_initiates_of_peer theirs] at tale
    rcases tale.eq_nil_or_created with none | ⟨first, rest, rfl, creation, once⟩
    · exact .inl none
    · obtain ⟨promise, rfl⟩ := Event.eq_streamCreated creation (about first (by simp))
      exact .inr ⟨promise, rest, rfl, once⟩
  · exact Tale.countP_le_one (tale.follows.imp Event.Follows.final)
  · rintro before event rest rfl
    obtain ⟨follows, followed⟩ := tale.split
    refine ⟨fun trailers => ⟨tale.after_final trailers, fun later member => ?_⟩,
      fun ends later member => (followed later member).message ends,
      fun cancelled => ⟨fun earlier member => ?_, ?_⟩, tale.eq_nil_of_closure⟩
    · have ends : event.endsMessage = true := Event.endsMessage_of_isTrailers trailers
      refine Bool.eq_false_iff.mpr fun again => Bool.false_ne_true ?_
      exact ((followed later member).message ends).symm.trans
        (Event.isMessage_of_endsMessage (Event.endsMessage_of_isTrailers again))
    · refine Bool.eq_false_iff.mpr fun before => ?_
      have closure := (follows earlier member).cancellation before
      cases event <;> simp [Event.isClosure, Event.isCancellation] at closure cancelled
    · obtain ⟨last, rfl, closure⟩ := tale.closure_of_cancellation cancelled
      obtain ⟨reason, rfl⟩ := Event.eq_streamClosed closure (about last (by simp))
      exact ⟨reason, rfl⟩
  · have once : events.countP Event.isClosure ≤ 1 := by
      refine Tale.countP_le_one (tale.follows.imp fun {earlier later} follows closure => ?_)
      cases closure.symm.trans follows.closure
    have some : 0 < events.countP Event.isClosure := List.countP_pos_iff.mpr (closes closed known)
    omega

/-- A server whose peer grants no credit, and that closes with an answer unsent. -/
def cutOff : Session :=
  (newServer []).after [.receive (preface ++
      [0, 0, 6, 4, 0, 0, 0, 0, 0, 0, 4, 0, 0, 0, 0] ++ [0, 0, 0, 1, 4, 0, 0, 0, 1]),
    .call (.respond 1 [] false), .call (.sendData 1 [1, 2, 3] false), .takeEvents, .close]

theorem Record.events_in_order_cutOff :
    ∃ handed opened, Record .server cutOff handed opened ∧
      cutOff.eventsOn handed 1 = [.streamCreated 1 none, .headers 1 [] false,
        .sendCancelled 1 3 .sessionClosed, .streamClosed 1 (some .cancel)] ∧
      (cutOff.eventsOn handed 1).countP Event.isClosure = 1 := by
  have created : Session.create .server {} 0 = .ok (newServer []) := rfl
  have record : Record .server cutOff _ _ := ⟨_, _, _, _, created, rfl, rfl, rfl⟩
  refine ⟨_, _, record, by decide +kernel, ?_⟩
  exact (record.events_in_order 1).2.2.2 (by decide +kernel) (.inl (by decide +kernel))

end Session

end Http2
