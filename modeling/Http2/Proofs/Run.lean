import Http2.Proofs.Handled
import Http2.Proofs.Performed
import Http2.Session
import Mathlib.Data.List.Induction

/-!
# Runs of a session

A `Use` is one thing that can be done with a session.  `session.after uses` is the session after a
list of them, and `session.along observe uses` is what can be seen on the way.  A run is any list of
uses from the creation of a session on: `Run session log` says that a run has led to the session and
that `log` is what happened on the wire.  Inside, a run is a sequence of `Step`s of the connection,
and what every step preserves holds after every run.
-/

namespace Http2

open Connection

inductive Activity where
  | accepted (frame : Frame)
  | wrote (frame : Frame)
  deriving DecidableEq, Repr

inductive Use : Type 1 where
  | call (call : Call)
  | receive (octets : Octets)
  | close
  | tick (now : Nat)
  | takeOutbound
  | flush {ε : Type} (transport : Octets → Except ε Unit)
  | nextEvent
  | takeEvents

def Use.takes : Use → Bool
  | takeOutbound | flush _ | nextEvent | takeEvents => true
  | _ => false

def Connection.wroteSince (before after : Connection) : List Activity :=
  (after.queued.drop before.queued.length).map .wrote

namespace Session

def consumeLog (reader : Reader) (conn : Connection) : List Activity :=
  match _next : { reader with frameLimit := conn.frameLimit }.next with
  | (.error error, _) => conn.wroteSince (conn.fail error)
  | (.ok none, _) => []
  | (.ok (some frame), after) =>
    match (Connection.receiveFrame frame).run conn with
    | .ok _ later => .accepted frame :: conn.wroteSince later ++ consumeLog after later
    | .error error later =>
      if error.isFatal then conn.wroteSince (later.fail error)
      else conn.wroteSince (later.absorb error) ++ consumeLog after (later.absorb error)
termination_by reader.buffer.length
decreasing_by
  all_goals
    have shorter := Reader.next_length _next
    exact shorter

def receiveLog (session : Session) (octets : Octets) : List Activity :=
  if session.connection.closed then []
  else consumeLog (session.reader.feed octets) session.connection

/-! ## Uses -/

def use (session : Session) : Use → Session
  | .call call => (session.call call).2
  | .receive octets => (session.receive octets).2
  | .close => session.close
  | .tick now => (session.tick now).2
  | .takeOutbound => session.takeOutbound.2
  | .flush transport => (session.flush transport).2
  | .nextEvent => (session.nextEvent?.map Prod.snd).getD session
  | .takeEvents => session.takeEvents.2

def after (session : Session) (uses : List Use) : Session := uses.foldl use session

def along {α : Type} (observe : Session → Use → List α) (session : Session) : List Use → List α
  | [] => []
  | use :: rest => observe session use ++ along observe (session.use use) rest

def loggedBy (session : Session) : Use → List Activity
  | .receive octets => session.receiveLog octets
  | use => session.connection.wroteSince (session.use use).connection

def handedBy (session : Session) : Use → List Event
  | .nextEvent => (session.nextEvent?.map Prod.fst).toList
  | .takeEvents => session.takeEvents.1
  | _ => []

def Run (session : Session) (log : List Activity) : Prop :=
  ∃ role config now first uses, create role config now = .ok first ∧ first.after uses = session ∧
    first.connection.queued.map .wrote ++ first.along loggedBy uses = log

section

variable (session : Session) {α : Type} (observe : Session → Use → List α)

@[simp] theorem after_nil : session.after [] = session := rfl

@[simp] theorem along_nil : session.along observe [] = [] := rfl

theorem after_append (first second : List Use) :
    session.after (first ++ second) = (session.after first).after second := List.foldl_append

theorem after_concat (uses : List Use) (use : Use) :
    session.after (uses ++ [use]) = (session.after uses).use use := after_append session uses [use]

theorem along_append (first second : List Use) :
    session.along observe (first ++ second) =
      session.along observe first ++ (session.after first).along observe second := by
  induction first generalizing session with
  | nil => rfl
  | cons use first ih =>
    rw [List.cons_append, along, along, ih, List.append_assoc]
    rfl

theorem along_concat (uses : List Use) (use : Use) :
    session.along observe (uses ++ [use]) =
      session.along observe uses ++ observe (session.after uses) use := by
  rw [along_append, along, along, List.append_nil]

end

namespace Run

variable {session : Session} {log : List Activity} {role : Role} {config : Config} {now : Nat}

theorem create (created : Session.create role config now = .ok session) :
    Run session (session.connection.queued.map .wrote) :=
  ⟨role, config, now, session, [], created, rfl, List.append_nil _⟩

theorem after (run : Run session log) (uses : List Use) :
    Run (session.after uses) (log ++ session.along loggedBy uses) := by
  obtain ⟨role, config, now, first, earlier, created, rfl, rfl⟩ := run
  refine ⟨role, config, now, first, earlier ++ uses, created, after_append .., ?_⟩
  rw [along_append, List.append_assoc]

end Run

end Session

namespace Connection

inductive Step (conn : Connection) : List Activity → Connection → Prop
  | call (call : Call) :
      Step conn (conn.wroteSince (conn.called call)) (conn.called call)
  | accept {frame : Frame} {after : Connection} (opened : conn.closed = false)
      (ran : (receiveFrame frame).run conn = .ok () after) :
      Step conn (.accepted frame :: conn.wroteSince after) after
  | absorb {frame : Frame} {error : Error} {after : Connection} (opened : conn.closed = false)
      (ran : (receiveFrame frame).run conn = .error error after)
      (harmless : error.isFatal = false) :
      Step conn (conn.wroteSince (after.absorb error)) (after.absorb error)
  | collapse {frame : Frame} {error : Error} {after : Connection} (opened : conn.closed = false)
      (ran : (receiveFrame frame).run conn = .error error after)
      (fatal : error.isFatal) :
      Step conn (conn.wroteSince (after.fail error)) (after.fail error)
  | fail (error : Error) :
      Step conn (conn.wroteSince (conn.fail error)) (conn.fail error)
  | close : Step conn (conn.wroteSince conn.close) conn.close
  | handOver : Step conn [] { conn with outbound := [] }
  | tell (events : List Event) : Step conn [] { conn with events }

inductive Steps (start : Connection) : List Activity → Connection → Prop
  | refl : Steps start [] start
  | tail {log more : List Activity} {conn after : Connection}
      (steps : Steps start log conn) (step : Step conn more after) :
      Steps start (log ++ more) after

variable {start conn after : Connection} {log : List Activity} {frame : Frame} {error : Error}

theorem wroteSince_eq {written : List Frame} (queued : after.queued = conn.queued ++ written) :
    conn.wroteSince after = written.map .wrote := by
  rw [wroteSince, queued, List.drop_left]

theorem Steps.trans {more : List Activity} (first : Steps start log conn)
    (second : Steps conn more after) : Steps start (log ++ more) after := by
  induction second with
  | refl =>
    rw [List.append_nil]
    exact first
  | tail _ step ih =>
    rw [← List.append_assoc]
    exact ih.tail step

theorem Steps.silent (steps : Steps start log conn) (step : Step conn [] after) :
    Steps start log after := by
  have next := steps.tail step
  rwa [List.append_nil] at next

/-! ## Sound as long as it is open -/

theorem accept_handled (sound : conn.Sound) (ran : (receiveFrame frame).run conn = .ok () after) :
    ∃ written, Handled Mild conn frame written after :=
  ((receiveFrame_receipt sound frame).of_ok ran).accepted sound

theorem absorb_handled (sound : conn.Sound)
    (ran : (receiveFrame frame).run conn = .error error after) (harmless : error.isFatal = false) :
    ∃ written, Handled (conn.Answers frame) conn frame written (after.absorb error) :=
  ((receiveFrame_receipt sound frame).of_error ran).absorbed sound harmless

theorem Step.of_closed (step : Step conn log after) (closed : conn.closed) :
    after.closed = true ∧ log = [] := by
  have same : ∀ {after : Connection}, after.queued = conn.queued → conn.wroteSince after = [] :=
    fun queued => wroteSince_eq (queued.trans (List.append_nil _).symm)
  cases step with
  | call call =>
    obtain ⟨closed, queued⟩ := called_closed closed call
    exact ⟨closed, same queued⟩
  | accept opened ran => simp [closed] at opened
  | absorb opened ran harmless => simp [closed] at opened
  | collapse opened ran fatal => simp [closed] at opened
  | fail error =>
    rw [Connection.fail, closed]
    exact ⟨closed, same rfl⟩
  | close =>
    rw [Connection.close, closed]
    exact ⟨closed, same rfl⟩
  | handOver => exact ⟨closed, rfl⟩
  | tell events => exact ⟨closed, rfl⟩

theorem collapse_ended (sound : conn.Sound) (opened : conn.closed = false)
    (ran : (receiveFrame frame).run conn = .error error after) (fatal : error.isFatal) :
    ∃ written farewells, Broken conn frame error written after ∧
      Ended error.reason after farewells (after.fail error) := by
  obtain ⟨written, broken⟩ := ((receiveFrame_receipt sound frame).of_error ran).broken sound fatal
  obtain ⟨farewells, ended⟩ := fail_ended (broken.closed.trans opened) error
  exact ⟨written, farewells, broken, ended⟩

theorem Step.opened (step : Step conn log after) (opened : after.closed = false) :
    conn.closed = false := by
  cases closed : conn.closed with
  | false => rfl
  | true =>
    rw [(step.of_closed closed).1] at opened
    cases opened

theorem Step.sound (step : Step conn log after) (sound : conn.Sound)
    (opened : after.closed = false) : after.Sound := by
  have was := step.opened opened
  cases step with
  | call call => exact (called_keeps sound call).1
  | accept opened ran =>
    obtain ⟨_, handled⟩ := accept_handled sound ran
    exact handled.sound
  | absorb opened ran harmless =>
    obtain ⟨_, handled⟩ := absorb_handled sound ran harmless
    exact handled.sound
  | collapse was ran fatal =>
    obtain ⟨_, _, _, ended⟩ := collapse_ended sound was ran fatal
    rw [ended.closed] at opened
    cases opened
  | fail error =>
    obtain ⟨_, ended⟩ := fail_ended was error
    rw [ended.closed] at opened
    cases opened
  | close =>
    obtain ⟨_, ended⟩ := close_ended was
    rw [ended.closed] at opened
    cases opened
  | handOver | tell events => exact sound.congr rfl rfl rfl rfl rfl rfl

theorem Steps.sound (steps : Steps start log conn) (sound : start.Sound)
    (opened : conn.closed = false) : conn.Sound := by
  induction steps with
  | refl => exact sound
  | tail _ last ih => exact last.sound (ih (last.opened opened)) opened

/-- What every step of an open connection preserves, and what says nothing new of a closed one,
holds after all steps. -/
theorem Steps.preserves (holds : List Activity → Connection → Prop) (sound : start.Sound)
    (begins : holds [] start)
    (step : ∀ {log more conn after}, conn.Sound → conn.closed = false →
      holds log conn → Step conn more after → holds (log ++ more) after)
    (rests : ∀ {log conn after}, holds log conn → after.closed → holds log after)
    (steps : Steps start log conn) : holds log conn := by
  induction steps with
  | refl => exact begins
  | @tail log more before after steps last ih =>
    cases closed : before.closed with
    | false => exact step (steps.sound sound closed) closed ih last
    | true =>
      obtain ⟨closed, rfl⟩ := last.of_closed closed
      rw [List.append_nil]
      exact rests ih closed

end Connection

namespace Session

open Connection (Step Steps)

variable {conn : Connection} {session : Session} {role : Role} {config : Config} {now : Nat}
  {log : List Activity}

private theorem consume_steps (sound : conn.Sound) (opened : conn.closed = false)
    (reader : Reader) :
    Steps conn (consumeLog reader conn) (consume reader conn).2.connection := by
  fun_induction consume reader conn with
  | case1 reader conn error after next =>
    unfold consumeLog
    split <;> rename_i next' <;> cases next.symm.trans next'
    exact Steps.refl.tail (.fail error)
  | case2 reader conn after next =>
    unfold consumeLog
    split <;> rename_i next' <;> cases next.symm.trans next'
    exact .refl
  | case3 reader conn frame after next _ later ran ih =>
    obtain ⟨written, handled⟩ := accept_handled sound ran
    unfold consumeLog
    split <;> rename_i next' <;> cases next.symm.trans next'
    rw [ran]
    exact (Steps.refl.tail (.accept opened ran)).trans
      (ih handled.sound (handled.closed.trans opened))
  | case4 reader conn frame after next error later ran fatal =>
    unfold consumeLog
    split <;> rename_i next' <;> cases next.symm.trans next'
    rw [ran]
    simp only [fatal, if_true]
    exact Steps.refl.tail (.collapse opened ran fatal)
  | case5 reader conn frame after next error later ran harmless ih =>
    have harmless : error.isFatal = false := by simpa using harmless
    obtain ⟨written, handled⟩ := absorb_handled sound ran harmless
    unfold consumeLog
    split <;> rename_i next' <;> cases next.symm.trans next'
    rw [ran]
    simp only [harmless, Bool.false_eq_true, if_false]
    exact (Steps.refl.tail (.absorb opened ran harmless)).trans
      (ih handled.sound (handled.closed.trans opened))

/-! ## The beginning -/

theorem fresh_sound (role : Role) (config : Config) : (fresh role config).Sound := by
  have default : ({} : Settings).Valid := Settings.valid_default
  have live : ∀ id, (Windows.default.stream? id).isSome =
      ((Registry.new role config.retention).cargo? id).isSome := fun _ => rfl
  constructor
  · exact .new role config.retention
  · exact ⟨default, default, nofun, rfl⟩
  · exact .default
  · exact .default
  · exact nofun
  · rfl
  · rfl
  · rfl
  · exact (by decide : defaultWindow ≤ maxWindow)
  · exact live
  · exact live

theorem connection_call (session : Session) (call : Call) :
    (session.call call).2.connection = session.connection.called call := by
  unfold Session.call called
  cases (perform call).run session.connection <;> rfl

private theorem called_of_run {call : Call} {action : Action Unit} {after : Connection}
    (silent : perform call = silently action)
    (ran : action.run conn = .ok () after) : conn.called call = after := by
  unfold called
  rw [silent, silently, EStateM.run_bind, ran]
  rfl

theorem create_calls (created : create role config now = .ok session) :
    ∃ middle, (perform (.sendSettings config.settings now)).run (fresh role config) =
        .ok none middle ∧
      (session.connection = middle ∨
        session.connection = middle.called (.resizeWindow config.connectionWindow)) := by
  unfold create at created
  split at created
  · cases created
  · split at created
    · cases created
    · rename_i conn ran
      cases created
      rw [setUp, EStateM.run_bind] at ran
      split at ran
      · rename_i middle announced
        refine ⟨middle, ?_, ?_⟩
        · change (silently (announce config.settings now)).run _ = _
          rw [silently, EStateM.run_bind, announced]
          rfl
        · unfold Action.onlyIf at ran
          split at ran
          · exact .inr (called_of_run rfl ran).symm
          · cases ran
            exact .inl rfl
      · cases ran

theorem create_eq (created : create role config now = .ok session) :
    session.connection = (fresh role config).called (.sendSettings config.settings now) ∨
    session.connection = ((fresh role config).called (.sendSettings config.settings now)).called
      (.resizeWindow config.connectionWindow) := by
  obtain ⟨middle, ran, calls⟩ := create_calls created
  have first : (fresh role config).called (.sendSettings config.settings now) = middle := by
    rw [called, ran]
  rwa [first]

theorem create_induct {motive : Connection → Prop} (created : create role config now = .ok session)
    (begins : motive (fresh role config))
    (keeps : ∀ {conn call}, conn.Sound → call = .sendSettings config.settings now ∨
      call = .resizeWindow config.connectionWindow → motive conn → motive (conn.called call)) :
    motive session.connection := by
  have sound := fresh_sound role config
  have announced := keeps sound (.inl rfl) begins
  rcases create_eq created with same | same <;> rw [same]
  · exact announced
  · exact keeps (called_keeps sound _).1 (.inr rfl) announced

private theorem called_steps {start : Connection} (sound : conn.Sound) (call : Call)
    (steps : Steps start (conn.queued.map .wrote) conn) :
    Steps start ((conn.called call).queued.map .wrote) (conn.called call) := by
  obtain ⟨-, -, written, queued⟩ := called_keeps sound call
  have next := steps.tail (.call call)
  rwa [wroteSince_eq queued, ← List.map_append, ← queued] at next

theorem create_steps (created : create role config now = .ok session) :
    Steps (fresh role config) (session.connection.queued.map .wrote) session.connection := by
  have begins : Steps (fresh role config) ((fresh role config).queued.map .wrote)
      (fresh role config) := by
    cases role <;> exact .refl
  exact create_induct (motive := fun conn => Steps _ (conn.queued.map .wrote) conn) created begins
    fun sound _ steps => called_steps sound _ steps

theorem opened_of_due {deadline : Nat} (due : session.deadline? = some deadline) :
    session.connection.closed = false := by
  cases closed : session.connection.closed with
  | true => simp [deadline?, closed] at due
  | false => rfl

theorem connection_tick (session : Session) (now : Nat) :
    (session.tick now).2.connection = session.connection ∨ session.connection.closed = false ∧
      (session.tick now).2.connection = session.connection.fail (.connection .settingsTimeout) := by
  unfold tick
  split
  · rename_i due
    split
    · exact .inr ⟨opened_of_due due, rfl⟩
    · exact .inl rfl
  · exact .inl rfl

theorem handedBy_of_acts {use : Use} (acts : use.takes = false) : session.handedBy use = [] := by
  cases use <;> first | rfl | cases acts

/-- Taking out what waits to be told and to be sent changes nothing else. -/
theorem use_takes {use : Use} (takes : use.takes) :
    ∃ rest, session.connection.events = session.handedBy use ++ rest ∧
      ((session.use use).connection = { session.connection with events := rest } ∨
        (session.use use).connection =
          { session.connection with outbound := [], events := rest }) := by
  cases use with
  | takeOutbound => exact ⟨session.connection.events, rfl, .inr rfl⟩
  | flush transport =>
    refine ⟨session.connection.events, rfl, ?_⟩
    simp only [use, Session.flush]
    split
    · exact .inl rfl
    · split
      · exact .inl rfl
      · exact .inr rfl
  | nextEvent =>
    simp only [use, handedBy, nextEvent?]
    split
    · rename_i none
      exact ⟨session.connection.events, rfl, .inl rfl⟩
    · rename_i event rest events
      exact ⟨rest, events, .inl rfl⟩
  | takeEvents => exact ⟨[], (List.append_nil _).symm, .inl rfl⟩
  | call | receive | close | tick => cases takes

theorem closed_of_takes {use : Use} (takes : use.takes) :
    (session.use use).connection.closed = session.connection.closed := by
  obtain ⟨rest, -, same | same⟩ := use_takes takes <;> rw [same]

theorem loggedBy_of_takes {use : Use} (takes : use.takes) : session.loggedBy use = [] := by
  have silent : session.connection.wroteSince (session.use use).connection = [] := by
    obtain ⟨rest, -, same | same⟩ := use_takes takes <;> rw [same]
    · exact wroteSince_eq (List.append_nil _).symm
    · exact congrArg (List.map Activity.wrote) List.drop_nil
  cases use <;> first | exact silent | cases takes

private theorem use_steps (sound : session.connection.closed = false → session.connection.Sound)
    (use : Use) :
    Steps session.connection (session.loggedBy use) (session.use use).connection := by
  cases takes : use.takes with
  | true =>
    rw [loggedBy_of_takes takes]
    obtain ⟨rest, -, same | same⟩ := use_takes takes <;> rw [same]
    · exact Steps.refl.silent (.tell _)
    · exact (Steps.refl.silent .handOver).silent (.tell _)
  | false =>
    cases use with
    | call call =>
      simp only [loggedBy, Session.use, connection_call]
      exact Steps.refl.tail (.call call)
    | receive octets =>
      simp only [loggedBy, Session.use, Session.receive, receiveLog]
      cases opened : session.connection.closed with
      | true => exact .refl
      | false => exact consume_steps (sound opened) opened _
    | close => exact Steps.refl.tail .close
    | tick now =>
      simp only [loggedBy, Session.use]
      rcases connection_tick session now with same | ⟨-, same⟩ <;> rw [same]
      · rw [wroteSince_eq (List.append_nil _).symm]
        exact .refl
      · exact Steps.refl.tail (.fail _)
    | takeOutbound | flush | nextEvent | takeEvents => cases takes

theorem Run.steps (run : Run session log) :
    ∃ role config, Steps (fresh role config) log session.connection := by
  obtain ⟨role, config, now, first, uses, created, rfl, rfl⟩ := run
  refine ⟨role, config, ?_⟩
  induction uses using List.reverseRecOn with
  | nil =>
    rw [along_nil, List.append_nil]
    exact create_steps created
  | append_singleton uses use ih =>
    rw [after_concat, along_concat, ← List.append_assoc]
    exact ih.trans (use_steps (ih.sound (fresh_sound role config)) use)

theorem Run.sound (run : Run session log) (opened : session.connection.closed = false) :
    session.connection.Sound := by
  obtain ⟨role, config, steps⟩ := run.steps
  exact steps.sound (fresh_sound role config) opened

/-! ## Sessions to start from -/

def newClient : Session :=
  ⟨{ prefaceDue := false, blockLimit := 262144 }, (fresh .client {}).called (.sendSettings [] 0)⟩

theorem create_newClient : create .client {} 0 = .ok newClient := rfl

def newServer (changes : List (Setting × Nat)) : Session :=
  ⟨{ prefaceDue := true, blockLimit := 262144 },
    (fresh .server { settings := changes }).called (.sendSettings changes 0)⟩

end Session

end Http2
