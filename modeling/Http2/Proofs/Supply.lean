import Http2.Proofs.Events

/-!
# Credit for the peer

DATA uses up the receive window of its stream, and while the stream lasts the window is filled up
again as soon as half of it is used.  What the peer has sent and has not been given back is
therefore less than half of the initial window, as that was when DATA last arrived.  Our settings
move the initial window and all windows with it, and nothing is given back then.  So a window can
run dry, but only when the initial window falls, after the last DATA, to what was still to be given
back or less.
-/

namespace Http2

/-- The octets on a stream that the peer was charged for and was not given back. -/
def unreturned (id : Nat) (log : List Activity) : Int :=
  chargedOn id (acceptedIn log) - granted id (writtenIn log)

private theorem unreturned_append (id : Nat) (log more : List Activity) :
    unreturned id (log ++ more) = unreturned id log + unreturned id more := by
  simp only [unreturned, acceptedIn_append, writtenIn_append, chargedOn_append, granted_append]
  omega

private theorem unreturned_accepted (id : Nat) (frame : Frame) (log : List Activity) :
    unreturned id (.accepted frame :: log) = frame.charge id + unreturned id log := by
  have accepted : acceptedIn (.accepted frame :: log) = frame :: acceptedIn log := rfl
  have written : writtenIn (.accepted frame :: log) = writtenIn log := rfl
  rw [unreturned, unreturned, accepted, written, chargedOn_cons]
  omega

private theorem unreturned_wrote (id : Nat) (frames : List Frame) :
    unreturned id (frames.map .wrote) = -granted id frames := by
  rw [unreturned, acceptedIn_wrote, writtenIn_wrote, chargedOn_nil]
  omega

def Activity.changesSettings : Activity → Bool
  | accepted (.settings ack _) => ack
  | wrote (.settings ack _) => !ack
  | _ => false

/-! ## Streams on which the peer may go on -/

def View.hears : View → Bool
  | unused _ => true
  | gone => false
  | live stream => stream.phase.hears

theorem View.hears_of (stream : Stream) : (View.of stream).hears = stream.phase.hears := by
  unfold View.of Stream.isLive
  cases phase : stream.phase <;> simp [hears, phase, Phase.isClosed, Phase.hears]

theorem Telling.hears_of_hears {id : Nat} {view next : View} {told : List Event}
    (telling : Telling id view told next) (hears : next.hears) : view.hears := by
  cases telling with
  | rest => exact hears
  | pass | refuse | finish => cases hears
  | begin | create => rfl
  | proceed part => exact part.hears_of_hears hears

theorem Life.hears_of_hears {id : Nat} {start view : View} {marks : List Mark}
    (life : Life id start marks view) (hears : view.hears) : start.hears := by
  induction life with
  | refl => exact hears
  | tail _ act own ih => exact ih ((act.telling own).hears_of_hears hears)

/-! ## Filling up -/

namespace Connection

variable {start conn middle after : Connection} {id : Nat} {log more : List Activity}
  {error : Error} {frame : Frame} {balance : Int}

def Filled (conn : Connection) (id : Nat) : Prop :=
  ∀ window, conn.receiveWindows.stream? id = some window →
    conn.receiveInitial ≤ window ∨ conn.receiveInitial < window * 2

private theorem refill_filled (stands : id ≠ 0) (fits : conn.receiveInitial ≤ maxWindow) :
    (conn.refill id conn.receiveInitial).Filled id := by
  intro window found
  unfold refill at found ⊢
  split at found
  · rename_i none
    simp only [Windows.refill, Windows.window?, if_neg stands, found, Nat.min_eq_left fits] at none
    split at none
    · rename_i more
      exact .inr more
    · split at none
      · rename_i full
        exact .inl full
      · cases none
  · rename_i increment windows refilled
    obtain ⟨_, -, -, -, rfl⟩ := Windows.refill_eq refilled
    have now : ((conn.receiveWindows.setWindow id
        (min conn.receiveInitial maxWindow : Nat)).stream? id) = some window := found
    rw [Windows.stream?_setWindow stands, if_pos rfl, Nat.min_eq_left fits] at now
    cases now
    exact .inl (Int.le_refl _)

def Refills (id : Nat) (result : Except Error Unit) (after : Connection) : Prop :=
  (result = .ok () → (after.registry.view id).hears = true → after.Filled id) ∧
    ∀ error, result = .error error → error.isFatal = false →
    (after.absorb error).receiveBalance id = none

private theorem refills_fatal (fatal : error.isFatal) : Refills id (.error error) conn := by
  refine ⟨by simp, fun other same harmless => ?_⟩
  cases same
  cases fatal.symm.trans harmless

private theorem refills_reset (sound : conn.Sound) (known : (conn.registry.get? id).isSome)
    (reason : Reason) : Refills id (.error (.stream id reason)) conn := by
  refine ⟨by simp, fun other same _ => ?_⟩
  cases same
  exact (sound.balances_resetFaulty reason known).2

theorem DataDealt.refills {octets : Octets} {count : Nat} {endStream : Bool}
    {result : Except Error Unit}
    (dealt : DataDealt conn id octets count endStream result after) (sound : conn.Sound) :
    Refills id result after := by
  have known : ∀ {stream : Stream}, conn.registry.get? id = some stream →
      (conn.registry.get? id).isSome := fun held => by simp [held]
  cases dealt with
  | unheld => exact refills_fatal (missingStream_isFatal ..)
  | unwelcome held =>
    unfold dataFault
    split
    · exact refills_reset sound (known held) .streamClosed
    · exact refills_fatal rfl
  | overdrawn held => exact refills_reset sound (known held) .flowControlError
  | delivered held =>
    have fits : conn.receiveInitial ≤ maxWindow := by
      rw [sound.limit]
      exact receiveLimit_le sound.exchange
    refine ⟨fun _ _ => ?_, by simp⟩
    unfold emitIf
    split <;> exact refill_filled (sound.registry.ne_zero held) fits
  | @finished _ next windows held _ _ moves =>
    refine ⟨fun _ hears => ?_, by simp⟩
    have view : (({ conn with receiveWindows := windows }.emit (.data id octets true)).settled
        id next).scene.view id = .of next.bare := by
      rw [scene_settled (by exact sound.registry) (by exact held), Scene.view_setView_self]
    have deaf : (View.of next.bare).hears = false := by
      rw [View.hears_of]
      exact Phase.deaf_of_receiveEnd (Stream.advance?_eq moves).1
    cases deaf.symm.trans ((congrArg View.hears view).symm.trans hears)

private theorem receiveData_refills (sound : conn.Sound) (octets : Octets) (endStream : Bool)
    (padding : Option UInt8) :
    (receiveFrame (.data id octets endStream padding)).Leads conn (Refills id) := by
  refine (receiveFrame_dealt conn _).mono fun result after dealt => ?_
  cases dealt with
  | overspent => exact refills_fatal rfl
  | data paid dealt =>
    obtain ⟨fits, rfl⟩ := Windows.chargeConnection_eq paid
    have drawn : (conn.drawn _).Sound := sound.drawn fits
    exact dealt.refills (drawn.refill (.inl rfl))

/-! ## What a step does to the windows -/

theorem acceptedIn_wroteSince : acceptedIn (conn.wroteSince after) = [] :=
  acceptedIn_wrote _

private theorem charge_of_ne_data
    (other : ∀ octets endStream padding, frame ≠ .data id octets endStream padding) :
    frame.charge id = 0 := by
  unfold Frame.charge
  split
  · rename_i here
    cases frame <;> first | rfl | skip
    rename_i stream octets endStream padding
    exact absurd (congrArg (Frame.data · octets endStream padding) here)
      (other octets endStream padding)
  · rfl

section

variable (sound : conn.Sound) (ran : (receiveFrame frame).run conn = .error error after)
  (harmless : error.isFatal = false)

include sound ran harmless

private theorem charge_of_absorbed (held : (after.absorb error).receiveBalance id = some balance) :
    frame.charge id = 0 := by
  refine charge_of_ne_data ?_
  rintro octets endStream padding rfl
  have leads := @receiveData_refills conn id sound octets endStream padding
  have lost := (leads.of_error ran).2 error rfl harmless
  cases held.symm.trans lost

private theorem not_isAck_of_absorbed : frame.isAck = false := by
  cases (receiveFrame_receipt sound frame).of_error ran with
  | calm control => exact (Frame.Inert.of_control control).ack
  | refused data | overdrawn data | taken data =>
    obtain ⟨octets, endStream, padding, shape⟩ := exists_data data
    rw [shape]
    rfl
  | malformed | unwanted | streamOverflow => rfl
  | overspent | ackNotDue | outgrown | zeroCredit | creditOverflow => cases harmless

end

inductive GoesOn (conn : Connection) : List Activity → Connection → Prop
  | worked {reasons : Reason → Prop} {written : List Frame} {after : Connection}
      (balanced : Balanced reasons conn written after) :
      GoesOn conn (written.map .wrote) after
  | announced {changes : List (Setting × Nat)} {now : Nat} {after : Connection}
      (announced : Announced conn changes now after) :
      GoesOn conn [.wrote (.settings false (wireForm changes))] after
  | accepted {frame : Frame} {written : List Frame} {after : Connection}
      (handled : Handled Mild conn frame written after) :
      GoesOn conn (.accepted frame :: (frame.answer ++ written).map .wrote) after
  | absorbed {reasons : Reason → Prop} {frame : Frame} {written : List Frame} {after : Connection}
      (handled : Handled reasons conn frame written after)
      (lost : ∀ id balance, after.receiveBalance id = some balance → frame.charge id = 0)
      (other : frame.isAck = false) :
      GoesOn conn ((frame.answer ++ written).map .wrote) after
  | rested {after : Connection} (balance : after.receiveBalance = conn.receiveBalance)
      (initial : after.receiveInitial = conn.receiveInitial) : GoesOn conn [] after

theorem Step.goesOn (step : Step conn more after) (sound : conn.Sound)
    (opened : after.closed = false) : GoesOn conn more after := by
  have was := step.opened opened
  cases step with
  | call call =>
    rcases called_cases sound call with ⟨written, balanced, -⟩ | ⟨changes, now, announced⟩
    · rw [wroteSince_eq balanced.queued]
      exact .worked balanced
    · rw [wroteSince_eq announced.queued]
      exact .announced announced
  | accept _ ran =>
    obtain ⟨written, handled⟩ := accept_handled sound ran
    rw [wroteSince_eq handled.queued]
    exact .accepted handled
  | absorb _ ran harmless =>
    obtain ⟨written, handled⟩ := absorb_handled sound ran harmless
    rw [wroteSince_eq handled.queued]
    exact .absorbed handled (fun _ _ => charge_of_absorbed sound ran harmless)
      (not_isAck_of_absorbed sound ran harmless)
  | collapse _ ran fatal =>
    obtain ⟨_, _, _, ended⟩ := collapse_ended sound was ran fatal
    cases ended.closed.symm.trans opened
  | fail error =>
    obtain ⟨_, ended⟩ := fail_ended was error
    cases ended.closed.symm.trans opened
  | close =>
    obtain ⟨_, ended⟩ := close_ended was
    cases ended.closed.symm.trans opened
  | handOver | tell => exact .rested rfl rfl

theorem GoesOn.receiveBalance (goesOn : GoesOn conn more after) (stands : id ≠ 0)
    (held : after.receiveBalance id = some balance) :
    conn.receiveBalance id = some (balance + unreturned id more) := by
  cases goesOn with
  | worked balanced =>
    rw [balanced.receiveStream id balance stands held, unreturned_wrote]
    rfl
  | announced announced =>
    rw [← announced.receiveBalance id, held]
    exact congrArg some (Int.add_zero balance).symm
  | accepted handled =>
    rw [handled.receiveStream id balance stands held, unreturned_accepted, unreturned_wrote,
      granted_append, Frame.granted_answer, Option.some.injEq]
    omega
  | absorbed handled lost =>
    rw [handled.receiveStream id balance stands held, lost id balance held, unreturned_wrote,
      granted_append, Frame.granted_answer, Option.some.injEq]
    omega
  | rested same =>
    rw [← same, held]
    exact congrArg some (Int.add_zero balance).symm

theorem Step.filled (step : Step conn more after) (sound : conn.Sound)
    (hears : (after.registry.view id).hears = true) :
    chargedOn id (acceptedIn more) = 0 ∨ after.Filled id := by
  have none : chargedOn id (acceptedIn (conn.wroteSince after)) = 0 := by
    rw [acceptedIn_wroteSince, chargedOn_nil]
  cases step with
  | @accept frame _ _ ran =>
    by_cases data : ∃ octets endStream padding, frame = .data id octets endStream padding
    · obtain ⟨octets, endStream, padding, rfl⟩ := data
      have leads := @receiveData_refills conn id sound octets endStream padding
      exact .inr ((leads.of_ok ran).1 rfl hears)
    · refine .inl ?_
      have free : frame.charge id = 0 :=
        charge_of_ne_data fun octets endStream padding same => data ⟨_, _, _, same⟩
      have accepted : acceptedIn (.accepted frame :: conn.wroteSince after) =
          frame :: acceptedIn (conn.wroteSince after) := rfl
      rw [accepted, chargedOn_cons, free, none]
  | handOver | tell => exact .inl rfl
  | _ => exact .inl none

theorem GoesOn.changesSettings (goesOn : GoesOn conn more after)
    (sound : conn.Sound) (sound' : after.Sound)
    (moved : after.receiveInitial ≠ conn.receiveInitial) :
    ∃ activity ∈ more, activity.changesSettings := by
  have settled : after.exchange.own = conn.exchange.own →
      after.exchange.outstanding = conn.exchange.outstanding → False := by
    intro own outstanding
    refine moved ?_
    rw [sound.limit, sound'.limit, receiveLimit, receiveLimit, Exchange.latest,
      Exchange.latest, own, outstanding]
  have heard : ∀ {frame : Frame}, frame.isAck = false →
      after.exchange = conn.exchange.heard frame → False := by
    intro frame other exchange
    have due : frame.isAck = true → conn.exchange.outstanding ≠ [] := by simp [other]
    rcases Exchange.heard_cases due with ⟨-, same⟩ | ⟨_, _, ack, -⟩
    · rw [same] at exchange
      exact settled (by rw [exchange]) (by rw [exchange])
    · cases other.symm.trans ack
  cases goesOn with
  | worked balanced =>
    exact (settled (congrArg Exchange.own balanced.exchange)
      (congrArg Exchange.outstanding balanced.exchange)).elim
  | announced announced => exact ⟨_, List.mem_singleton.mpr rfl, rfl⟩
  | @accepted frame written _ handled =>
    cases ack : frame.isAck with
    | true =>
      refine ⟨.accepted frame, by simp, ?_⟩
      cases frame <;> exact ack
    | false => exact (heard ack handled.exchange).elim
  | absorbed handled _ other => exact (heard other handled.exchange).elim
  | rested _ initial => exact absurd initial moved

/-! ## Along a run -/

theorem Steps.exists_fall (steps : Steps start log conn) {level : Int}
    (above : level < start.receiveInitial) (fallen : conn.receiveInitial ≤ level) :
    ∃ before change rest earlier later, log = before ++ change ++ rest ∧
      Steps start before earlier ∧ Step earlier change later ∧ Steps later rest conn ∧
      later.receiveInitial ≤ level ∧ level < earlier.receiveInitial := by
  induction steps with
  | refl => omega
  | @tail log more conn after steps step ih =>
    by_cases before : conn.receiveInitial ≤ level
    · obtain ⟨first, change, rest, earlier, later, rfl, toFall, falls, fromFall, low, high⟩ :=
        ih before
      exact ⟨first, change, rest ++ more, earlier, later, List.append_assoc .., toFall, falls,
        fromFall.tail step, low, high⟩
    · exact ⟨log, more, [], conn, after, (List.append_nil _).symm, steps, step,
        .refl, fallen, by omega⟩

variable (steps : Steps start log conn) (sound : start.Sound)
  (even : ∀ balance, start.receiveBalance id = some balance → balance = 0)
  (opened : conn.closed = false) (stands : id ≠ 0)

include steps sound even opened stands

theorem Steps.receiveBalance
    (held : conn.receiveBalance id = some balance) : balance = -unreturned id log := by
  induction steps generalizing balance with
  | refl => exact even balance held
  | tail steps step ih =>
    have was := step.opened opened
    have goesOn := step.goesOn (steps.sound sound was) opened
    have before := ih was (goesOn.receiveBalance stands held)
    rw [unreturned_append]
    omega

/-- Less than half of the initial window at the last DATA is still to be given back. -/
theorem Steps.supplied (hears : (conn.registry.view id).hears = true)
    (held : conn.receiveBalance id = some balance) :
    ∃ before rest peak, log = before ++ rest ∧ Steps start before peak ∧
      Steps peak rest conn ∧ chargedOn id (acceptedIn rest) = 0 ∧
      (0 ≤ balance ∨ -balance * 2 < peak.receiveInitial) := by
  induction steps generalizing balance with
  | refl => exact ⟨[], [], start, rfl, .refl, .refl, rfl, .inl (even balance held ▸ Int.le_refl 0)⟩
  | @tail log more conn after steps step ih =>
    have was := step.opened opened
    have sound := steps.sound sound was
    rcases step.filled sound hears with none | filled
    · obtain ⟨marks, shown⟩ := step.shown fun _ => sound
      have before := (step.goesOn sound opened).receiveBalance stands held
      obtain ⟨first, rest, peak, rfl, toPeak, fromPeak, idle, low⟩ :=
        ih was ((shown.life id).hears_of_hears hears) before
      refine ⟨first, rest ++ more, peak, List.append_assoc .., toPeak, fromPeak.tail step, ?_, ?_⟩
      · rw [acceptedIn_append, chargedOn_append, idle, none]
      · rw [unreturned, none] at low
        omega
    · refine ⟨log ++ more, [], after, (List.append_nil _).symm, steps.tail step, .refl, rfl, ?_⟩
      have initial := (step.sound sound opened).receiveInitial
      unfold Connection.receiveBalance balanceIn at held
      rcases Option.or_eq_some_iff.mp held with found | ⟨-, idle⟩
      · rcases filled _ (Windows.balance?_eq_some_iff.mp found) with full | half <;> omega
      · split at idle
        · cases idle
          exact .inl (Int.le_refl 0)
        · cases idle

/-- Our settings have taken the initial window from above an amount to that amount or below it, and
no octets on the stream have been accepted since. -/
def Sinks (start : Connection) (log : List Activity) (conn : Connection) (id : Nat) (amount : Int) :
    Prop :=
  ∃ before change rest earlier later, log = before ++ change ++ rest ∧
    Steps start before earlier ∧ Step earlier change later ∧ Steps later rest conn ∧
    (∃ activity ∈ change, activity.changesSettings) ∧
    chargedOn id (acceptedIn (change ++ rest)) = 0 ∧
    later.receiveInitial ≤ amount ∧ amount < earlier.receiveInitial

theorem Steps.sinks (hears : (conn.registry.view id).hears = true) {window : Int}
    (found : conn.receiveWindows.stream? id = some window)
    (credit : 0 < conn.receiveInitial) (dry : window ≤ 0) :
    Sinks start log conn id (unreturned id log) := by
  have initial := (steps.sound sound opened).receiveInitial
  have held : conn.receiveBalance id = some (window - conn.receiveWindows.initial) :=
    balanceIn_of_window found
  have amount := steps.receiveBalance sound even opened stands held
  obtain ⟨first, rest, peak, rfl, toPeak, fromPeak, idle, low⟩ :=
    steps.supplied sound even opened stands hears held
  have above : unreturned id (first ++ rest) < peak.receiveInitial := by omega
  have fallen : conn.receiveInitial ≤ unreturned id (first ++ rest) := by omega
  obtain ⟨before, change, last, earlier, later, rfl, toFall, falls, fromFall, low, high⟩ :=
    fromPeak.exists_fall above fallen
  have going := fromFall.opened opened
  have sound := (toPeak.trans toFall).sound sound (falls.opened going)
  have settings := (falls.goesOn sound going).changesSettings sound (falls.sound sound going)
    (by omega)
  refine ⟨first ++ before, change, last, earlier, later, by simp, toPeak.trans toFall, falls,
    fromFall, settings, ?_, low, high⟩
  rw [List.append_assoc, acceptedIn_append, chargedOn_append] at idle
  omega

end Connection

namespace Session

open Connection (Sinks)

variable {session : Session} {log : List Activity} {id : Nat}

private theorem fresh_even (role : Role) (config : Config) (balance : Int)
    (held : (fresh role config).receiveBalance id = some balance) : balance = 0 := by
  change (if (Registry.new role config.retention).isIdle id then some 0 else none) =
    some balance at held
  split at held
  · exact (Option.some.inj held).symm
  · cases held

/-- As long as streams start with some credit, a stream on which the peer may send has credit as
well, unless our settings have since taken the initial window down to what was still to be given
back. -/
theorem Run.receive_window_positive_or_sunk (run : Run session log)
    (opened : session.connection.closed = false) (credit : 0 < session.connection.receiveInitial)
    {stream : Stream} (held : session.connection.registry.get? id = some stream)
    (receives : stream.phase.canReceive = true) :
    ∃ window, session.connection.receiveWindows.stream? id = some window ∧
      window = session.connection.receiveInitial - unreturned id log ∧
      (0 < window ∨ ∃ role config,
        Sinks (fresh role config) log session.connection id (unreturned id log)) := by
  obtain ⟨role, config, steps⟩ := run.steps
  have fresh := fresh_sound role config
  have sound := run.sound opened
  have stands := sound.registry.ne_zero held
  have live := Stream.isLive_of_canReceive receives
  obtain ⟨window, found⟩ := sound.receiveWindow_of_live held live
  have balance := steps.receiveBalance fresh (fresh_even role config) opened stands
    (Connection.balanceIn_of_window found)
  have initial := sound.receiveInitial
  refine ⟨window, found, by omega, ?_⟩
  by_cases dry : window ≤ 0
  · have hears : (session.connection.registry.view id).hears = true := by
      rw [Registry.view_of_get? held live]
      exact Phase.hears_of_canReceive receives
    exact .inr ⟨role, config,
      steps.sinks fresh (fresh_even role config) opened stands hears found credit dry⟩
  · exact .inl (by omega)

/-- A server that has received three octets on a stream and lowers the initial window to two. -/
def starved : Session :=
  (newServer []).after [.receive (preface ++ [0, 0, 0, 4, 0, 0, 0, 0, 0] ++
      [0, 0, 0, 4, 1, 0, 0, 0, 0] ++ [0, 0, 0, 1, 4, 0, 0, 0, 1] ++
      [0, 0, 3, 0, 0, 0, 0, 0, 1, 1, 2, 3]),
    .call (.sendSettings [(.initialWindowSize, 2)] 0), .receive [0, 0, 0, 4, 1, 0, 0, 0, 0]]

private theorem run_starved : ∃ log, Run starved log := by
  have created : create .server {} 0 = .ok (newServer []) := rfl
  exact ⟨_, (Run.create created).after _⟩

private theorem starved_receives :
    ∃ stream, starved.connection.registry.get? 1 = some stream ∧ stream.phase.canReceive :=
  ⟨_, Option.get_mem (by decide +kernel), by decide +kernel⟩

private theorem starved_window :
    starved.connection.closed = false ∧ starved.connection.receiveInitial = 2 ∧
      starved.connection.receiveWindows.stream? 1 = some (-1) := by
  decide +kernel

theorem Run.receive_window_positive_or_sunk_starved :
    ∃ log, Run starved log ∧ starved.connection.receiveInitial = 2 ∧
      starved.connection.receiveWindows.stream? 1 = some (-1) ∧ unreturned 1 log = 3 ∧
      ∃ role config, Sinks (fresh role config) log starved.connection 1 3 := by
  obtain ⟨log, run⟩ := run_starved
  obtain ⟨stream, held, receives⟩ := starved_receives
  obtain ⟨opened, initial, dry⟩ := starved_window
  obtain ⟨window, found, amount, sunk⟩ :=
    run.receive_window_positive_or_sunk opened (by omega) held receives
  obtain rfl : -1 = window := Option.some.inj (dry.symm.trans found)
  have three : unreturned 1 log = 3 := by omega
  exact ⟨log, run, initial, dry, three, three ▸ sunk.resolve_left (by decide)⟩

/-- A lower initial window can leave the peer without credit on a stream that it may still use. -/
theorem not_forall_receive_window_positive :
    ¬ ∀ session log, Run session log → session.connection.closed = false →
      0 < session.connection.receiveInitial → ∀ id stream window,
        session.connection.registry.get? id = some stream → stream.phase.canReceive = true →
        session.connection.receiveWindows.stream? id = some window → 0 < window := by
  intro positive
  obtain ⟨log, run⟩ := run_starved
  obtain ⟨stream, held, receives⟩ := starved_receives
  obtain ⟨opened, initial, dry⟩ := starved_window
  have some := positive starved log run opened (by omega) 1 stream (-1) held receives dry
  omega

end Session

end Http2
