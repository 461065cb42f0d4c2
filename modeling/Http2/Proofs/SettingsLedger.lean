import Http2.Proofs.Strays
import Http2.Proofs.Transcript

/-!
# Settings over a whole run

The settings of both ends are what has passed makes of the defaults.  Of the batches that the
application has asked for, as many are in force as the peer has acknowledged, and the others are
outstanding in their order.  The settings of the peer are what its SETTINGS frames have said, each
of which was answered at once.  The limits on what the peer may send follow the larger of the two
values, that in force and the latest one.
-/

namespace Http2

open Connection List

def knownIn (parameters : List (Nat × Nat)) : List (Setting × Nat) :=
  parameters.filterMap fun (id, value) => (Setting.ofWire? id).map fun setting => (setting, value)

def toldBy (announcements : List (List (Nat × Nat))) : Settings :=
  announcements.foldl (fun settings parameters => settings.apply (knownIn parameters)) {}

def settledBy (batches : List (List (Setting × Nat))) : Settings := batches.foldl Settings.apply {}

private theorem knownIn_of_readParameters {parameters : List (Nat × Nat)}
    {changes : List (Setting × Nat)} (read : Exchange.readParameters parameters = .ok changes) :
    knownIn parameters = changes := by
  fun_induction Exchange.readParameters parameters generalizing changes with
  | case1 =>
    cases read
    rfl
  | case2 id value rest unknown ih =>
    simp only [knownIn, filterMap_cons, unknown, Option.map_none]
    exact ih read
  | case3 | case4 => cases read
  | case5 id value rest setting known fault ih =>
    simp only [knownIn, filterMap_cons, known, Option.map_some]
    cases found : Exchange.readParameters rest with
    | error =>
      rw [found] at read
      cases read
    | ok others =>
      rw [found] at read
      cases read
      exact congrArg _ (ih found)

private theorem take_succ_of_drop {α : Type} {list rest : List α} {count : Nat} {first : α}
    (drop : list.drop count = first :: rest) :
    list.take (count + 1) = list.take count ++ [first] ∧ list.drop (count + 1) = rest ∧
      count + 1 ≤ list.length := by
  have head : list[count]? = some first := by rw [← head?_drop, drop, head?_cons]
  refine ⟨?_, ?_, (List.getElem?_eq_some_iff.mp head).1⟩
  · rw [take_add_one, head, Option.toList_some]
  · rw [← tail_drop, drop, tail_cons]

private theorem toldBy_concat (announcements : List (List (Nat × Nat)))
    (parameters : List (Nat × Nat)) :
    toldBy (announcements ++ [parameters]) = (toldBy announcements).apply (knownIn parameters) :=
  foldl_concat ..

private theorem settledBy_concat (batches : List (List (Setting × Nat)))
    (changes : List (Setting × Nat)) :
    settledBy (batches ++ [changes]) = (settledBy batches).apply changes :=
  foldl_concat ..

private theorem Exchange.latest_eq_settledBy {exchange : Exchange}
    {settled outstanding : List (List (Setting × Nat))}
    (own : exchange.own = settledBy settled)
    (due : exchange.outstanding.map Batch.changes = outstanding) :
    exchange.latest = settledBy (settled ++ outstanding) := by
  rw [settledBy, foldl_append, ← due, foldl_map, ← settledBy, ← own]
  rfl

namespace Connection

variable {reasons : Reason → Prop} {conn after : Connection} {frame : Frame}
  {lines more : List Line}

/-! ## The limits follow the settings -/

/-- The longest payload is the larger of the value in force and the latest one. -/
def InStep (conn : Connection) : Prop := conn.frameLimit = conn.receiveLimit .maxFrameSize

theorem InStep.congr (inStep : conn.InStep) (limit : after.frameLimit = conn.frameLimit)
    (exchange : after.exchange = conn.exchange) : after.InStep := by
  rw [InStep, limit, receiveLimit, exchange]
  exact inStep

theorem InStep.calm (inStep : conn.InStep) (calm : Calm reasons conn after) : after.InStep := by
  cases calm with
  | drop id error =>
    rcases dropStream_eq conn id _ _ error with same | ⟨_, _, _, -, -, same⟩ <;>
      rw [same] <;> exact inStep
  | refill fits =>
    refine inStep.congr ?_ ?_ <;>
    · unfold refill
      split <;> rfl
  | _ => exact inStep

theorem InStep.calms (inStep : conn.InStep) (calms : Calms reasons conn after) : after.InStep := by
  induction calms with
  | refl => exact inStep
  | tail _ last ih => exact ih.calm last

private theorem inStep_invariant : Invariant InStep where
  move move inStep := by
    cases move with
    | calm calm => exact InStep.calm inStep calm
    | spend | requeue | wait => exact inStep
  write frame inStep := inStep
  learn peer sendWindows inStep := inStep
  sync exchange synced _ := by
    obtain ⟨windows, -, rfl⟩ := synced
    exact (rfl : _ = _)
  data {conn frame} sound data inStep := by
    have filled : (conn.drawn frame.chargedLength).InStep := inStep
    refine (receiveFrame_receipt sound frame).mono fun result after receipt => ?_
    cases receipt with
    | calm control => cases frame <;> simp [Frame.kind?, Frame.isControl] at data control
    | overspent => exact inStep
    | refused | overdrawn => exact filled.calm (.refill _ (.inl rfl) : Calm (fun _ => True) _ _)
    | taken _ _ _ _ quiet =>
      refine InStep.calms ?_ quiet.1
      exact inStep
    | _ => cases data

/-! ## What a call and a frame do to the settings -/

private theorem sendSettings_leads (sound : conn.Sound) (changes : List (Setting × Nat))
    (now : Nat) :
    (perform (.sendSettings changes now)).Leads conn fun result after =>
      (∃ error, result = .error error ∧ after = conn) ∨
      (∃ answer, result = .ok answer) ∧ Announced conn changes now after := by
  refine leads_silently.mpr (ensureOpen_leads (fun _ => .inl ⟨_, rfl, rfl⟩) fun _ => ?_)
  refine (announce_leads sound changes now).mono ?_
  rintro result after (⟨error, rfl, rfl⟩ | ⟨rfl, allowed, synced⟩)
  · exact .inl ⟨error, rfl, rfl⟩
  · exact .inr ⟨⟨none, rfl⟩, announced_of_synced sound allowed synced⟩

private theorem called_settings (sound : conn.Sound) (call : Call) :
    (changedBy (conn.changedLines call) = [] ∧
      ∃ written, Balanced call.Gives conn written (conn.called call)) ∨
    ∃ changes now, changedBy (conn.changedLines call) = [changes] ∧
      Announced conn changes now (conn.called call) := by
  have other : changedBy (conn.changedLines call) = [] →
      (∀ changes now, call ≠ .sendSettings changes now) → changedBy (conn.changedLines call) = [] ∧
        ∃ written, Balanced call.Gives conn written (conn.called call) := by
    intro none apart
    rcases (called_of_leads (perform_performed sound call)).sort sound with
      ⟨written, balanced, -⟩ | ⟨changes, now, same, -⟩
    · exact ⟨none, written, balanced⟩
    · exact absurd same (apart changes now)
  cases call with
  | sendSettings changes now =>
    have leads := sendSettings_leads sound changes now
    unfold changedLines called
    cases ran : (perform (.sendSettings changes now)).run conn with
    | ok answer after =>
      rcases leads.of_ok ran with ⟨_, failed, -⟩ | ⟨-, announced⟩
      · cases failed
      · exact .inr ⟨changes, now, rfl, announced⟩
    | error error after =>
      rcases leads.of_error ran with ⟨_, -, rfl⟩ | ⟨⟨_, done⟩, -⟩
      · exact .inl ⟨rfl, [], .refl _⟩
      · cases done
  | _ => exact .inl (other rfl (by simp))

/-- An acknowledgement that leaves the connection open was due, and the parameters of SETTINGS that
do so are in order. -/
theorem handle_settings (sound : conn.Sound) (going : (conn.handle frame).closed = false) :
    (frame.isAck = true → conn.exchange.outstanding ≠ []) ∧
    ∀ parameters, frame.announced? = some parameters →
      ∃ changes, Exchange.readParameters parameters = .ok changes := by
  have settled : ∀ {result after}, Receipt conn frame result after → fatally result = false →
      (frame.isAck = true → conn.exchange.outstanding ≠ []) ∧
      ∀ parameters, frame.announced? = some parameters →
        ∃ changes, Exchange.readParameters parameters = .ok changes := by
    intro result after receipt harmless
    cases receipt with
    | calm control =>
      have inert := Frame.Inert.of_control control
      simp [inert.ack, inert.announced]
    | overspent data | refused data | overdrawn data | taken data =>
      obtain ⟨octets, endStream, padding, shape⟩ := exists_data data
      rw [shape]
      simp [Frame.isAck, Frame.announced?]
    | ackNotDue | outgrown => cases harmless
    | acknowledged due =>
      rw [due]
      simp [Frame.announced?]
    | malformed fault =>
      cases (readParameters_isFatal fault).symm.trans harmless
    | applied read =>
      refine ⟨by simp [Frame.isAck], fun parameters same => ?_⟩
      cases same
      exact ⟨_, read⟩
    | zeroCredit | creditOverflow | credited | unwanted | streamOverflow | streamCredited =>
      simp [Frame.isAck, Frame.announced?]
  have receipt := receiveFrame_receipt sound frame
  cases ran : (receiveFrame frame).run conn with
  | ok _ after => exact settled (receipt.of_ok ran) rfl
  | error error after =>
    refine settled (receipt.of_error ran) (Bool.eq_false_iff.mpr fun (fatal : error.isFatal) => ?_)
    rw [handle_of_error ran, if_pos fatal, closed_fail] at going
    cases going

private theorem receiveAck_leads (sound : conn.Sound) (parameters : List (Nat × Nat)) :
    (receiveFrame (.settings true parameters)).Leads conn fun result _ =>
      result = .ok () ∧ conn.exchange.outstanding ≠ [] ∨
      result = .error (.protocol .ackNotDue) ∧ conn.exchange.outstanding = [] := by
  refine (receiveFrame_receipt sound _).mono fun result after receipt => ?_
  cases receipt with
  | calm control => cases control
  | overspent data | refused data | overdrawn data | taken data => cases data
  | ackNotDue none => exact .inr ⟨rfl, none⟩
  | acknowledged due =>
    rw [due]
    exact .inl ⟨rfl, by simp⟩

/-! ## The ledger -/

/-- The settings of a connection are what has passed makes of the defaults. -/
structure Terms (lines : List Line) (conn : Connection) : Prop where
  due : acks (heardBy lines) ≤ (changedBy lines).length
  own : conn.exchange.own = settledBy ((changedBy lines).take (acks (heardBy lines)))
  outstanding : conn.exchange.outstanding.map Batch.changes = (changedBy lines).drop
    (acks (heardBy lines))
  peer : conn.exchange.peer = toldBy (announcements (heardBy lines))
  answered : acks (wroteBy lines) = (announcements (heardBy lines)).length
  announced : announcements (wroteBy lines) = (changedBy lines).map wireForm
  inStep : conn.InStep

variable (terms : conn.Terms lines)

include terms

theorem Terms.silent (exchange : after.exchange = conn.exchange) (inStep : after.InStep)
    (heard : ∀ frame ∈ heardBy more, frame.isAck = false ∧ frame.announced? = none)
    (wrote : ∀ frame ∈ wroteBy more, frame.isAck = false ∧ frame.announced? = none)
    (changed : changedBy more = []) : after.Terms (lines ++ more) := by
  refine ⟨?_, ?_, ?_, ?_, ?_, ?_, inStep⟩
  all_goals
    simp only [heardBy_append, wroteBy_append, changedBy_append, acks_append, announcements_append,
      acks_of_silent heard, announcements_of_silent heard, acks_of_silent wrote,
      announcements_of_silent wrote, changed, append_nil, Nat.add_zero, exchange]
  · exact terms.due
  · exact terms.own
  · exact terms.outstanding
  · exact terms.peer
  · exact terms.answered
  · exact terms.announced

theorem Terms.announce {changes : List (Setting × Nat)} {now : Nat}
    (announced : Announced conn changes now after) (inStep : after.InStep)
    (heard : heardBy more = []) (wrote : wroteBy more = [.settings false (wireForm changes)])
    (changed : changedBy more = [changes]) :
    after.Terms (lines ++ more) := by
  have due := terms.due
  refine ⟨?_, ?_, ?_, ?_, ?_, ?_, inStep⟩
  all_goals
    simp only [heardBy_append, wroteBy_append, changedBy_append, acks_append,
      announcements_append, heard, wrote, changed, append_nil, announced.exchange]
  · rw [length_append]
    exact Nat.le_add_right_of_le due
  · rw [take_append_of_le_length due]
    exact terms.own
  · rw [drop_append_of_le_length due, map_append, terms.outstanding]
    rfl
  · exact terms.peer
  · exact terms.answered
  · rw [map_append, terms.announced]
    rfl

theorem Terms.acknowledge {batch : Batch} {rest : List Batch}
    (waiting : conn.exchange.outstanding = batch :: rest)
    (exchange : after.exchange = { conn.exchange with
      own := conn.exchange.own.apply batch.changes, outstanding := rest }) (inStep : after.InStep)
    (heard : heardBy more = [frame]) (ack : frame.isAck) (silent : frame.announced? = none)
    (wrote : ∀ frame ∈ wroteBy more, frame.isAck = false ∧ frame.announced? = none)
    (changed : changedBy more = []) : after.Terms (lines ++ more) := by
  have outstanding := terms.outstanding
  have one : acks [frame] = 1 := by simp [acks, ack]
  have none : announcements [frame] = [] := by simp [announcements, silent]
  rw [waiting, map_cons] at outstanding
  obtain ⟨taken, dropped, short⟩ := take_succ_of_drop outstanding.symm
  refine ⟨?_, ?_, ?_, ?_, ?_, ?_, inStep⟩
  all_goals
    simp only [heardBy_append, wroteBy_append, changedBy_append, acks_append,
      announcements_append, heard,
      changed, one, none, acks_of_silent wrote, announcements_of_silent wrote, append_nil,
      Nat.add_zero, exchange]
  · exact short
  · rw [taken, settledBy_concat, terms.own]
  · exact dropped.symm
  · exact terms.peer
  · exact terms.answered
  · exact terms.announced

theorem Terms.learn {parameters : List (Nat × Nat)} {changes : List (Setting × Nat)}
    {written : List Frame} (read : Exchange.readParameters parameters = .ok changes)
    (exchange : after.exchange = { conn.exchange with
      peer := conn.exchange.peer.apply changes }) (inStep : after.InStep)
    (heard : heardBy more = [.settings false parameters])
    (wrote : wroteBy more = .settings true [] :: written)
    (silent : ∀ frame ∈ written, frame.isAck = false ∧ frame.announced? = none)
    (changed : changedBy more = []) : after.Terms (lines ++ more) := by
  have told : announcements [Frame.settings false parameters] = [parameters] := rfl
  have answer : acks (Frame.settings true [] :: written) = 1 := by
    rw [acks_cons, acks_of_silent silent]
    rfl
  have none : announcements (Frame.settings true [] :: written) = [] :=
    (announcements_of_silent silent : announcements written = [])
  refine ⟨?_, ?_, ?_, ?_, ?_, ?_, inStep⟩
  all_goals
    simp only [heardBy_append, wroteBy_append, changedBy_append, acks_append,
      announcements_append, heard, wrote, changed, told, answer, none, append_nil, exchange]
  · exact terms.due
  · exact terms.own
  · exact terms.outstanding
  · rw [toldBy_concat, knownIn_of_readParameters read, terms.peer]
  · rw [terms.answered, length_append]
    rfl
  · exact terms.announced

end Connection

namespace Session

private theorem terms_upheld : Upheld fun lines conn => conn.Terms lines where
  begins role config := ⟨Nat.le_refl _, rfl, rfl, rfl, rfl, rfl, rfl⟩
  handOver terms := { terms with }
  tell events terms := { terms with }
  call {lines conn} call sound opened terms := by
    have inStep := inStep_invariant.called sound call terms.inStep
    rcases called_settings sound call with
      ⟨none, written, balanced⟩ | ⟨changes, now, changed, announced⟩
    · refine terms.silent balanced.exchange inStep ?_ ?_ ?_
      · simp [heardBy_callLines]
      · rw [wroteBy_callLines balanced.queued]
        exact balanced.settings
      · rw [changedBy_callLines, none]
    · exact terms.announce announced inStep (heardBy_callLines ..)
        (wroteBy_callLines announced.queued) ((changedBy_callLines ..).trans changed)
  hear {lines conn} frame sound opened going terms := by
    have inStep := inStep_invariant.handle sound going terms.inStep
    obtain ⟨reasons, written, handled⟩ := handle_handled sound going
    obtain ⟨due, read⟩ := handle_settings sound going
    have heard := heardBy_hearLines conn frame
    have wrote := wroteBy_hearLines handled
    have changed := changedBy_hearLines conn frame
    have exchange := handled.exchange
    rcases Exchange.heard_cases due with ⟨other, learns⟩ | ⟨batch, rest, ack,
      none, waiting, settles⟩
    · rcases frame.silent_or_announces with none | ⟨parameters, rfl⟩
      · rw [Frame.answer_of_silent none, nil_append] at wrote
        rw [learns, Settings.learn_of_silent _ none] at exchange
        refine terms.silent exchange inStep ?_ ?_ changed
        · simpa [heard] using ⟨other, none⟩
        · rw [wrote]
          exact handled.settings
      · obtain ⟨changes, read⟩ := read parameters rfl
        rw [learns, Settings.learn, read] at exchange
        exact terms.learn read exchange inStep heard wrote handled.settings changed
    · rw [Frame.answer_of_silent none, nil_append] at wrote
      refine terms.acknowledge waiting (exchange.trans settles) inStep heard ack none ?_ changed
      rw [wrote]
      exact handled.settings

/-- In every state of an open session our settings are the defaults with as many of the accepted
batches as the peer has acknowledged, and the latest ones are the defaults with all of them.  The
settings of the peer are the defaults with what its SETTINGS frames have said, and every one of
these was acknowledged once.  All values are within their bounds, and the limits on both directions
are in step with them.  An acknowledgement is turned down if and only if no batch is outstanding
when its turn comes, and then as a violation of the protocol. -/
theorem Transcript.settings_eq_ledger {session : Session} {lines : List Line}
    (transcript : Transcript session lines) (opened : session.connection.closed = false) :
    let connection := session.connection
    let exchange := connection.exchange
    let batches := changedBy lines
    let count := acks (heardBy lines)
    let heard := announcements (heardBy lines)
    (count ≤ batches.length ∧ exchange.own = settledBy (batches.take count)) ∧
    exchange.latest = settledBy batches ∧
    (exchange.peer = toldBy heard ∧ acks (wroteBy lines) = heard.length) ∧
    (exchange.own.Valid ∧ exchange.latest.Valid ∧ exchange.peer.Valid) ∧
    connection.frameLimit = max exchange.own.maxFrameSize exchange.latest.maxFrameSize ∧
    connection.receiveInitial = max exchange.own.initialWindowSize
    exchange.latest.initialWindowSize ∧
    connection.receiveWindows.initial = connection.receiveInitial ∧
    connection.sendWindows.initial = exchange.peer.initialWindowSize ∧
    exchange.outstanding.map Batch.changes = batches.drop count ∧
    ∀ octets before parameters, session.Amounts octets (before ++ [.settings true parameters]) →
      ((∃ error, (session.receive octets).1 = .error error) ↔
        (connection.handleAll before).exchange.outstanding = []) ∧
      ∀ error, (session.receive octets).1 = .error error →
        error.isFatal = true ∧ error.reason = .protocolError := by
  intro connection exchange batches count heard
  have sound := transcript.sound opened
  have terms := terms_upheld.transcript transcript opened
  refine ⟨⟨terms.due, terms.own⟩, ?_, ⟨terms.peer, terms.answered⟩,
    ⟨sound.exchange.own, sound.exchange.latest, sound.exchange.peer⟩, terms.inStep, sound.limit,
    sound.receiveInitial, sound.sendInitial, terms.outstanding,
    fun octets before parameters amounts => ?_⟩
  · rw [Exchange.latest_eq_settledBy terms.own terms.outstanding, List.take_append_drop]
  have leads := Connection.receiveAck_leads (amounts.sound_before sound) parameters
  have untimely : ∀ error, (session.receive octets).1 = .error error →
      error = .protocol .ackNotDue ∧ (connection.handleAll before).exchange.outstanding = [] := by
    intro error failed
    obtain ⟨-, after, ran⟩ := (receive_eq_error_iff amounts sound opened).mp failed
    rcases leads.of_error ran with ⟨done, -⟩ | ⟨same, none⟩
    · cases done
    · exact ⟨Except.error.inj same, none⟩
  refine ⟨⟨fun ⟨error, failed⟩ => (untimely error failed).2, fun none => ?_⟩,
    fun error failed => ?_⟩
  · cases ran : (Connection.receiveFrame (.settings true parameters)).run
      (connection.handleAll before) with
    | ok _ after =>
      rcases leads.of_ok ran with ⟨-, some⟩ | ⟨failed, -⟩
      · exact absurd none some
      · cases failed
    | error error after =>
      rcases leads.of_error ran with ⟨done, -⟩ | ⟨same, -⟩
      · cases done
      · cases same
        exact ⟨_, (receive_eq_error_iff amounts sound opened).mpr ⟨rfl, after, ran⟩⟩
  · rw [(untimely error failed).1]
    exact ⟨rfl, rfl⟩

/-- A client that asks for a smaller window, while only its first settings are acknowledged. -/
def renewed : Session :=
  newClient.after [.call (.sendSettings [(.initialWindowSize, 10)] 0),
    .receive [0, 0, 0, 4, 0, 0, 0, 0, 0, 0, 0, 0, 4, 1, 0, 0, 0, 0]]

theorem Transcript.settings_eq_ledger_renewed : ∃ lines, Transcript renewed lines ∧
    renewed.connection.closed = false ∧ changedBy lines = [[], [(.initialWindowSize, 10)]] ∧
    acks (heardBy lines) = 1 ∧ renewed.connection.exchange.own = {} ∧
    renewed.connection.exchange.latest = { initialWindowSize := 10 } := by
  have transcript : Transcript renewed _ := ⟨_, _, _, _, _, create_newClient, rfl, rfl⟩
  have opened : renewed.connection.closed = false := by decide +kernel
  obtain ⟨⟨-, own⟩, latest, -⟩ := transcript.settings_eq_ledger opened
  refine ⟨_, transcript, opened, ?_, ?_, own.trans ?_, latest.trans ?_⟩ <;> decide +kernel

end Session

end Http2
