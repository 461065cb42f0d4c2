import Http2.Proofs.Run

/-!
# The ledger of what may be sent

The credit that the peer has granted can be read off the log of a run: increments of WINDOW_UPDATE
frames that were accepted, less the DATA that was written, on top of the initial windows.  The send
windows are this ledger, exactly, and no DATA is written beyond it.
-/

namespace Http2

open List

namespace Activity

def accepted? : Activity → Option Frame
  | accepted frame => some frame
  | wrote _ => none

def wrote? : Activity → Option Frame
  | accepted _ => none
  | wrote frame => some frame

end Activity

def acceptedIn (log : List Activity) : List Frame := log.filterMap Activity.accepted?

def writtenIn (log : List Activity) : List Frame := log.filterMap Activity.wrote?

def peerSettings (log : List Activity) : Settings := (acceptedIn log).foldl Settings.learn {}

def connectionCredit (log : List Activity) : Int :=
  defaultWindow + granted 0 (acceptedIn log) - charged (writtenIn log)

def streamCredit (id : Nat) (log : List Activity) : Int :=
  (peerSettings log).initialWindowSize + granted id (acceptedIn log) - chargedOn id (writtenIn log)

section Logs

variable (log more : List Activity) (frames : List Frame)

theorem acceptedIn_append : acceptedIn (log ++ more) = acceptedIn log ++ acceptedIn more :=
  filterMap_append

theorem writtenIn_append : writtenIn (log ++ more) = writtenIn log ++ writtenIn more :=
  filterMap_append

theorem acceptedIn_wrote : acceptedIn (frames.map .wrote) = [] := by
  simp [acceptedIn, Function.comp_def, Activity.accepted?]

theorem writtenIn_wrote : writtenIn (frames.map .wrote) = frames := by
  simp [writtenIn, Function.comp_def, Activity.wrote?]

end Logs

/-- Every DATA frame was written within the credit at the time. -/
def Covered (log : List Activity) : Prop :=
  ∀ before frame rest, log = before ++ .wrote frame :: rest → 0 < frame.chargedLength →
    frame.chargedLength ≤ connectionCredit before ∧ frame.chargedLength ≤
    streamCredit frame.stream before

/-- What an end may send: the peer's settings, the window of the connection and all balances. -/
structure Account where
  peer : Settings
  total : Int
  balance : Nat → Option Int

def Connection.account (conn : Connection) : Account :=
  ⟨conn.exchange.peer, conn.sendWindows.connection, conn.sendBalance⟩

/-- The account is the one that the log tells of. -/
structure Account.Ledger (account : Account) (log : List Activity) : Prop where
  peer : account.peer = peerSettings log
  total : account.total = connectionCredit log
  balance : ∀ id balance, account.balance id = some balance →
    balance = granted id (acceptedIn log) - chargedOn id (writtenIn log)
  covered : Covered log

variable {log more : List Activity} {frame : Frame} {written : List Frame}

theorem Covered.append (covered : Covered log)
    (later : ∀ before frame rest, more = before ++ .wrote frame :: rest → 0 < frame.chargedLength →
      frame.chargedLength ≤ connectionCredit (log ++ before) ∧
        frame.chargedLength ≤ streamCredit frame.stream (log ++ before)) :
        Covered (log ++ more) := by
  intro before frame rest split charge
  rcases split_append split with ⟨rest, cut⟩ | ⟨gap, rfl, cut⟩
  · exact covered before frame rest cut charge
  · exact later gap frame rest cut charge

theorem Covered.wrote (covered : Covered log)
    (later : ∀ before frame rest, written = before ++ frame :: rest → 0 < frame.chargedLength →
      frame.chargedLength ≤ connectionCredit (log ++ before.map .wrote) ∧
        frame.chargedLength ≤ streamCredit frame.stream (log ++ before.map .wrote)) :
    Covered (log ++ written.map .wrote) := by
  refine covered.append fun before frame rest split charge => ?_
  obtain ⟨first, others, rfl, rfl, tail⟩ := map_eq_append_iff.mp split
  obtain ⟨head, others, rfl, same, rfl⟩ := map_eq_cons_iff.mp tail
  cases same
  exact later first frame others rfl charge

theorem Covered.uncharged (covered : Covered log) (none : charged written = 0) :
    Covered (log ++ written.map .wrote) := by
  refine covered.wrote fun before frame rest split charge => ?_
  rw [split, charged_append, charged_cons] at none
  omega

namespace Account.Ledger

variable {account : Account}

variable (ledger : account.Ledger log)

include ledger

theorem accept (frame : Frame) :
    Ledger ⟨account.peer.learn frame, account.total + frame.grant 0,
      fun id => (account.balance id).map (· + (frame.grant id : Int))⟩
        (log ++ [.accepted frame]) := by
  have accepted : acceptedIn (log ++ [.accepted frame]) = acceptedIn log ++ [frame] :=
    acceptedIn_append log _
  have written : writtenIn (log ++ [.accepted frame]) = writtenIn log := by
    rw [writtenIn_append]
    exact append_nil _
  constructor
  · simp only [peerSettings, accepted, foldl_append, ledger.peer, foldl_cons, foldl_nil]
  · have := ledger.total
    simp only [connectionCredit, accepted, written, granted_append, granted_cons, granted_nil] at *
    omega
  · intro id balance h
    obtain ⟨before, held, rfl⟩ := Option.map_eq_some_iff.mp h
    have := ledger.balance id before held
    simp only [accepted, written, granted_append, granted_cons, granted_nil] at *
    omega
  · refine ledger.covered.append fun before other rest split charge => ?_
    cases before with
    | nil => cases split
    | cons head before => simp at split

theorem write {after : Account} (peer : after.peer = account.peer)
    (total : after.total + charged written = account.total) (low : 0 ≤ after.total)
    (balance : ∀ id balance, after.balance id = some balance →
      account.balance id = some (balance + chargedOn id written))
    (covered : ∀ before frame rest, written = before ++ frame :: rest → 0 < frame.chargedLength →
      ∃ balance, account.balance frame.stream = some balance ∧
        frame.chargedLength + chargedOn frame.stream before ≤
          balance + account.peer.initialWindowSize) :
    after.Ledger (log ++ written.map .wrote) := by
  have accepted : ∀ frames : List Frame, acceptedIn (log ++ frames.map .wrote) =
      acceptedIn log := by
    intro frames
    rw [acceptedIn_append, acceptedIn_wrote, append_nil]
  have wrote : ∀ frames : List Frame, writtenIn (log ++ frames.map .wrote) =
      writtenIn log ++ frames := by
    intro frames
    rw [writtenIn_append, writtenIn_wrote]
  have before := ledger.total
  constructor
  · rw [peer, ledger.peer, peerSettings, peerSettings, accepted]
  · simp only [connectionCredit, accepted, wrote, charged_append] at *
    omega
  · intro id now h
    have := ledger.balance id _ (balance id now h)
    simp only [accepted, wrote, chargedOn_append] at *
    omega
  · refine ledger.covered.wrote fun first frame rest split charge => ?_
    obtain ⟨held, found, fits⟩ := covered first frame rest split charge
    have exactly := ledger.balance frame.stream held found
    rw [ledger.peer] at fits
    rw [split, charged_append, charged_cons] at total
    simp only [connectionCredit, streamCredit, peerSettings, accepted, wrote, charged_append,
      chargedOn_append] at *
    omega

theorem unspent (low : 0 ≤ account.total)
    (none : charged written = 0) : account.Ledger (log ++ written.map .wrote) := by
  refine ledger.write rfl (by omega) low ?_ ?_
  · intro id balance h
    have := chargedOn_le_charged id written
    rw [h, Option.some.injEq]
    omega
  · intro before frame rest split charge
    rw [split, charged_append, charged_cons] at none
    omega

end Account.Ledger

/-! ## What a connection does to its account -/

namespace Connection

open Account (Ledger)

variable {conn after : Connection} {reasons : Reason → Prop}

theorem Balanced.ledger (balanced : Balanced reasons conn written after) (sound : after.Sound)
    (ledger : conn.account.Ledger log) : after.account.Ledger (log ++ written.map .wrote) :=
  ledger.write (congrArg Exchange.peer balanced.exchange) balanced.sendConnection
    sound.send.connection_low balanced.sendStream balanced.covered

theorem Announced.ledger {changes : List (Setting × Nat)} {now : Nat}
    (announced : Announced conn changes now after) (ledger : conn.account.Ledger log) :
    after.account.Ledger (log ++ [Frame.settings false (wireForm changes)].map .wrote) := by
  have balances : after.sendBalance = conn.sendBalance := funext announced.sendBalance
  have same : after.account = conn.account := by
    rw [account, account, balances, announced.exchange, announced.sendWindows]
  rw [← same] at ledger
  exact ledger.unspent announced.sound.send.connection_low rfl

private theorem charged_answer (frame : Frame) : charged frame.answer = 0 := by
  unfold Frame.answer
  split <;> rfl

theorem Handled.ledger (handled : Handled reasons conn frame written after)
    (sound : conn.Sound) (ledger : conn.account.Ledger log) :
    after.account.Ledger (log ++ .accepted frame :: (frame.answer ++ written).map .wrote) := by
  have entered := ledger.accept frame
  have low := sound.send.connection_low
  have answered := entered.unspent (by simp only [account]; omega) (charged_answer frame)
  have peer : after.exchange.peer = conn.exchange.peer.learn frame := by
    rw [handled.exchange, Exchange.peer_heard]
  have balance : ∀ id balance, after.sendBalance id = some balance →
      (conn.sendBalance id).map (· + (frame.grant id : Int)) =
        some (balance + chargedOn id written) := by
    intro id balance h
    have stands := handled.sound.ne_zero_of_sendBalance h
    rw [handled.sendStream id balance stands h, Option.map_some, Option.some.injEq]
    omega
  have covered : ∀ before other rest, written = before ++ other :: rest → 0 < other.chargedLength →
      ∃ balance, (conn.sendBalance other.stream).map (· + (frame.grant other.stream : Int)) =
      some balance ∧
        other.chargedLength + chargedOn other.stream before ≤
          balance + (conn.exchange.peer.learn frame).initialWindowSize := by
    intro before other rest split charge
    obtain ⟨balance, held, fits⟩ := handled.covered before other rest split charge
    rw [peer] at fits
    exact ⟨balance + frame.grant other.stream, by rw [held, Option.map_some], fits⟩
  have wrote : after.account.Ledger _ := answered.write peer handled.sendConnection
    handled.sound.send.connection_low balance covered
  simpa using wrote

theorem Handled.ledger_refused (handled : Handled reasons conn frame written after)
    (silent : frame.announced? = none)
    (unmoved : after.sendWindows.connection = conn.sendWindows.connection)
    (lost : ∀ id, frame.grant id = 0 ∨ id ≠ 0 ∧ after.sendBalance id = none)
    (ledger : conn.account.Ledger log) :
    after.account.Ledger (log ++ (frame.answer ++ written).map .wrote) := by
  have total := handled.sendConnection
  have ungranted : frame.grant 0 = 0 := (lost 0).resolve_right fun gone => gone.1 rfl
  have unspent : charged written = 0 := by omega
  have peer : after.exchange.peer = conn.exchange.peer := by
    rw [handled.exchange, Exchange.peer_heard, Settings.learn_of_silent _ silent]
  rw [Frame.answer_of_silent silent, nil_append]
  refine ledger.write peer ?_ handled.sound.send.connection_low ?_ ?_
  · simp only [account]
    omega
  · intro id balance h
    change after.sendBalance id = some balance at h
    have stands := handled.sound.ne_zero_of_sendBalance h
    have ungranted : frame.grant id = 0 := by
      refine (lost id).resolve_right fun gone => ?_
      rw [gone.2] at h
      cases h
    have before := handled.sendStream id balance stands h
    rwa [ungranted, Int.ofNat_zero, Int.sub_zero] at before
  · intro before other rest split charge
    rw [split, charged_append, charged_cons] at unspent
    omega

theorem Receipt.refused_cases {error : Error} (sound : conn.Sound)
    (receipt : Receipt conn frame (.error error) after) (harmless : error.isFatal = false) :
    frame.announced? = none ∧ after.sendWindows.connection = conn.sendWindows.connection ∧
      ∀ id, frame.grant id = 0 ∨ id ≠ 0 ∧ (after.absorb error).sendBalance id = none := by
  have data : frame.kind? = some .data → frame.announced? = none ∧ ∀ id, frame.grant id = 0 := by
    intro data
    obtain ⟨octets, endStream, padding, shape⟩ := exists_data data
    rw [shape]
    exact ⟨rfl, fun _ => rfl⟩
  have refilled : ((conn.drawn frame.chargedLength).refill 0
      conn.receiveTarget).sendWindows.connection = conn.sendWindows.connection := by
    have calm : Calm Mild (conn.drawn frame.chargedLength)
        ((conn.drawn frame.chargedLength).refill 0 conn.receiveTarget) :=
      .refill _ (.inl rfl)
    exact calm.sendConnection
  cases receipt with
  | calm control quiet =>
    have inert := Frame.Inert.of_control control
    exact ⟨inert.announced, quiet.1.sendConnection, fun id => .inl (inert.grant id)⟩
  | refused isData fits shut mild known | overdrawn isData fits held receives found short =>
    exact ⟨(data isData).1, refilled, fun id => .inl ((data isData).2 id)⟩
  | taken isData fits found covered quiet =>
    exact ⟨(data isData).1, quiet.1.sendConnection, fun id => .inl ((data isData).2 id)⟩
  | malformed fault =>
    rw [readParameters_isFatal fault] at harmless
    cases harmless
  | @unwanted id increment _ stands mild closed =>
    obtain rfl := (mild error rfl).2 harmless
    exact ⟨rfl, rfl, fun _ => .inl (ite_self 0)⟩
  | @streamOverflow id increment window stands held large =>
    refine ⟨rfl, rfl, fun other => ?_⟩
    by_cases same : id = other
    · subst same
      exact .inr ⟨stands, (sound.balances_overflowed held).1⟩
    · exact .inl (grant_of_ne same)
  | overspent | ackNotDue | outgrown | zeroCredit | creditOverflow => cases harmless

/-! ## Steps and runs -/

theorem Ended.uncharged {reason : Reason} (ended : Ended reason conn written after) :
    charged written = 0 :=
  charged_of_inert fun frame member => .of_control (ended.control frame member).1

theorem Step.ledger (sound : conn.Sound) (opened : conn.closed = false)
    (ledger : conn.account.Ledger log) (step : Step conn more after) :
    Covered (log ++ more) ∧ (after.closed = false → after.account.Ledger (log ++ more)) := by
  have going : after.account.Ledger (log ++ more) →
      Covered (log ++ more) ∧ (after.closed = false → after.account.Ledger (log ++ more)) :=
    fun after => ⟨after.covered, fun _ => after⟩
  have finished : ∀ {reason : Reason} {middle : Connection} {first second : List Frame},
      middle.queued = conn.queued ++ first → charged first = 0 →
      Ended reason middle second after → more = conn.wroteSince after →
      Covered (log ++ more) ∧ (after.closed = false → after.account.Ledger (log ++ more)) := by
    intro reason middle first second queued none ended eq
    have all : after.queued = conn.queued ++ (first ++ second) := by
      rw [ended.queued, queued, append_assoc]
    have unspent : charged (first ++ second) = 0 := by
      rw [charged_append, none, ended.uncharged]
    rw [eq, wroteSince_eq all]
    refine ⟨ledger.covered.uncharged unspent, fun opened => ?_⟩
    rw [ended.closed] at opened
    cases opened
  have self : conn.queued = conn.queued ++ [] := (append_nil _).symm
  cases step with
  | call call =>
    refine going ?_
    rcases called_cases sound call with ⟨written, balanced, sound⟩ | ⟨changes, now, announced⟩
    · rw [wroteSince_eq balanced.queued]
      exact balanced.ledger sound ledger
    · rw [wroteSince_eq announced.queued]
      exact announced.ledger ledger
  | accept opened ran =>
    obtain ⟨written, handled⟩ := accept_handled sound ran
    rw [wroteSince_eq handled.queued]
    exact ⟨(handled.ledger sound ledger).covered, fun _ => handled.ledger sound ledger⟩
  | @absorb frame error middle opened ran harmless =>
    obtain ⟨written, handled⟩ := absorb_handled sound ran harmless
    obtain ⟨silent, unmoved, lost⟩ :=
      ((receiveFrame_receipt sound frame).of_error ran).refused_cases sound harmless
    have reset : Calms (fun _ => True) middle (middle.absorb error) := absorb_calms trivial
    refine going ?_
    rw [wroteSince_eq handled.queued]
    exact handled.ledger_refused silent (reset.sendConnection.trans unmoved) lost ledger
  | collapse opened ran fatal =>
    obtain ⟨written, farewells, broken, ended⟩ := collapse_ended sound opened ran fatal
    exact finished broken.queued broken.unspent ended rfl
  | fail error =>
    obtain ⟨farewells, ended⟩ := fail_ended opened error
    exact finished self rfl ended rfl
  | close =>
    obtain ⟨farewells, ended⟩ := close_ended opened
    exact finished self rfl ended rfl
  | handOver | tell events =>
    refine going ?_
    rw [append_nil]
    exact ledger

end Connection

namespace Session

open Connection (Steps)

private theorem fresh_ledger (role : Role) (config : Config) :
    (fresh role config).account.Ledger [] := by
  have balances : ∀ id balance, (fresh role config).sendBalance id = some balance →
      balance = 0 := by
    intro id balance h
    change (if (Registry.new role config.retention).isIdle id then some 0 else none) =
      some balance at h
    split at h
    · exact (Option.some.inj h).symm
    · cases h
  refine ⟨rfl, rfl, balances, ?_⟩
  intro before frame rest split
  simp at split

/-- The send windows are the ledger of the run, and no DATA is written beyond the credit that the
peer has granted, on the stream or on the connection. -/
theorem send_windows_eq_ledger {session : Session} {log : List Activity} (run : Run session log) :
    (∀ before frame rest, log = before ++ .wrote frame :: rest → 0 < frame.chargedLength →
      frame.chargedLength ≤ connectionCredit before ∧
        frame.chargedLength ≤ streamCredit frame.stream before) ∧
    (session.connection.closed = false → session.connection.sendWindows.connection =
      connectionCredit log ∧
      0 ≤ session.connection.sendWindows.connection ∧
      session.connection.exchange.peer = peerSettings log ∧
      ∀ id stream, session.connection.registry.get? id = some stream → stream.isLive →
        session.connection.sendWindows.stream? id = some (streamCredit id log)) := by
  obtain ⟨role, config, steps⟩ := run.steps
  have begins := fresh_ledger role config
  have books : Covered log ∧ (session.connection.closed = false →
      session.connection.account.Ledger log) :=
    Steps.preserves (fun log connection =>
        Covered log ∧ (connection.closed = false → connection.account.Ledger log))
      (fresh_sound role config) ⟨begins.covered, fun _ => begins⟩
      (fun sound opened held step => step.ledger sound opened (held.2 opened))
      (fun held closed => ⟨held.1, fun opened => by simp [closed] at opened⟩) steps
  refine ⟨books.1, fun opened => ?_⟩
  have sound := steps.sound (fresh_sound role config) opened
  have ledger := books.2 opened
  refine ⟨ledger.total, sound.send.connection_low, ledger.peer, ?_⟩
  intro id stream held live
  obtain ⟨window, found⟩ := sound.sendWindow_of_live held live
  have exactly := ledger.balance id _ (Connection.balanceIn_of_window found)
  have initial := sound.sendInitial
  have peer : session.connection.exchange.peer = peerSettings log := ledger.peer
  rw [peer] at initial
  rw [found, Option.some.injEq, streamCredit]
  omega

/-- Three octets are sent before the peer's initial window shrinks to two. -/
theorem send_windows_eq_ledger_shrunk :
    ∃ session log, Run session log ∧ session.connection.closed = false ∧
      session.connection.sendWindows.connection = connectionCredit log ∧
      connectionCredit log = 65532 ∧
      session.connection.sendWindows.stream? 1 = some (streamCredit 1 log) ∧
      streamCredit 1 log = -1 := by
  have run := (Run.create create_newClient).after [.call (.createStream [] none false),
    .call (.sendData 1 [1, 2, 3] false), .receive [0, 0, 6, 4, 0, 0, 0, 0, 0, 0, 4, 0, 0, 0, 2]]
  have ledger := (send_windows_eq_ledger run).2 (by decide +kernel)
  refine ⟨_, _, run, by decide +kernel, ledger.1, by decide +kernel, ?_, by decide +kernel⟩
  exact ledger.2.2.2 1 _ (Option.get_mem (by decide +kernel)) (by decide +kernel)

end Session

end Http2
