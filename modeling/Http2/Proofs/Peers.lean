import Http2.Proofs.Handled
import Http2.Proofs.Performed

/-!
# Two ends and what is between them

`Safe connection coming` says that the frames on their way to an end cannot offend it: the data fits
its windows, the credit fits its send windows, and the settings are in order.  `Agrees sender
receiver` says that the books of the two ends differ by what is in flight, and their settings by
what is not acknowledged yet.  While an end works it keeps its own safety by itself, but the safety
of the other rests on the agreement of both.
-/

namespace Http2

open Exchange List

/-! ## Settings in flight -/

def acks (frames : List Frame) : Nat := frames.countP Frame.isAck

def announcements (frames : List Frame) :
    List (List (Nat × Nat)) := frames.filterMap Frame.announced?

section Observations

variable (frames first second : List Frame)

@[simp] theorem acks_append : acks (first ++ second) = acks first + acks second := countP_append

@[simp] theorem announcements_append :
    announcements (first ++ second) = announcements first ++ announcements second :=
  filterMap_append

theorem acks_cons (frame : Frame) :
    acks (frame :: frames) = (if frame.isAck then 1 else 0) + acks frames := by
  unfold acks
  rw [countP_cons, Nat.add_comm]

variable {frames} (silent : ∀ frame ∈ frames, frame.isAck = false ∧ frame.announced? = none)

include silent

theorem acks_of_silent : acks frames = 0 := by
  refine countP_eq_zero.mpr fun frame member => ?_
  simp [(silent frame member).1]

theorem announcements_of_silent : announcements frames = [] :=
  filterMap_eq_nil_iff.mpr fun frame member => (silent frame member).2

end Observations

namespace Frame

theorem silent_or_announces (frame : Frame) :
    frame.announced? = none ∨ ∃ parameters, frame = settings false parameters := by
  unfold announced?
  split
  · exact .inr ⟨_, rfl⟩
  · exact .inl rfl

variable (frame : Frame) (id : Nat)

@[simp] theorem charged_answer : charged frame.answer = 0 := by
  unfold answer
  split <;> rfl

@[simp] theorem chargedOn_answer : chargedOn id frame.answer = 0 :=
  Nat.le_zero.mp (frame.charged_answer ▸ chargedOn_le_charged id frame.answer)

@[simp] theorem granted_answer : granted id frame.answer = 0 := by
  unfold answer
  split <;> rfl

@[simp] theorem announcements_answer : announcements frame.answer = [] := by
  unfold answer
  split <;> rfl

variable {frame} in
private theorem reason?_of_mem_answer {other : Frame} (member : other ∈ frame.answer) :
    other.reason? = none := by
  unfold answer at member
  split at member
  · cases mem_singleton.mp member
    rfl
  · cases member

end Frame

namespace Exchange

def ownAfter (exchange : Exchange) (count : Nat) : Settings :=
  (exchange.outstanding.take count).foldl (fun settings batch => settings.apply batch.changes)
    exchange.own

variable {exchange : Exchange} {frame : Frame}

private theorem ownAfter_announced {count : Nat} (batch : Batch)
    (most : count ≤ exchange.outstanding.length) :
    ({ exchange with outstanding := exchange.outstanding ++ [batch] } : Exchange).ownAfter count =
      exchange.ownAfter count := by
  simp only [ownAfter, take_append_of_le_length most]

private theorem ownAfter_succ {count : Nat} {batch : Batch} {rest : List Batch}
    (next : exchange.outstanding.drop count = batch :: rest) :
    exchange.ownAfter (count + 1) = (exchange.ownAfter count).apply batch.changes := by
  have here : exchange.outstanding[count]? = some batch := by
    have first := congrArg List.head? next
    rwa [head?_drop] at first
  simp [ownAfter, take_add_one, here]

variable (due : frame.isAck → exchange.outstanding ≠ [])

include due

theorem heard_cases :
    frame.isAck = false ∧
    exchange.heard frame = { exchange with peer := exchange.peer.learn frame } ∨
    ∃ batch rest, frame.isAck ∧ frame.announced? = none ∧ exchange.outstanding = batch :: rest ∧
      exchange.heard frame =
        { exchange with own := exchange.own.apply batch.changes, outstanding := rest } := by
  unfold heard
  split
  · split
    · rename_i none
      exact absurd none (due rfl)
    · rename_i batch rest waiting
      exact .inr ⟨batch, rest, rfl, rfl, waiting, rfl⟩
  · rename_i other
    refine .inl ⟨?_, rfl⟩
    cases frame with
    | settings ack parameters =>
      cases ack with
      | true => exact absurd rfl (other parameters)
      | false => rfl
    | _ => rfl

private theorem ownAfter_heard (before : List Frame) :
    (exchange.heard frame).ownAfter (acks before) = exchange.ownAfter (acks (frame :: before)) := by
  rw [acks_cons]
  rcases heard_cases due with ⟨other, heard⟩ | ⟨batch, rest, ack, -, waiting, heard⟩
  · rw [heard, other]
    simp [ownAfter]
  · rw [heard, ack, if_pos rfl, Nat.add_comm]
    simp [ownAfter, waiting]

private theorem drop_heard (frames : List Frame) :
    (exchange.heard frame).outstanding.drop (acks frames) =
      exchange.outstanding.drop (acks (frame :: frames)) := by
  rw [acks_cons]
  rcases heard_cases due with ⟨other, heard⟩ | ⟨batch, rest, ack, -, waiting, heard⟩
  · rw [heard, other]
    simp
  · rw [heard, ack, if_pos rfl, Nat.add_comm, waiting, drop_succ_cons]

end Exchange

namespace Connection

structure Safe (conn : Connection) (coming : List Frame) : Prop where
  data : charged coming ≤ conn.receiveWindows.connection
  covered : ∀ before frame rest, coming = before ++ frame :: rest → 0 < frame.chargedLength →
    ∀ balance, conn.receiveBalance frame.stream = some balance →
      frame.chargedLength + chargedOn frame.stream before ≤
        balance + (conn.exchange.ownAfter (acks before)).initialWindowSize
  credit : conn.sendWindows.connection + granted 0 coming ≤ maxWindow
  streamCredit : ∀ id balance, conn.sendBalance id = some balance → balance + granted id coming ≤ 0
  settings : ∀ parameters ∈ announcements coming, ∃ changes, Allowed changes ∧
    parameters = wireForm changes
  due : acks coming ≤ conn.exchange.outstanding.length

/-- `sent` is in flight from the sender to the receiver and `returned` the other way. -/
structure Agrees (sender receiver : Connection) (sent returned : List Frame) : Prop where
  connection : receiver.receiveWindows.connection =
    sender.sendWindows.connection + charged sent + granted 0 returned
  stream : ∀ id received left, receiver.receiveBalance id = some received →
    sender.sendBalance id = some left → received = left + chargedOn id sent + granted id returned
  settings : sender.exchange.peer = receiver.exchange.ownAfter (acks sent)
  announced : announcements returned =
    (receiver.exchange.outstanding.drop (acks sent)).map fun batch => wireForm batch.changes

/-- What holds of two ends, each as long as it is open and together as long as both are. -/
structure Linked (near far : Connection) (coming going : List Frame) : Prop where
  here : near.closed = false → near.Sound ∧ near.Safe coming
  there : far.closed = false → far.Sound ∧ far.Safe going
  agree : near.closed = false → far.closed = false →
    Agrees far near coming going ∧ Agrees near far going coming

theorem Linked.symm {near far : Connection} {coming going : List Frame}
    (linked : Linked near far coming going) : Linked far near going coming :=
  ⟨linked.there, linked.here, fun opened other => (linked.agree other opened).symm⟩

variable {reasons : Reason → Prop} {conn other after : Connection} {frame : Frame}
  {coming going written : List Frame}

/-! ## Frames that count for nothing -/

theorem Safe.cons_inert (safe : conn.Safe coming) (inert : frame.Inert) :
    conn.Safe (frame :: coming) where
  data := by
    rw [charged_cons, inert.charge, Nat.zero_add]
    exact safe.data
  covered before later rest split charge balance held := by
    rcases cons_eq_append_iff.mp split with ⟨rfl, same⟩ | ⟨gap, rfl, cut⟩
    · cases same
      rw [inert.charge] at charge
      cases charge
    · have fits := safe.covered gap later rest cut charge balance held
      have light := frame.charge_le later.stream
      rw [inert.charge] at light
      rw [chargedOn_cons, acks_cons, inert.ack, if_neg Bool.false_ne_true, Nat.zero_add]
      omega
  credit := by
    rw [granted_cons, inert.grant, Nat.zero_add]
    exact safe.credit
  streamCredit id balance held := by
    rw [granted_cons, inert.grant, Nat.zero_add]
    exact safe.streamCredit id balance held
  settings := by
    rw [announcements, filterMap_cons_none inert.announced]
    exact safe.settings
  due := by
    rw [acks_cons, inert.ack, if_neg Bool.false_ne_true, Nat.zero_add]
    exact safe.due

theorem Agrees.cons_inert (agrees : Agrees other conn coming going) (inert : frame.Inert) :
    Agrees other conn (frame :: coming) going := by
  have light : ∀ id, frame.charge id = 0 := fun id =>
    Nat.le_zero.mp (inert.charge ▸ frame.charge_le id)
  have same : acks (frame :: coming) = acks coming := by
    rw [acks_cons, inert.ack, if_neg Bool.false_ne_true, Nat.zero_add]
  refine ⟨?_, ?_, ?_, ?_⟩
  · rw [charged_cons, inert.charge, Nat.zero_add]
    exact agrees.connection
  · intro id received left held spent
    rw [chargedOn_cons, light, Nat.zero_add]
    exact agrees.stream id received left held spent
  · rw [same]
    exact agrees.settings
  · rw [same]
    exact agrees.announced

theorem Agrees.cons_inert_returned (agrees : Agrees conn other going coming)
    (inert : frame.Inert) : Agrees conn other going (frame :: coming) where
  connection := by
    rw [granted_cons, inert.grant, Nat.zero_add]
    exact agrees.connection
  stream id received left held spent := by
    rw [granted_cons, inert.grant, Nat.zero_add]
    exact agrees.stream id received left held spent
  settings := agrees.settings
  announced := by
    rw [announcements, filterMap_cons_none inert.announced]
    exact agrees.announced

theorem Balanced.handled (balanced : Balanced reasons conn written after) (sound : after.Sound)
    (inert : frame.Inert) : Handled reasons conn frame written after := by
  have light : ∀ id, frame.charge id = 0 := fun id =>
    Nat.le_zero.mp (inert.charge ▸ frame.charge_le id)
  constructor
  · exact sound
  · rw [Frame.answer_of_silent inert.announced]
    exact balanced.queued
  · exact balanced.closed
  · exact balanced.idle
  · rw [heard_of_silent _ inert.ack inert.announced]
    exact balanced.exchange
  · have := balanced.sendConnection
    have := inert.grant 0
    omega
  · have := balanced.receiveConnection
    have := inert.charge
    omega
  · intro id balance _ held
    have := inert.grant id
    rw [balanced.sendStream id balance held, Option.some.injEq]
    omega
  · intro id balance stands held
    have := light id
    rw [balanced.receiveStream id balance stands held, Option.some.injEq]
    omega
  · exact balanced.settings
  · intro before later rest split charge
    obtain ⟨balance, held, fits⟩ := balanced.covered before later rest split charge
    rw [← balanced.exchange] at fits
    exact ⟨balance, held, by omega⟩
  · intro id stands some
    obtain ⟨balance, held, room⟩ := balanced.grants id stands some
    exact ⟨balance, held, by omega⟩
  · exact balanced.given

/-! ## An end that handles the next frame -/

theorem Safe.ack_due (safe : conn.Safe (frame :: coming)) :
    frame.isAck = true → conn.exchange.outstanding ≠ [] := by
  intro ack none
  have due := safe.due
  rw [acks_cons, if_pos ack, none, length_nil] at due
  omega

theorem Safe.handled (safe : conn.Safe (frame :: coming))
    (handled : Handled reasons conn frame written after) : after.Safe coming where
  data := by
    have fits := safe.data
    have moved := handled.receiveConnection
    rw [charged_cons] at fits
    omega
  covered before later rest split charge balance held := by
    have stands := handled.sound.ne_zero_of_receiveBalance held
    have earlier := handled.receiveStream _ balance stands held
    -- what the frame takes from the balance it no longer has ahead of the later ones
    have fits := safe.covered (frame :: before) later rest (by rw [split]; rfl) charge _ earlier
    rw [← ownAfter_heard safe.ack_due, ← handled.exchange, chargedOn_cons] at fits
    omega
  credit := by
    have fits := safe.credit
    have moved := handled.sendConnection
    rw [granted_cons] at fits
    omega
  streamCredit id balance held := by
    have stands := handled.sound.ne_zero_of_sendBalance held
    have fits := safe.streamCredit id _ (handled.sendStream id balance stands held)
    rw [granted_cons] at fits
    omega
  settings parameters member := by
    have member : parameters ∈ announcements (frame :: coming) := by
      rw [show frame :: coming = [frame] ++ coming from rfl, announcements_append]
      exact mem_append_right _ member
    exact safe.settings parameters member
  due := by
    have due := safe.due
    rw [acks_cons] at due
    rw [handled.exchange]
    rcases heard_cases safe.ack_due with ⟨other, heard⟩ | ⟨_, _, ack, -, waiting, heard⟩
    · simp only [heard]
      omega
    · rw [if_pos ack, waiting, length_cons] at due
      simp only [heard]
      omega

theorem Agrees.receiver_handled (agrees : Agrees other conn (frame :: coming) going)
    (safe : conn.Safe (frame :: coming)) (handled : Handled reasons conn frame written after) :
    Agrees other after coming (going ++ (frame.answer ++ written)) where
  connection := by
    have before := agrees.connection
    have moved := handled.receiveConnection
    rw [charged_cons] at before
    simp only [granted_append, Frame.granted_answer]
    omega
  stream id received left held spent := by
    have stands := handled.sound.ne_zero_of_receiveBalance held
    have before := agrees.stream id _ left (handled.receiveStream id received stands held) spent
    rw [chargedOn_cons] at before
    simp only [granted_append, Frame.granted_answer]
    omega
  settings := by
    rw [handled.exchange, ownAfter_heard safe.ack_due]
    exact agrees.settings
  announced := by
    rw [handled.exchange, drop_heard safe.ack_due, ← agrees.announced]
    simp [announcements_of_silent handled.settings]

theorem Agrees.answered (agrees : Agrees conn other going (frame :: coming))
    (valid : other.exchange.Sound) :
    acks (going ++ frame.answer) ≤ max (acks going) other.exchange.outstanding.length ∧
    conn.exchange.peer.learn frame = other.exchange.ownAfter (acks (going ++ frame.answer)) ∧
    announcements coming = (other.exchange.outstanding.drop (acks (going ++ frame.answer))).map
      fun batch => wireForm batch.changes := by
  rcases frame.silent_or_announces with silent | ⟨parameters, rfl⟩
  · have announced := agrees.announced
    rw [announcements, filterMap_cons_none silent] at announced
    rw [Frame.answer_of_silent silent, append_nil, Settings.learn_of_silent _ silent]
    exact ⟨by omega, agrees.settings, announced⟩
  · -- announcements arrive in the order in which they wait, so this is the next batch
    obtain ⟨batch, rest, next, form, others⟩ := map_eq_cons_iff.mp agrees.announced.symm
    have member : batch ∈ other.exchange.outstanding :=
      mem_of_mem_drop (next ▸ mem_cons_self)
    have one : acks (going ++ (Frame.settings false parameters).answer) = acks going + 1 :=
      acks_append _ _
    have read : readParameters parameters = .ok batch.changes := by
      rw [← form]
      exact readParameters_wireForm (valid.outstanding batch member)
    have length := congrArg List.length next
    rw [length_drop, length_cons] at length
    rw [one]
    refine ⟨by omega, ?_, ?_⟩
    · rw [ownAfter_succ next, ← agrees.settings]
      simp [Settings.learn, read]
    · rw [← drop_drop, next, drop_succ_cons, drop_zero]
      exact others.symm

theorem Agrees.sender_handled (agrees : Agrees conn other going (frame :: coming))
    (valid : other.exchange.Sound) (handled : Handled reasons conn frame written after) :
    Agrees after other (going ++ (frame.answer ++ written)) coming := by
  obtain ⟨-, learned, announced⟩ := agrees.answered valid
  have same : acks (going ++ (frame.answer ++ written)) = acks (going ++ frame.answer) := by
    simp [acks_of_silent handled.settings]
  refine ⟨?_, ?_, ?_, ?_⟩
  · have before := agrees.connection
    have moved := handled.sendConnection
    rw [granted_cons] at before
    simp only [charged_append, Frame.charged_answer]
    omega
  · intro id received left held spent
    have stands := handled.sound.ne_zero_of_sendBalance spent
    have before := agrees.stream id received _ held (handled.sendStream id left stands spent)
    rw [granted_cons] at before
    simp only [chargedOn_append, Frame.chargedOn_answer]
    omega
  · rw [same, handled.exchange, peer_heard]
    exact learned
  · rw [same]
    exact announced

theorem Safe.answered (safe : other.Safe going) (sound : other.Sound)
    (sends : Agrees conn other going (frame :: coming))
    (receives : Agrees other conn (frame :: coming) going)
    (own : conn.Safe (frame :: coming)) (handled : Handled reasons conn frame written after) :
    other.Safe (going ++ (frame.answer ++ written)) := by
  have sent := sends.sender_handled sound.exchange handled
  have received := receives.receiver_handled own handled
  obtain ⟨due, -, -⟩ := sends.answered sound.exchange
  have quiet := acks_of_silent handled.settings
  refine ⟨?_, ?_, ?_, ?_, ?_, ?_⟩
  · have := sent.connection
    have := handled.sound.send.connection_low
    omega
  · intro before later rest split charge balance held
    rcases split_append split with ⟨more, cut⟩ | ⟨gap, rfl, cut⟩
    · exact safe.covered before later more cut charge balance held
    · rcases split_append cut with ⟨more, first⟩ | ⟨start, rfl, inner⟩
      · have none := frame.charged_answer
        rw [first, charged_append, charged_cons] at none
        omega
      · -- The sender has less than the receiver allows, by what is in flight, and it goes by the
        -- settings that the receiver will have when its acknowledgements have arrived.
        obtain ⟨left, spent, fits⟩ := handled.covered start later rest inner charge
        have books := sends.stream _ balance left held spent
        have silent : acks start = 0 := acks_of_silent fun earlier member =>
          handled.settings earlier (inner ▸ mem_append_left _ member)
        have same : acks (going ++ (frame.answer ++ start)) =
            acks (going ++ (frame.answer ++ written)) := by
          simp [silent, quiet]
        rw [granted_cons] at books
        rw [same, ← sent.settings]
        simp only [chargedOn_append, Frame.chargedOn_answer]
        omega
  · have := received.connection
    have := handled.sound.receive.connection_high
    omega
  · intro id balance held
    have before := safe.streamCredit id balance held
    simp only [granted_append, Frame.granted_answer]
    rcases Nat.eq_zero_or_pos (granted id written) with none | some
    · omega
    · obtain ⟨window, found, room⟩ := handled.grants id (sound.ne_zero_of_sendBalance held) some
      have books := receives.stream id window balance found held
      rw [chargedOn_cons] at books
      omega
  · simpa [announcements_of_silent handled.settings] using safe.settings
  · have := safe.due
    simp only [acks_append, quiet] at due ⊢
    omega

/-! ## An end that says more -/

/-- Frames without data that stay within the send windows of the other end are safe for it. -/
theorem Safe.append (safe : other.Safe going) (unspent : charged written = 0)
    (credit : other.sendWindows.connection + granted 0 (going ++ written) ≤ maxWindow)
    (streamCredit : ∀ id balance, 0 < granted id written → other.sendBalance id = some balance →
      balance + granted id (going ++ written) ≤ 0)
    (settings : ∀ parameters ∈ announcements written,
      ∃ changes, Allowed changes ∧ parameters = wireForm changes)
    (none : acks written = 0) : other.Safe (going ++ written) where
  data := by
    rw [charged_append, unspent]
    exact safe.data
  covered before later rest split charge balance held := by
    rcases split_append split with ⟨more, cut⟩ | ⟨gap, rfl, cut⟩
    · exact safe.covered before later more cut charge balance held
    · rw [cut, charged_append, charged_cons] at unspent
      omega
  credit := credit
  streamCredit id balance held := by
    rcases Nat.eq_zero_or_pos (granted id written) with zero | some
    · rw [granted_append, zero]
      exact safe.streamCredit id balance held
    · exact streamCredit id balance some held
  settings parameters member := by
    rw [announcements_append] at member
    rcases mem_append.mp member with member | member
    · exact safe.settings parameters member
    · exact settings parameters member
  due := by
    rw [acks_append, none]
    exact safe.due

theorem Safe.append_inert (safe : other.Safe going) (inert : ∀ frame ∈ written, frame.Inert) :
    other.Safe (going ++ written) := by
  have nothing : ∀ id, granted id written = 0 := fun id => granted_of_inert inert
  have silent := fun frame member => And.intro (inert frame member).ack
    (inert frame member).announced
  refine safe.append (charged_of_inert inert) ?_ ?_ ?_ (acks_of_silent silent)
  · rw [granted_append, nothing]
    exact safe.credit
  · intro id _ some
    rw [nothing] at some
    cases some
  · rw [announcements_of_silent silent]
    nofun

theorem Safe.broken (safe : other.Safe going) (sound : other.Sound)
    (receives : Agrees other conn (frame :: coming) going) {error : Error}
    (broken : Broken conn frame error written after) (mild : Mild error.reason) :
    other.Safe (going ++ written) := by
  have silent := broken.settings mild
  refine safe.append broken.unspent ?_ ?_ ?_ (acks_of_silent silent)
  · have books := receives.connection
    have room := broken.room
    rw [charged_cons] at books
    rw [granted_append]
    omega
  · intro id balance some held
    obtain ⟨window, found, room⟩ := broken.grants id (sound.ne_zero_of_sendBalance held) some
    have books := receives.stream id window balance found held
    rw [chargedOn_cons] at books
    rw [granted_append]
    omega
  · rw [announcements_of_silent silent]
    nofun

/-! ## An end that announces settings -/

section Announcement

variable {changes : List (Setting × Nat)} {now : Nat}
  (spoken : Announced conn changes now after)

include spoken

theorem Safe.announced (safe : conn.Safe coming) : after.Safe coming where
  data := by
    rw [spoken.receiveConnection]
    exact safe.data
  covered before later rest split charge balance held := by
    rw [spoken.receiveBalance] at held
    have most : acks before ≤ conn.exchange.outstanding.length := by
      have due := safe.due
      rw [split, acks_append] at due
      omega
    rw [spoken.exchange, ownAfter_announced _ most]
    exact safe.covered before later rest split charge balance held
  credit := by
    rw [spoken.sendWindows]
    exact safe.credit
  streamCredit id balance held := by
    rw [spoken.sendBalance] at held
    exact safe.streamCredit id balance held
  settings := safe.settings
  due := by
    rw [spoken.exchange, length_append]
    exact Nat.le_trans safe.due (Nat.le_add_right _ _)

theorem Safe.append_announced (safe : other.Safe going) :
    other.Safe (going ++ [.settings false (wireForm changes)]) := by
  refine safe.append rfl ?_ (fun _ _ some => absurd some (Nat.lt_irrefl 0)) ?_ rfl
  · rw [granted_append]
    exact safe.credit
  · intro parameters member
    cases mem_singleton.mp member
    exact ⟨changes, spoken.allowed, rfl⟩

theorem Agrees.sender_announced (agrees : Agrees conn other going coming) :
    Agrees after other (going ++ [.settings false (wireForm changes)]) coming where
  connection := by
    rw [spoken.sendWindows, charged_append]
    exact agrees.connection
  stream id received left held spent := by
    rw [spoken.sendBalance] at spent
    have none : chargedOn id [.settings false (wireForm changes)] = 0 :=
      Nat.le_zero.mp (chargedOn_le_charged id _)
    rw [chargedOn_append, none]
    exact agrees.stream id received left held spent
  settings := by
    rw [spoken.exchange, acks_append]
    exact agrees.settings
  announced := by
    rw [acks_append]
    exact agrees.announced

theorem Agrees.receiver_announced (agrees : Agrees other conn coming going)
    (safe : conn.Safe coming) :
    Agrees other after coming (going ++ [.settings false (wireForm changes)]) where
  connection := by
    rw [spoken.receiveConnection, granted_append]
    exact agrees.connection
  stream id received left held spent := by
    rw [spoken.receiveBalance] at held
    rw [granted_append]
    exact agrees.stream id received left held spent
  settings := by
    rw [spoken.exchange, ownAfter_announced _ safe.due]
    exact agrees.settings
  announced := by
    rw [spoken.exchange, drop_append_of_le_length safe.due, map_append,
      announcements_append, agrees.announced]
    rfl

end Announcement

/-! ## No breach -/

theorem Safe.not_breaches (safe : conn.Safe (frame :: coming)) (sound : conn.Sound) :
    ¬conn.Breaches frame := by
  intro breach
  cases breach with
  | overspent data excess =>
    have fits := safe.data
    rw [charged_cons] at fits
    omega
  | malformed fault =>
    obtain ⟨changes, allowed, rfl⟩ := safe.settings _ mem_cons_self
    rw [readParameters_wireForm allowed] at fault
    cases fault
  | outgrown read held large =>
    have low := safe.streamCredit _ _ (balanceIn_of_window held)
    have allowed := allowed_of_readParameters read
    have high := (sound.exchange.peer.apply allowed).initialWindowSize_le
    have initial := sound.sendInitial
    omega
  | @creditOverflow increment large =>
    have fits := safe.credit
    have entry : (Frame.windowUpdate 0 increment).grant 0 = increment := rfl
    rw [granted_cons, entry] at fits
    omega

/-! ## Every kind of work -/

/-- An end has worked, `coming` is left to come to it, and everything still holds of the two. -/
structure Worked (reasons : Reason → Prop) (conn other : Connection) (coming going : List Frame)
    (written : List Frame) (after : Connection) : Prop where
  queued : after.queued = conn.queued ++ written
  linked : Linked after other coming (going ++ written)
  given : ∀ frame ∈ written, ∀ reason, frame.reason? = some reason → reasons reason

theorem Worked.mono {others : Reason → Prop}
    (worked : Worked reasons conn other coming going written after)
    (weaker : ∀ reason, reasons reason → others reason) :
    Worked others conn other coming going written after :=
  { worked with
    given := fun frame member reason h => weaker reason (worked.given frame member reason h) }

theorem Linked.handled (linked : Linked conn other (frame :: coming) going)
    (opened : conn.closed = false) (handled : Handled reasons conn frame written after) :
    Linked after other coming (going ++ (frame.answer ++ written)) := by
  obtain ⟨-, safe⟩ := linked.here opened
  refine ⟨fun _ => ⟨handled.sound, safe.handled handled⟩, fun there => ?_, fun _ there => ?_⟩
  · obtain ⟨sound, safe'⟩ := linked.there there
    obtain ⟨receives, sends⟩ := linked.agree opened there
    exact ⟨sound, safe'.answered sound sends receives safe handled⟩
  · obtain ⟨sound, -⟩ := linked.there there
    obtain ⟨receives, sends⟩ := linked.agree opened there
    exact ⟨receives.receiver_handled safe handled, sends.sender_handled sound.exchange handled⟩

section

variable (linked : Linked conn other coming going)

include linked

theorem Linked.cons_inert (inert : frame.Inert) : Linked conn other (frame :: coming) going where
  here opened := ⟨(linked.here opened).1, (linked.here opened).2.cons_inert inert⟩
  there := linked.there
  agree opened there :=
    ⟨(linked.agree opened there).1.cons_inert inert,
      (linked.agree opened there).2.cons_inert_returned inert⟩

theorem Linked.shut (closed : after.closed) (rest : List Frame) :
    Linked after other rest going where
  here opened := absurd opened (by simp [closed])
  there := linked.there
  agree opened := absurd opened (by simp [closed])

theorem Linked.announced {changes : List (Setting × Nat)} {now : Nat} (opened : conn.closed = false)
    (spoken : Announced conn changes now after) :
    Linked after other coming (going ++ [.settings false (wireForm changes)]) := by
  obtain ⟨-, safe⟩ := linked.here opened
  refine ⟨fun _ => ⟨spoken.sound, safe.announced spoken⟩, fun there => ?_, fun _ there => ?_⟩
  · obtain ⟨sound, safe'⟩ := linked.there there
    exact ⟨sound, safe'.append_announced spoken⟩
  · obtain ⟨receives, sends⟩ := linked.agree opened there
    exact ⟨receives.receiver_announced spoken safe, sends.sender_announced spoken⟩

theorem Linked.ended {reason : Reason} (ended : Ended reason conn written after) :
    Linked after other coming (going ++ written) where
  here opened := absurd opened (by simp [ended.closed])
  there there := by
    obtain ⟨sound, safe⟩ := linked.there there
    exact ⟨sound, safe.append_inert fun frame member => .of_control (ended.control frame member).1⟩
  agree opened := absurd opened (by simp [ended.closed])

theorem Linked.taken (outbound : List Outgoing)
    (events : List Event) : Linked { conn with outbound, events } other coming going where
  here opened := by
    obtain ⟨sound, safe⟩ := linked.here opened
    exact ⟨sound.congr rfl rfl rfl rfl rfl rfl, safe.data, safe.covered, safe.credit,
      safe.streamCredit, safe.settings, safe.due⟩
  there := linked.there
  agree opened there := by
    obtain ⟨receives, sends⟩ := linked.agree opened there
    exact ⟨⟨receives.connection, receives.stream, receives.settings, receives.announced⟩,
      ⟨sends.connection, sends.stream, sends.settings, sends.announced⟩⟩

theorem Worked.told (events : List Event) :
    Worked reasons conn other coming going [] { conn with events } where
  queued := (append_nil _).symm
  linked := by
    rw [append_nil]
    exact linked.taken conn.outbound events
  given := nofun

theorem Worked.nothing : Worked reasons conn other coming going [] conn := told linked conn.events

theorem Linked.called (call : Call) :
    ∃ written, Worked call.Gives conn other coming going written (conn.called call) := by
  cases opened : conn.closed with
  | true =>
    obtain ⟨closed, queued⟩ := called_closed opened call
    refine ⟨[], ?_, ?_, nofun⟩
    · rw [queued, append_nil]
    · rw [append_nil]
      exact linked.shut closed coming
  | false =>
    obtain ⟨sound, -⟩ := linked.here opened
    rcases called_cases sound call with ⟨written, balanced, after⟩ | ⟨changes, now, spoken⟩
    · -- an empty frame stands in for the one that the work would answer
      have inert := Frame.Inert.of_empty 0 false
      exact ⟨written, balanced.queued,
        (linked.cons_inert inert).handled opened (balanced.handled after inert), balanced.given⟩
    · refine ⟨_, spoken.queued, linked.announced opened spoken, ?_⟩
      intro frame member reason h
      cases mem_singleton.mp member
      cases h

/-- Ending the session is the same to the other end however it comes about. -/
theorem Linked.finish {reason : Reason} (still : conn.closed → after = conn)
    (ends : conn.closed = false → ∃ written, Ended reason conn written after) :
    ∃ written, Worked (· = reason) conn other coming going written after := by
  cases opened : conn.closed with
  | true =>
    rw [still opened]
    exact ⟨[], .nothing linked⟩
  | false =>
    obtain ⟨written, ended⟩ := ends opened
    exact ⟨written, ended.queued, linked.ended ended,
      fun frame member => (ended.control frame member).2⟩

theorem Linked.fail (error : Error) :
    ∃ written, Worked (· = error.reason) conn other coming going written (conn.fail error) := by
  refine linked.finish (fun closed => ?_) fun opened => fail_ended opened error
  unfold Connection.fail
  rw [if_pos closed]

theorem Linked.close :
    ∃ written, Worked (· = .noError) conn other coming going written conn.close := by
  refine linked.finish (fun closed => ?_) close_ended
  unfold Connection.close
  rw [if_pos closed]

end

theorem Linked.handle (linked : Linked conn other (frame :: coming) going)
    (opened : conn.closed = false) :
    ∃ written, Worked (conn.Answers frame) conn other coming going written (conn.handle frame) := by
  obtain ⟨sound, safe⟩ := linked.here opened
  rcases handle_cases sound frame with ⟨written, handled⟩ | ⟨error, middle, written,
    -, -, failed, broken⟩
  · refine ⟨_, handled.queued, linked.handled opened handled, ?_⟩
    intro later member reason h
    rcases mem_append.mp member with member | member
    · rw [Frame.reason?_of_mem_answer member] at h
      cases h
    · exact handled.given later member reason h
  · have mild := broken.answers.resolve_right (safe.not_breaches sound)
    obtain ⟨farewell, ended⟩ := fail_ended (broken.closed.trans opened) error
    rw [failed]
    refine ⟨written ++ farewell, ?_, ?_, ?_⟩
    · rw [ended.queued, broken.queued, append_assoc]
    · refine ⟨fun still => absurd still (by simp [ended.closed]), fun there => ?_,
        fun still => absurd still (by simp [ended.closed])⟩
      obtain ⟨sound', safe'⟩ := linked.there there
      obtain ⟨receives, -⟩ := linked.agree opened there
      have extended := safe'.broken sound' receives broken mild
      rw [← append_assoc]
      exact ⟨sound', extended.append_inert fun frame member =>
        .of_control (ended.control frame member).1⟩
    · intro later member reason h
      rcases mem_append.mp member with member | member
      · exact .inl (broken.given later member reason h)
      · rw [(ended.control later member).2 reason h]
        exact .inl mild

end Connection

end Http2
