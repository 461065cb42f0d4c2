import Http2.Proofs.Receipt

/-!
# Frames in the books

`handle` is what a session does with one frame: it applies it, resets the stream at fault or ends
the session.  `Handled` is what this does to the books while the session lasts.  The frame is
entered once and in full, and what is written in answer is entered as it is for any stretch of work,
after the acknowledgement that SETTINGS call for.  `Broken` is what is known of a session that ends.
-/

namespace Http2

open List

variable {frame : Frame}

def Frame.answer : Frame → List Frame
  | settings false _ => [settings true []]
  | _ => []

def Settings.learn (settings : Settings) : Frame → Settings
  | .settings false parameters =>
    match Exchange.readParameters parameters with
    | .error _ => settings
    | .ok changes => settings.apply changes
  | _ => settings

def Exchange.heard (exchange : Exchange) : Frame → Exchange
  | .settings true _ =>
    match exchange.outstanding with
    | [] => exchange
    | batch :: rest =>
      { exchange with own := exchange.own.apply batch.changes, outstanding := rest }
  | frame => { exchange with peer := exchange.peer.learn frame }

theorem Frame.answer_of_silent (silent : frame.announced? = none) : frame.answer = [] := by
  unfold Frame.answer
  split
  · cases silent
  · rfl

theorem Settings.learn_of_silent (settings : Settings) (silent : frame.announced? = none) :
    settings.learn frame = settings := by
  unfold learn
  split
  · cases silent
  · rfl

theorem Exchange.heard_of_silent (exchange : Exchange) (ack : frame.isAck = false)
    (silent : frame.announced? = none) : exchange.heard frame = exchange := by
  unfold heard
  split
  · cases ack
  · rw [Settings.learn_of_silent _ silent]

theorem Exchange.peer_heard (exchange : Exchange) (frame : Frame) :
    (exchange.heard frame).peer = exchange.peer.learn frame := by
  unfold heard
  split
  · split <;> rfl
  · rfl

namespace Connection

def handle (conn : Connection) (frame : Frame) : Connection :=
  match (receiveFrame frame).run conn with
  | .ok _ after => after
  | .error error after => if error.isFatal then after.fail error else after.absorb error

/-- The frames for which a connection ends the session with a complaint about flow control. -/
inductive Breaches (conn : Connection) : Frame → Prop
  | overspent {frame : Frame} (data : frame.kind? = some .data)
      (excess : conn.receiveWindows.connection < frame.chargedLength) :
      Breaches conn frame
  | malformed {parameters : List (Nat × Nat)} {error : Error}
      (fault : Exchange.readParameters parameters = .error error) :
      Breaches conn (.settings false parameters)
  | outgrown {parameters : List (Nat × Nat)} {changes : List (Setting × Nat)} {id : Nat}
      {window : Int} (read : Exchange.readParameters parameters = .ok changes)
      (held : conn.sendWindows.stream? id = some window)
      (large : maxWindow < window + ((conn.exchange.peer.apply changes).initialWindowSize -
          conn.exchange.peer.initialWindowSize)) :
      Breaches conn (.settings false parameters)
  | creditOverflow {increment : Nat} (large : maxWindow < conn.sendWindows.connection + increment) :
      Breaches conn (.windowUpdate 0 increment)

/-- The frames for which a connection resets a stream with a complaint about flow control. -/
inductive Accuses (conn : Connection) : Frame → Prop
  | overdrawn {frame : Frame} {stream : Stream} {window : Int} (data : frame.kind? = some .data)
      (held : conn.registry.get? frame.stream = some stream) (receives : stream.phase.canReceive)
      (found : conn.receiveWindows.stream? frame.stream = some window)
      (short : window < frame.chargedLength) :
      Accuses conn frame
  | streamOverflow {id increment : Nat} {window : Int} (stands : id ≠ 0)
      (held : conn.sendWindows.stream? id = some window) (large : maxWindow < window + increment) :
      Accuses conn (.windowUpdate id increment)

def Answers (conn : Connection) (frame : Frame) (reason : Reason) : Prop :=
  Mild reason ∨ conn.Accuses frame

structure Handled (reasons : Reason → Prop) (conn : Connection) (frame : Frame)
    (written : List Frame) (after : Connection) : Prop where
  sound : after.Sound
  queued : after.queued = conn.queued ++ (frame.answer ++ written)
  closed : after.closed = conn.closed
  idle : ∀ id, after.registry.isIdle id → conn.registry.isIdle id
  exchange : after.exchange = conn.exchange.heard frame
  sendConnection : after.sendWindows.connection + charged written =
    conn.sendWindows.connection + frame.grant 0
  receiveConnection : after.receiveWindows.connection + frame.chargedLength =
    conn.receiveWindows.connection + granted 0 written
  sendStream : ∀ id balance, id ≠ 0 → after.sendBalance id = some balance →
    conn.sendBalance id = some (balance + chargedOn id written - frame.grant id)
  receiveStream : ∀ id balance, id ≠ 0 → after.receiveBalance id = some balance →
    conn.receiveBalance id = some (balance + frame.charge id - granted id written)
  settings : ∀ other ∈ written, other.isAck = false ∧ other.announced? = none
  covered : ∀ before other rest, written = before ++ other :: rest → 0 < other.chargedLength →
    ∃ balance, conn.sendBalance other.stream = some balance ∧
      other.chargedLength + chargedOn other.stream before ≤
        balance + frame.grant other.stream + after.exchange.peer.initialWindowSize
  grants : ∀ id, id ≠ 0 → 0 < granted id written → ∃ balance, conn.receiveBalance id =
    some balance ∧
      balance + granted id written ≤ frame.charge id
  given : ∀ other ∈ written, ∀ reason, other.reason? = some reason → reasons reason

/-- The frame has been entered and nothing else has happened yet.  On a stream that is `lost` the
entry may be missing, since it will make no difference. -/
structure Entered (lost : Option Nat) (conn : Connection) (frame : Frame)
    (after : Connection) : Prop where
  sound : after.Sound
  queued : after.queued = conn.queued ++ frame.answer
  closed : after.closed = conn.closed
  idle : ∀ id, after.registry.isIdle id → conn.registry.isIdle id
  exchange : after.exchange = conn.exchange.heard frame
  sendConnection : after.sendWindows.connection = conn.sendWindows.connection + frame.grant 0
  receiveConnection : after.receiveWindows.connection + frame.chargedLength =
    conn.receiveWindows.connection
  sendStream : ∀ id balance, id ≠ 0 → after.sendBalance id = some balance →
    ∃ credit : Nat, conn.sendBalance id = some (balance - credit) ∧
      credit ≤ frame.grant id ∧ (lost ≠ some id → credit = frame.grant id)
  receiveStream : ∀ id balance, id ≠ 0 → after.receiveBalance id = some balance →
    ∃ debit : Nat, conn.receiveBalance id = some (balance + debit) ∧
      debit ≤ frame.charge id ∧ (lost ≠ some id → debit = frame.charge id)

variable {reasons : Reason → Prop} {conn middle after : Connection} {frame : Frame}
  {written : List Frame}
  {id increment : Nat} {lost : Option Nat} {window : Int} {error : Error} {windows : Windows}
  {parameters : List (Nat × Nat)}

/-! ## Streams without a balance -/

variable (sound : conn.Sound)

include sound

theorem Sound.balances_eq_none (closed : conn.registry.cargo? id = none)
    (used : conn.registry.isIdle id = false) :
    conn.sendBalance id = none ∧ conn.receiveBalance id = none := by
  have absent : ∀ windows : Windows,
      (∀ id, (windows.stream? id).isSome = (conn.registry.cargo? id).isSome) →
      balanceIn windows conn.registry id = none := by
    intro windows live
    have window : windows.stream? id = none := by
      have here := live id
      rw [closed] at here
      simpa using here
    rw [balanceIn, Windows.balance?_eq_none_iff.mpr window, used]
    rfl
  exact ⟨absent _ sound.sendLive, absent _ sound.receiveLive⟩

theorem Sound.balances_root : conn.sendBalance 0 = none ∧ conn.receiveBalance 0 = none := by
  refine sound.balances_eq_none (Registry.cargo?_eq_none_of_missing sound.registry.root) ?_
  cases role : conn.registry.role <;>
    simp [Registry.isIdle, Registry.isLocal, Role.initiates, role]

theorem Sound.ne_zero_of_sendBalance {balance : Int}
    (held : conn.sendBalance id = some balance) : id ≠ 0 := by
  rintro rfl
  rw [sound.balances_root.1] at held
  cases held

theorem Sound.ne_zero_of_receiveBalance {balance : Int}
    (held : conn.receiveBalance id = some balance) : id ≠ 0 := by
  rintro rfl
  rw [sound.balances_root.2] at held
  cases held

theorem Sound.balances_resetFaulty (reason : Reason) (known : (conn.registry.get? id).isSome) :
    (conn.resetFaulty id reason).sendBalance id = none ∧
      (conn.resetFaulty id reason).receiveBalance id = none := by
  obtain ⟨stream, held⟩ := Option.isSome_iff_exists.mp known
  have used := sound.registry.used held
  unfold resetFaulty
  rw [held]
  simp only
  split
  · rename_i live
    have dropped : (conn.resetStream id reason true).Sound := sound.drop
    have registry : (conn.resetStream id reason true).registry =
        (((conn.registry.insert id (stream.reset reason)).detachChildren id).markClosed id).2 := by
      unfold resetStream dropStream
      rw [held]
      simp only [live, if_true]
      cases stream.hasOutbound <;> rfl
    refine dropped.balances_eq_none ?_ ?_
    · rw [registry, sound.registry.cargo?_finish rfl, if_pos rfl]
    · rw [registry]
      exact used
  · rename_i dead
    exact sound.balances_eq_none (Registry.cargo?_eq_none_of_closed held (by simpa using dead)) used

theorem Sound.balances_overflowed {reason : Reason}
    (held : conn.sendWindows.stream? id = some window) :
    (conn.resetFaulty id reason).sendBalance id = none ∧
      (conn.resetFaulty id reason).receiveBalance id = none := by
  have live : (conn.registry.cargo? id).isSome := by
    rw [← sound.sendLive, held]
    rfl
  obtain ⟨cargo, present⟩ := Option.isSome_iff_exists.mp live
  obtain ⟨stream, found, -, -⟩ := Registry.cargo?_eq_some_iff.mp present
  exact sound.balances_resetFaulty reason (by simp [found])

omit sound

/-! ## From the entry to the end -/

theorem Entered.handled (entered : Entered lost conn frame middle)
    (balanced : Balanced reasons middle written after) (sound : after.Sound)
    (gone : ∀ id, lost = some id → after.sendBalance id = none ∧ after.receiveBalance id = none) :
    Handled reasons conn frame written after := by
  have kept : ∀ id balance, after.sendBalance id = some balance ∨
      after.receiveBalance id = some balance → lost ≠ some id := by
    rintro id balance (h | h) here
    · rw [(gone id here).1] at h
      cases h
    · rw [(gone id here).2] at h
      cases h
  constructor
  · exact sound
  · rw [balanced.queued, entered.queued, append_assoc]
  · exact balanced.closed.trans entered.closed
  · exact fun id unused => entered.idle id (balanced.idle id unused)
  · exact balanced.exchange.trans entered.exchange
  · exact balanced.sendConnection.trans entered.sendConnection
  · have := balanced.receiveConnection
    have := entered.receiveConnection
    omega
  · intro id balance stands h
    obtain ⟨credit, held, -, exactly⟩ :=
      entered.sendStream id _ stands (balanced.sendStream id balance h)
    rw [held, exactly (kept id balance (.inl h))]
  · intro id balance stands h
    obtain ⟨debit, held, -, exactly⟩ :=
      entered.receiveStream id _ stands (balanced.receiveStream id balance stands h)
    rw [held, exactly (kept id balance (.inr h)), Option.some.injEq]
    omega
  · exact balanced.settings
  · intro before other rest split charge
    obtain ⟨balance, held, fits⟩ := balanced.covered before other rest split charge
    have stands := entered.sound.ne_zero_of_sendBalance held
    obtain ⟨credit, found, most, -⟩ := entered.sendStream _ balance stands held
    rw [← balanced.exchange] at fits
    exact ⟨_, found, by omega⟩
  · intro id stands some
    obtain ⟨balance, held, room⟩ := balanced.grants id stands some
    obtain ⟨debit, found, most, -⟩ := entered.receiveStream id balance stands held
    exact ⟨_, found, by omega⟩
  · exact balanced.given

theorem Entered.handled_moves (entered : Entered none conn frame middle)
    (moves : Moves reasons middle after) : ∃ written, Handled reasons conn frame written after := by
  obtain ⟨written, balanced⟩ := Balanced.of_moves entered.sound moves
  exact ⟨written, entered.handled balanced (entered.sound.moves moves) nofun⟩

theorem absorb_calms (given : reasons error.reason) : Calms reasons conn (conn.absorb error) := by
  refine holds_absorb .refl (fun _ => .single (.drop conn _ _ fun _ => given)) fun _ => ?_
  refine .single (.write conn (.of_control rfl) ?_)
  rintro _ ⟨⟩
  exact given

theorem Entered.absorbed (entered : Entered lost conn frame middle)
    (calms : Calms Mild middle after)
    (given : conn.Answers frame error.reason) (gone : ∀ id, lost = some id →
      (after.absorb error).sendBalance id = none ∧ (after.absorb error).receiveBalance id = none) :
    ∃ written, Handled (conn.Answers frame) conn frame written (after.absorb error) := by
  have sound := entered.sound.calms calms
  have reset : Calms (conn.Answers frame) after (after.absorb error) := absorb_calms given
  obtain ⟨first, h₁⟩ := Balanced.of_moves entered.sound calms.moves
  obtain ⟨second, h₂⟩ := Balanced.of_moves sound reset.moves
  have balanced := (h₁.mono fun _ => Or.inl).trans h₂
  exact ⟨first ++ second, entered.handled balanced (sound.calms reset) gone⟩

/-! ## Entering frames -/

theorem grant_of_ne {other : Nat} (differ : id ≠ other) :
    (Frame.windowUpdate id increment).grant other = 0 := if_neg differ

private theorem entered_data {octets : Octets} {endStream : Bool} {padding : Option UInt8}
    (sound : { conn with receiveWindows := windows }.Sound)
    (total : windows.connection + (Frame.data id octets endStream padding).chargedLength =
      conn.receiveWindows.connection)
    (streams : ∀ other balance, balanceIn windows conn.registry other = some balance →
      ∃ debit : Nat, conn.receiveBalance other = some (balance + debit) ∧
        debit ≤ (Frame.data id octets endStream padding).charge other ∧
        (lost ≠ some other → debit = (Frame.data id octets endStream padding).charge other)) :
    Entered lost conn (.data id octets endStream padding)
      { conn with receiveWindows := windows } where
  sound := sound
  queued := (append_nil _).symm
  closed := rfl
  idle _ unused := unused
  exchange := rfl
  sendConnection := (Int.add_zero _).symm
  receiveConnection := total
  sendStream _ balance _ h :=
    ⟨0, h.trans (congrArg some (Int.sub_zero balance).symm), Nat.le_refl _, fun _ => rfl⟩
  receiveStream other balance _ h := streams other balance h

private theorem entered_credit (sound : { conn with sendWindows := windows }.Sound)
    (total : windows.connection =
      conn.sendWindows.connection + (Frame.windowUpdate id increment).grant 0)
    (streams : ∀ other balance, other ≠ 0 → balanceIn windows conn.registry other = some balance →
      conn.sendBalance other =
        some (balance - (Frame.windowUpdate id increment).grant other)) :
    Entered none conn (.windowUpdate id increment)
      { conn with sendWindows := windows } where
  sound := sound
  queued := (append_nil _).symm
  closed := rfl
  idle _ unused := unused
  exchange := rfl
  sendConnection := total
  receiveConnection := Int.add_zero _
  sendStream other balance stands h :=
    ⟨_, streams other balance stands h, Nat.le_refl _, fun _ => rfl⟩
  receiveStream _ balance _ h :=
    ⟨0, h.trans (congrArg some (Int.add_zero balance).symm), Nat.zero_le _,
      fun _ => (ite_self 0).symm⟩

theorem exists_data (data : frame.kind? = some .data) :
    ∃ octets endStream padding, frame = .data frame.stream octets endStream padding := by
  cases frame <;> first | exact ⟨_, _, _, rfl⟩ | cases data

include sound

theorem Entered.nothing (charge : frame.chargedLength = 0)
    (ack : frame.isAck = false) (silent : frame.announced? = none) (grant : frame.grant 0 = 0)
    (grants : ∀ id balance, conn.sendBalance id = some balance → lost ≠ some id →
      frame.grant id = 0) :
    Entered lost conn frame conn where
  sound := sound
  queued := by rw [Frame.answer_of_silent silent, append_nil]
  closed := rfl
  idle _ unused := unused
  exchange := (Exchange.heard_of_silent _ ack silent).symm
  sendConnection := by rw [grant]; exact (Int.add_zero _).symm
  receiveConnection := by rw [charge]; exact Int.add_zero _
  sendStream id balance _ h :=
    ⟨0, by simpa using h, Nat.zero_le _, fun kept => (grants id balance h kept).symm⟩
  receiveStream id balance _ h := by
    have := frame.charge_le id
    exact ⟨0, by simpa using h, Nat.zero_le _, fun _ => by omega⟩

private theorem entered_control (control : frame.isControl) : Entered none conn frame conn := by
  have inert := Frame.Inert.of_control control
  exact .nothing sound inert.charge inert.ack inert.announced (inert.grant 0) fun id _ _ _ =>
    inert.grant id

private theorem entered_drawn (data : frame.kind? = some .data)
    (fits : frame.chargedLength ≤ conn.receiveWindows.connection) :
    Entered (some frame.stream) conn frame (conn.drawn frame.chargedLength) := by
  obtain ⟨octets, endStream, padding, shape⟩ := exists_data data
  have drawn := sound.drawn fits
  rw [shape] at fits drawn ⊢
  refine entered_data drawn (Int.sub_add_cancel _ _) fun other balance h => ?_
  refine ⟨0, h.trans (congrArg some (Int.add_zero balance).symm), Nat.zero_le _, fun kept => ?_⟩
  exact (if_neg fun same => kept (congrArg some same)).symm

private theorem entered_drawnOn (data : frame.kind? = some .data)
    (fits : frame.chargedLength ≤ conn.receiveWindows.connection)
    (found : conn.receiveWindows.stream? frame.stream = some window)
    (covered : frame.chargedLength ≤ window) :
    Entered none conn frame (conn.drawnOn frame.stream frame.chargedLength window) := by
  obtain ⟨octets, endStream, padding, shape⟩ := exists_data data
  have drawn := sound.drawnOn fits found covered
  generalize frame.stream = id at *
  subst shape
  generalize count_eq : (Frame.data id octets endStream padding).chargedLength = count at *
  refine entered_data drawn (by rw [count_eq]; exact Int.sub_add_cancel _ _) fun other balance h =>
    ?_
  have streams : ∀ other, (conn.drawnOn id count window).receiveWindows.stream? other =
      if id = other then some (window + -count) else conn.receiveWindows.stream? other :=
    fun other => IdMap.get?_insert _ _ _ _
  have initial : (conn.drawnOn id count window).receiveWindows.initial =
      conn.receiveWindows.initial := rfl
  have before := balanceIn_moved initial found streams h
  refine ⟨(Frame.data id octets endStream padding).charge other, ?_, Nat.le_refl _, fun _ => rfl⟩
  rw [receiveBalance, before, Frame.charge, count_eq, Option.some.injEq]
  change balance - _ = balance + ((if id = other then count else 0 : Nat) : Int)
  split <;> simp

private theorem entered_acknowledged {batch : Batch} {rest : List Batch}
    (due : conn.exchange.outstanding = batch :: rest) (synced : Synced { conn with
      exchange := { conn.exchange with
        own := conn.exchange.own.apply batch.changes, outstanding := rest } } middle) :
    Entered none conn (.settings true parameters) middle := by
  have allowed := sound.exchange.outstanding
  rw [due] at allowed
  have valid : ({ conn.exchange with
      own := conn.exchange.own.apply batch.changes, outstanding := rest } : Exchange).Sound :=
    ⟨sound.exchange.own.apply (allowed batch mem_cons_self), sound.exchange.peer,
      fun other member => allowed other (mem_cons_of_mem _ member), sound.exchange.staged⟩
  have after := sound.sync valid rfl synced
  obtain ⟨windows, shifted, rfl⟩ := synced
  constructor
  · exact after
  · exact (append_nil _).symm
  · rfl
  · exact fun _ unused => unused
  · simp only [Exchange.heard, due]
  · exact (Int.add_zero _).symm
  · exact (Int.add_zero _).trans shifted.connection
  · intro id balance _ h
    exact ⟨0, h.trans (congrArg some (Int.sub_zero balance).symm), Nat.le_refl _, fun _ => rfl⟩
  · intro id balance _ h
    refine ⟨0, ?_, Nat.zero_le _, fun _ => (ite_self 0).symm⟩
    change balanceIn windows conn.registry id = some balance at h
    rw [receiveBalance, balanceIn, ← shifted.balance?]
    exact h.trans (congrArg some (Int.add_zero balance).symm)

theorem entered_settings {changes : List (Setting × Nat)}
    (read : Exchange.readParameters parameters = .ok changes) (shifted : conn.sendWindows.Shifted
      (conn.exchange.peer.apply changes).initialWindowSize windows) :
    Entered none conn (.settings false parameters)
      { conn.write (.settings true []) with
        exchange := { conn.exchange with peer := conn.exchange.peer.apply changes }
        sendWindows := windows } := by
  have valid := sound.exchange.setPeer (Exchange.allowed_of_readParameters read)
  constructor
  · exact
      { sound with
        exchange := valid
        send := shifted.sound
        sendInitial := shifted.initial
        sendLive := fun id => by
          rw [shifted.stream, Option.isSome_map]
          exact sound.sendLive id }
  · exact queued_write conn _
  · rfl
  · exact fun _ unused => unused
  · simp only [Exchange.heard, Settings.learn, read]
  · exact shifted.connection.trans (Int.add_zero _).symm
  · exact Int.add_zero _
  · intro id balance _ h
    refine ⟨0, ?_, Nat.le_refl _, fun _ => rfl⟩
    change balanceIn windows conn.registry id = some balance at h
    rw [sendBalance, balanceIn, ← shifted.balance?]
    exact h.trans (congrArg some (Int.sub_zero balance).symm)
  · intro id balance _ h
    exact ⟨0, h.trans (congrArg some (Int.add_zero balance).symm), Nat.zero_le _,
      fun _ => (ite_self 0).symm⟩

theorem entered_connectionCredit (fits : conn.sendWindows.connection + increment ≤ maxWindow) :
    Entered none conn (.windowUpdate 0 increment)
      { conn with
        sendWindows := { conn.sendWindows with
          connection := conn.sendWindows.connection + increment } } := by
  have low := sound.send.connection_low
  refine entered_credit { sound with send := sound.send.setConnection (by omega) fits } rfl ?_
  intro other balance stands h
  rw [grant_of_ne stands.symm]
  exact h.trans (congrArg some (Int.sub_zero balance).symm)

theorem entered_streamCredit (stands : id ≠ 0)
    (held : conn.sendWindows.stream? id = some window) (fits : window + increment ≤ maxWindow) :
    Entered none conn (.windowUpdate id increment)
      { conn with
        sendWindows := conn.sendWindows.setWindow id (window + increment) } := by
  have streams : ∀ other, (conn.sendWindows.setWindow id (window + increment)).stream? other =
        if id = other then some (window + increment) else conn.sendWindows.stream? other :=
    Windows.stream?_setWindow stands
  have initial : (conn.sendWindows.setWindow id (window + increment)).initial =
      conn.sendWindows.initial := by
    simp [Windows.setWindow, stands]
  refine entered_credit ?_ ?_ ?_
  · refine
      { sound with
        send := sound.send.setWindow stands held (by omega) fits
        sendInitial := initial.trans sound.sendInitial
        sendLive := fun other => ?_ }
    rw [streams, ← sound.sendLive]
    split
    · rename_i same
      rw [← same, held]
      rfl
    · rfl
  · simp [Windows.setWindow, stands, Frame.grant]
  · intro other balance _ h
    have before := balanceIn_moved initial held streams h
    rw [sendBalance, before, Frame.grant]
    split <;> rfl

omit sound

theorem resumeIf_moves (condition : Bool) (conn : Connection) :
    Moves reasons conn (resumeIf condition conn) := by
  cases condition with
  | false => exact .refl
  | true => exact resume_moves conn

theorem creditedOn_moves (conn : Connection) (id increment : Nat) (window : Int) :
    Moves reasons
      { conn with
        sendWindows := conn.sendWindows.setWindow id (window + increment) }
      (creditedOn conn id increment window) := by
  unfold creditedOn
  simp only
  split
  · exact .head (.wait _ _) (flush_flushed _ id).moves
  · exact .refl

/-! ## Frames that leave the session open -/

theorem Receipt.accepted (sound : conn.Sound) (receipt : Receipt conn frame (.ok ()) after) :
    ∃ written, Handled Mild conn frame written after := by
  cases receipt with
  | calm control quiet =>
    exact (entered_control sound control).handled_moves quiet.1.moves
  | taken data fits found covered quiet =>
    exact (entered_drawnOn sound data fits found covered).handled_moves quiet.1.moves
  | acknowledged due synced =>
    exact (entered_acknowledged sound due synced).handled_moves (.single (.calm (.emit _ _)))
  | applied read shifted risen =>
    refine (entered_settings sound read shifted).handled_moves (.tail ?_ (.calm (.emit _ _)))
    exact resumeIf_moves _ _
  | credited positive fits =>
    exact (entered_connectionCredit sound fits).handled_moves (resumeIf_moves _ _)
  | unwanted stands mild closed =>
    obtain ⟨known, gone⟩ := closed rfl
    obtain ⟨stream, held⟩ := Option.isSome_iff_exists.mp known
    have none := sound.balances_eq_none gone (sound.registry.used held)
    refine (Entered.nothing sound rfl rfl rfl (grant_of_ne stands) ?_).handled_moves .refl
    intro id balance h _
    refine if_neg ?_
    rintro rfl
    rw [none.1] at h
    cases h
  | streamCredited stands positive held fits =>
    exact (entered_streamCredit sound stands held fits).handled_moves (creditedOn_moves _ _ _ _)

theorem readParameters_isFatal (h : Exchange.readParameters parameters = .error error) :
    error.isFatal = true := by
  apply Exchange.readParameters_fails h
  exact fun _ _ _ => ⟨rfl, rfl⟩

theorem Receipt.absorbed (sound : conn.Sound) (receipt : Receipt conn frame (.error error) after)
    (harmless : error.isFatal = false) :
    ∃ written, Handled (conn.Answers frame) conn frame written (after.absorb error) := by
  -- data that was not taken is a matter of a stream that is then reset
  have reset : ∀ {reason : Reason}, frame.kind? = some .data →
      frame.chargedLength ≤ conn.receiveWindows.connection →
      (conn.registry.get? frame.stream).isSome → conn.Answers frame reason →
      ∃ written, Handled (conn.Answers frame) conn frame written
        (((conn.drawn frame.chargedLength).refill 0 conn.receiveTarget).absorb
          (.stream frame.stream reason)) := by
    intro reason data fits known given
    have drawn : (conn.drawn frame.chargedLength).Sound := sound.drawn fits
    refine (entered_drawn sound data fits).absorbed (.single (.refill _ (.inl rfl))) given ?_
    rintro id ⟨⟩
    refine (drawn.refill (.inl rfl)).balances_resetFaulty reason ?_
    rw [registry_refill]
    exact known
  cases receipt with
  | calm control quiet =>
    exact (entered_control sound control).absorbed quiet.1 (.inl (quiet.2 error rfl)) nofun
  | refused data fits shut mild known =>
    obtain ⟨rfl, held⟩ := known harmless
    exact reset data fits held (.inl mild)
  | overdrawn data fits held receives found short =>
    exact reset data fits (by simp [held]) (.inr (.overdrawn data held receives found short))
  | taken data fits found covered quiet =>
    exact (entered_drawnOn sound data fits found covered).absorbed quiet.1
      (.inl (quiet.2 error rfl)) nofun
  | malformed fault =>
    rw [readParameters_isFatal fault] at harmless
    cases harmless
  | @unwanted id increment _ stands mild closed =>
    obtain ⟨gentle, nothing⟩ := mild error rfl
    obtain rfl := nothing harmless
    have entered : Entered none conn (.windowUpdate id 0) conn :=
      .nothing sound rfl rfl rfl (grant_of_ne stands) fun _ _ _ _ => ite_self 0
    exact entered.absorbed .refl (.inl gentle) nofun
  | @streamOverflow id increment window stands held large =>
    have entered : Entered (some id) conn (.windowUpdate id increment) conn :=
      .nothing sound rfl rfl rfl (grant_of_ne stands) fun other _ _ kept =>
        grant_of_ne fun same => kept (congrArg some same)
    refine entered.absorbed .refl (.inr (.streamOverflow stands held large)) ?_
    rintro _ ⟨⟩
    exact sound.balances_overflowed held
  | overspent | ackNotDue | outgrown | zeroCredit | creditOverflow => cases harmless

/-! ## Frames that end the session -/

/-- What is known of the state in which a frame has met with a fatal error. -/
structure Broken (conn : Connection) (frame : Frame) (error : Error) (written : List Frame)
    (after : Connection) : Prop where
  queued : after.queued = conn.queued ++ written
  closed : after.closed = conn.closed
  unspent : charged written = 0
  room : conn.receiveWindows.connection + granted 0 written ≤ maxWindow + frame.chargedLength
  grants : ∀ id, id ≠ 0 → 0 < granted id written → ∃ balance, conn.receiveBalance id =
    some balance ∧
      balance + granted id written ≤ frame.charge id
  settings : Mild error.reason → ∀ other ∈ written, other.isAck = false ∧ other.announced? = none
  given : ∀ other ∈ written, ∀ reason, other.reason? = some reason → Mild reason
  answers : Mild error.reason ∨ conn.Breaches frame

theorem Calm.sendConnection (calm : Calm reasons conn after) :
    after.sendWindows.connection = conn.sendWindows.connection := by
  cases calm with
  | drop id error given =>
    rcases dropStream_eq conn id _ _ error with same | ⟨_, _, _, -, -, same⟩ <;> rw [same]
    rfl
  | refill fits =>
    unfold Connection.refill
    split <;> rfl
  | add takes live empty => simp [addStream]
  | _ => rfl

theorem Calms.sendConnection (calms : Calms reasons conn after) :
    after.sendWindows.connection = conn.sendWindows.connection := by
  induction calms with
  | refl => rfl
  | tail _ last ih => exact last.sendConnection.trans ih

theorem Broken.nothing (sound : conn.Sound) (answers : Mild error.reason ∨ conn.Breaches frame) :
    Broken conn frame error [] conn where
  queued := (append_nil _).symm
  closed := rfl
  unspent := rfl
  room := by
    have := sound.receive.connection_high
    simp only [granted_nil]
    omega
  grants _ _ some := absurd some (Nat.lt_irrefl 0)
  settings _ := nofun
  given := nofun
  answers := answers

theorem Entered.broken (entered : Entered lost conn frame middle) (silent : frame.announced? = none)
    (calms : Calms Mild middle after) (mild : Mild error.reason) :
    ∃ written, Broken conn frame error written after := by
  obtain ⟨written, balanced⟩ := Balanced.of_moves entered.sound calms.moves
  have high := (entered.sound.calms calms).receive.connection_high
  have total := balanced.receiveConnection
  have before := entered.receiveConnection
  have spent := balanced.sendConnection
  have same := calms.sendConnection
  refine ⟨written, ?_, ?_, ?_, ?_, ?_, ?_, ?_, ?_⟩
  · rw [balanced.queued, entered.queued, Frame.answer_of_silent silent, append_nil]
  · exact balanced.closed.trans entered.closed
  · omega
  · omega
  · intro id stands some
    obtain ⟨balance, held, room⟩ := balanced.grants id stands some
    obtain ⟨debit, found, most, -⟩ := entered.receiveStream id balance stands held
    exact ⟨_, found, by omega⟩
  · exact fun _ => balanced.settings
  · exact balanced.given
  · exact .inl mild

theorem Receipt.broken (sound : conn.Sound) (receipt : Receipt conn frame (.error error) after)
    (fatal : error.isFatal) : ∃ written, Broken conn frame error written after := by
  have silent : frame.kind? = some .data → frame.announced? = none := by
    intro data
    obtain ⟨_, _, _, shape⟩ := exists_data data
    rw [shape]
    rfl
  cases receipt with
  | calm control quiet =>
    exact (entered_control sound control).broken (Frame.Inert.of_control control).announced quiet.1
      (quiet.2 error rfl)
  | overspent data excess => exact ⟨[], .nothing sound (.inr (.overspent data excess))⟩
  | refused data fits shut mild known =>
    exact (entered_drawn sound data fits).broken (silent data) (.single (.refill _ (.inl rfl))) mild
  | overdrawn => cases fatal
  | taken data fits found covered quiet =>
    exact (entered_drawnOn sound data fits found covered).broken (silent data)
      quiet.1 (quiet.2 error rfl)
  | ackNotDue | zeroCredit => exact ⟨[], .nothing sound (.inl mild_protocolError)⟩
  | malformed fault => exact ⟨[], .nothing sound (.inr (.malformed fault))⟩
  | outgrown read held large =>
    have high := sound.receive.connection_high
    refine ⟨[.settings true []], queued_write conn _, rfl, rfl, ?_, ?_, ?_, ?_, ?_⟩
    · simp only [granted_cons, granted_nil, Frame.grant]
      omega
    · exact fun _ _ some => absurd some (Nat.lt_irrefl 0)
    · exact fun mild => absurd rfl mild
    · intro other member reason h
      cases mem_singleton.mp member
      cases h
    · exact .inr (.outgrown read held large)
  | creditOverflow large => exact ⟨[], .nothing sound (.inr (.creditOverflow large))⟩
  | unwanted stands mild closed => exact ⟨[], .nothing sound (.inl (mild error rfl).1)⟩
  | streamOverflow => cases fatal

/-! ## Every frame -/

theorem handle_of_ok (ran : (receiveFrame frame).run conn = .ok () after) :
    conn.handle frame = after := by
  unfold handle
  rw [ran]

theorem handle_of_error {error : Error} (ran : (receiveFrame frame).run conn = .error error after) :
    conn.handle frame = if error.isFatal then after.fail error else after.absorb error := by
  unfold handle
  rw [ran]

theorem handle_cases (sound : conn.Sound) (frame : Frame) :
    (∃ written, Handled (conn.Answers frame) conn frame written (conn.handle frame)) ∨
    ∃ error middle written, (receiveFrame frame).run conn = .error error middle ∧ error.isFatal ∧
      conn.handle frame = middle.fail error ∧ Broken conn frame error written middle := by
  have leads := receiveFrame_receipt sound frame
  cases ran : (receiveFrame frame).run conn with
  | ok _ middle =>
    obtain ⟨written, handled⟩ := (leads.of_ok ran).accepted sound
    rw [handle_of_ok ran]
    exact .inl ⟨written, { handled with
      given := fun other member reason h => .inl (handled.given other member reason h) }⟩
  | error error middle =>
    have receipt := leads.of_error ran
    rw [handle_of_error ran]
    cases fatal : error.isFatal with
    | false => exact .inl (receipt.absorbed sound fatal)
    | true =>
      obtain ⟨written, broken⟩ := receipt.broken sound fatal
      exact .inr ⟨error, middle, written, rfl, fatal, rfl, broken⟩

/-! ## The end of the session -/

/-- The session has closed, and the peer has been told no more than a reason. -/
structure Ended (reason : Reason) (conn : Connection) (written : List Frame)
    (after : Connection) : Prop where
  closed : after.closed
  queued : after.queued = conn.queued ++ written
  control : ∀ frame ∈ written, frame.isControl ∧ ∀ given, frame.reason? = some given →
    given = reason

theorem Silent.queued {before : Connection} (silent : before.Silent after) :
    after.queued = before.queued := congrArg (·.filterMap Outgoing.frame?) silent.outbound

theorem sayFarewell_ended (conn : Connection) (last : Nat) (reason : Reason) (debug : Octets) :
    (conn.sayFarewell last reason debug).queued = conn.queued ++ [.goaway last reason.code debug] ∧
      ∀ frame ∈ [Frame.goaway last reason.code debug], frame.isControl ∧
        ∀ given, frame.reason? = some given → given = reason := by
  refine ⟨queued_write conn _, fun frame member => ?_⟩
  cases mem_singleton.mp member
  refine ⟨rfl, ?_⟩
  rintro _ ⟨⟩
  rfl

theorem fail_ended (opened : conn.closed = false) (error : Error) :
    ∃ written, Ended error.reason conn written (conn.fail error) := by
  obtain ⟨queued, control⟩ := sayFarewell_ended conn conn.registry.lastRemote
    error.reason (Header.encodeUtf8 error.debugText)
  unfold fail
  rw [opened]
  simp only [Bool.false_eq_true, if_false]
  exact ⟨_, rfl, (teardown_silent _ _).queued.trans queued, control⟩

theorem close_ended (opened : conn.closed = false) :
    ∃ written, Ended .noError conn written conn.close := by
  obtain ⟨queued, control⟩ := sayFarewell_ended conn conn.registry.lastRemote .noError []
  unfold close
  rw [opened]
  simp only [Bool.false_eq_true, if_false]
  split
  · exact ⟨_, rfl, (teardown_silent _ _).queued.trans queued, control⟩
  · exact ⟨[], rfl, (teardown_silent _ _).queued.trans (append_nil _).symm, nofun⟩

end Connection

end Http2
