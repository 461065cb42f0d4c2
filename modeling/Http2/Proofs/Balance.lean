import Http2.Proofs.Sound

/-!
# Balanced books

`Balanced connection written after` is what a stretch of work of one end does to its books: the
frames it writes are charged to the send windows and granted to the receive windows, octet for
octet, and nothing else moves a balance.  Every DATA frame is covered by the windows at the time,
and stream credit is given only up to the initial window.  Calm stretches are balanced.
-/

namespace Http2

/-- Windows stay as they are, except that streams may close and idle ones may open. -/
structure Windows.SameBalances (registry : Registry) (windows after : Windows) : Prop where
  connection : after.connection = windows.connection
  initial : after.initial = windows.initial
  stream : ∀ id window, after.stream? id = some window →
    windows.stream? id = some window ∨ registry.isIdle id ∧ window = windows.initial

namespace Windows.SameBalances

variable {registry : Registry} {windows : Windows} {id : Nat}

theorem refl : windows.SameBalances registry windows := ⟨rfl, rfl, fun _ _ held => .inl held⟩

theorem openStream (idle : registry.isIdle id) (missing : windows.stream? id = none) :
    SameBalances registry windows (windows.openStream id) := by
  refine ⟨by simp, by simp, ?_⟩
  intro other window held
  rw [stream?_openStream] at held
  split at held
  · rename_i same
    rw [missing] at held
    cases held
    exact .inr ⟨same ▸ idle, rfl⟩
  · exact .inl held

theorem closeStream (id : Nat) : SameBalances registry windows (windows.closeStream id) := by
  refine ⟨rfl, rfl, ?_⟩
  intro other window held
  rw [stream?_closeStream] at held
  split at held
  · cases held
  · exact .inl held

theorem balanceIn {after : Windows} {later : Registry} {balance : Int}
    (kept : SameBalances registry windows after)
    (missing : registry.isIdle id → windows.stream? id = none)
    (idle : later.isIdle id → registry.isIdle id)
    (h : Connection.balanceIn after later id = some balance) :
    Connection.balanceIn windows registry id = some balance := by
  unfold Connection.balanceIn at h ⊢
  rcases Option.or_eq_some_iff.mp h with held | ⟨-, fresh⟩
  · rw [balance?_eq_some_iff] at held
    rcases kept.stream id _ held with held | ⟨unused, window⟩
    · rw [kept.initial, ← balance?_eq_some_iff] at held
      simp [held]
    · rw [kept.initial] at window
      rw [balance?_eq_none_iff.mpr (missing unused), if_pos unused]
      simp only [Option.none_or, Option.some.injEq]
      omega
  · split at fresh
    · rename_i unused
      cases fresh
      rw [balance?_eq_none_iff.mpr (missing (idle unused)), if_pos (idle unused)]
      rfl
    · cases fresh

end Windows.SameBalances

namespace Connection

structure Balanced (reasons : Reason → Prop) (conn : Connection) (written : List Frame)
    (after : Connection) : Prop where
  queued : after.queued = conn.queued ++ written
  exchange : after.exchange = conn.exchange
  closed : after.closed = conn.closed
  idle : ∀ id, after.registry.isIdle id → conn.registry.isIdle id
  sendConnection :
    after.sendWindows.connection + charged written = conn.sendWindows.connection
  receiveConnection :
    after.receiveWindows.connection = conn.receiveWindows.connection + granted 0 written
  sendStream : ∀ id balance, after.sendBalance id = some balance →
    conn.sendBalance id = some (balance + chargedOn id written)
  receiveStream : ∀ id balance, id ≠ 0 → after.receiveBalance id = some balance →
    conn.receiveBalance id = some (balance - granted id written)
  settings : ∀ frame ∈ written, frame.isAck = false ∧ frame.announced? = none
  covered : ∀ before frame rest, written = before ++ frame :: rest → 0 < frame.chargedLength →
    ∃ balance, conn.sendBalance frame.stream = some balance ∧
      frame.chargedLength + chargedOn frame.stream before ≤ balance +
      conn.exchange.peer.initialWindowSize
  grants : ∀ id, id ≠ 0 → 0 < granted id written →
    ∃ balance, conn.receiveBalance id = some balance ∧ balance + granted id written ≤ 0
  given : ∀ frame ∈ written, ∀ reason, frame.reason? = some reason → reasons reason

namespace Balanced

variable {reasons : Reason → Prop} {conn middle after : Connection}
  {first second written : List Frame} {id increment : Nat} {windows : Windows}

theorem refl (conn : Connection) : Balanced reasons conn [] conn := by
  constructor <;> simp

theorem mono {others : Reason → Prop} (h : Balanced reasons conn written after)
    (weaker : ∀ reason, reasons reason → others reason) : Balanced others conn written after :=
  { h with given := fun frame member reason found => weaker reason (h.given frame
    member reason found) }

theorem trans (h₁ : Balanced reasons conn first middle)
    (h₂ : Balanced reasons middle second after) :
    Balanced reasons conn (first ++ second) after where
  queued := by rw [h₂.queued, h₁.queued, List.append_assoc]
  exchange := h₂.exchange.trans h₁.exchange
  closed := h₂.closed.trans h₁.closed
  idle id unused := h₁.idle id (h₂.idle id unused)
  sendConnection := by
    have := h₁.sendConnection
    have := h₂.sendConnection
    rw [charged_append]
    omega
  receiveConnection := by
    have := h₁.receiveConnection
    have := h₂.receiveConnection
    rw [granted_append]
    omega
  sendStream id balance h := by
    rw [h₁.sendStream id _ (h₂.sendStream id balance h), chargedOn_append]
    congr 1
    omega
  receiveStream id balance stands h := by
    rw [h₁.receiveStream id _ stands (h₂.receiveStream id balance stands h), granted_append]
    congr 1
    omega
  settings frame member := by
    rcases List.mem_append.mp member with member | member
    · exact h₁.settings frame member
    · exact h₂.settings frame member
  covered before frame rest split charge := by
    rcases split_append split with ⟨more, cut⟩ | ⟨gap, rfl, cut⟩
    · exact h₁.covered before frame more cut charge
    · obtain ⟨balance, held, fits⟩ := h₂.covered gap frame rest cut charge
      refine ⟨_, h₁.sendStream _ balance held, ?_⟩
      rw [h₁.exchange] at fits
      rw [chargedOn_append]
      omega
  grants id stands some := by
    rw [granted_append] at some ⊢
    by_cases later : 0 < granted id second
    · obtain ⟨balance, held, room⟩ := h₂.grants id stands later
      exact ⟨_, h₁.receiveStream id balance stands held, by omega⟩
    · obtain ⟨balance, held, room⟩ := h₁.grants id stands (by omega)
      exact ⟨balance, held, by omega⟩
  given frame member := by
    rcases List.mem_append.mp member with member | member
    · exact h₁.given frame member
    · exact h₂.given frame member

section

variable (sound : conn.Sound) (exchange : after.exchange = conn.exchange)
  (closed : after.closed = conn.closed)
  (idle : ∀ id, after.registry.isIdle id → conn.registry.isIdle id)
  (send : conn.sendWindows.SameBalances conn.registry after.sendWindows)
  (receive : conn.receiveWindows.SameBalances conn.registry after.receiveWindows)

include sound exchange closed idle send receive

theorem of_inert (queued : after.queued = conn.queued ++ written)
    (inert : ∀ frame ∈ written, frame.Inert)
    (given : ∀ frame ∈ written, ∀ reason, frame.reason? = some reason → reasons reason) :
    Balanced reasons conn written after := by
  have noCharge : charged written = 0 := charged_of_inert inert
  have noChargeOn : ∀ id, chargedOn id written = 0 := by
    intro id
    have := chargedOn_le_charged id written
    omega
  have noGrant : ∀ id, granted id written = 0 := fun id => granted_of_inert inert
  constructor
  · exact queued
  · exact exchange
  · exact closed
  · exact idle
  · rw [noCharge, send.connection]
    exact Int.add_zero _
  · rw [noGrant, receive.connection]
    exact (Int.add_zero _).symm
  · intro id balance h
    have before : conn.sendBalance id = some balance :=
      send.balanceIn sound.sendWindow_none_of_idle (idle id) h
    simpa [noChargeOn] using before
  · intro id balance _ h
    have before : conn.receiveBalance id = some balance :=
      receive.balanceIn sound.receiveWindow_none_of_idle (idle id) h
    simpa [noGrant] using before
  · intro frame member
    exact ⟨(inert frame member).ack, (inert frame member).announced⟩
  · intro before frame rest split charge
    have member : frame ∈ written := by simp [split]
    rw [(inert frame member).charge] at charge
    exact absurd charge (Nat.lt_irrefl 0)
  · intro id _ some
    rw [noGrant] at some
    exact absurd some (Nat.lt_irrefl 0)
  · exact given

theorem of_silent (queued : after.queued = conn.queued) :
    ∃ written, Balanced reasons conn written after :=
  ⟨[], of_inert sound exchange closed idle send receive (queued.trans (List.append_nil _).symm)
    nofun nofun⟩

end

theorem of_write (sound : conn.Sound) {frame : Frame} (inert : frame.Inert)
    (given : ∀ reason, frame.reason? = some reason → reasons reason) :
    Balanced reasons conn [frame] (conn.write frame) :=
  of_inert sound rfl rfl (fun _ unused => unused) .refl .refl (queued_write conn frame)
    (by simpa using inert) (by simpa using given)

theorem of_grant (total : windows.connection =
      conn.receiveWindows.connection + (Frame.windowUpdate id increment).grant 0)
    (streams : ∀ other, other ≠ 0 →
      windows.balance? other = (conn.receiveWindows.balance? other).map
        (· + ((Frame.windowUpdate id increment).grant other : Int)))
    (room : id ≠ 0 → ∃ balance, conn.receiveWindows.balance? id = some balance ∧
      balance + increment ≤ 0) :
    Balanced reasons conn [.windowUpdate id increment]
      ({ conn with receiveWindows := windows }.write (.windowUpdate id increment)) := by
  constructor
  · exact queued_write _ _
  · rfl
  · rfl
  · exact fun _ unused => unused
  · exact Int.add_zero _
  · exact total
  · intro other balance h
    change conn.sendBalance other = some balance at h
    simpa [Frame.charge, Frame.chargedLength] using h
  · intro other balance stands h
    change balanceIn windows conn.registry other = some balance at h
    simp only [granted_cons, granted_nil, Nat.add_zero]
    have entered := streams other stands
    rcases Option.or_eq_some_iff.mp h with held | ⟨absent, fresh⟩
    · rw [entered] at held
      obtain ⟨before, found, rfl⟩ := Option.map_eq_some_iff.mp held
      simp [receiveBalance, balanceIn, found]
    · -- an idle stream has no window, so the credit is not for it
      rw [entered, Option.map_eq_none_iff] at absent
      have elsewhere : (Frame.windowUpdate id increment).grant other = 0 := by
        refine if_neg ?_
        rintro rfl
        obtain ⟨balance, held, -⟩ := room stands
        simp [absent] at held
      rw [elsewhere]
      simpa [receiveBalance, balanceIn, absent] using fresh
  · intro frame member
    cases List.mem_singleton.mp member
    exact ⟨rfl, rfl⟩
  · intro before frame rest split charge
    have member : frame ∈ [Frame.windowUpdate id increment] := by simp [split]
    cases List.mem_singleton.mp member
    exact absurd charge (Nat.lt_irrefl 0)
  · intro other stands some
    simp only [granted_cons, granted_nil, Nat.add_zero, Frame.grant] at some ⊢
    split at some
    · rename_i same
      subst same
      obtain ⟨balance, held, room⟩ := room stands
      exact ⟨balance, by simp [receiveBalance, balanceIn, held], by simpa using room⟩
    · exact absurd some (Nat.lt_irrefl 0)
  · intro frame member reason h
    cases List.mem_singleton.mp member
    cases h

theorem grow {crossed : Bool}
    (credited : conn.receiveWindows.credit 0 increment = .ok crossed windows) :
    Balanced reasons conn [.windowUpdate 0 increment]
      ({ conn with receiveWindows := windows }.write (.windowUpdate 0 increment)) := by
  obtain ⟨-, -, rfl⟩ := Windows.credit_connection_eq credited
  refine of_grant rfl ?_ (absurd rfl)
  intro other stands
  have elsewhere : (Frame.windowUpdate 0 increment).grant other = 0 := if_neg stands.symm
  rw [elsewhere]
  cases held : conn.receiveWindows.balance? other with
  | none => exact held
  | some balance => exact held.trans (congrArg some (Int.add_zero balance).symm)

theorem refill (sound : conn.Sound) {target : Nat} (fits : id = 0 ∨ target = conn.receiveInitial) :
    ∃ written, Balanced reasons conn written (conn.refill id target) := by
  unfold Connection.refill
  split
  · exact ⟨[], refl conn⟩
  · rename_i increment windows refilled
    obtain ⟨window, held, short, exact_, rfl⟩ := Windows.refill_eq refilled
    refine ⟨_, of_grant ?_ ?_ ?_⟩
    · by_cases stands : id = 0
      · subst stands
        cases held
        simp only [Windows.setWindow, if_true, Frame.grant]
        omega
      · simp [Windows.setWindow, stands, Frame.grant]
    · intro other apart
      by_cases stands : id = 0
      · subst stands
        have elsewhere : (Frame.windowUpdate 0 increment).grant other = 0 := if_neg apart.symm
        rw [elsewhere]
        cases before : conn.receiveWindows.balance? other with
        | none => exact before
        | some balance => exact before.trans (congrArg some (Int.add_zero balance).symm)
      · rw [Windows.window?, if_neg stands] at held
        have initial : (conn.receiveWindows.setWindow id
            (min target maxWindow : Nat)).initial = conn.receiveWindows.initial := by
          simp [Windows.setWindow, stands]
        unfold Windows.balance?
        rw [Windows.stream?_setWindow stands, initial]
        by_cases same : id = other
        · subst same
          simp only [if_true, held, Option.map_some, Frame.grant, Option.some.injEq]
          omega
        · simp only [if_neg same, Frame.grant]
          cases conn.receiveWindows.stream? other <;> simp
    · intro stands
      rw [Windows.window?, if_neg stands] at held
      refine ⟨window - conn.receiveWindows.initial, ?_, ?_⟩
      · rw [Windows.balance?, held]
        rfl
      · have := fits.resolve_left stands
        have := sound.receiveInitial
        omega

/-! ## Calm stretches -/

theorem drop (sound : conn.Sound) {reason : Reason} {announced : Bool} {error : Error}
    (given : announced → reasons reason) :
    ∃ written, Balanced reasons conn written (conn.dropStream id reason announced error) := by
  unfold dropStream
  split
  · exact ⟨[], refl conn⟩
  · rename_i stream held
    split
    · cases announced with
      | false =>
        cases stream.hasOutbound <;>
          exact of_silent sound rfl rfl (fun _ unused => unused) (.closeStream id)
            (.closeStream id) rfl
      | true =>
        refine ⟨[.rstStream id reason.code], ?_⟩
        cases stream.hasOutbound <;>
          exact of_inert sound rfl rfl (fun _ unused => unused) (.closeStream id) (.closeStream id)
            (queued_write conn _) (by simpa using Frame.Inert.of_control rfl)
            (by simpa [Frame.reason?] using given rfl)
    · exact ⟨[], refl conn⟩

theorem of_calm (sound : conn.Sound) (calm : Calm reasons conn after) :
    ∃ written, Balanced reasons conn written after := by
  cases calm with
  | emit | tables | farewell | target | touch | advance =>
    exact of_silent sound rfl rfl (fun _ unused => unused) .refl .refl rfl
  | write inert given => exact ⟨_, of_write sound inert given⟩
  | take takes => exact of_silent sound rfl rfl (fun _ => takes.idle_mono) .refl .refl rfl
  | skip skips =>
    exact of_silent sound rfl rfl (fun _ => Registry.skipTo_idle_mono skips) .refl .refl rfl
  | add takes live empty =>
    have idle := takes.idle_before sound.registry.nextLocal
    exact of_silent sound rfl rfl (fun _ => takes.idle_mono)
      (.openStream idle (sound.sendWindow_none_of_idle idle))
      (.openStream idle (sound.receiveWindow_none_of_idle idle)) rfl
  | refuseOwn takes =>
    exact of_silent sound rfl rfl (fun _ => takes.idle_mono) (.closeStream _) (.closeStream _) rfl
  | refuseStream takes given =>
    exact ⟨_, of_inert sound rfl rfl (fun _ => takes.idle_mono) .refl .refl (queued_write _ _)
      (by simpa using Frame.Inert.of_control rfl) (by simpa [Frame.reason?] using given)⟩
  | reprioritize id priority =>
    refine of_silent sound rfl rfl (fun other unused => ?_) .refl .refl rfl
    simp only [Connection.reprioritize] at unused
    rw [Registry.reprioritize_eq] at unused
    exact unused
  | finish held moves closed =>
    exact of_silent sound rfl rfl (fun _ unused => unused) (.closeStream _) (.closeStream _) rfl
  | drop id error given => exact drop sound given
  | refill fits => exact refill sound fits
  | grow larger fits credited => exact ⟨_, { grow credited with }⟩

end Balanced

end Connection

end Http2
