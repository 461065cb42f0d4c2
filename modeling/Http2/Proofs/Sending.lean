import Http2.Proofs.Balance

/-!
# Sending keeps the books

A `Move` is a calm change or one of the changes that sending data is made of.  DATA frames leave
only against credit, so stretches of moves are balanced as well, and a connection stays sound along
them.
-/

namespace Http2.Connection

open Windows List

open Relation (ReflTransGen)

inductive Move (reasons : Reason → Prop) : Connection → Connection → Prop
  | calm {conn after : Connection} (calm : Calm reasons conn after) :
      Move reasons conn after
  | spend (conn : Connection) {id : Nat} {octets : Octets} {windows : Windows}
      (endStream : Bool) (charged : conn.sendWindows.charge id octets.length = .ok windows) :
      Move reasons conn
        ({ conn with sendWindows := windows }.write (.data id octets endStream none))
  | requeue (conn : Connection) {id : Nat} {f : Stream → Stream}
      (fits : ∀ stream, conn.registry.get? id = some stream →
        (f stream).phase = stream.phase ∧ (stream.cargo.Sound → (f stream).cargo.Sound)) :
      Move reasons conn (conn.modifyStream id f)
  | wait (conn : Connection) (parked : List Nat) :
      Move reasons conn
        { conn with sendWindows := { conn.sendWindows with parked } }

abbrev Moves (reasons : Reason → Prop) : Connection → Connection → Prop :=
  ReflTransGen (Move reasons)

variable {reasons : Reason → Prop} {conn after : Connection} {id : Nat}
  {stream : Stream} {left : Buffer}

theorem Calms.moves (calms : Calms reasons conn after) : Moves reasons conn after :=
  ReflTransGen.mono (fun _ _ (calm : Calm reasons _ _) => .calm calm) _ _ calms

/-! ## Soundness -/

namespace Sound

variable (sound : conn.Sound)

include sound

theorem spend {count : Nat} {windows : Windows}
    (charged : conn.sendWindows.charge id count = .ok windows) :
    { conn with sendWindows := windows }.Sound := by
  have streams := stream?_charge charged
  have same : windows.initial = conn.sendWindows.initial := by
    rw [(charge_eq charged).2.2]
  refine
    { sound with
      send := sound.send.charge charged
      sendInitial := same.trans sound.sendInitial
      sendLive := fun other => ?_ }
  rw [streams, ← sound.sendLive]
  split
  · exact Option.isSome_map
  · rfl

theorem requeue {f : Stream → Stream} (fits : ∀ stream, conn.registry.get? id = some stream →
      (f stream).phase = stream.phase ∧ (stream.cargo.Sound → (f stream).cargo.Sound)) :
    (conn.modifyStream id f).Sound :=
  sound.setRegistry (sound.registry.requeue fits)
    (Registry.isSome_cargo?_modify fun stream held => (fits stream held).1)

theorem move (move : Move reasons conn after) : after.Sound := by
  cases move with
  | calm calm => exact sound.calm calm
  | spend endStream charged => exact (sound.spend charged).congr rfl rfl rfl rfl rfl rfl
  | requeue fits => exact sound.requeue fits
  | wait parked => exact { sound with send := sound.send.setParked parked }

theorem moves (moves : Moves reasons conn after) : after.Sound := by
  induction moves with
  | refl => exact sound
  | tail _ last ih => exact ih.move last

theorem calms (calms : Calms reasons conn after) : after.Sound := sound.moves calms.moves

end Sound

/-! ## Balance -/

private theorem balanceIn_charged {windows later : Windows}
    {registry : Registry} {count other : Nat}
    {balance : Int} (charged : windows.charge id count = .ok later)
    (h : balanceIn later registry other = some balance) :
    balanceIn windows registry other =
      some (balance + ((if id = other then count else 0 : Nat) : Int)) := by
  have streams := stream?_charge charged
  obtain ⟨-, fits, eq⟩ := charge_eq charged
  have initial : later.initial = windows.initial := by rw [eq]
  cases found : windows.stream? id with
  | none =>
    -- without a window nothing can have been charged
    have same : later.stream? other = windows.stream? other := by
      rw [streams]
      split
      · rename_i here
        rw [here, found]
        rfl
      · rfl
    have free : count = 0 := by
      rw [found, Option.getD_none] at fits
      omega
    unfold balanceIn balance? at h ⊢
    rw [same, initial] at h
    simpa [free] using h
  | some window =>
    have moved : ∀ other, later.stream? other =
        if id = other then some (window + -(count : Int)) else windows.stream? other := by
      intro other
      rw [streams]
      by_cases same : other = id
      · rw [if_pos same, if_pos same.symm, same, found]
        rfl
      · rw [if_neg same, if_neg (Ne.symm same)]
    rw [balanceIn_moved initial found moved h, Option.some.injEq]
    split <;> omega

namespace Balanced

theorem spend {octets : Octets} {windows : Windows} (sound : conn.Sound) (endStream : Bool)
    (paid : conn.sendWindows.charge id octets.length = .ok windows) :
    Balanced reasons conn [.data id octets endStream none]
      ({ conn with sendWindows := windows }.write (.data id octets endStream none)) := by
  obtain ⟨affordable, fits, eq⟩ := charge_eq paid
  have total : windows.connection = conn.sendWindows.connection - octets.length := by rw [eq]
  constructor
  · exact queued_write _ _
  · rfl
  · rfl
  · exact fun _ unused => unused
  · change windows.connection + _ = _
    rw [total]
    simp [Frame.chargedLength]
  · exact (Int.add_zero _).symm
  · intro other balance h
    change balanceIn windows conn.registry other = some balance at h
    have entry : chargedOn other [.data id octets endStream none] =
        if id = other then octets.length else 0 := Nat.add_zero _
    rw [entry]
    exact balanceIn_charged paid h
  · intro other balance _ h
    change conn.receiveBalance other = some balance at h
    simpa [Frame.grant] using h
  · intro frame member
    cases mem_singleton.mp member
    exact ⟨rfl, rfl⟩
  · intro before frame rest split charge
    have first : before = [] ∧ frame = .data id octets endStream none := by
      cases before with
      | nil => exact ⟨rfl, (List.cons.inj split).1.symm⟩
      | cons head tail => simp at split
    obtain ⟨rfl, rfl⟩ := first
    simp only [Frame.chargedLength, Frame.stream, chargedOn_nil] at charge ⊢
    cases held : conn.sendWindows.stream? id with
    | none =>
      rw [held, Option.getD_none] at fits
      omega
    | some window =>
      refine ⟨window - conn.sendWindows.initial, ?_, ?_⟩
      · exact balanceIn_of_window held
      · rw [held, Option.getD_some] at fits
        have := sound.sendInitial
        omega
  · intro other _ some
    exact absurd some (by simp [Frame.grant])
  · intro frame member reason h
    cases mem_singleton.mp member
    cases h

theorem of_move (sound : conn.Sound) (move : Move reasons conn after) :
    ∃ written, Balanced reasons conn written after := by
  cases move with
  | calm calm => exact of_calm sound calm
  | spend endStream paid => exact ⟨_, spend sound endStream paid⟩
  | requeue fits => exact of_silent sound rfl rfl (fun _ unused => unused) .refl .refl rfl
  | wait parked =>
    exact of_silent sound rfl rfl (fun _ unused => unused) ⟨rfl, rfl, fun _ _ held => .inl held⟩
      .refl rfl

theorem of_moves (sound : conn.Sound) (moves : Moves reasons conn after) :
    ∃ written, Balanced reasons conn written after := by
  induction moves with
  | refl => exact ⟨[], refl conn⟩
  | tail before last ih =>
    obtain ⟨first, h₁⟩ := ih
    obtain ⟨second, h₂⟩ := of_move (sound.moves before) last
    exact ⟨first ++ second, h₁.trans h₂⟩

end Balanced

/-! ## Emptying the queue -/

section Queue

variable (id limit : Nat) (closing : Bool) (queue : Buffer) (conn : Connection)

private theorem sendQueue_moves : Moves reasons conn (sendQueue id limit closing queue conn).2 :=
  holds_sendQueue id limit closing queue .refl fun moves _ _ charged _ =>
    moves.tail (.spend _ _ charged)

theorem parked_sendQueue :
    (sendQueue id limit closing queue conn).2.sendWindows.parked = conn.sendWindows.parked := by
  refine @holds_sendQueue (fun after => after.sendWindows.parked = conn.sendWindows.parked)
    conn id limit closing queue rfl fun same _ _ charged _ => ?_
  rw [← same, write, (charge_eq charged).2.2]

theorem windows_sendQueue :
    (sendQueue id limit closing queue conn).2.sendWindows.connection ≤ conn.sendWindows.connection ∧
      ∀ other, other ≠ id → (sendQueue id limit closing queue conn).2.sendWindows.stream? other =
          conn.sendWindows.stream? other := by
  refine @holds_sendQueue (fun after => after.sendWindows.connection ≤ conn.sendWindows.connection ∧
    ∀ other, other ≠ id → after.sendWindows.stream? other = conn.sendWindows.stream? other) conn
    id limit
    closing queue ⟨Int.le_refl _, fun _ _ => rfl⟩ fun kept _ _ charged _ =>
    ⟨?_, fun other apart => ?_⟩
  · refine Int.le_trans ?_ kept.1
    simp only [write, (charge_eq charged).2.2]
    omega
  · exact ((stream?_charge charged other).trans (if_neg apart)).trans (kept.2 other apart)

variable {queue} (exact : queue.Exact)

include exact

theorem exact_sendQueue : (sendQueue id limit closing queue conn).1.Exact := by
  fun_induction sendQueue id limit closing queue conn with
  | case1 | case2 | case3 => exact exact
  | case4 conn piece rest length count spent windows charged left ih =>
    exact ih (exact.cut (by omega))

/-- What is left in the queue is left for want of credit. -/
theorem available_sendQueue (positive : 0 < limit)
    (left : (sendQueue id limit closing queue conn).1.length ≠ 0) :
    (sendQueue id limit closing queue conn).2.sendWindows.available id = 0 := by
  fun_induction sendQueue id limit closing queue conn with
  | case1 => exact absurd exact.counted left
  | case2 conn piece rest length count spent =>
    have some := List.length_pos_iff.mpr (exact.filled piece mem_cons_self)
    simp only [count] at spent
    simp only
    omega
  | case3 conn piece rest length count spent error failed =>
    have fits : count ≤ conn.sendWindows.available id := by
      simp only [count]
      omega
    obtain ⟨windows, charged⟩ := charge_of_le_available fits (by omega)
    rw [charged] at failed
    cases failed
  | case4 conn piece rest length count spent windows charged rest' ih =>
    exact ih (exact.cut (by omega)) left

end Queue

/-! ## Flushing a stream -/

inductive Flushed (reasons : Reason → Prop) (conn : Connection) (id : Nat) :
    Connection → Prop
  | passed (silent : ∀ stream, conn.registry.get? id = some stream → stream.phase.canSend = false) :
      Flushed reasons conn id conn
  | blocked {stream : Stream} {closing : Bool} {left : Buffer} {middle : Connection}
      (held : conn.registry.get? id = some stream) (sends : stream.phase.canSend)
      (sent : sendQueue id conn.exchange.peer.maxFrameSize closing stream.queue conn =
        (left, middle)) (rest : left.length ≠ 0) :
      Flushed reasons conn id
        { middle.modifyStream id (fun stream => { stream with queue := left }) with
          sendWindows := middle.sendWindows.park id }
  | emptied {stream : Stream} {closing : Bool} {left : Buffer} {middle : Connection}
      (held : conn.registry.get? id = some stream) (sends : stream.phase.canSend)
      (sent : sendQueue id conn.exchange.peer.maxFrameSize closing stream.queue conn =
        (left, middle)) (spent : left.length = 0)
      (lasts : stream.trailers = none ∧ stream.endQueued = false) :
      Flushed reasons conn id (middle.modifyStream id fun stream => { stream with queue := left })
  | ended {stream : Stream} {closing : Bool} {left : Buffer} {middle after : Connection}
      (held : conn.registry.get? id = some stream) (sends : stream.phase.canSend)
      (sent : sendQueue id conn.exchange.peer.maxFrameSize closing stream.queue conn =
        (left, middle)) (spent : left.length = 0)
      (calms : Calms reasons
        ((middle.modifyStream id fun stream => { stream with queue := left }).modifyStream id
          Stream.endSent) after) :
      Flushed reasons conn id after

theorem flush_flushed (conn : Connection) (id : Nat) : Flushed reasons conn id (conn.flush id) := by
  unfold flush
  split
  · rename_i missing
    exact .passed fun stream held => by simp [missing] at held
  · rename_i stream held
    split
    · rename_i sends
      simp only
      generalize sent : sendQueue id conn.exchange.peer.maxFrameSize
        (stream.endQueued && stream.trailers.isNone) stream.queue conn = result
      obtain ⟨left, middle⟩ := result
      simp only [finishFlush]
      split
      · rename_i empty
        split
        · exact .ended held sends sent empty
            ((Calms.writeHeaders .refl _ none true).advanceAnyway id (.sendHeaders true))
        · rename_i none
          split
          · refine .ended held sends sent empty (Calms.advanceAnyway ?_ id .sendEnd)
            split
            · exact .single (.write _ (.of_empty id true) fun _ given => by cases given)
            · exact .refl
          · rename_i lasts
            exact .emptied held sends sent empty ⟨none, by simpa using lasts⟩
      · rename_i rest
        exact .blocked held sends sent rest
    · rename_i silent
      exact .passed fun other held' => by simp_all

theorem Move.setQueue (conn : Connection) (held : conn.registry.get? id = some stream)
    (sends : stream.phase.canSend) (exact : stream.queue.Exact → left.Exact) :
    Move reasons conn (conn.modifyStream id fun stream => { stream with queue := left }) := by
  refine .requeue conn fun other held' => ⟨rfl, fun sound => ?_⟩
  obtain rfl : stream = other := by simpa [held] using held'
  refine ⟨exact sound.queue, fun early => ?_, sound.trailers⟩
  exact absurd sends (Phase.not_canSend_of_isEarly early)

theorem Move.endSent (conn : Connection) (id : Nat) :
    Move reasons conn (conn.modifyStream id Stream.endSent) := by
  refine .requeue conn fun stream _ => ⟨rfl, fun sound => ⟨sound.queue, ?_, nofun⟩⟩
  rintro early (waits | waits | waits)
  · exact sound.early early (.inl waits)
  · cases waits
  · cases waits

theorem moves_of_sent {limit : Nat} {closing : Bool} (held : conn.registry.get? id = some stream)
    (sends : stream.phase.canSend)
    (sent : sendQueue id limit closing stream.queue conn = (left, after)) :
    Moves reasons conn (after.modifyStream id fun stream => { stream with queue := left }) := by
  have moves : Moves reasons conn _ :=
    sendQueue_moves id limit closing stream.queue conn
  have registry := registry_sendQueue id limit closing stream.queue conn
  have exact : stream.queue.Exact → _ := exact_sendQueue id limit closing conn
  rw [sent] at moves registry exact
  exact moves.tail (.setQueue after (by rw [registry, held]) sends exact)

theorem Flushed.moves (flushed : Flushed reasons conn id after) : Moves reasons conn after := by
  cases flushed with
  | passed => exact .refl
  | blocked held sends sent rest =>
    rw [park_eq]
    exact (moves_of_sent held sends sent).tail (.wait _ _)
  | emptied held sends sent => exact moves_of_sent held sends sent
  | ended held sends sent _ calms =>
    exact ((moves_of_sent held sends sent).tail (.endSent _ id)).trans calms.moves

theorem resume_moves (conn : Connection) : Moves reasons conn conn.resume := by
  refine holds_resume .refl fun {conn id windows} moves popped => ?_
  obtain ⟨others, -, rfl⟩ := popParked?_eq popped
  exact (moves.tail (.wait conn others)).trans (flush_flushed _ id).moves

end Http2.Connection
