import Http2.Proofs.Run

/-!
# The tables of streams agree

Three tables tell of the streams of a connection: the registry, with its queue of closed streams,
and the windows of either direction.  `Change` lists what can happen to a stream in all of them at
once: it enters, it moves on, it closes.  A change is labelled with the stream that it closes.
Everything that a connection does is a stretch of such changes, whether it succeeds, fails or ends
the session, and so the tables agree at any time: just the live streams have windows, and the closed
streams kept are those that closed last.
-/

namespace Http2

open Registry Windows List

/-! ## Phases of the streams held -/

namespace Registry

variable {registry after : Registry} {id : Nat}

private theorem phase?_eq (registry : Registry) (id : Nat) :
    registry.phase? id = (registry.held? id).map Cargo.phase := by
  unfold phase? held?
  cases registry.get? id <;> rfl

theorem phase?_insert (registry : Registry) (id other : Nat) (stream : Stream) :
    (registry.insert id stream).phase? other =
      if id = other then some stream.phase else registry.phase? other := by
  simp only [phase?, get?_insert]
  split <;> rfl

private theorem phase?_of_held? {before : Registry} (same : ∀ id, after.held? id = before.held? id)
    (id : Nat) :
    after.phase? id = before.phase? id := by
  rw [phase?_eq, phase?_eq, same]

private theorem phase?_modify {f : Stream → Stream}
    (phase : ∀ stream, registry.get? id = some stream → (f stream).phase = stream.phase)
    (other : Nat) : (registry.modify id f).phase? other = registry.phase? other := by
  simp only [phase?, get?_modify]
  split
  · rename_i same
    subst same
    cases held : registry.get? other with
    | none => rfl
    | some stream => simp [phase stream held]
  · rfl

theorem Takes.retention (takes : registry.Takes id after) :
    after.retention = registry.retention := by
  rw [takes.same]

theorem Takes.closed (takes : registry.Takes id after) : after.closed = registry.closed := by
  rw [takes.same]

private theorem closed_markClosed (new : id ∉ registry.closed) :
    (registry.markClosed id).2.closed = (registry.closed ++ [id]).drop
        ((registry.closed ++ [id]).length - registry.retention) := by
  simp only [markClosed, if_neg new]

private theorem markClosed_of_mem (member : id ∈ registry.closed)
    (bounded : registry.closed.length ≤ registry.retention) :
    (registry.markClosed id).2 = registry := by
  unfold markClosed
  simp only [if_pos member, Nat.sub_eq_zero_of_le bounded, take_zero, drop_zero, foldl_nil]

private theorem phase?_markClosed (new : id ∉ registry.closed) (distinct : registry.closed.Nodup)
    (other : Nat) :
    (registry.markClosed id).2.phase? other =
      if other ∈ registry.closed ++ [id] ∧ other ∉ (registry.markClosed id).2.closed then none
      else registry.phase? other := by
  have unique : (registry.closed ++ [id]).Nodup := by
    rw [nodup_append]
    refine ⟨distinct, by simp, ?_⟩
    rintro first member _ last rfl
    cases mem_singleton.mp last
    exact new member
  rw [closed_markClosed new]
  unfold markClosed phase? get?
  simp only [if_neg new, get?_foldl_erase]
  generalize registry.closed ++ [id] = queue at unique ⊢
  generalize queue.length - registry.retention = excess
  have whole := take_append_drop excess queue
  have split_unique := whole ▸ unique
  have apart : other ∈ queue.take excess ↔ other ∈ queue ∧ other ∉ queue.drop excess := by
    rw [nodup_append] at split_unique
    constructor
    · intro evicted
      exact ⟨mem_of_mem_take evicted, fun kept => split_unique.2.2 other evicted other kept rfl⟩
    · rintro ⟨member, gone⟩
      rw [← whole] at member
      exact (mem_append.mp member).resolve_right gone
  by_cases evicted : other ∈ queue.take excess
  · rw [if_pos evicted, if_pos (apart.mp evicted)]
    rfl
  · rw [if_neg evicted, if_neg (fun gone => evicted (apart.mpr gone))]

end Registry

private theorem Windows.isSome_closeStream {windows : Windows} {id : Nat}
    (none : (windows.stream? id).isSome = false) (other : Nat) :
    ((windows.closeStream id).stream? other).isSome = (windows.stream? other).isSome := by
  rw [stream?_closeStream]
  split
  · rename_i here
    rw [← here, none]
    rfl
  · rfl

namespace Connection

variable {log : List Activity} {phase : Phase}

/-! ## Changes -/

/-- What the tables say of one stream: its phase in the registry, and whether it has a window. -/
structure Listing where
  phase : Option Phase
  sends : Bool
  receives : Bool
  deriving DecidableEq

def listing (conn : Connection) (id : Nat) : Listing :=
  ⟨conn.phase? id, (conn.sendWindows.stream? id).isSome, (conn.receiveWindows.stream? id).isSome⟩

/-- Identifiers are used up and never become idle again. -/
structure Forward (conn after : Connection) : Prop where
  retention : after.registry.retention = conn.registry.retention
  idle : ∀ id, after.registry.isIdle id → conn.registry.isIdle id
  ours : conn.registry.isLocal conn.registry.nextLocal →
    after.registry.isLocal after.registry.nextLocal = true

theorem Forward.used {conn after : Connection} (forward : Forward conn after) {id : Nat}
    (used : conn.registry.isIdle id = false) : after.registry.isIdle id = false :=
  Bool.eq_false_iff.mpr fun idle => Bool.eq_false_iff.mp used (forward.idle id idle)

inductive Change (conn after : Connection) : List Nat → Prop
  | none (forward : Forward conn after) (closed : after.registry.closed = conn.registry.closed)
      (same : ∀ id, after.listing id = conn.listing id) : Change conn after []
  | enter {id : Nat} {phase : Phase} (forward : Forward conn after)
      (closed : after.registry.closed = conn.registry.closed)
      (idle : conn.registry.isIdle id) (free : conn.phase? id = none)
      (used : after.registry.isIdle id = false) (begun : phase ≠ .idle) (live : phase ≠ .closed)
      (listed : ∀ other, after.listing other =
        if other = id then ⟨some phase, true, true⟩ else conn.listing other) :
      Change conn after []
  | move {id : Nat} {phase next : Phase} (forward : Forward conn after)
      (closed : after.registry.closed = conn.registry.closed)
      (held : conn.phase? id = some phase) (alive : phase ≠ .closed) (begun : next ≠ .idle)
      (live : next ≠ .closed)
      (listed : ∀ other, after.listing other =
        if other = id then { conn.listing id with phase := some next }
        else conn.listing other) :
      Change conn after []
  /-- A stream that was live, or one that is refused at once, closes.  It joins the closed streams,
and those of them that are too many are forgotten, the oldest first. -/
  | close {id : Nat} (forward : Forward conn after)
      (new : conn.registry.isIdle id ∧ conn.phase? id = none ∨
        ∃ phase, conn.phase? id = some phase ∧ phase ≠ .closed)
      (used : after.registry.isIdle id = false)
      (closed : after.registry.closed = (conn.registry.closed ++ [id]).drop
          ((conn.registry.closed ++ [id]).length - conn.registry.retention))
      (listed : ∀ other, after.listing other =
        if other ∈ conn.registry.closed ++ [id] then
          ⟨if other ∈ after.registry.closed then some .closed else none, false, false⟩
        else conn.listing other) :
      Change conn after [id]

/-- A stretch of changes, with the streams that it closes in the order in which they close. -/
inductive Changes (start : Connection) : List Nat → Connection → Prop
  | refl : Changes start [] start
  | tail {closings more : List Nat} {conn after : Connection}
      (changes : Changes start closings conn) (change : Change conn after more) :
      Changes start (closings ++ more) after

variable {start conn after : Connection} {closings more : List Nat} {id : Nat}

theorem Changes.single (change : Change conn after more) : Changes conn more after :=
  Changes.refl.tail change

theorem Changes.trans (first : Changes start closings conn)
    (second : Changes conn more after) : Changes start (closings ++ more) after := by
  induction second with
  | refl =>
    rw [append_nil]
    exact first
  | tail _ change ih =>
    rw [← append_assoc]
    exact ih.tail change

/-! ## Orderly tables -/

/-- The tables agree, given the streams that have closed so far, the last one last. -/
structure Orderly (conn : Connection) (closings : List Nat) : Prop where
  send : ∀ id, (conn.sendWindows.stream? id).isSome = true ↔
    ∃ phase, conn.phase? id = some phase ∧ phase ≠ .closed
  receive : ∀ id, (conn.receiveWindows.stream? id).isSome = true ↔
    ∃ phase, conn.phase? id = some phase ∧ phase ≠ .closed
  closed : ∀ id, conn.phase? id = some .closed ↔ id ∈ conn.registry.closed
  distinct : conn.registry.closed.Nodup
  bounded : conn.registry.closed.length ≤ conn.registry.retention
  /-- The last ones to close are kept, as many as the bound allows. -/
  recent : conn.registry.closed = closings.drop (closings.length - conn.registry.retention)
  begun : ∀ id, conn.phase? id ≠ some .idle
  used : ∀ id, (conn.phase? id).isSome = true → conn.registry.isIdle id = false

/-- No stream closes twice, and none that has closed is live again. -/
structure Tidy (conn : Connection) (closings : List Nat) : Prop extends
    Orderly conn closings where
  ours : conn.registry.isLocal conn.registry.nextLocal
  once : closings.Nodup
  past : ∀ id ∈ closings, conn.registry.isIdle id = false ∧
    ∀ phase, conn.phase? id = some phase → phase = .closed

/-- The stream has not closed: its identifier is free, or it lives. -/
def Unclosed (conn : Connection) (id : Nat) : Prop :=
  conn.registry.isIdle id = true ∧ conn.phase? id = none ∨ ∃ phase, conn.phase? id = some phase ∧
    phase ≠ .closed

/-- What the tables say of a stream agrees with the closed streams and the identifiers used. -/
structure Listing.Fits (listing : Listing) (kept : Prop) (idle : Bool) : Prop where
  send : listing.sends ↔ ∃ phase, listing.phase = some phase ∧ phase ≠ .closed
  receive : listing.receives ↔ ∃ phase, listing.phase = some phase ∧ phase ≠ .closed
  closed : listing.phase = some .closed ↔ kept
  begun : listing.phase ≠ some .idle
  used : listing.phase.isSome → idle = false

namespace Listing.Fits

variable {kept : Prop}

theorem later {listing : Listing} {idle still : Bool} (fits : listing.Fits kept idle)
    (forward : idle = false → still = false) : listing.Fits kept still :=
  { fits with used := fun held => forward (fits.used held) }

theorem live (begun : phase ≠ .idle) (live : phase ≠ .closed) (free : ¬kept) :
    (⟨some phase, true, true⟩ : Listing).Fits kept false :=
  ⟨by simp [live], by simp [live], by simp [live, free], by simpa using begun, fun _ => rfl⟩

theorem ended (kept : Prop) [Decidable kept] :
    (⟨if kept then some .closed else none, false, false⟩ : Listing).Fits kept false := by
  by_cases here : kept
  · exact ⟨by simp [here], by simp [here], by simp [here], by simp [here], fun _ => rfl⟩
  · exact ⟨by simp [here], by simp [here], by simp [here], by simp [here], fun _ => rfl⟩

end Listing.Fits

theorem Orderly.of_fits (fits : ∀ id, (conn.listing id).Fits (id ∈ conn.registry.closed)
      (conn.registry.isIdle id))
    (distinct : conn.registry.closed.Nodup)
    (bounded : conn.registry.closed.length ≤ conn.registry.retention)
    (recent : conn.registry.closed = closings.drop (closings.length - conn.registry.retention)) :
    conn.Orderly closings :=
  ⟨fun id => (fits id).send, fun id => (fits id).receive, fun id => (fits id).closed, distinct,
    bounded, recent, fun id => (fits id).begun, fun id => (fits id).used⟩

namespace Tidy

variable (tidy : conn.Tidy closings)

include tidy

theorem missing (idle : conn.registry.isIdle id) : conn.phase? id = none := by
  cases held : conn.phase? id with
  | none => rfl
  | some phase =>
    have used := tidy.used id (by rw [held]; rfl)
    rw [used] at idle
    cases idle

theorem listing_of_none (missing : conn.phase? id = none) :
    conn.listing id = ⟨none, false, false⟩ := by
  have send := mt (tidy.send id).mp (by simp [missing])
  have receive := mt (tidy.receive id).mp (by simp [missing])
  simp only [listing, missing, Bool.eq_false_iff.mpr send, Bool.eq_false_iff.mpr receive]

theorem listing_of_closed (closed : conn.phase? id = some .closed) :
    conn.listing id = ⟨some .closed, false, false⟩ := by
  have send := mt (tidy.send id).mp (by simp [closed])
  have receive := mt (tidy.receive id).mp (by simp [closed])
  simp only [listing, closed, Bool.eq_false_iff.mpr send, Bool.eq_false_iff.mpr receive]

theorem listing_of_live (held : conn.phase? id = some phase) (alive : phase ≠ .closed) :
    conn.listing id = ⟨some phase, true, true⟩ := by
  have send := (tidy.send id).mpr ⟨phase, held, alive⟩
  have receive := (tidy.receive id).mpr ⟨phase, held, alive⟩
  simp only [listing, held, send, receive]

theorem listing_joined (other : Nat) :
    (if id = other then ⟨some .closed, false, false⟩ else conn.listing other) =
      if other ∈ conn.registry.closed ++ [id] then ⟨some .closed, false, false⟩
      else conn.listing other := by
  by_cases here : id = other
  · simp [here]
  · by_cases member : other ∈ conn.registry.closed
    · simp [here, member, tidy.listing_of_closed ((tidy.closed other).mpr member)]
    · simp [here, member, Ne.symm here]

theorem not_mem_closings (new : conn.Unclosed id) : id ∉ closings := by
  intro member
  obtain ⟨used, closed⟩ := tidy.past id member
  rcases new with ⟨idle, -⟩ | ⟨phase, held, alive⟩
  · rw [used] at idle
    cases idle
  · exact alive (closed phase held)

theorem mem_closings (member : id ∈ conn.registry.closed) : id ∈ closings := by
  rw [tidy.recent] at member
  exact mem_of_mem_drop member

theorem fits (id : Nat) :
    (conn.listing id).Fits (id ∈ conn.registry.closed) (conn.registry.isIdle id) :=
  ⟨tidy.send id, tidy.receive id, tidy.closed id, tidy.begun id, tidy.used id⟩

theorem keep (forward : Forward conn after) (closed : after.registry.closed = conn.registry.closed)
    (listed : ∀ id, after.listing id = conn.listing id ∨
      ∃ phase, phase ≠ .idle ∧ phase ≠ .closed ∧ after.listing id = ⟨some phase, true, true⟩ ∧
        id ∉ closings ∧ after.registry.isIdle id = false) : after.Tidy closings := by
  refine ⟨.of_fits (fun id => ?_) ?_ ?_ ?_, forward.ours tidy.ours, tidy.once, fun id member => ?_⟩
  · rw [closed]
    rcases listed id with same | ⟨phase, begun, live, same, unlisted, used⟩
    · rw [same]
      exact (tidy.fits id).later forward.used
    · rw [same, used]
      exact .live begun live fun member => unlisted (tidy.mem_closings member)
  · rw [closed]
    exact tidy.distinct
  · rw [closed, forward.retention]
    exact tidy.bounded
  · rw [closed, forward.retention]
    exact tidy.recent
  · obtain ⟨used, past⟩ := tidy.past id member
    refine ⟨forward.used used, fun phase held => ?_⟩
    rcases listed id with same | ⟨_, -, -, -, unlisted, -⟩
    · exact past phase ((congrArg Listing.phase same).symm.trans held)
    · exact absurd member unlisted

omit tidy in
theorem drop_excess_append (closings : List Nat) (id retention : Nat) :
    (closings.drop (closings.length - retention) ++ [id]).drop
        ((closings.drop (closings.length - retention) ++ [id]).length - retention) =
      (closings ++ [id]).drop ((closings ++ [id]).length - retention) := by
  rw [← drop_append_of_le_length (Nat.sub_le ..), drop_drop]
  congr 1
  simp only [length_drop, length_append, length_singleton]
  omega

theorem close (forward : Forward conn after) (new : conn.Unclosed id)
    (used : after.registry.isIdle id = false)
    (closed : after.registry.closed = (conn.registry.closed ++ [id]).drop
        ((conn.registry.closed ++ [id]).length - conn.registry.retention))
    (listed : ∀ other, after.listing other =
      if other ∈ conn.registry.closed ++ [id] then
        ⟨if other ∈ after.registry.closed then some .closed else none, false, false⟩
      else conn.listing other) : after.Tidy (closings ++ [id]) := by
  have fresh := tidy.not_mem_closings new
  have once : (closings ++ [id]).Nodup := by
    rw [nodup_append]
    refine ⟨tidy.once, by simp, ?_⟩
    rintro first member _ last rfl
    cases mem_singleton.mp last
    exact fresh member
  have recent : after.registry.closed =
      (closings ++ [id]).drop ((closings ++ [id]).length - after.registry.retention) := by
    rw [closed, tidy.recent, forward.retention]
    exact drop_excess_append closings id _
  have within : ∀ other ∈ after.registry.closed, other ∈ conn.registry.closed ++ [id] := by
    intro other member
    rw [closed] at member
    exact mem_of_mem_drop member
  have settled : ∀ other ∈ closings ++ [id], after.registry.isIdle other = false := by
    intro other member
    rcases mem_append.mp member with member | last
    · exact forward.used (tidy.past other member).1
    · cases mem_singleton.mp last
      exact used
  have joined : ∀ other ∈ conn.registry.closed ++ [id], other ∈ closings ++ [id] := by
    intro other member
    rcases mem_append.mp member with member | last
    · exact mem_append_left _ (tidy.mem_closings member)
    · exact mem_append_right _ last
  refine ⟨.of_fits (fun other => ?_) ?_ ?_ recent, forward.ours tidy.ours, once,
    fun other member => ⟨settled other member, fun phase held => ?_⟩⟩
  · rw [listed]
    split
    · rename_i inside
      rw [settled other (joined other inside)]
      exact .ended _
    · rename_i outside
      have same : other ∈ conn.registry.closed ↔ other ∈ after.registry.closed :=
        iff_of_false (fun member => outside (mem_append_left _ member))
          fun member => outside (within other member)
      rw [← same]
      exact (tidy.fits other).later forward.used
  · rw [recent]
    exact Nodup.sublist (drop_sublist ..) once
  · rw [recent, length_drop]
    omega
  · have held : (after.listing other).phase = some phase := held
    rw [listed] at held
    split at held
    · simp only at held
      split at held
      · exact (Option.some.inj held).symm
      · cases held
    · rename_i outside
      rcases mem_append.mp member with member | last
      · exact (tidy.past other member).2 phase held
      · exact absurd (mem_append_right _ last) outside

theorem change (change : Change conn after more) : after.Tidy (closings ++ more) := by
  cases change with
  | none forward closed same =>
    rw [append_nil]
    exact tidy.keep forward closed fun id => .inl (same id)
  | @enter id phase forward closed idle free used begun live listed =>
    rw [append_nil]
    refine tidy.keep forward closed fun other => ?_
    rw [listed]
    split
    · rename_i same
      subst same
      exact .inr ⟨phase, begun, live, rfl, tidy.not_mem_closings (.inl ⟨idle, free⟩), used⟩
    · exact .inl rfl
  | @move id phase next forward closed held alive begun live listed =>
    rw [append_nil]
    refine tidy.keep forward closed fun other => ?_
    rw [listed]
    split
    · rename_i same
      subst same
      have used := tidy.used other (by rw [held]; rfl)
      refine .inr ⟨next, begun, live, ?_, tidy.not_mem_closings (.inr ⟨phase, held, alive⟩),
        forward.used used⟩
      rw [tidy.listing_of_live held alive]
    · exact .inl rfl
  | close forward new used closed listed => exact tidy.close forward new used closed listed

omit tidy in
theorem changes (tidy : start.Tidy closings) (changes : Changes start more after) :
    after.Tidy (closings ++ more) := by
  induction changes with
  | refl =>
    rw [append_nil]
    exact tidy
  | tail _ change ih =>
    rw [← append_assoc]
    exact ih.change change

end Tidy

/-! ## Calm changes -/

namespace Change

theorem of_same (role : after.registry.role = conn.registry.role)
    (retention : after.registry.retention = conn.registry.retention)
    (nextLocal : after.registry.nextLocal = conn.registry.nextLocal)
    (lastRemote : after.registry.lastRemote = conn.registry.lastRemote)
    (closed : after.registry.closed = conn.registry.closed)
    (same : ∀ id, after.listing id = conn.listing id) : Change conn after [] := by
  refine .none ⟨retention, fun id idle => ?_, fun ours => ?_⟩ closed same
  · unfold isIdle isLocal at idle ⊢
    rwa [role, nextLocal, lastRemote] at idle
  · unfold isLocal at ours ⊢
    rwa [role, nextLocal]

theorem of_registry (registry : after.registry = conn.registry)
    (sends : ∀ id, (after.sendWindows.stream? id).isSome = (conn.sendWindows.stream? id).isSome)
    (receives : ∀ id, (after.receiveWindows.stream? id).isSome =
      (conn.receiveWindows.stream? id).isSome) : Change conn after [] := by
  refine of_same ?_ ?_ ?_ ?_ ?_ fun id => ?_
  iterate 5 rw [registry]
  simp only [listing, phase?, registry, sends, receives]

theorem of_tables (registry : after.registry = conn.registry)
    (sendWindows : after.sendWindows = conn.sendWindows)
    (receiveWindows : after.receiveWindows = conn.receiveWindows) : Change conn after [] :=
  of_registry registry (fun _ => by rw [sendWindows]) (fun _ => by rw [receiveWindows])

theorem of_streams {streams : IdMap Stream}
    (phases : ∀ id, ({ conn.registry with streams } : Registry).phase? id = conn.phase? id) :
    Change conn
      { conn with registry := { conn.registry with streams } } [] := by
  refine of_same rfl rfl rfl rfl rfl fun id => ?_
  simp only [listing]
  rw [← phases id]
  rfl

theorem of_counters {registry : Registry} (same : registry = { conn.registry with
      nextLocal := registry.nextLocal, lastRemote := registry.lastRemote })
    (idle : ∀ id, registry.isIdle id → conn.registry.isIdle id)
    (ours : conn.registry.isLocal conn.registry.nextLocal →
      registry.isLocal registry.nextLocal = true) :
    Change conn { conn with registry } [] := by
  refine .none ⟨?_, idle, ours⟩ ?_ fun id => ?_
  · simp only
    rw [same]
  · simp only
    rw [same]
  · simp only [listing, phase?]
    rw [same]
    rfl

end Change

namespace Tidy

variable {registry : Registry} {stream next : Stream} {reasons : Reason → Prop}

variable (tidy : conn.Tidy closings)

include tidy

theorem change_of_markClosed (eq : after.registry = (registry.markClosed id).2)
    (new : conn.Unclosed id) (forward : Forward conn { conn with registry })
    (used : registry.isIdle id = false) (closed : registry.closed = conn.registry.closed)
    (phases : ∀ other, registry.phase? other =
      if id = other then some .closed else conn.phase? other)
    (sends : ∀ other, (after.sendWindows.stream? other).isSome =
      if id = other then false else (conn.sendWindows.stream? other).isSome)
    (receives : ∀ other, (after.receiveWindows.stream? other).isSome =
      if id = other then false else (conn.receiveWindows.stream? other).isSome) :
    Change conn after [id] := by
  have unlisted : id ∉ registry.closed := by
    rw [closed]
    exact fun member => tidy.not_mem_closings new (tidy.mem_closings member)
  have queue := closed_markClosed unlisted
  have marked := phase?_markClosed unlisted (closed ▸ tidy.distinct)
  rw [← eq] at queue marked
  refine .close ⟨?_, ?_, ?_⟩ new ?_ ?_ fun other => ?_
  · rw [eq]
    exact forward.retention
  · rw [eq]
    exact forward.idle
  · rw [eq]
    exact forward.ours
  · rw [eq]
    exact used
  · rw [queue, closed]
    have retention := forward.retention
    simp only at retention
    rw [retention]
  · have shut : (⟨registry.phase? other, (after.sendWindows.stream? other).isSome,
        (after.receiveWindows.stream? other).isSome⟩ : Listing) =
        if other ∈ conn.registry.closed ++ [id] then ⟨some .closed, false, false⟩
        else conn.listing other := by
      rw [← tidy.listing_joined, phases, sends, receives]
      split <;> rfl
    have phase : after.phase? other = _ := marked other
    rw [closed] at phase
    by_cases inside : other ∈ conn.registry.closed ++ [id]
    · rw [if_pos inside] at shut ⊢
      injection shut with held sending receiving
      simp only [listing, phase, sending, receiving, held]
      by_cases kept : other ∈ after.registry.closed <;> simp [inside, kept]
    · rw [if_neg inside] at shut ⊢
      rw [if_neg fun both => inside both.1] at phase
      rw [← shut, listing, phase]

theorem change_of_finish (stream : Stream) (reason : Option Reason)
    (closed : stream.phase = .closed)
    (new : conn.Unclosed id) (forward : Forward conn { conn with registry })
    (used : registry.isIdle id = false) (queue : registry.closed = conn.registry.closed)
    (phases : ∀ other, registry.phase? other = conn.phase? other) (output : List Outgoing)
    (events : List Event) :
    Change conn
      ({ conn with
        registry := registry.insert id stream, outbound := output, events }.finishStream id reason)
      [id] := by
  refine tidy.change_of_markClosed rfl new ⟨forward.retention, forward.idle, forward.ours⟩
    used queue (fun other => ?_) (fun other => ?_) (fun other => ?_)
  · rw [phase?_of_held? (held?_detachChildren _ id), phase?_insert, closed,
      phases]
  · simp only [finishStream, emit, stream?_closeStream]
    split <;> rfl
  · simp only [finishStream, emit, stream?_closeStream]
    split <;> rfl

theorem change_of_refuse {reason : Reason} (takes : conn.registry.Takes id registry) :
    Change conn ({ conn with registry }.refuseStream id reason) [id] := by
  have idle := takes.idle_before tidy.ours
  have missing := tidy.missing idle
  have absent := tidy.listing_of_none missing
  have send : (conn.sendWindows.stream? id).isSome = false := congrArg Listing.sends absent
  have receive : (conn.receiveWindows.stream? id).isSome = false :=
    congrArg Listing.receives absent
  refine tidy.change_of_markClosed rfl (.inl ⟨idle, missing⟩)
    ⟨takes.retention, fun _ => takes.idle_mono, takes.nextLocal⟩ (takes.used_after tidy.ours)
    takes.closed (fun other => ?_) (fun other => ?_) (fun other => ?_)
  · rw [phase?_insert, phase?_of_held? takes.held?]
    rfl
  · change (conn.sendWindows.stream? other).isSome = _
    split
    · rename_i here
      rw [← here, send]
    · rfl
  · change (conn.receiveWindows.stream? other).isSome = _
    split
    · rename_i here
      rw [← here, receive]
    · rfl

theorem change_of_add (takes : conn.registry.Takes id registry) (live : stream.isLive)
    (begun : stream.phase ≠ .idle) :
    Change conn ({ conn with registry }.addStream id stream) [] := by
  have idle := takes.idle_before tidy.ours
  have lives : stream.phase ≠ .closed := by
    intro closed
    simp [Stream.isLive, Phase.isClosed, closed] at live
  refine .enter ⟨takes.retention, fun _ => takes.idle_mono, takes.nextLocal⟩ takes.closed idle
    (tidy.missing idle) (takes.used_after tidy.ours) begun lives fun other => ?_
  have phase : ({ conn with registry }.addStream id stream).phase? other =
      if id = other then some stream.phase else conn.phase? other := by
    unfold addStream phase?
    rw [phase?_insert, phase?_of_held? takes.held?]
  rw [listing, phase]
  simp only [addStream, stream?_openStream]
  by_cases here : id = other
  · simp [here]
  · rw [if_neg here, if_neg here, if_neg here, if_neg (Ne.symm here), listing]

theorem change_of_closedAgain {reason : Option Reason} (held : conn.registry.get? id = some stream)
    (closed : stream.phase = .closed) (same : next.phase = .closed) :
    Change conn
      ({ conn with registry := conn.registry.insert id next }.finishStream id reason)
      [] := by
  have shut : conn.phase? id = some .closed :=
    (phase?_of_get? held).trans (congrArg some closed)
  have absent := tidy.listing_of_closed shut
  have registry : ({ conn with
      registry := conn.registry.insert id next }.finishStream id reason).registry =
        (conn.registry.insert id next).detachChildren id :=
    markClosed_of_mem ((tidy.closed id).mp shut) tidy.bounded
  refine .of_same ?_ ?_ ?_ ?_ ?_ fun other => ?_
  iterate 5
    rw [registry]
    rfl
  have phase : ({ conn with
      registry := conn.registry.insert id next }.finishStream id reason).phase? other =
        conn.phase? other := by
    rw [phase?, registry, phase?_of_held? (held?_detachChildren _ id),
      phase?_insert, same]
    split
    · rename_i here
      rw [← here, shut]
    · rfl
  simp only [listing, phase]
  congr 1
  · exact isSome_closeStream (congrArg Listing.sends absent) other
  · exact isSome_closeStream (congrArg Listing.receives absent) other

theorem change_of_drop (id : Nat) (reason : Reason) (announced : Bool) (error : Error) :
    ∃ more, Change conn (conn.dropStream id reason announced error) more := by
  rcases dropStream_eq conn id reason announced error with same | ⟨stream, _, _, held,
    live, same⟩ <;> rw [same]
  · exact ⟨[], .of_tables rfl rfl rfl⟩
  · have phase := phase?_of_get? held
    have alive : stream.phase ≠ .closed := by
      intro closed
      simp [Stream.isLive, Phase.isClosed, closed] at live
    have dropped := tidy.change_of_finish (stream.reset reason) (some reason) rfl
      (.inr ⟨stream.phase, phase, alive⟩) ⟨rfl, fun _ idle => idle, fun ours => ours⟩
      (tidy.used id (by rw [Connection.phase?, phase]; rfl)) rfl (fun _ => rfl)
    exact ⟨[id], dropped _ _⟩

omit tidy in
theorem change_of_refill (target : Nat) : Change conn (conn.refill id target) [] := by
  unfold refill
  split
  · exact .of_tables rfl rfl rfl
  · rename_i increment windows filled
    obtain ⟨window, found, -, -, rfl⟩ := refill_eq filled
    refine .of_registry rfl (fun _ => rfl) fun other => ?_
    change ((conn.receiveWindows.setWindow id _).stream? other).isSome = _
    by_cases stands : id = 0
    · simp [setWindow, stands, stream?]
    · rw [window?, if_neg stands] at found
      rw [stream?_setWindow stands]
      split
      · rename_i here
        rw [← here, found]
        rfl
      · rfl

omit tidy in
theorem change_of_advance {signal : Signal} (held : conn.registry.get? id = some stream)
    (moves : stream.advance? signal = some next) (live : next.isLive) :
    Change conn { conn with registry := conn.registry.insert id next } [] := by
  obtain ⟨phase, moved, rfl⟩ := Option.map_eq_some_iff.mp moves
  have open_after : phase.isClosed = false := by simpa [Stream.isLive] using live
  have open_before := Phase.not_isClosed_of_next? moved (by simp [open_after])
  refine .move ⟨rfl, fun _ idle => idle, fun ours => ours⟩ rfl (phase?_of_get? held)
    ?_ (Phase.next?_ne_idle moved) ?_ fun other => ?_
  · rintro closed
    simp [closed, Phase.isClosed] at open_before
  · rintro rfl
    cases open_after
  · have phases : { conn with
        registry := conn.registry.insert id { stream with phase } }.phase? other =
          if id = other then some phase else conn.phase? other := phase?_insert ..
    rw [listing, phases]
    by_cases here : id = other
    · simp [here, listing]
    · rw [if_neg here, if_neg (Ne.symm here), listing]

theorem change_of_finished (held : conn.registry.get? id = some stream)
    (closed : next.isLive = false) :
    ∃ more, Change conn
      ({ conn with registry := conn.registry.insert id next }.finishStream id none)
      more := by
  have phase := phase?_of_get? held
  have shut : next.phase = .closed := by simpa [Stream.isLive, Phase.isClosed] using closed
  by_cases already : stream.phase = .closed
  · exact ⟨[], tidy.change_of_closedAgain held already shut⟩
  · exact ⟨[id], tidy.change_of_finish next none shut (.inr ⟨stream.phase, phase, already⟩)
      ⟨rfl, fun _ idle => idle, fun ours => ours⟩
      (tidy.used id (by rw [Connection.phase?, phase]; rfl)) rfl (fun _ => rfl) _ _⟩

theorem calm (calm : Calm reasons conn after) : ∃ more, Change conn after more := by
  cases calm with
  | emit | tables | farewell | target | write => exact ⟨[], .of_tables rfl rfl rfl⟩
  | take takes => exact ⟨[], .of_counters takes.same (fun _ => takes.idle_mono) takes.nextLocal⟩
  | skip skips =>
    have idle : ∀ other, _ → conn.registry.isIdle other :=
      fun _ => skipTo_idle_mono skips
    obtain ⟨ours, -, rfl⟩ := skipTo_eq skips
    exact ⟨[], .of_counters rfl idle fun _ => ours⟩
  | add takes live empty begun => exact ⟨[], tidy.change_of_add takes live begun⟩
  | refuseOwn takes =>
    have idle := takes.idle_before tidy.ours
    exact ⟨_, tidy.change_of_finish _ _ rfl (.inl ⟨idle, tidy.missing idle⟩)
      ⟨takes.retention, fun _ => takes.idle_mono, takes.nextLocal⟩ (takes.used_after tidy.ours)
      takes.closed (phase?_of_held? takes.held?) _ _⟩
  | refuseStream takes => exact ⟨_, tidy.change_of_refuse takes⟩
  | touch id keeps =>
    refine ⟨[], .of_streams fun other => ?_⟩
    exact phase?_of_held? (fun other => held?_modify _ id other _ keeps) other
  | reprioritize id priority =>
    rw [Connection.reprioritize, reprioritize_eq]
    refine ⟨[], .of_streams fun other => ?_⟩
    rw [← reprioritize_eq]
    exact phase?_of_held? (fun other => held?_reprioritize _ id other _) other
  | advance held moves live => exact ⟨[], change_of_advance held moves live⟩
  | finish held moves closed => exact tidy.change_of_finished held closed
  | drop id error given => exact tidy.change_of_drop id _ _ error
  | refill fits => exact ⟨[], change_of_refill _⟩
  | grow larger fits credited =>
    obtain ⟨-, -, rfl⟩ := credit_connection_eq credited
    exact ⟨[], .of_registry rfl (fun _ => rfl) fun _ => rfl⟩

theorem move (move : Move reasons conn after) : ∃ more, Change conn after more := by
  cases move with
  | calm calm => exact tidy.calm calm
  | @spend id octets windows endStream charged =>
    refine ⟨[], .of_registry rfl (fun other => ?_) fun _ => rfl⟩
    change (windows.stream? other).isSome = _
    rw [stream?_charge charged]
    split
    · exact Option.isSome_map
    · rfl
  | requeue fits =>
    exact ⟨[], .of_streams (phase?_modify fun stream held => (fits stream held).1)⟩
  | wait parked => exact ⟨[], .of_registry rfl (fun _ => rfl) fun _ => rfl⟩

theorem moves (moves : Moves reasons conn after) : ∃ more, Changes conn more after := by
  induction moves with
  | refl => exact ⟨[], .refl⟩
  | tail _ last ih =>
    obtain ⟨first, changes⟩ := ih
    obtain ⟨more, change⟩ := (tidy.changes changes).move last
    exact ⟨first ++ more, changes.tail change⟩

theorem calms (calms : Calms reasons conn after) : ∃ more, Changes conn more after :=
  tidy.moves calms.moves

theorem moves_of_change {middle : Connection} (change : Change conn middle [])
    (moves : Moves reasons middle after) : ∃ more, Changes conn more after := by
  have begun := Changes.single change
  obtain ⟨more, changes⟩ := (tidy.changes begun).moves moves
  exact ⟨_, begun.trans changes⟩

end Tidy

/-! ## Steps -/

private theorem change_of_synced {exchange : Exchange} {outbound : List Outgoing}
    (synced : Synced { conn with exchange, outbound } after) : Change conn after [] := by
  obtain ⟨windows, shifted, rfl⟩ := synced
  refine .of_registry rfl (fun _ => rfl) fun id => ?_
  change (windows.stream? id).isSome = _
  rw [shifted.stream, Option.isSome_map]

private theorem change_of_drawn (count : Nat) : Change conn (conn.drawn count) [] :=
  .of_registry rfl (fun _ => rfl) fun _ => rfl

private theorem change_of_drawnOn {count : Nat} {window : Int}
    (found : conn.receiveWindows.stream? id = some window) :
    Change conn (conn.drawnOn id count window) [] := by
  refine .of_registry rfl (fun _ => rfl) fun other => ?_
  have streams : (conn.drawnOn id count window).receiveWindows.stream? other =
      if id = other then some (window - count) else conn.receiveWindows.stream? other :=
    IdMap.get?_insert _ _ _ _
  rw [streams]
  split
  · rename_i here
    rw [← here, found]
    rfl
  · rfl

theorem Receipt.changes {frame : Frame} {result : Except Error Unit}
    (receipt : Receipt conn frame result after) (tidy : conn.Tidy closings) :
    ∃ more, Changes conn more after := by
  have spent : ∀ count target, ∃ more, Changes conn more ((conn.drawn count).refill 0 target) :=
    fun _ _ =>
    ⟨_, (Changes.single (change_of_drawn _)).tail (Tidy.change_of_refill _)⟩
  have shifted : ∀ {windows : Windows} {exchange : Exchange} {outbound : List Outgoing},
      (∀ id, (windows.stream? id).isSome = (conn.sendWindows.stream? id).isSome) →
      Change conn { conn with sendWindows := windows, exchange, outbound } [] :=
    fun same => .of_registry rfl same fun _ => rfl
  cases receipt with
  | calm control quiet => exact tidy.calms quiet.1
  | overspent | ackNotDue | malformed | zeroCredit | creditOverflow | unwanted | streamOverflow =>
    exact ⟨[], .refl⟩
  | refused => exact spent _ _
  | overdrawn => exact spent _ _
  | taken data fits found covered quiet =>
    exact tidy.moves_of_change (change_of_drawnOn found) quiet.1.moves
  | acknowledged due synced =>
    exact ⟨_, (Changes.single (change_of_synced synced)).tail (.of_tables rfl rfl rfl)⟩
  | outgrown => exact ⟨_, Changes.single (.of_tables rfl rfl rfl)⟩
  | applied read moved risen =>
    refine tidy.moves_of_change (shifted fun id => ?_)
      ((resumeIf_moves _ _).tail (.calm (.emit _ _)) : Moves (fun _ => True) _ _)
    rw [moved.stream, Option.isSome_map]
  | credited positive fits =>
    refine tidy.moves_of_change ?_ (resumeIf_moves _ _ : Moves (fun _ => True) _ _)
    exact shifted fun _ => rfl
  | streamCredited stands positive held fits =>
    refine tidy.moves_of_change (shifted fun other => ?_)
      (creditedOn_moves _ _ _ _ : Moves (fun _ => True) _ _)
    rw [stream?_setWindow stands]
    split
    · rename_i here
      rw [← here, held]
      rfl
    · rfl

theorem Performed.changes {call : Call} (performed : Performed conn call after)
    (tidy : conn.Tidy closings) : ∃ more, Changes conn more after := by
  cases performed with
  | calm calms => exact tidy.calms calms
  | announced allowed synced => exact ⟨_, Changes.single (change_of_synced synced)⟩
  | @queued _ id stream f held sends phase sound =>
    have enqueued : Change conn (conn.modifyStream id f) [] :=
      .of_streams (phase?_modify fun stream _ => phase stream)
    exact tidy.moves_of_change enqueued ((flush_flushed _ _).moves : Moves (fun _ => True) _ _)

theorem called_of_closed (closed : conn.closed) (call : Call) :
    Calms (fun _ => True) conn (conn.called call) := by
  rcases called_eq_or_skips closed call with same | ⟨id, registry, skips, same⟩ <;> rw [same]
  exact .single (.skip conn skips)

private theorem teardown_moves (conn : Connection) (reason : Reason) :
    Moves (fun _ => True) conn (conn.teardown reason) := by
  have dropped : Calms (fun _ => True) conn _ :=
    Calms.dropAll .refl conn.registry.liveIds reason fun _ => .sessionClosed
  exact dropped.moves.tail (.wait _ [])

theorem fail_moves (opened : conn.closed = false) (error : Error) :
    ∃ middle, Moves (fun _ => True) conn middle ∧
    conn.fail error = { middle with closed := true } := by
  have told : Calms (fun _ => True) conn (conn.sayFarewell _ error.reason _) :=
    Calms.sayFarewell .refl trivial conn.registry.lastRemote (Header.encodeUtf8 error.debugText)
  refine ⟨_, (told.moves.trans (teardown_moves _ error.reason)).tail
    (.calm (.emit _ (.sessionError error))), ?_⟩
  unfold fail
  rw [opened]
  rfl

theorem close_moves (opened : conn.closed = false) :
    ∃ middle, Moves (fun _ => True) conn middle ∧ conn.close = { middle with closed := true } := by
  unfold close
  rw [opened]
  simp only [Bool.false_eq_true, if_false]
  split
  · have told : Calms (fun _ => True) conn (conn.sayFarewell _ .noError []) :=
      Calms.sayFarewell .refl trivial conn.registry.lastRemote []
    exact ⟨_, told.moves.trans (teardown_moves _ .cancel), rfl⟩
  · exact ⟨_, teardown_moves _ .cancel, rfl⟩

namespace Tidy

theorem fail (tidy : conn.Tidy closings) (error : Error) :
    ∃ more, Changes conn more (conn.fail error) := by
  cases closed : conn.closed with
  | true =>
    rw [Connection.fail, closed]
    exact ⟨[], .refl⟩
  | false =>
    obtain ⟨middle, moves, eq⟩ := fail_moves closed error
    obtain ⟨more, changes⟩ := tidy.moves moves
    rw [eq]
    exact ⟨_, changes.tail (.of_tables rfl rfl rfl)⟩

theorem close_session (tidy : conn.Tidy closings) : ∃ more, Changes conn more conn.close := by
  cases closed : conn.closed with
  | true =>
    rw [Connection.close, closed]
    exact ⟨[], .refl⟩
  | false =>
    obtain ⟨middle, moves, eq⟩ := close_moves closed
    obtain ⟨more, changes⟩ := tidy.moves moves
    rw [eq]
    exact ⟨_, changes.tail (.of_tables rfl rfl rfl)⟩

end Tidy

theorem Step.changes (step : Step conn log after) (sound : conn.closed = false → conn.Sound)
    (tidy : conn.Tidy closings) : ∃ more, Changes conn more after := by
  cases step with
  | call call =>
    cases closed : conn.closed with
    | true => exact tidy.calms (called_of_closed closed call)
    | false =>
      exact (called_of_leads (perform_performed (sound closed) call)).changes tidy
  | @accept frame after opened ran =>
    exact ((receiveFrame_receipt (sound opened) frame).of_ok ran).changes tidy
  | @absorb frame error middle opened ran harmless =>
    obtain ⟨first, changes⟩ :=
      ((receiveFrame_receipt (sound opened) frame).of_error ran).changes tidy
    have absorbed : Calms (fun _ => True) middle (middle.absorb error) := absorb_calms trivial
    obtain ⟨more, last⟩ := (tidy.changes changes).calms absorbed
    exact ⟨_, changes.trans last⟩
  | @collapse frame error middle opened ran fatal =>
    obtain ⟨first, changes⟩ :=
      ((receiveFrame_receipt (sound opened) frame).of_error ran).changes tidy
    obtain ⟨more, last⟩ := (tidy.changes changes).fail error
    exact ⟨_, changes.trans last⟩
  | fail error => exact tidy.fail error
  | close => exact tidy.close_session
  | handOver | tell events => exact ⟨_, Changes.single (.of_tables rfl rfl rfl)⟩

private theorem fresh_tidy (role : Role) (config : Config) :
    (Session.fresh role config).Tidy [] := by
  refine ⟨⟨?_, ?_, ?_, ?_, ?_, ?_, ?_, ?_⟩, ?_, ?_, ?_⟩
  · exact fun id => ⟨nofun, nofun⟩
  · exact fun id => ⟨nofun, nofun⟩
  · exact fun id => ⟨nofun, nofun⟩
  · exact .nil
  · exact Nat.zero_le _
  · exact drop_nil.symm
  · exact fun id => nofun
  · exact fun id => nofun
  · exact (Sound.new role config.retention).nextLocal
  · exact .nil
  · exact nofun

/-- How a connection has come about, step by step from its beginning, with the streams that closed
on the way in the order in which they did. -/
inductive History : Connection → List Nat → Prop
  | fresh (role : Role) (config : Config) : History (Session.fresh role config) []
  | step {closings more : List Nat} {log : List Activity} {conn after : Connection}
      (history : History conn closings) (step : Step conn log after)
      (changes : Changes conn more after) : History after (closings ++ more)

theorem Steps.history {role : Role} {config : Config}
    (steps : Steps (Session.fresh role config) log conn) :
    ∃ closings, History conn closings ∧ conn.Tidy closings := by
  induction steps with
  | refl => exact ⟨[], .fresh role config, fresh_tidy role config⟩
  | tail steps last ih =>
    obtain ⟨closings, history, tidy⟩ := ih
    obtain ⟨more, changes⟩ :=
      last.changes (steps.sound (Session.fresh_sound role config)) tidy
    exact ⟨_, history.step last changes, tidy.changes changes⟩

theorem Change.lives (change : Change conn after more) (held : conn.phase? id = some phase)
    (alive : phase ≠ .closed) (tidy : conn.Tidy closings) :
    id ∈ more ∨ ∃ next, after.phase? id = some next ∧ next ≠ .closed := by
  have phases : after.phase? id = (after.listing id).phase := rfl
  have before : (conn.listing id).phase = some phase := held
  rw [phases]
  cases change with
  | none forward closed same => exact .inr ⟨phase, by rw [same, before], alive⟩
  | enter forward closed idle free used begun live listed
  | move forward closed _ _ begun live listed =>
    right
    rw [listed]
    split
    · exact ⟨_, rfl, live⟩
    · exact ⟨phase, before, alive⟩
  | close forward new used closed listed =>
    rw [listed]
    split
    · rename_i inside
      refine .inl ((mem_append.mp inside).resolve_left fun member => ?_)
      have shut := (tidy.closed id).mpr member
      rw [held] at shut
      exact alive (Option.some.inj shut)
    · exact .inr ⟨phase, before, alive⟩

theorem Changes.lives (changes : Changes conn more after) (held : conn.phase? id = some phase)
    (alive : phase ≠ .closed) (tidy : conn.Tidy closings) :
    id ∈ more ∨ ∃ next, after.phase? id = some next ∧ next ≠ .closed := by
  induction changes with
  | refl => exact .inr ⟨phase, held, alive⟩
  | tail changes last ih =>
    rcases ih with member | ⟨next, held, alive⟩
    · exact .inl (mem_append_left _ member)
    · rcases last.lives held alive (tidy.changes changes) with member | lives
      · exact .inl (mem_append_right _ member)
      · exact .inr lives

end Connection

namespace Session

open Connection (History Changes Step)

end Session

end Http2
