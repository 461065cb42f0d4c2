import Http2.Stream.Dependency

/-!
# What the registry holds

The place of a stream among the priorities and its header flags have no part in sending.  The rest
of it is its `Cargo`, and `Registry.cargo?` gives the cargo of the streams that are live.
`Registry.Sound` collects what is true of every registry that a connection comes to have.
-/

namespace Http2

variable {stream : Stream}

namespace Phase

variable {phase next : Phase} {signal : Signal}

def isEarly : Phase → Bool
  | idle | reservedLocal | reservedRemote => true
  | _ => false

private theorem isEarly_of_next? (h : phase.next? signal = some next) (early : next.isEarly) :
    phase.isEarly := by
  unfold next? at h
  split at h <;> cases h <;> simp_all [isEarly]

theorem not_canSend_of_isEarly (early : phase.isEarly) : ¬ phase.canSend := by
  cases phase <;> simp_all [isEarly, canSend]

theorem canSend_of_next? (h : phase.next? signal = some next) (sends : next.canSend) :
    phase.canSend ∨ phase.isEarly := by
  unfold next? at h
  split at h <;> cases h <;> simp_all [canSend, isEarly]

theorem not_isClosed_of_next? (h : phase.next? signal = some next) (live : next.isClosed = false) :
    phase.isClosed = false := by
  cases phase <;> try rfl
  rw [next?_closed h] at live
  exact live

end Phase

/-! ## Buffers -/

/-- No piece is empty, and the count is that of the octets in the pieces. -/
structure Buffer.Exact (buffer : Buffer) : Prop where
  filled : ∀ piece ∈ buffer.pieces, piece ≠ []
  counted : buffer.length = totalLength buffer.pieces

/-- The octets come first in the buffer, and what is left is behind them. -/
structure Buffer.Splits (buffer : Buffer) (first : Octets) (left : Buffer) : Prop where
  octets : buffer.octets = first ++ left.octets
  length : buffer.length = first.length + left.length

namespace Buffer

variable {buffer : Buffer} {piece : Octets} {rest : List Octets} {length count : Nat}

theorem exact_empty : ({} : Buffer).Exact := ⟨by simp, rfl⟩

namespace Exact

theorem push (exact : buffer.Exact) (piece : Octets) : (buffer.push piece).Exact := by
  unfold Buffer.push
  split
  · exact exact
  · rename_i some
    constructor
    · intro other member
      rcases List.mem_append.mp member with member | member
      · exact exact.filled other member
      · rw [List.mem_singleton.mp member]
        simpa using some
    · simp [totalLength, exact.counted]

theorem cut (exact : Exact ⟨piece :: rest, length⟩) (fits : count ≤ piece.length) :
    (Buffer.cut ⟨piece :: rest, length⟩ count).Exact := by
  have counted := exact.counted
  simp only [totalLength, List.map_cons, total_cons] at counted
  simp only [Buffer.cut]
  split
  · constructor
    · intro other member
      rcases List.mem_cons.mp member with rfl | member
      · rw [Ne, List.drop_eq_nil_iff]
        omega
      · exact exact.filled other (List.mem_cons_of_mem _ member)
    · simp only [totalLength, List.map_cons, total_cons, List.length_drop]
      omega
  · constructor
    · exact fun other member => exact.filled other (List.mem_cons_of_mem _ member)
    · simp only [totalLength]
      omega

theorem splits_cut (exact : Exact ⟨piece :: rest, length⟩) (fits : count ≤ piece.length) :
    Splits ⟨piece :: rest, length⟩ (piece.take count)
      (Buffer.cut ⟨piece :: rest, length⟩ count) := by
  have counted := exact.counted
  simp only [totalLength, List.map_cons, total_cons] at counted
  constructor
  · simp only [Buffer.cut, Buffer.octets, List.flatten_cons]
    split
    · rw [List.flatten_cons, ← List.append_assoc, List.take_append_drop]
    · rw [List.take_of_length_le (by omega)]
  · simp only [Buffer.cut, List.length_take]
    omega

section

variable (exact : buffer.Exact)

include exact

theorem length_octets : buffer.octets.length = buffer.length :=
  (length_flatten_eq buffer.pieces).trans exact.counted.symm

theorem splits : buffer.Splits buffer.octets {} :=
  ⟨(List.append_nil _).symm, exact.length_octets.symm⟩

theorem length_eq_zero_iff : buffer.length = 0 ↔ buffer = {} := by
  constructor
  · obtain ⟨pieces, length⟩ := buffer
    rintro rfl
    cases pieces with
    | nil => rfl
    | cons piece rest =>
      have counted := exact.counted
      have some := List.length_pos_iff.mpr (exact.filled piece List.mem_cons_self)
      simp only [totalLength, List.map_cons, total_cons] at counted
      omega
  · rintro rfl
    rfl

end

end Exact

end Buffer

/-! ## Cargo -/

structure Cargo where
  phase : Phase
  queue : Buffer
  trailers : Option (List Field)
  endQueued : Bool

namespace Cargo

def isLive (cargo : Cargo) : Bool := !cargo.phase.isClosed

/-- Octets, trailers or the end of the stream wait to be sent. -/
def Waits (cargo : Cargo) : Prop :=
  cargo.queue ≠ {} ∨ cargo.trailers.isSome ∨ cargo.endQueued

structure Sound (cargo : Cargo) : Prop where
  queue : cargo.queue.Exact
  early : cargo.phase.isEarly → ¬ cargo.Waits
  trailers : cargo.trailers.isSome → cargo.endQueued

end Cargo

def Stream.cargo (stream : Stream) : Cargo :=
  ⟨stream.phase, stream.queue, stream.trailers, stream.endQueued⟩

theorem Stream.reset_sound (stream : Stream) (reason : Reason) :
    (stream.reset reason).cargo.Sound :=
  ⟨Buffer.exact_empty, (nomatch ·), (nomatch ·)⟩

theorem Cargo.Sound.advance {signal : Signal} {next : Stream} (sound : stream.cargo.Sound)
    (moves : stream.advance? signal = some next) : next.cargo.Sound := by
  obtain ⟨phase, moved, rfl⟩ := Option.map_eq_some_iff.mp moves
  exact ⟨sound.queue, fun early => sound.early (Phase.isEarly_of_next? moved early), sound.trailers⟩

@[simp] theorem Stream.isLive_cargo (stream : Stream) : stream.cargo.isLive = stream.isLive := rfl

def Stream.bare (stream : Stream) : Stream :=
  { stream with priority := .default, resetReason := none }

@[simp] theorem Stream.isLive_bare (stream : Stream) : stream.bare.isLive = stream.isLive := rfl

theorem Stream.isLive_of_canSend (sends : stream.phase.canSend) : stream.isLive := by
  unfold Stream.isLive
  cases phase : stream.phase <;> simp_all [Phase.canSend, Phase.isClosed]

theorem Stream.isLive_of_canReceive (receives : stream.phase.canReceive) : stream.isLive := by
  unfold Stream.isLive
  cases phase : stream.phase <;> simp_all [Phase.canReceive, Phase.isClosed]

theorem Stream.isLive_of_advance? {signal : Signal} {next : Stream}
    (moves : stream.advance? signal = some next) (live : next.isLive) : stream.isLive := by
  obtain ⟨phase, moved, rfl⟩ := Option.map_eq_some_iff.mp moves
  simpa [Stream.isLive] using Phase.not_isClosed_of_next? moved
    (by simpa [Stream.isLive] using live)

private theorem Stream.bare_dependOn (stream : Stream) (parent : Nat) :
    (stream.dependOn parent).bare = stream.bare := rfl

namespace Registry

variable {registry after : Registry} {id other : Nat} {stream : Stream}
  {f : Stream → Stream} {role : Role}

def bare? (registry : Registry) (id : Nat) : Option Stream := (registry.get? id).map Stream.bare

theorem phase?_of_get? (held : registry.get? id = some stream) :
    registry.phase? id = some stream.phase := by
  simp [phase?, held]

def held? (registry : Registry) (id : Nat) : Option Cargo := (registry.get? id).map Stream.cargo

def cargo? (registry : Registry) (id : Nat) :
    Option Cargo := (registry.held? id).filter Cargo.isLive

theorem cargo?_eq_some_iff {cargo : Cargo} :
    registry.cargo? id = some cargo ↔
      ∃ stream, registry.get? id = some stream ∧ stream.isLive ∧ stream.cargo = cargo := by
  unfold cargo? held?
  cases registry.get? id with
  | none => simp
  | some stream =>
    simp only [Option.map_some, Option.filter_eq_some_iff, Option.some.injEq, exists_eq_left']
    constructor
    · rintro ⟨rfl, live⟩
      exact ⟨live, rfl⟩
    · rintro ⟨live, rfl⟩
      exact ⟨rfl, live⟩

theorem cargo?_of_get? (held : registry.get? id = some stream) (live : stream.isLive) :
    registry.cargo? id = some stream.cargo :=
  cargo?_eq_some_iff.mpr ⟨stream, held, live, rfl⟩

theorem cargo?_eq_none_of_closed (held : registry.get? id = some stream)
    (closed : stream.isLive = false) :
    registry.cargo? id = none := by
  simp [cargo?, held?, held, closed]

theorem cargo?_eq_none_of_missing (missing : registry.held? id = none) :
    registry.cargo? id = none := by
  simp [cargo?, missing]

/-! ## Changes to what is held -/

variable (registry id other)

@[simp] theorem get?_insert (stream : Stream) : (registry.insert id stream).get? other =
      if id = other then some stream else registry.get? other :=
  IdMap.get?_insert registry.streams id other stream

@[simp] theorem held?_insert (stream : Stream) : (registry.insert id stream).held? other =
      if id = other then some stream.cargo else registry.held? other := by
  simp only [held?, get?_insert]
  split <;> rfl

theorem cargo?_insert (stream : Stream) : (registry.insert id stream).cargo? other =
      if id = other then (some stream.cargo).filter Cargo.isLive else registry.cargo? other := by
  simp only [cargo?, held?_insert]
  split <;> rfl

theorem cargo?_insert_closed (closed : stream.isLive = false) :
    (registry.insert id stream).cargo? other = if id =
      other then none else registry.cargo? other := by
  rw [cargo?_insert]
  simp [closed, Option.filter_some]

theorem cargo?_insert_live (live : stream.isLive) : (registry.insert id stream).cargo? other =
      if id = other then some stream.cargo else registry.cargo? other := by
  rw [cargo?_insert]
  simp [live, Option.filter_some]

theorem get?_modify (f : Stream → Stream) : (registry.modify id f).get? other =
      if other = id then (registry.get? other).map f else registry.get? other :=
  IdMap.get?_modify registry.streams id other f

variable {registry id other}

theorem cargo?_modify
    (phase : ∀ stream, registry.get? id = some stream → (f stream).phase = stream.phase)
    (other : Nat) :
    (registry.modify id f).cargo? other =
      if other = id then ((registry.get? other).filter Stream.isLive).map fun stream =>
        (f stream).cargo
      else registry.cargo? other := by
  simp only [cargo?, held?, get?_modify]
  split
  · rename_i same
    subst same
    cases held : registry.get? other with
    | none => rfl
    | some stream =>
      have alive : (f stream).isLive = stream.isLive := by
        simp [Stream.isLive, phase stream held]
      cases live : stream.isLive <;> simp [Option.filter_some, live, alive]
  · rfl

theorem isSome_cargo?_modify
    (phase : ∀ stream, registry.get? id = some stream → (f stream).phase = stream.phase)
    (other : Nat) :
    ((registry.modify id f).cargo? other).isSome = (registry.cargo? other).isSome := by
  rw [cargo?_modify phase]
  split
  · unfold cargo? held?
    cases registry.get? other with
    | none => rfl
    | some stream => cases live : stream.isLive <;> simp [Option.filter_some, live]
  · rfl

private theorem map_get?_mapWithKey {α : Type} (g : Stream → α) (registry : Registry)
    (f : Nat → Stream → Stream) (same : ∀ id stream, g (f id stream) = g stream) (id : Nat) :
    ({ registry with streams := registry.streams.mapWithKey f }.get? id).map g =
      (registry.get? id).map g := by
  simp only [get?, IdMap.get?_mapWithKey]
  cases registry.streams.get? id with
  | none => rfl
  | some stream => simp [same]

private theorem map_get?_modify {α : Type} (g : Stream → α) (registry : Registry) (id other : Nat)
    (f : Stream → Stream) (same : ∀ stream, g (f stream) = g stream) :
    ((registry.modify id f).get? other).map g = (registry.get? other).map g := by
  refine map_get?_mapWithKey g registry _ (fun key stream => ?_) other
  split
  · exact same stream
  · rfl

private theorem held?_of_bare? {before : Registry} (same : after.bare? id = before.bare? id) :
    after.held? id = before.held? id := by
  have held : ∀ registry : Registry, registry.held? id = (registry.bare? id).map Stream.cargo := by
    intro registry
    unfold held? bare?
    cases registry.get? id <;> rfl
  rw [held, held, same]

variable (registry id other)

theorem held?_modify (f : Stream → Stream) (same : ∀ stream, (f stream).cargo = stream.cargo) :
    (registry.modify id f).held? other = registry.held? other :=
  map_get?_modify _ registry id other f same

/-! ## Priorities -/

private theorem bare?_modify (f : Stream → Stream)
    (same : ∀ stream, (f stream).bare = stream.bare) :
    (registry.modify id f).bare? other = registry.bare? other :=
  map_get?_modify _ registry id other f same

theorem bare?_detachChildren : (registry.detachChildren id).bare? other = registry.bare? other := by
  refine map_get?_mapWithKey Stream.bare registry _ (fun key stream => ?_) other
  split
  · exact stream.bare_dependOn 0
  · rfl

private theorem bare?_liftParent (id parent other : Nat) :
    (registry.liftParent id parent).bare? other = registry.bare? other := by
  unfold liftParent
  split
  · exact bare?_modify registry parent other _ fun stream => stream.bare_dependOn 0
  · rfl

private theorem bare?_adoptSiblings (id parent other : Nat) :
    (registry.adoptSiblings id parent).bare? other = registry.bare? other := by
  refine map_get?_mapWithKey Stream.bare registry _ (fun key stream => ?_) other
  split
  · exact stream.bare_dependOn id
  · rfl

theorem bare?_reprioritize (priority : Priority) :
    (registry.reprioritize id priority).bare? other = registry.bare? other := by
  unfold reprioritize
  simp only
  rw [bare?_modify]
  · split
    · rw [bare?_adoptSiblings, bare?_liftParent]
    · rw [bare?_liftParent]
  · intro stream
    rfl

theorem held?_detachChildren : (registry.detachChildren id).held? other = registry.held? other :=
  held?_of_bare? (bare?_detachChildren registry id other)

theorem held?_reprioritize (priority : Priority) :
    (registry.reprioritize id priority).held? other = registry.held? other :=
  held?_of_bare? (bare?_reprioritize registry id other priority)

theorem reprioritize_eq (priority : Priority) :
    registry.reprioritize id priority =
      { registry with streams := (registry.reprioritize id priority).streams } := by
  unfold reprioritize
  simp only [liftParent]
  split <;> split <;> rfl

/-! ## Forgetting closed streams -/

theorem get?_foldl_erase (streams : IdMap Stream) (ids : List Nat) (id : Nat) :
    (ids.foldl IdMap.erase streams).get? id = if id ∈ ids then none else streams.get? id := by
  induction ids generalizing streams with
  | nil => simp
  | cons first rest ih =>
    rw [List.foldl_cons, ih, IdMap.get?_erase]
    by_cases same : first = id
    · simp [same]
    · have : ¬ id = first := fun h => same h.symm
      simp [same, this]

theorem get?_markClosed : (registry.markClosed id).2.get? other = registry.get? other ∨
      (registry.markClosed id).2.get? other = none ∧ (other ∈ registry.closed ∨ other = id) := by
  unfold markClosed get?
  simp only [get?_foldl_erase]
  generalize hkept : (if id ∈ registry.closed then registry.closed else registry.closed ++ [id]) =
    kept
  split
  · rename_i evicted
    refine .inr ⟨rfl, ?_⟩
    have member := List.mem_of_mem_take evicted
    rw [← hkept] at member
    split at member
    · exact .inl member
    · simpa using member
  · exact .inl rfl

theorem held?_markClosed : (registry.markClosed id).2.held? other = registry.held? other ∨
      (registry.markClosed id).2.held? other = none ∧ (other ∈ registry.closed ∨ other = id) := by
  unfold held?
  rcases get?_markClosed registry id other with same | ⟨gone, member⟩
  · exact .inl (by rw [same])
  · exact .inr ⟨by rw [gone]; rfl, member⟩

variable {registry id other}

theorem mem_closed_markClosed (h : other ∈ (registry.markClosed id).2.closed) :
    other ∈ registry.closed ∨ other = id := by
  have member := List.mem_of_mem_drop h
  split at member
  · exact .inl member
  · simpa using member

private theorem cargo?_markClosed (closed : ∀ other ∈ registry.closed, registry.cargo? other = none)
    (ended : registry.cargo? id = none) (other : Nat) :
    (registry.markClosed id).2.cargo? other = registry.cargo? other := by
  rcases held?_markClosed registry id other with same | ⟨gone, member⟩
  · simp only [cargo?, same]
  · have none : registry.cargo? other = none := by
      rcases member with member | rfl
      · exact closed other member
      · exact ended
    rw [none]
    exact cargo?_eq_none_of_missing gone

/-! ## Using up identifiers -/

/-- The identifier of a new stream, ours or the peer's, has been used up. -/
inductive Takes (registry : Registry) (id : Nat) (after : Registry) : Prop
  | ours (h : registry.allocate = .ok (id, after))
  | theirs (h : registry.acceptRemote id = .ok after)

theorem isIdle_iff :
    registry.isIdle id = true ↔ registry.isLocal id ∧ registry.nextLocal ≤ id ∨
        registry.isLocal id = false ∧ registry.lastRemote < id := by
  unfold isIdle
  cases registry.isLocal id <;> simp

theorem isIdle_insert (registry : Registry) (id other : Nat) (stream : Stream) :
    (registry.insert id stream).isIdle other = registry.isIdle other := rfl

theorem not_initiates_of_peer (h : role.peer.initiates id) : role.initiates id = false := by
  cases role <;> simp_all [Role.peer, Role.initiates]

private theorem initiates_add_two (h : role.initiates id) : role.initiates (id + 2) = true := by
  cases role <;> simp_all [Role.initiates]

theorem allocate_eq (h : registry.allocate = .ok (id, after)) :
    id = registry.nextLocal ∧ after = { registry with nextLocal := registry.nextLocal + 2 } := by
  unfold allocate at h
  split at h
  · cases h
  · cases h
    exact ⟨rfl, rfl⟩

theorem acceptRemote_eq (h : registry.acceptRemote id = .ok after) :
    registry.role.peer.initiates id = true ∧ registry.lastRemote < id ∧
      after = { registry with lastRemote := id } := by
  unfold acceptRemote at h
  split at h
  · cases h
  · rename_i parity
    split at h
    · cases h
    · rename_i later
      cases h
      exact ⟨by simpa using parity, by omega, rfl⟩

theorem acceptRemote_of (theirs : registry.role.peer.initiates id)
    (new : registry.lastRemote < id) :
    registry.acceptRemote id = .ok { registry with lastRemote := id } := by
  unfold acceptRemote
  rw [theirs, if_neg (by simp), if_neg (Nat.not_le.mpr new)]

theorem skipTo_eq (h : registry.skipTo id = .ok after) :
    registry.isLocal id = true ∧ registry.nextLocal ≤ id ∧
    after = { registry with nextLocal := id } := by
  unfold skipTo at h
  split at h
  · cases h
  · rename_i fits
    cases h
    simp only [Bool.or_eq_true, Bool.not_eq_true', decide_eq_true_eq, not_or,
      Bool.not_eq_false, Nat.not_lt] at fits
    exact ⟨fits.1.1, fits.1.2, rfl⟩

theorem skipTo_idle_mono (h : registry.skipTo id = .ok after) (idle : after.isIdle other) :
    registry.isIdle other = true := by
  obtain ⟨-, later, rfl⟩ := skipTo_eq h
  rcases isIdle_iff.mp idle with ⟨parity, beyond⟩ | ⟨parity, beyond⟩
  · exact isIdle_iff.mpr (.inl ⟨parity, Nat.le_trans later beyond⟩)
  · exact isIdle_iff.mpr (.inr ⟨parity, beyond⟩)

/-! ## Soundness -/

structure Sound (registry : Registry) : Prop where
  nextLocal : registry.isLocal registry.nextLocal
  root : registry.held? 0 = none
  fresh : ∀ id, registry.isIdle id → registry.held? id = none
  unlisted : ∀ id, registry.isIdle id → id ∉ registry.closed
  closed : ∀ id ∈ registry.closed, registry.cargo? id = none
  held : ∀ id cargo, registry.held? id = some cargo → cargo.Sound

namespace Sound

theorem new (role : Role) (retention : Nat) : (Registry.new role retention).Sound where
  nextLocal := by cases role <;> simp [Registry.new, isLocal, Role.initiates, Role.firstId]
  root := rfl
  fresh _ _ := rfl
  unlisted _ _ := List.not_mem_nil
  closed _ member := nomatch member
  held _ _ found := nomatch found

variable (sound : registry.Sound)

include sound

theorem used (held : registry.get? id = some stream) : registry.isIdle id = false := by
  cases idle : registry.isIdle id with
  | false => rfl
  | true =>
    have missing := sound.fresh id idle
    simp [held?, held] at missing

theorem ne_zero (held : registry.get? id = some stream) : id ≠ 0 := by
  rintro rfl
  have missing := sound.root
  simp [held?, held] at missing

theorem cargo (held : registry.get? id = some stream) : stream.cargo.Sound :=
  sound.held id _ (by rw [held?, held]; rfl)

theorem exact (held : registry.get? id = some stream) :
    stream.queue.Exact := (sound.cargo held).queue

theorem unlisted_of_live {cargo : Cargo} (live : registry.cargo? id = some cargo) :
    id ∉ registry.closed := by
  intro member
  rw [sound.closed id member] at live
  cases live

theorem insert (stands : id ≠ 0) (used : registry.isIdle id = false) (fits : stream.cargo.Sound)
    (live : stream.isLive → id ∉ registry.closed) : (registry.insert id stream).Sound where
  nextLocal := sound.nextLocal
  root := by simpa [stands] using sound.root
  fresh other idle := by
    rw [isIdle_insert] at idle
    have differ : id ≠ other := by
      rintro rfl
      simp [used] at idle
    simpa [differ] using sound.fresh other idle
  unlisted other idle := sound.unlisted other idle
  closed other member := by
    rw [cargo?_insert]
    split
    · rename_i same
      subst same
      cases alive : stream.isLive with
      | false => simp [alive]
      | true => exact absurd member (live alive)
    · exact sound.closed other member
  held other cargo found := by
    rw [held?_insert] at found
    split at found
    · exact Option.some.inj found ▸ fits
    · exact sound.held other cargo found

theorem of_held {streams : IdMap Stream}
    (same : ∀ id, { registry with streams }.held? id = registry.held? id) :
    { registry with streams }.Sound := by
  have sameCargo : ∀ id, { registry with streams }.cargo? id = registry.cargo? id := by
    intro id
    simp only [cargo?, same]
  constructor
  · exact sound.nextLocal
  · rw [same]
    exact sound.root
  · intro id idle
    rw [same]
    exact sound.fresh id idle
  · exact sound.unlisted
  · intro id member
    rw [sameCargo]
    exact sound.closed id member
  · intro id cargo found
    rw [same] at found
    exact sound.held id cargo found

theorem markClosed (used : registry.isIdle id = false)
    (ended : registry.cargo? id = none) : (registry.markClosed id).2.Sound := by
  have same := cargo?_markClosed sound.closed ended
  constructor
  · exact sound.nextLocal
  · rcases held?_markClosed registry id 0 with kept | ⟨gone, -⟩
    · rw [kept]
      exact sound.root
    · exact gone
  · intro other idle
    rcases held?_markClosed registry id other with kept | ⟨gone, -⟩
    · rw [kept]
      exact sound.fresh other idle
    · exact gone
  · intro other idle member
    rcases mem_closed_markClosed member with member | rfl
    · exact sound.unlisted other idle member
    · change registry.isIdle other = true at idle
      simp [used] at idle
  · intro other member
    rw [same]
    rcases mem_closed_markClosed member with member | rfl
    · exact sound.closed other member
    · exact ended
  · intro other cargo found
    rcases held?_markClosed registry id other with kept | ⟨gone, -⟩
    · exact sound.held other cargo (kept ▸ found)
    · cases gone.symm.trans found

theorem reprioritize (priority : Priority) : (registry.reprioritize id priority).Sound := by
  rw [reprioritize_eq]
  refine sound.of_held fun other => ?_
  rw [← reprioritize_eq]
  exact held?_reprioritize registry id other priority

theorem detachChildren (id : Nat) : (registry.detachChildren id).Sound :=
  sound.of_held (held?_detachChildren registry id)

theorem closed_insert (closed : stream.isLive = false) (other : Nat)
    (member : other ∈ registry.closed) :
    (registry.insert id stream).cargo? other = none := by
  rw [cargo?_insert_closed _ _ _ closed, sound.closed other member, ite_self]

theorem cargo?_finish (closed : stream.isLive = false) (other : Nat) :
    (((registry.insert id stream).detachChildren id).markClosed id).2.cargo? other =
      if id = other then none else registry.cargo? other := by
  have same : ∀ other, ((registry.insert id stream).detachChildren id).cargo? other =
      if id = other then none else registry.cargo? other := by
    intro other
    rw [cargo?, held?_detachChildren, ← cargo?]
    exact cargo?_insert_closed _ _ _ closed
  rw [cargo?_markClosed (fun other member => ?_) (by rw [same, if_pos rfl]), same]
  rw [same, sound.closed other member, ite_self]

section Finish

variable (stands : id ≠ 0) (used : registry.isIdle id = false) (fits : stream.cargo.Sound)
  (closed : stream.isLive = false)

include stands used fits closed

theorem insert_closed : (registry.insert id stream).Sound :=
  sound.insert stands used fits fun live => by simp [closed] at live

theorem finish : (((registry.insert id stream).detachChildren id).markClosed id).2.Sound := by
  have inserted := (sound.insert_closed stands used fits closed).detachChildren id
  refine inserted.markClosed used ?_
  rw [cargo?, held?_detachChildren, ← cargo?, cargo?_insert_closed _ _ _ closed, if_pos rfl]

end Finish

theorem requeue (fits : ∀ stream, registry.get? id = some stream →
      (f stream).phase = stream.phase ∧ (stream.cargo.Sound → (f stream).cargo.Sound)) :
    (registry.modify id f).Sound := by
  have phase := fun stream held => (fits stream held).1
  have missing : ∀ other, registry.held? other = none → (registry.modify id f).held? other =
      none := by
    intro other absent
    have absent := Option.map_eq_none_iff.mp absent
    simp [held?, get?_modify, absent]
  constructor
  · exact sound.nextLocal
  · exact missing 0 sound.root
  · exact fun other idle => missing other (sound.fresh other idle)
  · exact sound.unlisted
  · intro other member
    have same := isSome_cargo?_modify phase other
    rw [sound.closed other member] at same
    simpa using same
  · intro other cargo found
    obtain ⟨stream, held, rfl⟩ := Option.map_eq_some_iff.mp found
    rw [get?_modify] at held
    split at held
    · rename_i same
      subst same
      obtain ⟨before, was, rfl⟩ := Option.map_eq_some_iff.mp held
      exact (fits before was).2 (sound.cargo was)
    · exact sound.cargo held

theorem skipTo (h : registry.skipTo id = .ok after) : after.Sound := by
  have idle : ∀ other, after.isIdle other → registry.isIdle other := fun _ => skipTo_idle_mono h
  obtain ⟨ours, -, rfl⟩ := skipTo_eq h
  exact ⟨ours, sound.root, fun other h => sound.fresh other (idle other h),
    fun other h => sound.unlisted other (idle other h), sound.closed, sound.held⟩

end Sound

namespace Takes

variable (takes : registry.Takes id after)

include takes

theorem ne_zero (sound : registry.Sound) : id ≠ 0 := by
  rintro rfl
  cases takes with
  | ours h =>
    obtain ⟨first, -⟩ := allocate_eq h
    have ours := sound.nextLocal
    rw [← first] at ours
    exact absurd ours (by cases hr : registry.role <;> simp [isLocal, hr, Role.initiates])
  | theirs h => exact Nat.not_lt_zero _ (acceptRemote_eq h).2.1

theorem idle_before (ours : registry.isLocal registry.nextLocal) : registry.isIdle id := by
  cases takes with
  | ours h =>
    obtain ⟨rfl, -⟩ := allocate_eq h
    simp [isIdle, ours]
  | theirs h =>
    obtain ⟨parity, later, -⟩ := acceptRemote_eq h
    have := not_initiates_of_peer parity
    simp [isIdle, isLocal, this, later]

theorem used_after (ours : registry.isLocal registry.nextLocal) : after.isIdle id = false := by
  cases takes with
  | ours h =>
    obtain ⟨rfl, rfl⟩ := allocate_eq h
    simp_all [isIdle, isLocal]
  | theirs h =>
    obtain ⟨parity, later, rfl⟩ := acceptRemote_eq h
    have := not_initiates_of_peer parity
    simp [isIdle, isLocal, this]

theorem idle_mono (h : after.isIdle other) : registry.isIdle other := by
  cases takes with
  | ours h' =>
    obtain ⟨rfl, rfl⟩ := allocate_eq h'
    rcases isIdle_iff.mp h with ⟨parity, h⟩ | ⟨parity, h⟩
    · exact isIdle_iff.mpr (.inl ⟨parity, Nat.le_of_add_right_le h⟩)
    · exact isIdle_iff.mpr (.inr ⟨parity, h⟩)
  | theirs h' =>
    obtain ⟨-, later, rfl⟩ := acceptRemote_eq h'
    rcases isIdle_iff.mp h with ⟨parity, h⟩ | ⟨parity, h⟩
    · exact isIdle_iff.mpr (.inl ⟨parity, h⟩)
    · exact isIdle_iff.mpr (.inr ⟨parity, Nat.lt_trans later h⟩)

theorem nextLocal (ours : registry.isLocal registry.nextLocal) :
    after.isLocal after.nextLocal = true := by
  cases takes with
  | ours h =>
    obtain ⟨rfl, rfl⟩ := allocate_eq h
    exact initiates_add_two ours
  | theirs h =>
    obtain ⟨-, -, rfl⟩ := acceptRemote_eq h
    exact ours

theorem same :
    after = { registry with nextLocal := after.nextLocal, lastRemote := after.lastRemote } := by
  cases takes with
  | ours h =>
    obtain ⟨-, rfl⟩ := allocate_eq h
    rfl
  | theirs h =>
    obtain ⟨-, -, rfl⟩ := acceptRemote_eq h
    rfl

theorem held? (other : Nat) : after.held? other = registry.held? other := by
  rw [takes.same]
  rfl

theorem cargo? (other : Nat) : after.cargo? other = registry.cargo? other := by
  rw [takes.same]
  rfl

theorem sound (sound : registry.Sound) : after.Sound := by
  have closed : after.closed = registry.closed := by rw [takes.same]
  constructor
  · exact takes.nextLocal sound.nextLocal
  · rw [takes.held?]
    exact sound.root
  · intro other idle
    rw [takes.held?]
    exact sound.fresh other (takes.idle_mono idle)
  · intro other idle
    rw [closed]
    exact sound.unlisted other (takes.idle_mono idle)
  · intro other member
    rw [takes.cargo?]
    exact sound.closed other (closed ▸ member)
  · intro other cargo found
    rw [takes.held?] at found
    exact sound.held other cargo found

section Refuse

variable (sound : registry.Sound) (fits : stream.cargo.Sound) (closed : stream.isLive = false)

include sound fits closed

theorem cargo?_refuse (other : Nat) :
    ((after.insert id stream).markClosed id).2.cargo? other = registry.cargo? other := by
  have inserted := (takes.sound sound).insert_closed (takes.ne_zero sound)
    (takes.used_after sound.nextLocal) fits closed
  have missing := cargo?_eq_none_of_missing (sound.fresh id (takes.idle_before sound.nextLocal))
  have same : ∀ other, (after.insert id stream).cargo? other = registry.cargo? other := by
    intro other
    rw [cargo?_insert_closed _ _ _ closed]
    split
    · rename_i equal
      rw [← equal, missing]
    · exact takes.cargo? other
  rw [cargo?_markClosed inserted.closed (by rw [same, missing]), same]

theorem sound_refuse : ((after.insert id stream).markClosed id).2.Sound := by
  have inserted := (takes.sound sound).insert_closed (takes.ne_zero sound)
    (takes.used_after sound.nextLocal) fits closed
  exact inserted.markClosed (takes.used_after sound.nextLocal)
    (by rw [cargo?_insert_closed _ _ _ closed, if_pos rfl])

end Refuse

end Takes

end Registry

end Http2
