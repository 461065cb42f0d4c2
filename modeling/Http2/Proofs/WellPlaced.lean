import Http2.Proofs.Forest
import Http2.Proofs.Sending

/-!
# The places of streams in a registry

A registry is `WellPlaced` if the places of its streams are a forest and neither unused identifiers
nor closed streams have a place in it.  It stays so whichever way a stream is added, moved, advanced
or closed, and so through all that a connection is made to do with its streams.
-/

namespace Http2

namespace Registry

structure WellPlaced (registry : Registry) : Prop where
  places : registry.places.Sound
  nextLocal : registry.isLocal registry.nextLocal
  fresh : ∀ id, registry.isIdle id → registry.get? id = none
  unlisted : ∀ id, registry.isIdle id → id ∉ registry.closed
  closed : ∀ id ∈ registry.closed, registry.places id = none

private theorem places_markClosed {registry : Registry} {id : Nat}
    (closed : ∀ other ∈ registry.closed, registry.places other = none)
    (ended : registry.places id = none) (other : Nat) :
    (registry.markClosed id).2.places other = registry.places other := by
  rcases get?_markClosed registry id other with same | ⟨gone, member⟩
  · simp only [places, same]
  · rw [places_of_missing gone]
    rcases member with member | rfl
    · exact (closed other member).symm
    · exact ended.symm

private theorem places_modify_same {registry : Registry} (id : Nat) {f : Stream → Stream}
    (live : ∀ stream, (f stream).isLive = stream.isLive)
    (priority : ∀ stream, (f stream).priority = stream.priority) :
    (registry.modify id f).places = registry.places := by
  funext other
  rw [places_modify (g := fun place => place) live priority]
  simp

namespace WellPlaced

variable {registry after : Registry} {id : Nat} {stream : Stream}

variable (wellPlaced : registry.WellPlaced)

include wellPlaced

omit wellPlaced in
theorem new (role : Role) (retention : Nat) : (Registry.new role retention).WellPlaced where
  places :=
    { linked := fun held => by cases held
      grounded := ⟨fun id => ⟨id, fun _ ⟨_, _, held, _⟩ => by cases held⟩⟩
      settled := fun held => by cases held }
  nextLocal := (Registry.Sound.new role retention).nextLocal
  fresh := fun _ _ => rfl
  unlisted := fun _ _ => List.not_mem_nil
  closed := fun _ member => absurd member List.not_mem_nil

theorem used (held : registry.get? id = some stream) : registry.isIdle id = false := by
  cases idle : registry.isIdle id with
  | false => rfl
  | true =>
    rw [wellPlaced.fresh id idle] at held
    cases held

theorem setStreams {streams : IdMap Stream}
    (same : ∀ id, { registry with streams }.places id = registry.places id)
    (missing : ∀ id, registry.isIdle id → streams.get? id = none) :
    { registry with streams }.WellPlaced := by
  have equal : { registry with streams }.places = registry.places := funext same
  constructor
  · rw [equal]
    exact wellPlaced.places
  · exact wellPlaced.nextLocal
  · exact missing
  · exact wellPlaced.unlisted
  · intro id member
    rw [equal]
    exact wellPlaced.closed id member

theorem modify (id : Nat) {f : Stream → Stream} (live : ∀ stream, (f stream).isLive = stream.isLive)
    (priority : ∀ stream, (f stream).priority = stream.priority) :
    (registry.modify id f).WellPlaced := by
  refine wellPlaced.setStreams (fun other => ?_) fun other idle => ?_
  · exact congrFun (places_modify_same id live priority) other
  · have missing := wellPlaced.fresh other idle
    have modified := get?_modify registry id other f
    rw [missing] at modified
    exact modified.trans (by simp)

theorem insert (used : registry.isIdle id = false)
    (same : ((some stream).filter Stream.isLive).map Stream.priority = registry.places id) :
    (registry.insert id stream).WellPlaced := by
  refine wellPlaced.setStreams (fun other => ?_) fun other idle => ?_
  · refine (places_insert registry id other stream).trans ?_
    split
    · rename_i here
      rw [same, here]
    · rfl
  · have inserted := get?_insert registry id other stream
    rw [if_neg fun here => by simp [← here, used] at idle, wellPlaced.fresh other idle] at inserted
    exact inserted

theorem advance {signal : Signal} {next : Stream} (held : registry.get? id = some stream)
    (moves : stream.advance? signal = some next) (live : next.isLive) :
    (registry.insert id next).WellPlaced := by
  have lived := Stream.isLive_of_advance? moves live
  obtain ⟨phase, moved, rfl⟩ := Option.map_eq_some_iff.mp moves
  refine wellPlaced.insert (wellPlaced.used held) ?_
  rw [places_of_get? held lived, Option.filter_some, if_pos live]
  rfl

theorem markClosed (used : registry.isIdle id = false) (ended : registry.places id = none) :
    (registry.markClosed id).2.WellPlaced := by
  have same := places_markClosed wellPlaced.closed ended
  have equal : (registry.markClosed id).2.places = registry.places := funext same
  constructor
  · rw [equal]
    exact wellPlaced.places
  · exact wellPlaced.nextLocal
  · intro other idle
    rcases get?_markClosed registry id other with kept | ⟨gone, -⟩
    · rw [kept]
      exact wellPlaced.fresh other idle
    · exact gone
  · intro other idle member
    change registry.isIdle other = true at idle
    rcases mem_closed_markClosed member with member | rfl
    · exact wellPlaced.unlisted other idle member
    · simp [used] at idle
  · intro other member
    rw [same]
    rcases mem_closed_markClosed member with member | rfl
    · exact wellPlaced.closed other member
    · exact ended

theorem skipTo (skips : registry.skipTo id = .ok after) : after.WellPlaced := by
  have idle : ∀ other, after.isIdle other → registry.isIdle other := fun _ => skipTo_idle_mono skips
  obtain ⟨ours, -, rfl⟩ := skipTo_eq skips
  exact ⟨wellPlaced.places, ours, fun other later => wellPlaced.fresh other (idle other later),
    fun other later => wellPlaced.unlisted other (idle other later), wellPlaced.closed⟩

variable (takes : registry.Takes id after)

include takes

theorem take : after.WellPlaced := by
  have equal : after.places = registry.places := by
    rw [takes.same]
    rfl
  have closed : after.closed = registry.closed := by rw [takes.same]
  have held : ∀ other, after.get? other = registry.get? other := fun other => by
    rw [takes.same]
    rfl
  constructor
  · rw [equal]
    exact wellPlaced.places
  · exact takes.nextLocal wellPlaced.nextLocal
  · intro other idle
    rw [held]
    exact wellPlaced.fresh other (takes.idle_mono idle)
  · intro other idle
    rw [closed]
    exact wellPlaced.unlisted other (takes.idle_mono idle)
  · intro other member
    rw [equal]
    exact wellPlaced.closed other (closed ▸ member)

theorem places_taken : after.places id = none := by
  refine places_of_missing ?_
  rw [takes.same]
  exact wellPlaced.fresh id (takes.idle_before wellPlaced.nextLocal)

theorem plant (live : stream.isLive) (settled : stream.priority.Settled)
    (linked : stream.priority.dependency = 0 ∨
      (registry.places stream.priority.dependency).isSome) :
    (after.insert id stream).WellPlaced := by
  have taken := wellPlaced.take takes
  have same : after.places = registry.places := by
    rw [takes.same]
    rfl
  have unlisted : id ∉ after.closed := by
    have closed : after.closed = registry.closed := by rw [takes.same]
    rw [closed]
    exact wellPlaced.unlisted id (takes.idle_before wellPlaced.nextLocal)
  have planted : (after.insert id stream).places id = some stream.priority := by
    rw [places_insert, if_pos rfl, Option.filter_some, if_pos live]
    rfl
  have others : ∀ other, other ≠ id → (after.insert id stream).places other =
      after.places other := by
    intro other differ
    rw [places_insert, if_neg (Ne.symm differ)]
  constructor
  · rw [← same] at linked
    refine ⟨taken.places.toForest.plant (wellPlaced.places_taken takes) planted linked others,
      fun {other place} held => ?_⟩
    by_cases here : other = id
    · subst here
      obtain rfl := Option.some.inj (planted.symm.trans held)
      exact settled
    · rw [others other here] at held
      exact taken.places.settled held
  · exact taken.nextLocal
  · intro other idle
    rw [isIdle_insert] at idle
    rw [get?_insert, if_neg, taken.fresh other idle]
    rintro rfl
    simp [takes.used_after wellPlaced.nextLocal] at idle
  · exact taken.unlisted
  · intro other member
    rw [others other fun here => unlisted (here ▸ member)]
    exact taken.closed other member

theorem refuse (closed : stream.isLive = false) :
    ((after.insert id stream).markClosed id).2.WellPlaced := by
  have used := takes.used_after wellPlaced.nextLocal
  have ended : ((some stream).filter Stream.isLive).map Stream.priority = none := by
    simp [Option.filter_some, closed]
  refine ((wellPlaced.take takes).insert used ?_).markClosed used ?_
  · rw [ended, wellPlaced.places_taken takes]
  · rw [places_insert, if_pos rfl, ended]

omit takes

theorem finish (used : registry.isIdle id = false) (closed : stream.isLive = false) :
    (((registry.insert id stream).detachChildren id).markClosed id).2.WellPlaced := by
  have felled : ((registry.insert id stream).detachChildren id).places id = none := by
    rw [places_detachChildren, places_insert, if_pos rfl]
    simp [Option.filter_some, closed]
  have others : ∀ other, other ≠ id → ((registry.insert id stream).detachChildren id).places other =
        (registry.places other).map fun place =>
          if place.dependency = id then { place with dependency := 0 } else place := by
    intro other differ
    rw [places_detachChildren, places_insert, if_neg (Ne.symm differ)]
    simp only [differ, ne_eq, not_false_eq_true, and_true]
  have detached : ((registry.insert id stream).detachChildren id).WellPlaced := by
    constructor
    · constructor
      · refine wellPlaced.places.toForest.fell felled (fun other place differ held => ?_)
          fun other differ => ?_
        · rw [others other differ] at held
          obtain ⟨old, found, rfl⟩ := Option.map_eq_some_iff.mp held
          split
          · exact .inr rfl
          · rename_i apart
            exact .inl ⟨found, apart⟩
        · rw [others other differ, Option.isSome_map]
      · intro other place held
        have differ : other ≠ id := by
          rintro rfl
          rw [felled] at held
          cases held
        rw [others other differ] at held
        obtain ⟨old, found, rfl⟩ := Option.map_eq_some_iff.mp held
        split
        · exact (wellPlaced.places.settled found).depend 0
        · exact wellPlaced.places.settled found
    · exact wellPlaced.nextLocal
    · intro other idle
      change registry.isIdle other = true at idle
      have missing : (registry.insert id stream).get? other = none := by
        rw [get?_insert, if_neg fun here => by simp [← here, used] at idle]
        exact wellPlaced.fresh other idle
      have kept := held?_detachChildren (registry.insert id stream) id other
      simpa [held?, missing] using kept
    · exact wellPlaced.unlisted
    · intro other member
      by_cases here : other = id
      · rw [here, felled]
      · rw [others other here, wellPlaced.closed other member]
        rfl
  exact detached.markClosed used felled

theorem reprioritize (live : (registry.places id).isSome) {priority : Priority}
    (apart : priority.dependency ≠ id) (weighed : priority.hasValidWeight) :
    (registry.reprioritize id priority).WellPlaced := by
  have moved := places_reprioritize registry id priority
  have heavy := registry.effectivePriority_weight weighed
  have forest := forest_reprioritize wellPlaced.places.toForest live apart
  generalize registry.effectivePriority priority = place at moved heavy
  have lifted : ∀ {other old}, (registry.liftParent id place.dependency).places other = some old →
      old.Settled := by
    intro other old held
    rw [places_liftParent] at held
    split at held
    · obtain ⟨old, found, rfl⟩ := Option.map_eq_some_iff.mp held
      exact (wellPlaced.places.settled found).depend 0
    · exact wellPlaced.places.settled held
  have settled : ∀ {other old}, (registry.reprioritize id priority).places other = some old →
      old.Settled := by
    intro other old held
    rw [moved] at held
    split at held
    · obtain ⟨_, -, rfl⟩ := Option.map_eq_some_iff.mp held
      exact ⟨heavy, rfl⟩
    · split at held
      · rw [places_adoptSiblings] at held
        obtain ⟨old, found, rfl⟩ := Option.map_eq_some_iff.mp held
        split
        · exact (lifted found).depend id
        · exact lifted found
      · exact lifted held
  have kept : ∀ other, registry.get? other = none →
      (registry.reprioritize id priority).get? other = none := by
    intro other missing
    simpa [held?, missing] using held?_reprioritize registry id other priority
  have gone : ∀ other, registry.places other = none →
      (registry.reprioritize id priority).places other = none := by
    intro other none
    have differ : other ≠ id := by
      rintro rfl
      simp [none] at live
    rw [moved, if_neg differ]
    split <;> simp [places_adoptSiblings, places_liftParent, none]
  have rest := reprioritize_eq registry id priority
  constructor
  · exact ⟨forest, settled⟩
  · rw [rest]
    exact wellPlaced.nextLocal
  · intro other idle
    rw [rest] at idle
    exact kept other (wellPlaced.fresh other idle)
  · rw [rest]
    exact wellPlaced.unlisted
  · intro other member
    rw [rest] at member
    exact gone other (wellPlaced.closed other member)

end WellPlaced

end Registry

/-! ## Changes of a connection -/

namespace Connection

variable {conn : Connection} {id : Nat}

section Changes

variable (wellPlaced : conn.registry.WellPlaced)

include wellPlaced

theorem wellPlaced_drop (id : Nat) (reason : Reason) (announced : Bool) (error : Error) :
    (conn.dropStream id reason announced error).registry.WellPlaced := by
  rcases dropStream_eq conn id reason announced error with same | ⟨stream, _, _, held, -, same⟩ <;>
    rw [same]
  · exact wellPlaced
  · exact wellPlaced.finish (wellPlaced.used held) (rfl : (stream.reset reason).isLive = false)

theorem wellPlaced_dropAll (ids : List Nat) (reason : Reason) (error : Nat → Error) :
    (ids.foldl (fun conn id => conn.dropStream id reason false (error id))
      conn).registry.WellPlaced :=
  @holds_dropAll (·.registry.WellPlaced) conn reason error ids wellPlaced fun id wellPlaced =>
    wellPlaced_drop wellPlaced id reason false (error id)

theorem wellPlaced_settled {signal : Signal} {stream next : Stream}
    (held : conn.registry.get? id = some stream) (moves : stream.advance? signal = some next) :
    (conn.settled id next).registry.WellPlaced := by
  unfold settled
  simp only
  split
  · rename_i live
    exact wellPlaced.advance held moves live
  · rename_i closed
    exact wellPlaced.finish (wellPlaced.used held) (by simpa using closed)

private theorem wellPlaced_advanceAnyway (id : Nat) (signal : Signal) :
    (conn.advanceAnyway id signal).registry.WellPlaced :=
  @holds_advanceAnyway (·.registry.WellPlaced) conn id signal wellPlaced
    (wellPlaced_settled wellPlaced)

theorem wellPlaced_flush (id : Nat) : (conn.flush id).registry.WellPlaced := by
  refine @holds_flush (·.registry.WellPlaced) conn id wellPlaced fun _ _ =>
    ⟨fun wellPlaced _ _ _ => wellPlaced,
    fun _ wellPlaced => wellPlaced.modify id (fun _ => rfl) fun _ => rfl,
    fun wellPlaced => wellPlaced, fun wellPlaced _ _ => ?_, fun wellPlaced _ => ?_⟩
  all_goals have ended := wellPlaced.modify id (f := Stream.endSent) (fun _ => rfl) fun _ => rfl
  · exact wellPlaced_advanceAnyway (by exact ended) id _
  · exact ⟨wellPlaced_advanceAnyway (by exact ended) id _, wellPlaced_advanceAnyway
      (by exact ended) id _⟩

theorem wellPlaced_resumeIf {condition : Bool} : (resumeIf condition conn).registry.WellPlaced :=
  @holds_resumeIf (·.registry.WellPlaced) conn condition wellPlaced fun wellPlaced _ =>
    wellPlaced_flush (by exact wellPlaced) _

private theorem wellPlaced_teardown (reason : Reason) :
    (conn.teardown reason).registry.WellPlaced :=
  wellPlaced_dropAll wellPlaced _ reason fun _ => .sessionClosed

theorem wellPlaced_fail (error : Error) : (conn.fail error).registry.WellPlaced := by
  unfold fail
  split
  · exact wellPlaced
  · exact wellPlaced_teardown (by exact wellPlaced) error.reason

theorem wellPlaced_close : conn.close.registry.WellPlaced := by
  unfold close
  split
  · exact wellPlaced
  · refine wellPlaced_teardown ?_ .cancel
    split <;> exact wellPlaced

theorem wellPlaced_absorb (error : Error) : (conn.absorb error).registry.WellPlaced :=
  @holds_absorb (·.registry.WellPlaced) conn error wellPlaced (fun _ => wellPlaced_drop wellPlaced
    ..) fun _ => wellPlaced

end Changes

theorem wellPlaced_reprioritizeIf (wellPlaced : conn.registry.WellPlaced)
    (live : (conn.registry.places id).isSome) {priority : Option Priority}
    (apart : ∀ place, priority = some place → place.dependency ≠ id)
    (weighed : ∀ place, priority = some place → place.hasValidWeight) :
    (conn.reprioritizeIf id priority).registry.WellPlaced := by
  cases priority with
  | none => exact wellPlaced
  | some place => exact wellPlaced.reprioritize live (apart place rfl) (weighed place rfl)

end Connection

end Http2
