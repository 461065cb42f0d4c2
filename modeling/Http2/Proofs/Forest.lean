import Http2.Proofs.Registry
import Mathlib.Data.List.Perm.Subperm
import Mathlib.Logic.Relation
import Mathlib.Order.WellFounded

/-!
# The dependency tree is a forest

`Registry.places` gives the place of every live stream among the priorities.  The places form a
forest if every stream depends on the root or on a live stream and no stream stands above itself.  A
forest stays one when a stream is planted, when it is felled and its children go to the root, and
when it is moved with or without the other children of its new parent.
-/

namespace Http2

open Relation (ReflTransGen TransGen)

/-- A place that a stream can keep.  Exclusiveness acts on the siblings once and is not kept. -/
def Priority.Settled (place : Priority) : Prop :=
  place.hasValidWeight = true ∧ place.exclusive = false

theorem Priority.Settled.depend {place : Priority} (settled : place.Settled) (parent : Nat) :
    { place with dependency := parent }.Settled :=
  settled

/-! ## Places -/

abbrev Places := Nat → Option Priority

namespace Places

def Above (places : Places) (parent child : Nat) : Prop :=
  parent ≠ 0 ∧ ∃ place, places child = some place ∧ place.dependency = parent

structure Forest (places : Places) : Prop where
  linked : ∀ {id place}, places id = some place → place.dependency = 0 ∨
    (places place.dependency).isSome
  grounded : WellFounded places.Above

variable {places after : Places} {id parent child : Nat} {place : Priority}

theorem Above.eq (above : places.Above parent child) (held : places child = some place) :
    place.dependency = parent := by
  obtain ⟨-, other, held', rfl⟩ := above
  rw [Option.some.inj (held.symm.trans held')]

namespace Forest

variable (forest : places.Forest)

include forest

theorem not_above_self : ¬ TransGen places.Above id id :=
  fun above => forest.grounded.transGen.asymmetric id id above above

theorem dependency_ne (held : places id = some place) (stands : place.dependency ≠ 0) :
    place.dependency ≠ id := by
  intro same
  exact forest.not_above_self (.single ⟨same ▸ stands, place, held, same⟩)

theorem live_of_above (above : places.Above parent child) : (places parent).isSome := by
  obtain ⟨stands, place, held, rfl⟩ := above
  exact (forest.linked held).resolve_left stands

theorem plant (free : places id = none) (planted : after id = some place)
    (linked : place.dependency = 0 ∨ (places place.dependency).isSome)
    (others : ∀ other, other ≠ id → after other = places other) : after.Forest := by
  have lives : ∀ {other}, (places other).isSome → other ≠ id ∧ (after other).isSome := by
    intro other live
    have differ : other ≠ id := by
      rintro rfl
      simp [free] at live
    exact ⟨differ, by rwa [others other differ]⟩
  -- the new stream is above nothing, so the old ones keep their ancestors
  have old : ∀ other, other ≠ id → Acc after.Above other := by
    intro other
    induction other using forest.grounded.induction with
    | _ other ih =>
      refine fun differ => ⟨other, fun parent above => ?_⟩
      obtain ⟨stands, place, held, rfl⟩ := above
      rw [others other differ] at held
      have above : places.Above place.dependency other := ⟨stands, place, held, rfl⟩
      exact ih _ above (lives (forest.live_of_above above)).1
  refine ⟨fun {other} {held} found => ?_, ⟨fun other => ?_⟩⟩
  · by_cases here : other = id
    · subst here
      obtain rfl := Option.some.inj (planted.symm.trans found)
      exact linked.imp_right fun live => (lives live).2
    · rw [others other here] at found
      exact (forest.linked found).imp_right fun live => (lives live).2
  · by_cases here : other = id
    · subst here
      refine ⟨other, fun parent above => old parent ?_⟩
      obtain rfl := above.eq planted
      exact (lives (linked.resolve_left above.1)).1
    · exact old other here

theorem fell (felled : after id = none)
    (others : ∀ other place, other ≠ id → after other = some place →
      places other = some place ∧ place.dependency ≠ id ∨ place.dependency = 0)
    (kept : ∀ other, other ≠ id → (after other).isSome = (places other).isSome) : after.Forest := by
  have differ : ∀ {other place}, after other = some place → other ≠ id := by
    rintro other place found rfl
    rw [felled] at found
    cases found
  constructor
  · intro other place found
    rcases others other place (differ found) found with ⟨held, apart⟩ | root
    · exact (forest.linked held).imp_right fun live => by rwa [kept _ apart]
    · exact .inl root
  · refine Subrelation.wf ?_ forest.grounded
    rintro parent child ⟨stands, place, found, rfl⟩
    rcases others child place (differ found) found with ⟨held, -⟩ | root
    · exact ⟨stands, place, held, rfl⟩
    · exact absurd root stands

/-- A stream is moved below a parent that does not stand below it, and other children of the parent
may be moved below the stream. -/
theorem graft (moved : after id = some place) (live : (places id).isSome)
    (linked : place.dependency = 0 ∨ (places place.dependency).isSome)
    (clear : place.dependency ≠ 0 → ¬ ReflTransGen places.Above id place.dependency)
    (others : ∀ other, other ≠ id → after other = places other ∨
      ∃ held, places other = some held ∧ held.dependency = place.dependency ∧
        after other = some { held with dependency := id }) : after.Forest := by
  have lives : ∀ other, (after other).isSome = (places other).isSome := by
    intro other
    by_cases here : other = id
    · rw [here, moved, live]
      rfl
    · rcases others other here with same | ⟨held, found, -, adopted⟩
      · rw [same]
      · rw [found, adopted]
        rfl
  -- the parent and all that stands above it keep their places
  have upper : place.dependency ≠ 0 → ∀ other, ReflTransGen places.Above other place.dependency →
      Acc after.Above other := by
    intro stands other
    induction other using forest.grounded.induction with
    | _ other ih =>
      refine fun reaches => ⟨other, fun parent above => ?_⟩
      have differ : other ≠ id := by
        rintro rfl
        exact clear stands reaches
      obtain ⟨high, held, found, rfl⟩ := above
      rcases others other differ with same | ⟨old, found', child, -⟩
      · have above : places.Above held.dependency other := ⟨high, held, same ▸ found, rfl⟩
        exact ih _ above (.head above reaches)
      · have below : places.Above place.dependency other := ⟨stands, old, found', child⟩
        exact absurd (TransGen.head' below reaches) forest.not_above_self
  have here : Acc after.Above id := by
    refine ⟨id, fun parent above => ?_⟩
    obtain rfl := above.eq moved
    exact upper above.1 _ .refl
  refine ⟨fun {other} {held} found => ?_, ⟨fun other => ?_⟩⟩
  · rw [lives]
    by_cases same : other = id
    · subst same
      obtain rfl := Option.some.inj (moved.symm.trans found)
      exact linked
    · rcases others other same with same | ⟨old, -, -, adopted⟩
      · exact forest.linked (same ▸ found)
      · obtain rfl := Option.some.inj (adopted.symm.trans found)
        exact .inr live
  · induction other using forest.grounded.induction with
    | _ other ih =>
      by_cases same : other = id
      · exact same ▸ here
      · refine ⟨other, fun parent above => ?_⟩
        obtain ⟨high, held, found, rfl⟩ := above
        rcases others other same with same | ⟨old, -, -, adopted⟩
        · exact ih _ ⟨high, held, same ▸ found, rfl⟩
        · obtain rfl := Option.some.inj (adopted.symm.trans found)
          exact here

theorem lift (live : (places id).isSome) (moved : after id = some place)
    (root : place.dependency = 0) (others : ∀ other, other ≠ id → after other = places other) :
    after.Forest :=
  forest.graft moved live (.inl root) (fun stands => absurd root stands)
    fun other differ => .inl (others other differ)

end Forest

structure Sound (places : Places) : Prop extends Forest places where
  settled : ∀ {id place}, places id = some place → place.Settled

end Places

/-! ## The places of a registry -/

namespace Registry

variable {registry : Registry} {id parent ancestor steps : Nat} {priority : Priority}

def places (registry : Registry) : Places :=
  fun id => ((registry.get? id).filter Stream.isLive).map Stream.priority

theorem places_eq_some_iff {place : Priority} :
    registry.places id = some place ↔
      ∃ stream, registry.get? id = some stream ∧ stream.isLive ∧ stream.priority = place := by
  simp only [places, Option.map_eq_some_iff, Option.filter_eq_some_iff, and_assoc]

theorem places_of_get? {stream : Stream} (held : registry.get? id = some stream)
    (live : stream.isLive) : registry.places id = some stream.priority :=
  places_eq_some_iff.mpr ⟨stream, held, live, rfl⟩

theorem places_of_missing (missing : registry.get? id = none) : registry.places id = none := by
  simp [places, missing]

variable (registry)

private theorem parent?_eq (id : Nat) :
    registry.parent? id = (registry.places id).map Priority.dependency := by
  unfold parent? places
  cases registry.get? id with
  | none => rfl
  | some stream => cases live : stream.isLive <;> simp [Option.filter_some, live]

theorem places_insert (id other : Nat) (stream : Stream) :
    (registry.insert id stream).places other =
      if id = other then ((some stream).filter Stream.isLive).map Stream.priority
      else registry.places other := by
  simp only [places, get?_insert]
  split <;> rfl

private theorem places_mapWithKey {f : Nat → Stream → Stream} {g : Nat → Priority → Priority}
    (live : ∀ id stream, (f id stream).isLive = stream.isLive)
    (moves : ∀ id stream, stream.isLive → (f id stream).priority = g id stream.priority)
    (id : Nat) :
    { registry with streams := registry.streams.mapWithKey f }.places id =
      (registry.places id).map (g id) := by
  simp only [places, get?, IdMap.get?_mapWithKey]
  cases registry.streams.get? id with
  | none => rfl
  | some stream =>
    cases alive : stream.isLive with
    | false => simp [Option.filter_some, live, alive]
    | true => simp [Option.filter_some, live, alive, moves id stream alive]

variable {registry} in
theorem places_modify {f : Stream → Stream} {g : Priority → Priority}
    (live : ∀ stream, (f stream).isLive = stream.isLive)
    (moves : ∀ stream, (f stream).priority = g stream.priority) (id other : Nat) :
    (registry.modify id f).places other =
      if other = id then (registry.places other).map g else registry.places other := by
  have mapped :=
    places_mapWithKey registry (f := fun key stream => if key = id then f stream else stream)
    (g := fun key place => if key = id then g place else place)
    (fun key stream => by split <;> simp [live]) (fun key stream _ => by split <;> simp [moves])
    other
  refine mapped.trans ?_
  split
  · simp [*]
  · simp [*]

theorem places_detachChildren (id other : Nat) :
    (registry.detachChildren id).places other = (registry.places other).map fun place =>
        if place.dependency = id ∧ other ≠ id then { place with dependency := 0 } else place := by
  refine places_mapWithKey _ (g := fun other place =>
    if place.dependency = id ∧ other ≠ id then { place with dependency := 0 } else place) ?_
      ?_ other
  · intro other stream
    split <;> rfl
  · intro other stream live
    simp only [isChild, live, Bool.true_and, Bool.and_eq_true, beq_iff_eq, bne_iff_ne]
    split <;> rfl

theorem places_adoptSiblings (id parent other : Nat) :
    (registry.adoptSiblings id parent).places other = (registry.places other).map fun place =>
        if (place.dependency = parent ∧ other ≠ parent) ∧ other ≠ id then
          { place with dependency := id }
        else place := by
  refine places_mapWithKey _ (g := fun other place =>
    if (place.dependency = parent ∧ other ≠ parent) ∧ other ≠ id then
      { place with dependency := id }
    else place) ?_ ?_ other
  · intro other stream
    split <;> rfl
  · intro other stream live
    simp only [isChild, live, Bool.true_and, Bool.and_eq_true, beq_iff_eq, bne_iff_ne]
    split <;> rfl

theorem places_liftParent (id parent other : Nat) : (registry.liftParent id parent).places other =
      if other = parent ∧ parent ≠ 0 ∧ registry.isDescendant parent id then
        (registry.places other).map fun place => { place with dependency := 0 }
      else registry.places other := by
  unfold liftParent
  split
  · rename_i below
    rw [places_modify (f := (·.dependOn 0)) (g := fun place => { place with dependency := 0 })
      (fun _ => rfl) fun _ => rfl]
    simp [below]
  · rename_i apart
    rw [if_neg fun all => apart all.2]

/-- The stream takes its new place, and the others have theirs after the parent has been lifted and
its children adopted. -/
theorem places_reprioritize (id : Nat) (priority : Priority) (other : Nat) :
    (registry.reprioritize id priority).places other =
      if other = id then
        (registry.places id).map fun _ => ⟨(registry.effectivePriority priority).dependency,
          (registry.effectivePriority priority).weight, false⟩
      else
        (if (registry.effectivePriority priority).exclusive then
          (registry.liftParent id (registry.effectivePriority priority).dependency).adoptSiblings id
            (registry.effectivePriority priority).dependency
        else registry.liftParent id (registry.effectivePriority priority).dependency).places
          other := by
  unfold reprioritize
  generalize registry.effectivePriority priority = priority
  simp only
  rw [places_modify (f := fun stream => { stream with
      priority := ⟨priority.dependency, priority.weight, false⟩ })
    (g := fun _ => ⟨priority.dependency, priority.weight, false⟩) (fun _ => rfl) fun _ => rfl]
  split
  · rename_i here
    subst here
    split
    · rw [places_adoptSiblings, places_liftParent]
      split <;> cases registry.places other <;> rfl
    · rw [places_liftParent]
      split <;> cases registry.places other <;> rfl
  · rfl

variable {registry}

/-! ## The walk up -/

section

variable (acyclic : ∀ other, ¬ TransGen registry.places.Above other other)
  (below : TransGen registry.places.Above ancestor id)

include acyclic below

/-- A walk that misses an ancestor has met as many live streams as it had steps, each once. -/
theorem exists_path (missed : registry.climbsTo ancestor steps id = false) :
    ∃ path : List Nat, path.length = steps ∧ path.Nodup ∧ ∀ other ∈ path,
      (registry.places other).isSome ∧
        ReflTransGen registry.places.Above other id := by
  induction steps generalizing id with
  | zero => exact ⟨[], rfl, .nil, by simp⟩
  | succ steps ih =>
    obtain ⟨parent, reaches, above⟩ := TransGen.tail'_iff.mp below
    have ⟨stands, place, held, same⟩ := above
    subst same
    unfold climbsTo at missed
    simp only [parent?_eq, held, Option.map_some, if_neg stands] at missed
    split at missed
    · cases missed
    · rename_i differ
      have still := (Relation.reflTransGen_iff_eq_or_transGen.mp reaches).resolve_left differ
      obtain ⟨path, rfl, distinct, walked⟩ := ih still missed
      refine ⟨id :: path, rfl, List.nodup_cons.mpr ⟨fun member => ?_, distinct⟩, ?_⟩
      · exact acyclic id (.tail' (walked id member).2 above)
      · rintro other (_ | ⟨_, member⟩)
        · exact ⟨by rw [held]; rfl, .refl⟩
        · exact ⟨(walked other member).1, (walked other member).2.tail above⟩

/-- A walk with more steps than there are streams meets every stream above. -/
theorem climbsTo_of_below (enough : registry.size < steps) :
    registry.climbsTo ancestor steps id := by
  by_contra missed
  obtain ⟨path, rfl, distinct, walked⟩ := exists_path acyclic below (Bool.eq_false_iff.mpr missed)
  have held : path ⊆ registry.streams.keys := by
    intro other member
    obtain ⟨place, found⟩ := Option.isSome_iff_exists.mp (walked other member).1
    obtain ⟨stream, found, -⟩ := places_eq_some_iff.mp found
    exact List.mem_map.mpr ⟨(other, stream), IdMap.get?_eq_some_iff.mp found, rfl⟩
  have bound := (List.subperm_of_subset distinct held).length_le
  rw [IdMap.keys, List.length_map] at bound
  exact absurd enough (Nat.not_lt.mpr bound)

end

private theorem isDescendant_of_below (forest : registry.places.Forest)
    (below : TransGen registry.places.Above ancestor id) : registry.isDescendant id ancestor :=
  climbsTo_of_below (fun _ => forest.not_above_self) below (Nat.lt_succ_self _)

private theorem below_of_climbsTo (climbs : registry.climbsTo ancestor steps id) :
    TransGen registry.places.Above ancestor id := by
  induction steps generalizing id with
  | zero => cases climbs
  | succ steps ih =>
    unfold climbsTo at climbs
    rw [parent?_eq] at climbs
    cases held : registry.places id with
    | none => simp [held] at climbs
    | some place =>
      simp only [held, Option.map_some] at climbs
      split at climbs
      · cases climbs
      · rename_i stands
        have above : registry.places.Above place.dependency id := ⟨stands, place, held, rfl⟩
        split at climbs
        · rename_i met
          exact .single (met ▸ above)
        · exact (ih climbs).tail above

private theorem isDescendant_iff (forest : registry.places.Forest) :
    registry.isDescendant id ancestor = true ↔ TransGen registry.places.Above ancestor id :=
  ⟨below_of_climbsTo, isDescendant_of_below forest⟩

/-- Among streams without a cycle the walk up finds exactly the streams above, and no longer walk
finds more.  Closed streams that are kept only lengthen the walk that is allowed. -/
theorem isDescendant_exact
    (linked : ∀ id place, registry.places id = some place →
      place.dependency = 0 ∨ (registry.places place.dependency).isSome)
    (acyclic : ∀ id, ¬ TransGen registry.places.Above id id) (id ancestor : Nat) :
    (registry.isDescendant id ancestor = true ↔
      (registry.places id).isSome ∧ (registry.places ancestor).isSome ∧
        TransGen registry.places.Above ancestor id) ∧
    ∀ steps, registry.size + 1 ≤ steps →
      registry.climbsTo ancestor steps id = registry.isDescendant id ancestor := by
  have exact (steps : Nat) (enough : registry.size < steps) :
      registry.climbsTo ancestor steps id = true ↔ TransGen registry.places.Above ancestor id :=
    ⟨below_of_climbsTo, fun below => climbsTo_of_below acyclic below enough⟩
  have walk := exact (registry.size + 1) (Nat.lt_succ_self _)
  refine ⟨walk.trans ⟨fun below => ?_, fun all => all.2.2⟩, fun steps enough => ?_⟩
  · obtain ⟨_, -, -, place, held, -⟩ := TransGen.tail'_iff.mp below
    obtain ⟨_, ⟨stands, child, under, rfl⟩, -⟩ := TransGen.head'_iff.mp below
    exact ⟨by rw [held]; rfl, (linked _ _ under).resolve_left stands, below⟩
  · exact Bool.eq_iff_iff.mpr ((exact steps enough).trans walk.symm)

/-- A chain of every live stream, with a closed one kept below it. -/
theorem isDescendant_exact_chain :
    let entries : List (Nat × Stream) := [(1, {}), (3, { priority := ⟨1, 16, false⟩ }),
      (5, { priority := ⟨3, 16, false⟩ }), (7, { phase := .closed, priority := ⟨5, 16, false⟩ })]
    let registry : Registry := ⟨.server, 4, ⟨entries, by decide⟩, [7], 2, 7⟩
    TransGen registry.places.Above 1 5 ∧ registry.isDescendant 5 1 = true ∧
      registry.isDescendant 7 1 = false ∧ registry.climbsTo 1 9 5 = true := by
  intro entries registry
  have placed : ∀ id place, registry.places id = some place →
      place.dependency < id ∧
      (place.dependency = 0 ∨ (registry.places place.dependency).isSome) := by
    intro id place held
    obtain ⟨stream, found, live, rfl⟩ := places_eq_some_iff.mp held
    have member := IdMap.get?_eq_some_iff.mp found
    simp only [registry, entries, List.mem_cons, List.not_mem_nil, or_false,
      Prod.mk.injEq] at member
    rcases member with ⟨rfl, rfl⟩ | ⟨rfl, rfl⟩ | ⟨rfl, rfl⟩ | ⟨rfl, rfl⟩
    · decide
    · decide
    · decide
    · cases live
  have grounded : WellFounded registry.places.Above := by
    refine Subrelation.wf ?_ Nat.lt_wfRel.wf
    rintro parent child ⟨-, place, held, rfl⟩
    exact (placed _ _ held).1
  have walk := isDescendant_exact (fun id place held => (placed id place held).2)
    (fun id above => grounded.transGen.asymmetric id id above above)
  have chain : TransGen registry.places.Above 1 5 :=
    .tail (b := 3) (.single ⟨by decide, _, rfl, rfl⟩) ⟨by decide, _, rfl, rfl⟩
  have found : registry.isDescendant 5 1 = true := (walk 5 1).1.mpr ⟨by decide, by decide, chain⟩
  refine ⟨chain, found, ?_, ((walk 5 1).2 9 (by decide)).trans found⟩
  exact Bool.eq_false_iff.mpr fun below => absurd ((walk 7 1).1.mp below).1 (by decide)

inductive Rooted (registry : Registry) : Nat → Prop
  | root : Rooted registry 0
  | climb {id parent : Nat} (child : registry.parent? id = some parent)
      (rooted : Rooted registry parent) : Rooted registry id

theorem rooted_of_forest (forest : registry.places.Forest) (live : (registry.places id).isSome) :
    registry.Rooted id := by
  induction id using forest.grounded.induction with
  | _ id ih =>
    obtain ⟨place, held⟩ := Option.isSome_iff_exists.mp live
    have child : registry.parent? id = some place.dependency := by
      rw [parent?_eq, held]
      rfl
    refine .climb child ?_
    by_cases root : place.dependency = 0
    · rw [root]
      exact .root
    · exact ih _ ⟨root, place, held, rfl⟩ ((forest.linked held).resolve_left root)

/-! ## Moving streams -/

variable (registry)

private theorem effectivePriority_eq_ite (priority : Priority) :
    registry.effectivePriority priority =
      if priority.dependency = 0 ∨ (registry.places priority.dependency).isSome then priority
      else .default := by
  unfold effectivePriority
  rw [parent?_eq]
  cases registry.places priority.dependency with
  | none => by_cases root : priority.dependency = 0 <;> simp [root]
  | some _ => simp

private theorem effectivePriority_linked (priority : Priority) :
    (registry.effectivePriority priority).dependency = 0 ∨
      (registry.places (registry.effectivePriority priority).dependency).isSome := by
  unfold effectivePriority
  split
  · exact .inl rfl
  · rename_i known
    rw [parent?_eq, Option.map_eq_none_iff, not_and, ← ne_eq, Option.ne_none_iff_isSome] at known
    exact or_iff_not_imp_left.mpr known

private theorem effectivePriority_eq
    (stands : (registry.effectivePriority priority).dependency ≠ 0) :
    registry.effectivePriority priority = priority := by
  unfold effectivePriority at stands ⊢
  split
  · rename_i unknown
    rw [if_pos unknown] at stands
    exact absurd rfl stands
  · rfl

theorem effectivePriority_weight (weighed : priority.hasValidWeight) :
    (registry.effectivePriority priority).hasValidWeight = true := by
  unfold effectivePriority
  split
  · rfl
  · exact weighed

variable {registry}

private theorem forest_liftParent (forest : registry.places.Forest) (id parent : Nat)
    (linked : parent = 0 ∨ (registry.places parent).isSome) :
    (registry.liftParent id parent).places.Forest := by
  have lifted := places_liftParent registry id parent
  by_cases below : parent ≠ 0 ∧ registry.isDescendant parent id
  · have live := linked.resolve_left below.1
    obtain ⟨place, held⟩ := Option.isSome_iff_exists.mp live
    have moved : (registry.liftParent id parent).places parent =
        some { place with dependency := 0 } := by
      rw [lifted, if_pos ⟨rfl, below⟩, held]
      rfl
    refine forest.lift live moved rfl fun other differ => ?_
    rw [lifted, if_neg fun all => differ all.1]
  · have same : (registry.liftParent id parent).places = registry.places :=
      funext fun other => by rw [lifted, if_neg fun all => below all.2]
    rwa [same]

private theorem clear_liftParent (forest : registry.places.Forest) (apart : parent ≠ id)
    (stands : parent ≠ 0) :
    ¬ ReflTransGen (registry.liftParent id parent).places.Above id parent := by
  have lifted := places_liftParent registry id parent
  intro reaches
  have above := (Relation.reflTransGen_iff_eq_or_transGen.mp reaches).resolve_left apart
  by_cases below : registry.isDescendant parent id
  · obtain ⟨top, -, high, place, held, same⟩ := TransGen.tail'_iff.mp above
    rw [lifted, if_pos ⟨rfl, stands, below⟩] at held
    obtain ⟨old, -, rfl⟩ := Option.map_eq_some_iff.mp held
    exact high same.symm
  · have same : (registry.liftParent id parent).places = registry.places :=
      funext fun other => by rw [lifted, if_neg fun all => below all.2.2]
    rw [same] at above
    exact below (isDescendant_of_below forest above)

theorem forest_reprioritize (forest : registry.places.Forest) (live : (registry.places id).isSome)
    {original : Priority} (apart : original.dependency ≠ id) :
    (registry.reprioritize id original).places.Forest := by
  have moved := places_reprioritize registry id original
  have linked := registry.effectivePriority_linked original
  have away : (registry.effectivePriority original).dependency ≠ 0 →
      (registry.effectivePriority original).dependency ≠ id := by
    intro stands
    rwa [registry.effectivePriority_eq stands]
  generalize registry.effectivePriority original = priority at moved linked away
  have lifted := places_liftParent registry id priority.dependency
  have lives : ∀ other, ((registry.liftParent id priority.dependency).places other).isSome =
      (registry.places other).isSome := by
    intro other
    rw [lifted]
    split <;> simp
  have planted : (registry.liftParent id priority.dependency).places.Forest :=
    forest_liftParent forest id _ linked
  have placed : (registry.reprioritize id original).places id =
      some ⟨priority.dependency, priority.weight, false⟩ := by
    obtain ⟨place, held⟩ := Option.isSome_iff_exists.mp live
    rw [moved, if_pos rfl, held]
    rfl
  refine planted.graft placed ?_ ?_ ?_ ?_
  · rwa [lives]
  · rwa [lives]
  · exact fun stands => clear_liftParent forest (away stands) stands
  · intro other differ
    rw [moved, if_neg differ]
    split
    · rw [places_adoptSiblings]
      cases held : (registry.liftParent id priority.dependency).places other with
      | none => exact .inl rfl
      | some place =>
        by_cases sibling : place.dependency = priority.dependency ∧ other ≠ priority.dependency
        · exact .inr ⟨place, rfl, sibling.1, by simp [sibling, differ]⟩
        · refine .inl ?_
          rw [Option.map_some, if_neg fun all => sibling all.1]
    · exact .inl rfl

/-! ## What a move changes -/

private theorem get?_liftParent (registry : Registry) (id parent other : Nat) :
    (registry.liftParent id parent).get? other =
      if other = parent ∧ parent ≠ 0 ∧ registry.isDescendant parent id then
        (registry.get? other).map (·.dependOn 0)
      else registry.get? other := by
  unfold liftParent
  split
  · rename_i below
    simp [get?_modify, below]
  · rename_i apart
    rw [if_neg fun all => apart all.2]

private theorem get?_reprioritize (registry : Registry) {other : Nat} (priority : Priority)
    (differ : other ≠ id) :
    (registry.reprioritize id priority).get? other =
      ((registry.liftParent id (registry.effectivePriority priority).dependency).get? other).map
        fun stream =>
          if (registry.effectivePriority priority).exclusive ∧
              isChild (registry.effectivePriority priority).dependency other stream then
            stream.dependOn id
          else stream := by
  unfold reprioritize
  generalize registry.effectivePriority priority = priority
  simp only
  rw [get?_modify, if_neg differ]
  cases priority.exclusive with
  | false => simp
  | true => simp [adoptSiblings, get?, IdMap.get?_mapWithKey, differ]

/-- What `reprioritize` does to a forest.  A new parent that stood below the stream goes to the
root, an exclusive stream takes the other children of its parent, and nothing else moves.  The root
is no stream. -/
theorem reprioritize_moves {priority : Priority} (forest : registry.places.Forest)
    (live : (registry.places id).isSome) (apart : priority.dependency ≠ id) :
    let place := registry.effectivePriority priority
    let after := registry.reprioritize id priority
    place = (if priority.dependency = 0 ∨ (registry.places priority.dependency).isSome then priority
      else ⟨0, 16, false⟩) ∧
    after.places id = some ⟨place.dependency, place.weight, false⟩ ∧
    (place.dependency ≠ 0 → TransGen registry.places.Above id place.dependency →
      after.parent? place.dependency = some 0) ∧
    (place.exclusive = true → ∀ other, other ≠ id → other ≠ 0 →
      registry.parent? other = some place.dependency → after.parent? other = some id) ∧
    (∀ other, other ≠ id →
      ¬ (other = place.dependency ∧ TransGen registry.places.Above id place.dependency) →
      ¬ (place.exclusive = true ∧ registry.parent? other = some place.dependency) →
      after.get? other = registry.get? other) ∧
    (∀ other, other ≠ id → (after.get? other).map (·.priority.weight) =
      (registry.get? other).map (·.priority.weight)) ∧
    (∀ other, (after.places other).isSome = (registry.places other).isSome) ∧
    after.places.Forest := by
  have moved := places_reprioritize registry id priority
  have kept := fun other => @get?_reprioritize id registry other priority
  have linked := registry.effectivePriority_linked priority
  have away : (registry.effectivePriority priority).dependency ≠ 0 →
      (registry.effectivePriority priority).dependency ≠ id := by
    intro stands
    rwa [registry.effectivePriority_eq stands]
  refine ⟨effectivePriority_eq_ite registry priority, ?_, ?_, ?_, ?_, ?_, ?_,
    forest_reprioritize forest live apart⟩
  all_goals generalize registry.effectivePriority priority = place at moved kept linked away
  · obtain ⟨old, held⟩ := Option.isSome_iff_exists.mp live
    rw [moved, if_pos rfl, held]
    rfl
  · intro stands below
    obtain ⟨old, held⟩ := Option.isSome_iff_exists.mp (linked.resolve_left stands)
    have lifted := places_liftParent registry id place.dependency place.dependency
    rw [if_pos ⟨rfl, stands, isDescendant_of_below forest below⟩, held] at lifted
    rw [parent?_eq, moved, if_neg (away stands)]
    split <;> simp [places_adoptSiblings, lifted]
  · intro exclusive other differ stands child
    obtain ⟨old, held, same⟩ := Option.map_eq_some_iff.mp ((parent?_eq _ _).symm.trans child)
    have apart : other ≠ place.dependency := by
      rintro rfl
      exact forest.dependency_ne held (same ▸ stands) same
    rw [parent?_eq, moved, if_neg differ, if_pos exclusive, places_adoptSiblings, places_liftParent,
      if_neg fun all => apart all.1, held]
    simp [same, apart, differ]
  · intro other differ unlifted unadopted
    rw [kept other differ, get?_liftParent, if_neg]
    · cases held : registry.get? other with
      | none => rfl
      | some stream =>
        rw [Option.map_some, if_neg]
        rintro ⟨exclusive, child⟩
        simp only [isChild, Bool.and_eq_true, beq_iff_eq] at child
        exact unadopted ⟨exclusive, by simp [parent?, held, child.1.1, child.1.2]⟩
    · rintro ⟨here, -, below⟩
      exact unlifted ⟨here, (isDescendant_iff forest).mp below⟩
  · intro other differ
    rw [kept other differ, get?_liftParent]
    cases registry.get? other with
    | none => split <;> rfl
    | some stream =>
      split <;> simp only [Option.map_some] <;> split <;> rfl
  · intro other
    rw [moved]
    split
    · rename_i here
      simp [here]
    · split
      · rw [places_adoptSiblings, places_liftParent]
        split <;> simp
      · rw [places_liftParent]
        split <;> simp

/-- A stream is moved exclusively below its grandchild, which a live and a closed one depend on. -/
theorem reprioritize_moves_grandchild :
    let entries : List (Nat × Stream) := [(1, { priority := ⟨0, 16, false⟩ }),
      (3, { priority := ⟨1, 20, false⟩ }), (5, { priority := ⟨3, 30, false⟩ }),
      (7, { priority := ⟨5, 40, false⟩ }), (9, { phase := .closed, priority := ⟨5, 50, false⟩ })]
    let registry : Registry := ⟨.server, 4, ⟨entries, by decide⟩, [9], 2, 9⟩
    let after := registry.reprioritize 1 ⟨5, 99, true⟩
    after.parent? 1 = some 5 ∧ after.parent? 5 = some 0 ∧ after.parent? 7 = some 1 ∧
      after.get? 3 = registry.get? 3 ∧ after.get? 9 = registry.get? 9 ∧ after.places.Forest := by
  intro entries registry after
  have placed : ∀ id place, registry.places id = some place →
      place.dependency < id ∧
      (place.dependency = 0 ∨ (registry.places place.dependency).isSome) := by
    intro id place held
    obtain ⟨stream, found, live, rfl⟩ := places_eq_some_iff.mp held
    have member := IdMap.get?_eq_some_iff.mp found
    simp only [registry, entries, List.mem_cons, List.not_mem_nil, or_false,
      Prod.mk.injEq] at member
    rcases member with ⟨rfl, rfl⟩ | ⟨rfl, rfl⟩ | ⟨rfl, rfl⟩ | ⟨rfl, rfl⟩ | ⟨rfl, rfl⟩
    · decide
    · decide
    · decide
    · decide
    · cases live
  have forest : registry.places.Forest := by
    refine ⟨fun held => (placed _ _ held).2, Subrelation.wf ?_ Nat.lt_wfRel.wf⟩
    rintro parent child ⟨-, place, held, rfl⟩
    exact (placed _ _ held).1
  have below : TransGen registry.places.Above 1 5 :=
    .tail (b := 3) (.single ⟨by decide, _, rfl, rfl⟩) ⟨by decide, _, rfl, rfl⟩
  have moves := @reprioritize_moves _ 1 ⟨5, 99, true⟩ forest (by decide) (by decide)
  obtain ⟨-, placed, lifted, adopted, kept, -, -, forest⟩ := moves
  refine ⟨?_, lifted (by decide) below, adopted rfl 7 (by decide) (by decide) rfl, ?_, ?_, forest⟩
  · rw [parent?_eq, placed]
    rfl
  · exact kept 3 (by decide) (fun all => absurd all.1 (by decide)) (by decide)
  · exact kept 9 (by decide) (fun all => absurd all.1 (by decide)) (by decide)

end Registry

end Http2
