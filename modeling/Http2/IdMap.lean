/-!
# Maps keyed by stream identifiers

An `IdMap` holds its entries in ascending order of the key, so listing it needs no sorting and two
maps with the same look-ups are equal (`IdMap.ext`).
-/

namespace Http2

universe u v

structure IdMap (α : Type u) where
  entries : List (Nat × α)
  ascending : entries.Pairwise (fun first second => first.1 < second.1)
  deriving DecidableEq, Repr

namespace IdMap

variable {α : Type u} {β : Type v}

/-! ## Operations on ascending lists -/

def lookup (key : Nat) : List (Nat × α) → Option α
  | [] => none
  | (other, value) :: rest => if other = key then some value else lookup key rest

def place (key : Nat) (value : α) : List (Nat × α) → List (Nat × α)
  | [] => [(key, value)]
  | (other, held) :: rest =>
      if key < other then (key, value) :: (other, held) :: rest
      else if other = key then (key, value) :: rest
      else (other, held) :: place key value rest

theorem mem_place {key : Nat} {value : α} {entries : List (Nat × α)} {entry : Nat × α}
    (h : entry ∈ place key value entries) : entry = (key, value) ∨ entry ∈ entries := by
  induction entries with
  | nil => exact .inl (by simpa [place] using h)
  | cons head rest ih =>
      obtain ⟨other, held⟩ := head
      grind [place]

theorem place_ascending (key : Nat) (value : α) {entries : List (Nat × α)}
    (h : entries.Pairwise (fun first second => first.1 < second.1)) :
    (place key value entries).Pairwise (fun first second => first.1 < second.1) := by
  induction entries with
  | nil => simp [place]
  | cons head rest ih =>
      obtain ⟨other, held⟩ := head
      rw [List.pairwise_cons] at h
      unfold place
      split
      · refine List.pairwise_cons.mpr ⟨fun entry hentry => ?_, List.pairwise_cons.mpr h⟩
        rcases List.mem_cons.mp hentry with rfl | hentry
        · assumption
        · exact Nat.lt_trans ‹key < other› (h.1 entry hentry)
      · split
        · subst key
          exact List.pairwise_cons.mpr h
        · refine List.pairwise_cons.mpr ⟨fun entry hentry => ?_, ih h.2⟩
          rcases mem_place hentry with rfl | hentry
          · show other < key
            omega
          · exact h.1 entry hentry

theorem lookup_place (key other : Nat) (value : α) (entries : List (Nat × α)) :
    lookup other (place key value entries) =
      if key = other then some value else lookup other entries := by
  induction entries with
  | nil => simp [place, lookup]
  | cons head rest ih =>
      obtain ⟨held, kept⟩ := head
      grind [place, lookup]

theorem lookup_eq_some_of_mem {entries : List (Nat × α)} {key : Nat} {value : α}
    (order : entries.Pairwise (fun first second => first.1 < second.1))
    (h : (key, value) ∈ entries) : lookup key entries = some value := by
  induction entries with
  | nil => simp at h
  | cons head rest ih =>
      obtain ⟨other, held⟩ := head
      rw [List.pairwise_cons] at order
      rcases List.mem_cons.mp h with h | h
      · obtain ⟨rfl, rfl⟩ := Prod.mk.inj h
        simp [lookup]
      · have := order.1 _ h
        rw [lookup, if_neg (by simp at this; omega)]
        exact ih order.2 h

theorem mem_of_lookup_eq_some {entries : List (Nat × α)} {key : Nat} {value : α}
    (h : lookup key entries = some value) : (key, value) ∈ entries := by
  induction entries with
  | nil => simp [lookup] at h
  | cons head rest ih =>
      obtain ⟨other, held⟩ := head
      unfold lookup at h
      split at h
      · simp_all
      · exact List.mem_cons_of_mem _ (ih h)

/-! ## The maps -/

def empty : IdMap α := ⟨[], .nil⟩

instance : EmptyCollection (IdMap α) := ⟨empty⟩

instance : Inhabited (IdMap α) := ⟨empty⟩

def get? (map : IdMap α) (key : Nat) : Option α := lookup key map.entries

def contains (map : IdMap α) (key : Nat) : Bool := (map.get? key).isSome

def insert (map : IdMap α) (key : Nat) (value : α) : IdMap α :=
  ⟨place key value map.entries, place_ascending key value map.ascending⟩

def erase (map : IdMap α) (key : Nat) : IdMap α :=
  ⟨map.entries.filter (fun entry => entry.1 ≠ key), map.ascending.filter _⟩

def mapWithKey (f : Nat → α → β) (map : IdMap α) : IdMap β :=
  ⟨map.entries.map (fun entry => (entry.1, f entry.1 entry.2)),
    List.pairwise_map.mpr map.ascending⟩

def modify (map : IdMap α) (key : Nat) (f : α → α) : IdMap α :=
  map.mapWithKey fun other value => if other = key then f value else value

def keys (map : IdMap α) : List Nat := map.entries.map Prod.fst

def values (map : IdMap α) : List α := map.entries.map Prod.snd

def size (map : IdMap α) : Nat := map.entries.length

def keysWhere (map : IdMap α) (p : Nat → α → Bool) : List Nat :=
  (map.entries.filter fun entry => p entry.1 entry.2).map Prod.fst

/-! ## Look-ups -/

@[simp] theorem get?_empty (key : Nat) : (∅ : IdMap α).get? key = none := rfl

theorem get?_insert (map : IdMap α) (key other : Nat) (value : α) :
    (map.insert key value).get? other =
      if key = other then some value else map.get? other :=
  lookup_place key other value map.entries

theorem get?_erase (map : IdMap α) (key other : Nat) :
    (map.erase key).get? other = if key = other then none else map.get? other := by
  unfold erase get?
  simp only
  induction map.entries with
  | nil => simp [lookup]
  | cons head rest ih =>
      obtain ⟨held, kept⟩ := head
      grind [lookup]

theorem get?_mapWithKey (f : Nat → α → β) (map : IdMap α) (key : Nat) :
    (map.mapWithKey f).get? key = (map.get? key).map (f key) := by
  unfold mapWithKey get?
  simp only
  induction map.entries with
  | nil => rfl
  | cons head rest ih =>
      obtain ⟨held, kept⟩ := head
      grind [lookup]

theorem get?_modify (map : IdMap α) (key other : Nat) (f : α → α) :
    (map.modify key f).get? other =
      if other = key then (map.get? other).map f else map.get? other := by
  rw [modify, get?_mapWithKey]
  split
  · simp
  · cases map.get? other <;> rfl

theorem get?_eq_some_iff {map : IdMap α} {key : Nat} {value : α} :
    map.get? key = some value ↔ (key, value) ∈ map.entries :=
  ⟨mem_of_lookup_eq_some, lookup_eq_some_of_mem map.ascending⟩

theorem mem_keysWhere {map : IdMap α} {p : Nat → α → Bool} {key : Nat} :
    key ∈ map.keysWhere p ↔ ∃ value, map.get? key = some value ∧ p key value = true := by
  simp only [keysWhere, List.mem_map, List.mem_filter, get?_eq_some_iff]
  constructor
  · rintro ⟨⟨other, value⟩, ⟨hmem, hp⟩, rfl⟩
    exact ⟨value, hmem, hp⟩
  · rintro ⟨value, hmem, hp⟩
    exact ⟨(key, value), ⟨hmem, hp⟩, rfl⟩

theorem keysWhere_ascending (map : IdMap α) (p : Nat → α → Bool) :
    (map.keysWhere p).Pairwise (· < ·) :=
  List.pairwise_map.mpr (map.ascending.filter _)

private theorem entries_eq_of_lookup {first second : List (Nat × α)}
    (hfirst : first.Pairwise (fun a b => a.1 < b.1))
    (hsecond : second.Pairwise (fun a b => a.1 < b.1))
    (h : ∀ key, lookup key first = lookup key second) : first = second := by
  induction first generalizing second with
  | nil =>
      cases second with
      | nil => rfl
      | cons head rest => simpa [lookup] using h head.1
  | cons head rest ih =>
      cases second with
      | nil => simpa [lookup] using h head.1
      | cons other others =>
          obtain ⟨key, value⟩ := head
          obtain ⟨key', value'⟩ := other
          rw [List.pairwise_cons] at hfirst hsecond
          have absent : ∀ {entries : List (Nat × α)} {k : Nat},
              (∀ entry ∈ entries, k < entry.1) → ∀ j ≤ k, lookup j entries = none := by
            intro entries k hk j hj
            cases hl : lookup j entries with
            | none => rfl
            | some found =>
                have := hk _ (mem_of_lookup_eq_some hl)
                simp at this
                omega
          have equalKeys : key = key' := by
            rcases Nat.lt_trichotomy key key' with hlt | heq | hgt
            · have := h key
              rw [lookup, if_pos rfl, lookup, if_neg (by omega),
                absent hsecond.1 key (by simp; omega)] at this
              simp at this
            · exact heq
            · have := h key'
              rw [lookup, if_neg (by omega), lookup, if_pos rfl,
                absent hfirst.1 key' (by simp; omega)] at this
              simp at this
          subst equalKeys
          have equalValues : value = value' := by simpa [lookup] using h key
          subst equalValues
          congr 1
          refine ih hfirst.2 hsecond.2 fun k => ?_
          have := h k
          by_cases hk : key = k
          · subst hk
            rw [absent hfirst.1 key (Nat.le_refl _), absent hsecond.1 key (Nat.le_refl _)]
          · simpa [lookup, hk] using this

@[ext] theorem ext {first second : IdMap α} (h : ∀ key, first.get? key = second.get? key) :
    first = second := by
  obtain ⟨entries, order⟩ := first
  obtain ⟨entries', order'⟩ := second
  have := entries_eq_of_lookup order order' h
  subst this
  rfl

end IdMap

end Http2
