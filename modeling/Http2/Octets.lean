/-!
# Octets

Everything on the wire is a list of octets.  `bigEndian width value` is the field of `width` octets
that holds the low bits of `value`, most significant octet first, and `ofBigEndian` reads such a
field.  `split?` takes a field of known length off the front, and `cut` divides a text into pieces
of bounded size.
-/

namespace Http2

abbrev Octets := List UInt8

/-! ## Fields of fixed width -/

def bigEndian : (width value : Nat) → Octets
  | 0, _ => []
  | width + 1, value => bigEndian width (value / 256) ++ [UInt8.ofNat value]

def ofBigEndian (octets : Octets) : Nat :=
  octets.foldl (fun value octet => value * 256 + octet.toNat) 0

@[simp] theorem length_bigEndian (width value : Nat) :
    (bigEndian width value).length = width := by
  induction width generalizing value with
  | zero => rfl
  | succ width ih => simp [bigEndian, ih]

theorem ofBigEndian_bigEndian (width value : Nat) :
    ofBigEndian (bigEndian width value) = value % Nat.pow 256 width := by
  induction width generalizing value with
  | zero => exact (Nat.mod_one value).symm
  | succ width ih =>
      have power : Nat.pow 256 (width + 1) = 256 * Nat.pow 256 width := Nat.mul_comm _ _
      have ih := ih (value / 256)
      unfold ofBigEndian at ih ⊢
      rw [bigEndian, List.foldl_append, ih, power, Nat.mod_mul]
      simp only [List.foldl_cons, List.foldl_nil, UInt8.toNat_ofNat']
      omega

/-! ## Totals -/

def total : List Nat → Nat
  | [] => 0
  | count :: rest => count + total rest

@[simp] theorem total_nil : total [] = 0 := rfl

@[simp] theorem total_cons (count : Nat) (rest : List Nat) :
    total (count :: rest) = count + total rest := rfl

@[simp] theorem total_append (first second : List Nat) :
    total (first ++ second) = total first + total second := by
  induction first with
  | nil => simp
  | cons count rest ih => simp [ih, Nat.add_assoc]

def totalLength (texts : List Octets) : Nat := total (texts.map List.length)

theorem length_flatten_eq (texts : List Octets) :
    texts.flatten.length = totalLength texts := by
  induction texts with
  | nil => rfl
  | cons text rest ih => simp_all [totalLength]

/-! ## Taking a text apart -/

def split? (count : Nat) (octets : Octets) : Option (Octets × Octets) :=
  let (front, rest) := octets.splitAt count
  if front.length = count then some (front, rest) else none

theorem split?_append (front rest : Octets) :
    split? front.length (front ++ rest) = some (front, rest) := by
  simp [split?]

theorem append_of_split? {count : Nat} {octets front rest : Octets}
    (h : split? count octets = some (front, rest)) :
    front.length = count ∧ octets = front ++ rest := by
  simp only [split?, List.splitAt_eq] at h
  split at h
  · simp only [Option.some.injEq, Prod.mk.injEq] at h
    obtain ⟨rfl, rfl⟩ := h
    exact ⟨by assumption, (List.take_append_drop ..).symm⟩
  · simp at h

theorem split?_eq_none_iff {count : Nat} {octets : Octets} :
    split? count octets = none ↔ octets.length < count := by
  simp only [split?, List.splitAt_eq, List.length_take]
  split <;> simp <;> omega

def cut (size : Nat) (octets : Octets) : List Octets :=
  if _stop : octets = [] ∨ size = 0 then []
  else octets.take size :: cut size (octets.drop size)
termination_by octets.length
decreasing_by
  have : 0 < octets.length := List.length_pos_iff.mpr fun empty => _stop (.inl empty)
  simp only [List.length_drop]
  omega

theorem flatten_cut {size : Nat} (hsize : 0 < size) (octets : Octets) :
    (cut size octets).flatten = octets := by
  fun_induction cut size octets with
  | case1 octets h =>
      have : octets = [] := h.resolve_right (by omega)
      simp [this]
  | case2 octets h ih => simp [ih]

theorem length_le_of_mem_cut {size : Nat} {octets piece : Octets}
    (h : piece ∈ cut size octets) : 0 < piece.length ∧ piece.length ≤ size := by
  fun_induction cut size octets with
  | case1 => simp at h
  | case2 octets hne ih =>
      rcases List.mem_cons.mp h with rfl | h
      · simp only [not_or] at hne
        have : 0 < octets.length := List.length_pos_iff.mpr hne.1
        simp only [List.length_take]
        omega
      · exact ih h

end Http2
