import Http2.Header.Failure
import Http2.Octets

/-!
# Integers with a prefix

A number starts in the low bits of an octet whose high bits say what it counts.  A number that does
not fit there fills them with ones and goes on in groups of seven bits, least significant first, at
most four of them.
-/

namespace Http2.Header

/-! ## Writing -/

def encodeGroups (value : Nat) : Octets :=
  if value < 128 then [UInt8.ofNat value]
  else UInt8.ofNat (value % 128 + 128) :: encodeGroups (value / 128)

/-- `marker` holds the high bits of the first octet and `full` is the number with ones in all the
bits below them. -/
def encodeInteger (marker : UInt8) (full value : Nat) : Octets :=
  if value < full then [UInt8.ofNat (marker.toNat + value)]
  else UInt8.ofNat (marker.toNat + full) :: encodeGroups (value - full)

/-! ## Reading -/

/-- `more` is the number of groups that may follow the next one. -/
def decodeGroups : (more weight value : Nat) → Octets → Except IntegerFailure (Nat × Octets)
  | _, _, _, [] => .error .notEnoughOctets
  | more, weight, value, octet :: rest =>
      let value := value + octet.toNat % 128 * weight
      if octet.toNat < 128 then .ok (value, rest)
      else
        match more with
        | 0 => .error .tooManyOctets
        | more + 1 => decodeGroups more (weight * 128) value rest

def decodeInteger (full : Nat) : Octets → Except IntegerFailure (Nat × Octets)
  | [] => .error .notEnoughOctets
  | octet :: rest =>
      let value := octet.toNat % (full + 1)
      if value < full then .ok (value, rest) else decodeGroups 3 1 value rest

/-! ## What is left is shorter -/

theorem decodeGroups_length {more weight value : Nat} {octets rest : Octets} {number : Nat}
    (h : decodeGroups more weight value octets = .ok (number, rest)) :
    rest.length < octets.length := by
  fun_induction decodeGroups more weight value octets with
  | case1 => simp at h
  | case2 =>
      simp only [Except.ok.injEq, Prod.mk.injEq] at h
      simp [h.2]
  | case3 => simp at h
  | case4 weight value octet tail _ _ more ih =>
      have := ih h
      simp only [List.length_cons]
      omega

theorem decodeInteger_length {full : Nat} {octets rest : Octets} {number : Nat}
    (h : decodeInteger full octets = .ok (number, rest)) :
    rest.length < octets.length := by
  cases octets with
  | nil => simp [decodeInteger] at h
  | cons octet tail =>
      simp only [decodeInteger] at h
      split at h
      · simp only [Except.ok.injEq, Prod.mk.injEq] at h
        simp [h.2]
      · have := decodeGroups_length h
        simp only [List.length_cons]
        omega

end Http2.Header
