import Http2.Limits
import Http2.Octets

/-!
# Priorities

A stream depends on another one, or on the root under stream 0, and shares its resources with the
siblings by weight.  An exclusive dependency makes it the only child of its parent.
-/

namespace Http2

structure Priority where
  dependency : Nat
  weight : Nat
  exclusive : Bool
  deriving DecidableEq, Repr

namespace Priority

def defaultWeight : Nat := 16

def default : Priority := ⟨0, defaultWeight, false⟩

instance : Inhabited Priority := ⟨default⟩

def hasValidWeight (priority : Priority) : Bool :=
  1 ≤ priority.weight && priority.weight ≤ 256

/-! ## The five octets on the wire -/

/-- A weight out of bounds is written as the nearest one within them. -/
def encode (priority : Priority) : Octets :=
  bigEndian 4 (low31 priority.dependency + if priority.exclusive then 2147483648 else 0) ++
    [UInt8.ofNat (max 1 (min priority.weight 256) - 1)]

def decode? : Octets → Option (Priority × Octets)
  | first :: second :: third :: fourth :: weight :: rest =>
      let word := ofBigEndian [first, second, third, fourth]
      some (⟨low31 word, weight.toNat + 1, 2147483648 ≤ word⟩, rest)
  | _ => none

@[simp] theorem length_encode (priority : Priority) : priority.encode.length = 5 := by
  simp [encode]

end Priority

end Http2
