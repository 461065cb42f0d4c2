import Http2.Octets

/-!
# Text as octets

`encodeUtf8` gives the octets of a text.  `decodeUtf8` reads any octets as text: where they are not
the encoding of a character, each longest part that could still have become one, or else a single
octet, is read as one replacement character.
-/

namespace Http2.Header

def encodeUtf8 (text : String) : Octets := text.toList.flatMap String.utf8EncodeChar

def replacement : Char := Char.ofNat 0xfffd

/-- A character of which some octets have been read: the number of octets to come, the bits so far,
and the range in which the next octet must lie. -/
structure PartialChar where
  missing : Nat
  bits : Nat
  low : Nat
  high : Nat
  deriving DecidableEq, Repr

structure Utf8State where
  output : List Char := []
  begun : Option PartialChar := none
  deriving DecidableEq, Repr

namespace Utf8State

def start (output : List Char) (octet : Nat) : Utf8State :=
  if octet < 0x80 then ⟨Char.ofNat octet :: output, none⟩
  else if 0xc2 ≤ octet ∧ octet ≤ 0xdf then ⟨output, some ⟨1, octet - 0xc0, 0x80, 0xbf⟩⟩
  else if octet = 0xe0 then ⟨output, some ⟨2, 0, 0xa0, 0xbf⟩⟩
  else if octet = 0xed then ⟨output, some ⟨2, 0xd, 0x80, 0x9f⟩⟩
  else if 0xe1 ≤ octet ∧ octet ≤ 0xef then ⟨output, some ⟨2, octet - 0xe0, 0x80, 0xbf⟩⟩
  else if octet = 0xf0 then ⟨output, some ⟨3, 0, 0x90, 0xbf⟩⟩
  else if 0xf1 ≤ octet ∧ octet ≤ 0xf3 then ⟨output, some ⟨3, octet - 0xf0, 0x80, 0xbf⟩⟩
  else if octet = 0xf4 then ⟨output, some ⟨3, 4, 0x80, 0x8f⟩⟩
  else ⟨replacement :: output, none⟩

def step (state : Utf8State) (octet : UInt8) : Utf8State :=
  match state.begun with
  | none => start state.output octet.toNat
  | some char =>
      if char.low ≤ octet.toNat ∧ octet.toNat ≤ char.high then
        let bits := char.bits * 64 + octet.toNat % 64
        if char.missing ≤ 1 then ⟨Char.ofNat bits :: state.output, none⟩
        else ⟨state.output, some ⟨char.missing - 1, bits, 0x80, 0xbf⟩⟩
      else start (replacement :: state.output) octet.toNat

def finish (state : Utf8State) : List Char :=
  match state.begun with
  | none => state.output.reverse
  | some _ => (replacement :: state.output).reverse

end Utf8State

def decodeUtf8 (octets : Octets) : String :=
  String.ofList (octets.foldl Utf8State.step {}).finish

end Http2.Header
