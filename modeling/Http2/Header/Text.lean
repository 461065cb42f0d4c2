import Http2.Header.HuffmanCode
import Http2.Header.Integer

/-!
# Texts in a header block

A text is its length, with a bit that says whether it is in Huffman code, and its octets.  Texts are
written plainly and read in both forms.
-/

namespace Http2.Header

/-! ## Huffman code -/

def bitsOf (octet : UInt8) : List Bool := codeWord octet.toNat 8

/-- Walks down the code tree.  `node` is where the bits since the last symbol lead, and `trail`
holds those bits, last first.  The text may end inside a code word if fewer than eight bits, all of
them ones, are left over. -/
def decodeBits : (node : CodeTree) → (trail : List Bool) → (output : List UInt8) →
    List Bool → Except HuffmanFailure Octets
  | _, trail, output, [] =>
      if 7 < trail.length then .error .paddingTooLarge
      else if trail.all id then .ok output.reverse
      else .error .invalidPadding
  | node, trail, output, bit :: bits =>
      match node.child bit with
      | .symbol value =>
          if value = endSymbol then .error .endMark
          else decodeBits huffmanTree [] (UInt8.ofNat value :: output) bits
      | next => decodeBits next (bit :: trail) output bits

def decodeHuffman (octets : Octets) : Except HuffmanFailure Octets :=
  decodeBits huffmanTree [] [] (octets.flatMap bitsOf)

/-! ## Texts -/

def encodeText (text : Octets) : Octets := encodeInteger 0 127 text.length ++ text

def decodeText (octets : Octets) : Except Failure (Octets × Octets) :=
  match decodeInteger 127 octets with
  | .error failure => .error (.integer failure)
  | .ok (length, rest) =>
      match split? length rest with
      | none => .error .textTooShort
      | some (raw, rest) =>
          if (octets.headD 0).toNat < 128 then .ok (raw, rest)
          else
            match decodeHuffman raw with
            | .error failure => .error (.huffman failure)
            | .ok text => .ok (text, rest)

theorem decodeText_length {octets text rest : Octets}
    (h : decodeText octets = .ok (text, rest)) : rest.length < octets.length := by
  unfold decodeText at h
  split at h
  · simp at h
  · rename_i hlength
    have := decodeInteger_length hlength
    split at h
    · simp at h
    · rename_i hsplit
      have := congrArg List.length (append_of_split? hsplit).2
      simp only [List.length_append] at this
      split at h
      · simp only [Except.ok.injEq, Prod.mk.injEq] at h
        obtain ⟨-, rfl⟩ := h
        omega
      · split at h
        · simp at h
        · simp only [Except.ok.injEq, Prod.mk.injEq] at h
          obtain ⟨-, rfl⟩ := h
          omega

end Http2.Header
