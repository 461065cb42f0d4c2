import Http2.Error
import Http2.Header.Utf8
import Mathlib.Data.Nat.Digits.Defs

/-!
# Error texts are short

The peer is told in the farewell why a session ends.  The text quotes numbers, and a text that
quotes only small ones is short.
-/

namespace Http2

/-- The text quotes no number from `cap` on. -/
def WindowError.Brief (cap : Nat) : WindowError → Prop
  | exhausted stream requested available => stream < cap ∧ requested < cap ∧ available.natAbs < cap
  | overflow stream => stream < cap

def Violation.Brief (cap : Nat) : Violation → Prop
  | frameTooLong first second | strayContinuation first second | blockTooLarge first second
  | staleStream first second => first < cap ∧ second < cap
  | expectedContinuation number _ | unexpectedContinuation number | withStream _ number
  | wrongLength _ number
  | settingValue _ number | idleStream _ number | closedStream _ number | wrongPhase _ number _
  | wrongParity number | cannotOpen number | cannotReserve number => number < cap
  | window error => error.Brief cap
  | stated .. => False
  | _ => True

/-- An error that ends the session, with a short text. -/
def Error.Brief (cap : Nat) : Error → Prop
  | protocol violation | connection violation => violation.Brief cap
  | _ => False

/-! ## Lengths of texts -/

private theorem literal_le {text : String} {characters : List Char}
    (same : text = String.ofList characters) (short : characters.length.ble 60 = true) :
    text.toList.length ≤ 60 := by
  rw [same, String.toList_ofList]
  exact Nat.le_of_ble_eq_true short

private theorem joined_le {front last : String} {first second : Nat}
    (begins : front.toList.length ≤ first) (ends : last.toList.length ≤ second) :
    (front ++ last).toList.length ≤ first + second := by
  rw [String.toList_append, List.length_append]
  exact Nat.add_le_add begins ends

private theorem Header.Failure.text_le (failure : Failure) : failure.text.toList.length ≤ 180 := by
  have wrapped : ∀ {front inner last : String}, front.toList.length ≤ 60 →
      inner.toList.length ≤ 60 →
      last.toList.length ≤ 60 → (front ++ inner ++ last).toList.length ≤ 180 :=
      fun begins within ends =>
    joined_le (joined_le begins within) ends
  cases failure with
  | integer failure | huffman failure | sizeUpdate failure =>
    exact wrapped (literal_le rfl rfl) (by cases failure <;> exact literal_le rfl rfl)
      (literal_le rfl rfl)
  | _ => exact Nat.le_trans (literal_le rfl rfl) (by decide)

section Quotes

variable {cap : Nat} (digits : ∀ {number : Nat}, number < cap → number.repr.toList.length ≤ 20)

include digits

private theorem quoted_le {front last : String} {count number : Nat}
    (begins : front.toList.length ≤ count) (below : number < cap) (ends : last.toList.length ≤ 60) :
    (front ++ toString number ++ last).toList.length ≤ count + 20 + 60 :=
  joined_le (joined_le begins (digits below)) ends

private theorem WindowError.message_le {error : WindowError} (brief : error.Brief cap) :
    error.message.toList.length ≤ 400 := by
  cases error with
  | exhausted stream requested available =>
    have third : (toString available).toList.length ≤ 60 + 20 := by
      have abs := digits brief.2.2
      cases available with
      | ofNat number => exact abs.trans (by decide)
      | negSucc number => exact joined_le (literal_le rfl rfl) abs
    exact Nat.le_trans (joined_le (quoted_le digits (quoted_le digits (literal_le rfl rfl) brief.1
      (literal_le rfl rfl)) brief.2.1 (literal_le rfl rfl)) third) (by decide)
  | overflow stream =>
    exact Nat.le_trans (quoted_le digits (literal_le rfl rfl) brief (literal_le rfl rfl))
      (by decide)

private theorem Violation.message_le {violation : Violation} (brief : violation.Brief cap) :
    violation.message.toList.length ≤ 400 := by
  have kinds : ∀ kind : FrameKind, kind.name.toList.length ≤ 60 := by
    intro kind
    cases kind <;> exact literal_le rfl rfl
  have settings : ∀ setting : Setting, setting.name.toList.length ≤ 60 := by
    intro setting
    cases setting <;> exact literal_le rfl rfl
  have phases : ∀ phase : Phase, phase.text.toList.length ≤ 60 := by
    intro phase
    cases phase <;> exact literal_le rfl rfl
  have codes : ∀ kind : UInt8, (hexText kind.toNat).toList.length ≤ 60 + 2 := fun kind => by
    refine joined_le (literal_le rfl rfl) ?_
    rw [String.toList_ofList]
    exact Nat.toDigits_length 16 _ 2 (by decide) kind.toNat_lt
  have quoted := fun {front last number} => @quoted_le cap digits front last 60 number
  cases violation with
  | stated => cases brief
  | window error => exact error.message_le digits brief
  | compression failure =>
    exact Nat.le_trans (joined_le (literal_le rfl rfl) failure.text_le) (by decide)
  | frameTooLong | strayContinuation | staleStream =>
    exact Nat.le_trans (joined_le (quoted (literal_le rfl rfl) brief.1 (literal_le rfl rfl))
      (digits brief.2)) (by decide)
  | blockTooLarge =>
    exact Nat.le_trans (quoted_le digits (quoted (literal_le rfl rfl) brief.1 (literal_le rfl rfl))
      brief.2 (literal_le rfl rfl)) (by decide)
  | unexpectedContinuation | cannotOpen | cannotReserve =>
    exact Nat.le_trans (joined_le (literal_le rfl rfl) (digits brief)) (by decide)
  | wrongParity =>
    exact Nat.le_trans (quoted (literal_le rfl rfl) brief (literal_le rfl rfl)) (by decide)
  | withStream kind | wrongLength kind =>
    exact Nat.le_trans
      (joined_le (kinds kind) (quoted (literal_le rfl rfl) brief (literal_le rfl rfl))) (by decide)
  | idleStream kind | closedStream kind =>
    exact Nat.le_trans (joined_le (kinds kind) (joined_le (literal_le rfl rfl) (digits brief)))
      (by decide)
  | withoutStream kind | tooShort kind =>
    exact Nat.le_trans (joined_le (kinds kind) (literal_le rfl rfl)) (by decide)
  | expectedContinuation _ kind =>
    exact Nat.le_trans (joined_le (quoted (literal_le rfl rfl) brief (literal_le rfl rfl))
      (codes kind)) (by decide)
  | settingValue setting =>
    exact Nat.le_trans (joined_le (quoted (literal_le rfl rfl) brief (literal_le rfl rfl))
      (settings setting)) (by decide)
  | wrongPhase kind _ phase =>
    exact Nat.le_trans
      (joined_le (joined_le (kinds kind) (quoted (literal_le rfl rfl) brief (literal_le rfl rfl)))
      (phases phase)) (by decide)
  | _ => exact Nat.le_trans (literal_le rfl rfl) (by decide)

end Quotes

theorem Error.Brief.debugText_le {cap : Nat} {error : Error} (brief : error.Brief cap)
    (small : cap ≤ 10 ^ 20) :
    (Header.encodeUtf8 error.debugText).length ≤ 1600 := by
  have octets : ∀ characters : List Char, (characters.flatMap String.utf8EncodeChar).length ≤
      4 * characters.length := by
    intro characters
    induction characters with
    | nil => exact Nat.le_refl 0
    | cons character rest ih =>
      have one := character.utf8Size_le_four
      rw [List.flatMap_cons, List.length_append, String.length_utf8EncodeChar, List.length_cons]
      omega
  have digits : ∀ {number : Nat}, number < cap → number.repr.toList.length ≤ 20 := by
    intro number below
    rw [String.length_toList]
    exact Nat.repr_length number 20 (by decide) (Nat.lt_of_lt_of_le below small)
  have text : error.debugText.toList.length ≤ 400 := by
    cases error with
    | protocol violation | connection violation => exact violation.message_le digits brief
    | _ => cases brief
  exact (octets _).trans (Nat.mul_le_mul_left 4 text)

end Http2
