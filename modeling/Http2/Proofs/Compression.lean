import Http2.Header.Block

/-!
# Header blocks are read as they were written

Whoever reads a block with the table of its writer gets the fields that were written, and the tables
stay equal.  The one exception is a text too long for the integers of a block: reading it fails, so
that nothing is ever read but what was written.
-/

namespace Http2.Header

open List

/-! ## Integers -/

private theorem toNat_group (value : Nat) :
    (UInt8.ofNat (value % 128 + 128)).toNat = value % 128 + 128 := by
  rw [UInt8.toNat_ofNat']
  omega

private theorem decodeGroups_encodeGroups {more weight base value : Nat} (rest : Octets)
    (fits : value < Nat.pow 128 (more + 1)) :
    decodeGroups more weight base (encodeGroups value ++ rest) =
      .ok (base + value * weight, rest) := by
  induction more generalizing weight base value with
  | zero =>
    have small : value < 128 := fits
    rw [encodeGroups, if_pos small]
    simp [decodeGroups, Nat.mod_eq_of_lt (by omega : value < 256), small, Nat.mod_eq_of_lt small]
  | succ more ih =>
    rw [encodeGroups]
    split
    · rename_i small
      simp [decodeGroups, Nat.mod_eq_of_lt (by omega : value < 256), small, Nat.mod_eq_of_lt small]
    · rename_i large
      have fits : value / 128 < Nat.pow 128 (more + 1) := by
        have power : Nat.pow 128 (more + 1 + 1) = Nat.pow 128 (more + 1) * 128 := rfl
        rw [Nat.div_lt_iff_lt_mul (by omega), ← power]
        exact fits
      rw [cons_append, decodeGroups]
      simp only [toNat_group, if_neg (by omega : ¬ value % 128 + 128 < 128)]
      rw [ih fits]
      have parts : value = value % 128 + value / 128 * 128 := (Nat.mod_add_div' value 128).symm
      have low : (value % 128 + 128) % 128 = value % 128 := by omega
      rw [low]
      congr 2
      calc base + value % 128 * weight + value / 128 * (weight * 128)
          = base + (value % 128 + value / 128 * 128) * weight := by
            rw [Nat.add_mul, Nat.mul_assoc, Nat.mul_comm 128 weight, Nat.add_assoc]
        _ = base + value * weight := by rw [← parts]

private theorem decodeGroups_tooLong {more weight base value : Nat} (rest : Octets)
    (long : Nat.pow 128 (more + 1) ≤ value) :
    decodeGroups more weight base (encodeGroups value ++ rest) = .error .tooManyOctets := by
  induction more generalizing weight base value with
  | zero =>
    have large : ¬ value < 128 := Nat.not_lt.mpr long
    rw [encodeGroups, if_neg large, cons_append, decodeGroups]
    simp only [toNat_group, if_neg (by omega : ¬ value % 128 + 128 < 128)]
  | succ more ih =>
    have power : Nat.pow 128 (more + 1 + 1) = Nat.pow 128 (more + 1) * 128 := rfl
    have some : 0 < Nat.pow 128 (more + 1) := Nat.pow_pos (by omega)
    have large : ¬ value < 128 := by omega
    rw [encodeGroups, if_neg large, cons_append, decodeGroups]
    simp only [toNat_group, if_neg (by omega : ¬ value % 128 + 128 < 128)]
    exact ih ((Nat.le_div_iff_mul_le (by omega)).mpr (power ▸ long))

def unreadable (full : Nat) : Nat := full + 268435456

section Integer

variable {marker : UInt8} {full : Nat} (aligned : marker.toNat % (full + 1) = 0)
  (room : marker.toNat + full < 256) (value : Nat) (rest : Octets)

include room

private theorem headD_encodeInteger (default : UInt8) :
    ((encodeInteger marker full value ++ rest).headD default).toNat =
      marker.toNat + min value full := by
  unfold encodeInteger
  split
  · simp only [cons_append, headD_cons, UInt8.toNat_ofNat']
    omega
  · simp only [cons_append, headD_cons, UInt8.toNat_ofNat']
    omega

include aligned

private theorem decodeInteger_encodeInteger :
    decodeInteger full (encodeInteger marker full value ++ rest) =
      if value < unreadable full then .ok (value, rest) else .error .tooManyOctets := by
  have low : ∀ part ≤ full, (UInt8.ofNat (marker.toNat + part)).toNat % (full + 1) = part := by
    intro part small
    rw [UInt8.toNat_ofNat', Nat.mod_eq_of_lt (by omega : marker.toNat + part < 2 ^ 8), Nat.add_mod,
      aligned, Nat.zero_add, Nat.mod_mod, Nat.mod_eq_of_lt (by omega)]
  unfold encodeInteger unreadable
  split
  · rename_i small
    simp only [cons_append, nil_append, decodeInteger, low value (by omega), if_pos small]
    rw [if_pos (by omega)]
  · rename_i large
    simp only [cons_append, decodeInteger, low full (Nat.le_refl _), if_neg (Nat.lt_irrefl _)]
    split
    · rename_i fits
      have groups : value - full < Nat.pow 128 (3 + 1) := by
        have : Nat.pow 128 (3 + 1) = 268435456 := by decide
        omega
      rw [decodeGroups_encodeGroups rest groups]
      congr 2
      omega
    · rename_i long
      refine decodeGroups_tooLong rest ?_
      have : Nat.pow 128 (3 + 1) = 268435456 := by decide
      omega

end Integer

/-! ## Texts -/

private theorem encodeInteger_ne_nil (marker : UInt8) (full value : Nat) :
    encodeInteger marker full value ≠ [] := by
  unfold encodeInteger
  split <;> exact cons_ne_nil _ _

private theorem decodeText_encodeText (text rest : Octets) :
    decodeText (encodeText text ++ rest) =
      if text.length < unreadable 127 then .ok (text, rest)
      else .error (.integer .tooManyOctets) := by
  have room : (0 : UInt8).toNat + 127 < 256 := by decide
  have number := decodeInteger_encodeInteger (by decide) room text.length (text ++ rest)
  have head := headD_encodeInteger room text.length (text ++ rest) 0
  have plain : ((encodeInteger 0 127 text.length ++ (text ++ rest)).headD 0).toNat < 128 := by
    rw [head]
    have : (0 : UInt8).toNat = 0 := rfl
    omega
  unfold decodeText encodeText
  rw [append_assoc, number]
  by_cases short : text.length < unreadable 127
  · simp only [if_pos short, split?_append, if_pos plain]
  · simp only [if_neg short]

/-! ## Entries -/

private theorem entry?_of_findIdx? {table : Table} {entry : Entry} {position : Nat}
    (found : table.all.findIdx? (· == entry) = some position) :
    table.entry? (position + 1) = some entry := by
  obtain ⟨inside, same, -⟩ := findIdx?_eq_some_iff_getElem.mp found
  rw [Table.entry?, if_neg (Nat.succ_ne_zero _), Nat.add_sub_cancel, getElem?_eq_getElem inside]
  exact congrArg some (by simpa using same)

private theorem getElem?_of_lastIndexOf? {name : Octets} {start index : Nat} {entries : List Entry}
    (found : lastIndexOf? name start entries = some index) :
    start ≤ index ∧ ∃ entry, entries[index - start]? = some entry ∧ entry.name = name := by
  induction entries generalizing start with
  | nil => cases found
  | cons first rest ih =>
    rw [lastIndexOf?] at found
    split at found
    · rename_i later
      cases found
      obtain ⟨after, entry, held, named⟩ := ih later
      refine ⟨by omega, entry, ?_, named⟩
      have shift : index - start = (index - (start + 1)) + 1 := by omega
      rw [shift, getElem?_cons_succ, held]
    · split at found
      · rename_i named
        cases found
        exact ⟨Nat.le_refl _, first, by simp, named⟩
      · cases found

private theorem encodeEntry_ne_nil (table : Table) (entry : Entry) :
    (encodeEntry table entry).1 ≠ [] := by
  unfold encodeEntry
  split
  · exact encodeInteger_ne_nil _ _ _
  · split
    · exact append_ne_nil_of_left_ne_nil (encodeInteger_ne_nil _ _ _) _
    · exact cons_ne_nil _ _

section Entry

variable {table : Table} {entry : Entry} (rest : Octets)

private theorem decodeLiteral_of_name {full index : Nat} {octets : Octets}
    (number : decodeInteger full octets = .ok (index, encodeText entry.value ++ rest))
    (named : decodeName table index (encodeText entry.value ++ rest) =
      .ok (entry.name, encodeText entry.value ++ rest)) :
    decodeLiteral table full octets = .ok (entry, rest) ∨
      ∃ failure, decodeLiteral table full octets = .error failure := by
  unfold decodeLiteral
  rw [number]
  simp only [named, decodeText_encodeText]
  by_cases short : entry.value.length < unreadable 127
  · simp only [if_pos short]
    exact .inl trivial
  · simp only [if_neg short]
    exact .inr ⟨_, rfl⟩

variable (table entry) in
/-- The octets are read as the entry, and leave the table that was meant, or reading fails. -/
def Renders (octets : Octets) (after : Table) : Prop :=
  (∃ stored, decodeRepresentation table (octets ++ rest) = .ok (.field entry stored, rest) ∧
    Representation.apply table (.field entry stored) = after) ∨
  ∃ failure, decodeRepresentation table (octets ++ rest) = .error failure

private theorem renders_known {position : Nat}
    (found : table.all.findIdx? (· == entry) = some position) :
    Renders table entry rest (encodeInteger 0x80 127 (position + 1)) table := by
  have room : (0x80 : UInt8).toNat + 127 < 256 := by decide
  have number := decodeInteger_encodeInteger (by decide) room (position + 1) rest
  have head := headD_encodeInteger room (position + 1) rest 0
  have marked : 0x80 ≤ ((encodeInteger 0x80 127 (position + 1) ++ rest).headD 0).toNat := by
    rw [head]
    exact Nat.le_add_right _ _
  unfold Renders decodeRepresentation
  simp only [if_pos marked, number]
  by_cases short : position + 1 < unreadable 127
  · simp only [if_pos short, entry?_of_findIdx? found]
    exact .inl ⟨false, rfl, rfl⟩
  · simp only [if_neg short]
    exact .inr ⟨_, rfl⟩

private theorem renders_named {index : Nat}
    (found : lastIndexOf? entry.name 1 table.all = some index) :
    Renders table entry rest (encodeInteger 0x00 15 index ++ encodeText entry.value) table := by
  obtain ⟨positive, known, held, named⟩ := getElem?_of_lastIndexOf? found
  have room : (0x00 : UInt8).toNat + 15 < 256 := by decide
  have number := decodeInteger_encodeInteger (by decide) room index (encodeText entry.value ++ rest)
  have head := headD_encodeInteger room index (encodeText entry.value ++ rest) 0
  have zero : (0x00 : UInt8).toNat = 0 := rfl
  rw [zero] at head
  unfold Renders decodeRepresentation
  simp only [append_assoc, head, if_neg (by omega : ¬ 0x80 ≤ 0 + min index 15),
    if_neg (by omega : ¬ 0x40 ≤ 0 + min index 15), if_neg (by omega : ¬ 0x20 ≤ 0 + min index 15)]
  by_cases short : index < unreadable 15
  · rw [if_pos short] at number
    have name : decodeName table index (encodeText entry.value ++ rest) =
        .ok (entry.name, encodeText entry.value ++ rest) := by
      unfold decodeName Table.entry?
      rw [if_neg (by omega), if_neg (by omega), held, ← named]
    rcases decodeLiteral_of_name rest number name with read | ⟨failure, failed⟩
    · simp only [read]
      exact .inl ⟨false, rfl, rfl⟩
    · simp only [failed]
      exact .inr ⟨failure, rfl⟩
  · rw [if_neg short] at number
    unfold decodeLiteral
    simp only [number]
    exact .inr ⟨_, rfl⟩

variable (table entry) in
private theorem renders_new :
    Renders table entry rest (0x40 :: (encodeText entry.name ++ encodeText entry.value))
      (table.add entry) := by
  have number : decodeInteger 63 (0x40 :: (encodeText entry.name ++ (encodeText entry.value ++
      rest))) = .ok (0, encodeText entry.name ++ (encodeText entry.value ++ rest)) := rfl
  unfold Renders decodeRepresentation
  simp only [cons_append, append_assoc, headD_cons,
    (by decide : (0x40 : UInt8).toNat = 0x40), Nat.le_refl, if_true,
    if_neg (by decide : ¬ 0x80 ≤ 0x40)]
  unfold decodeLiteral
  simp only [number, decodeName, if_true, decodeText_encodeText]
  by_cases named : entry.name.length < unreadable 127
  · by_cases short : entry.value.length < unreadable 127
    · simp only [if_pos named, decodeText_encodeText, if_pos short]
      exact .inl ⟨true, rfl, rfl⟩
    · simp only [if_pos named, decodeText_encodeText, if_neg short]
      exact .inr ⟨_, rfl⟩
  · simp only [if_neg named]
    exact .inr ⟨_, rfl⟩

private theorem renders_encodeEntry :
    Renders table entry rest (encodeEntry table entry).1 (encodeEntry table entry).2 := by
  unfold encodeEntry
  split
  · rename_i found
    exact renders_known rest found
  · split
    · rename_i found
      exact renders_named rest found
    · exact renders_new table entry rest

end Entry

private theorem decodeEntries_encodeEntries (table : Table) (found entries : List Entry) :
    decodeEntries table found (encodeEntries table entries).1 =
        (.ok (found.reverse ++ entries), (encodeEntries table entries).2) ∨
      ∃ failure after,
        decodeEntries table found (encodeEntries table entries).1 = (.error failure, after) := by
  induction entries generalizing table found with
  | nil =>
    rw [encodeEntries, decodeEntries, if_pos rfl, append_nil]
    exact .inl rfl
  | cons entry rest ih =>
    have some := append_ne_nil_of_left_ne_nil (encodeEntry_ne_nil table entry)
      (encodeEntries (encodeEntry table entry).2 rest).1
    rw [encodeEntries, decodeEntries, if_neg some]
    rcases renders_encodeEntry (encodeEntries (encodeEntry table entry).2 rest).1 with
      ⟨stored, read, applied⟩ | ⟨failure, failed⟩
    · split <;> rename_i next <;> cases read.symm.trans next
      rw [applied]
      have tail := ih (encodeEntry table entry).2 (entry :: found)
      rwa [reverse_cons, append_assoc] at tail
    · split <;> rename_i next <;> cases failed.symm.trans next
      exact .inr ⟨failure, table, rfl⟩

/-! ## Text -/

namespace Utf8State

private theorem step_last {output : List Char} {bits low high octet code : Nat}
    (lower : low ≤ octet)
    (upper : octet ≤ high) (small : octet < 256) (eq : bits * 64 + octet % 64 = code) :
    step ⟨output, some ⟨1, bits, low, high⟩⟩ (UInt8.ofNat octet) =
      ⟨Char.ofNat code :: output, none⟩ := by
  simp [step, Nat.mod_eq_of_lt small, lower, upper, eq]

private theorem step_more {output : List Char} {missing bits low high octet next : Nat}
    (lower : low ≤ octet) (upper : octet ≤ high) (small : octet < 256)
    (eq : bits * 64 + octet % 64 = next) :
    step ⟨output, some ⟨missing + 2, bits, low, high⟩⟩ (UInt8.ofNat octet) =
      ⟨output, some ⟨missing + 1, next, 0x80, 0xbf⟩⟩ := by
  simp [step, Nat.mod_eq_of_lt small, lower, upper, eq]

private theorem start_three (output : List Char) {code : Nat} (low : 0x800 ≤ code)
    (high : code < 0x10000) (valid : code < 0xd800 ∨ 0xdfff < code) :
    ∃ least most, start output (code / 4096 % 16 + 224) =
      ⟨output, some ⟨2, code / 4096, least, most⟩⟩ ∧
      least ≤ code / 64 % 64 + 128 ∧ code / 64 % 64 + 128 ≤ most := by
  unfold start
  rw [if_neg (by omega), if_neg (by omega)]
  split
  · have bits : code / 4096 = 0 := by omega
    exact ⟨0xa0, 0xbf, by rw [bits], by omega, by omega⟩
  · split
    · have bits : code / 4096 = 0xd := by omega
      exact ⟨0x80, 0x9f, by rw [bits], by omega, by omega⟩
    · have bits : code / 4096 % 16 + 224 - 0xe0 = code / 4096 := by omega
      rw [if_pos (by omega), bits]
      exact ⟨0x80, 0xbf, rfl, by omega, by omega⟩

private theorem start_four (output : List Char) {code : Nat} (low : 0x10000 ≤ code)
    (high : code < 0x110000) :
    ∃ least most, start output (code / 262144 % 8 + 240) =
      ⟨output, some ⟨3, code / 262144, least, most⟩⟩ ∧
      least ≤ code / 4096 % 64 + 128 ∧ code / 4096 % 64 + 128 ≤ most := by
  unfold start
  rw [if_neg (by omega), if_neg (by omega), if_neg (by omega), if_neg (by omega), if_neg (by omega)]
  split
  · have bits : code / 262144 = 0 := by omega
    exact ⟨0x90, 0xbf, by rw [bits], by omega, by omega⟩
  · split
    · have bits : code / 262144 % 8 + 240 - 0xf0 = code / 262144 := by omega
      rw [bits]
      exact ⟨0x80, 0xbf, rfl, by omega, by omega⟩
    · have bits : code / 262144 = 4 := by omega
      rw [if_pos (by omega), bits]
      exact ⟨0x80, 0x8f, rfl, by omega, by omega⟩

private theorem foldl_step_utf8EncodeChar (output : List Char) (char : Char) :
    (String.utf8EncodeChar char).foldl step ⟨output, none⟩ = ⟨char :: output, none⟩ := by
  have valid : char.val.toNat < 0xd800 ∨ 0xdfff < char.val.toNat ∧ char.val.toNat < 0x110000 :=
    char.valid
  have self : Char.ofNat char.val.toNat = char := Char.ofNat_toNat char
  unfold String.utf8EncodeChar
  generalize char.val.toNat = code at valid self ⊢
  have first : ∀ octet < 256, step ⟨output, none⟩ (UInt8.ofNat octet) = start output octet := by
    intro octet small
    simp [step, Nat.mod_eq_of_lt small]
  rw [← self]
  simp only
  split
  · rename_i one
    rw [foldl_cons, foldl_nil, first code (by omega), start, if_pos (by omega)]
  · split
    · rename_i two
      rw [foldl_cons, foldl_cons, foldl_nil, first _ (by omega), start,
        if_neg (by omega), if_pos (by omega)]
      exact step_last (by omega) (by omega) (by omega) (by omega)
    · split
      · rename_i three
        obtain ⟨least, most, begun, lower, upper⟩ := @start_three output code (by omega)
          (by omega) (valid.imp_right And.left)
        rw [foldl_cons, foldl_cons, foldl_cons, foldl_nil, first _ (by omega),
          begun, step_more lower upper (by omega) rfl]
        exact step_last (by omega) (by omega) (by omega) (by omega)
      · obtain ⟨least, most, begun, lower, upper⟩ := @start_four output code (by omega) (by omega)
        rw [foldl_cons, foldl_cons, foldl_cons, foldl_cons, foldl_nil,
          first _ (by omega), begun, step_more lower upper (by omega) rfl,
          step_more (by omega) (by omega) (by omega) rfl]
        exact step_last (by omega) (by omega) (by omega) (by omega)

end Utf8State

private theorem decodeUtf8_encodeUtf8 (text : String) : decodeUtf8 (encodeUtf8 text) = text := by
  have all : ∀ (chars output : List Char), (chars.flatMap String.utf8EncodeChar).foldl
      Utf8State.step ⟨output, none⟩ = ⟨chars.reverse ++ output, none⟩ := by
    intro chars
    induction chars with
    | nil => exact fun _ => rfl
    | cons char rest ih =>
      intro output
      rw [flatMap_cons, foldl_append, Utf8State.foldl_step_utf8EncodeChar, ih]
      simp
  unfold decodeUtf8 encodeUtf8
  rw [all]
  simp [Utf8State.finish]

private theorem ofEntry_toEntry (field : Field) : Field.ofEntry field.toEntry = field := by
  simp only [Field.ofEntry, Field.toEntry, decodeUtf8_encodeUtf8]

/-! ## Blocks -/

/-- A block is read as it was written and leaves the table of the writer, or reading fails. -/
theorem decodeBlock_encodeBlock (table : Table) (fields : List Field) :
    decodeBlock table (encodeBlock table fields).1 = (.ok fields, (encodeBlock table fields).2) ∨
      ∃ failure after, decodeBlock table (encodeBlock table fields).1 =
        (.error failure, after) := by
  unfold decodeBlock encodeBlock
  rcases decodeEntries_encodeEntries table [] (fields.map Field.toEntry) with
    read | ⟨failure, after, failed⟩
  · have same : (Field.ofEntry ∘ Field.toEntry) = id := funext ofEntry_toEntry
    rw [read]
    refine .inl ?_
    simp [Except.map, same]
  · rw [failed]
    exact .inr ⟨failure, after, rfl⟩

end Http2.Header
