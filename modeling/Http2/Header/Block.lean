import Http2.Header.Field
import Http2.Header.Text

/-!
# Header blocks

A block is a sequence of representations, each of which names an entry of the table, spells one out,
or resizes the table.  Writing and reading a block both return the table as the block leaves it;
reading does so even where it fails.
-/

namespace Http2.Header

/-! ## Writing -/

def lastIndexOf? (name : Octets) : (index : Nat) → List Entry → Option Nat
  | _, [] => none
  | index, entry :: rest =>
      match lastIndexOf? name (index + 1) rest with
      | some found => some found
      | none => if entry.name = name then some index else none

/-- An entry of the table is written by its index.  Otherwise a name of the table is written by its
index, with the value spelled out, and the table stays as it is.  An entry with a new name is
spelled out and added. -/
def encodeEntry (table : Table) (entry : Entry) : Octets × Table :=
  match table.all.findIdx? (· == entry) with
  | some position => (encodeInteger 0x80 127 (position + 1), table)
  | none =>
      match lastIndexOf? entry.name 1 table.all with
      | some index => (encodeInteger 0x00 15 index ++ encodeText entry.value, table)
      | none => (0x40 :: (encodeText entry.name ++ encodeText entry.value), table.add entry)

def encodeEntries (table : Table) : List Entry → Octets × Table
  | [] => ([], table)
  | entry :: rest =>
      let (octets, table) := encodeEntry table entry
      let (more, table) := encodeEntries table rest
      (octets ++ more, table)

def encodeBlock (table : Table) (fields : List Field) : Octets × Table :=
  encodeEntries table (fields.map Field.toEntry)

/-! ## Reading -/

inductive Representation where
  | field (entry : Entry) (stored : Bool)
  | resize (limit : Nat)
  deriving DecidableEq, Repr

def Representation.apply (table : Table) : Representation → Table
  | field entry stored => if stored then table.add entry else table
  | resize limit => table.resize limit

def decodeName (table : Table) (index : Nat) (octets : Octets) :
    Except Failure (Octets × Octets) :=
  if index = 0 then decodeText octets
  else
    match table.entry? index with
    | some entry => .ok (entry.name, octets)
    | none => .error .indexOutOfBounds

def decodeLiteral (table : Table) (full : Nat) (octets : Octets) :
    Except Failure (Entry × Octets) :=
  match decodeInteger full octets with
  | .error failure => .error (.integer failure)
  | .ok (index, rest) =>
      match decodeName table index rest with
      | .error failure => .error failure
      | .ok (name, rest) =>
          match decodeText rest with
          | .error failure => .error failure
          | .ok (value, rest) => .ok (⟨name, value⟩, rest)

def decodeRepresentation (table : Table) (octets : Octets) :
    Except Failure (Representation × Octets) :=
  let marker := (octets.headD 0).toNat
  if 0x80 ≤ marker then
    match decodeInteger 127 octets with
    | .error failure => .error (.integer failure)
    | .ok (index, rest) =>
        match table.entry? index with
        | some entry => .ok (.field entry false, rest)
        | none => .error .indexOutOfBounds
  else if 0x40 ≤ marker then
    match decodeLiteral table 63 octets with
    | .error failure => .error failure
    | .ok (entry, rest) => .ok (.field entry true, rest)
  else if 0x20 ≤ marker then
    match decodeInteger 31 octets with
    | .error failure => .error (.sizeUpdate failure)
    | .ok (limit, rest) => .ok (.resize limit, rest)
  else
    match decodeLiteral table 15 octets with
    | .error failure => .error failure
    | .ok (entry, rest) => .ok (.field entry false, rest)

theorem decodeName_length {table : Table} {index : Nat} {octets name rest : Octets}
    (h : decodeName table index octets = .ok (name, rest)) :
    rest.length ≤ octets.length := by
  unfold decodeName at h
  split at h
  · exact Nat.le_of_lt (decodeText_length h)
  · split at h
    · simp only [Except.ok.injEq, Prod.mk.injEq] at h
      simp [h.2]
    · simp at h

theorem decodeLiteral_length {table : Table} {full : Nat} {octets rest : Octets}
    {entry : Entry} (h : decodeLiteral table full octets = .ok (entry, rest)) :
    rest.length < octets.length := by
  unfold decodeLiteral at h
  split at h
  · simp at h
  · rename_i index first hindex
    split at h
    · simp at h
    · rename_i name second hname
      split at h
      · simp at h
      · rename_i value third hvalue
        simp only [Except.ok.injEq, Prod.mk.injEq] at h
        have := decodeInteger_length hindex
        have := decodeName_length hname
        have := decodeText_length hvalue
        obtain ⟨-, rfl⟩ := h
        omega

theorem decodeRepresentation_length {table : Table} {octets rest : Octets}
    {representation : Representation}
    (h : decodeRepresentation table octets = .ok (representation, rest)) :
    rest.length < octets.length := by
  unfold decodeRepresentation at h
  simp only at h
  split at h
  · split at h
    · simp at h
    · rename_i hindex
      split at h
      · simp only [Except.ok.injEq, Prod.mk.injEq] at h
        exact h.2 ▸ decodeInteger_length hindex
      · simp at h
  · split at h
    · split at h
      · simp at h
      · rename_i hliteral
        simp only [Except.ok.injEq, Prod.mk.injEq] at h
        exact h.2 ▸ decodeLiteral_length hliteral
    · split at h
      · split at h
        · simp at h
        · rename_i hlimit
          simp only [Except.ok.injEq, Prod.mk.injEq] at h
          exact h.2 ▸ decodeInteger_length hlimit
      · split at h
        · simp at h
        · rename_i hliteral
          simp only [Except.ok.injEq, Prod.mk.injEq] at h
          exact h.2 ▸ decodeLiteral_length hliteral

/-- `found` holds the entries read so far, last first.  A block must not end in a size update. -/
def decodeEntries (table : Table) (found : List Entry) (octets : Octets) :
    Except Failure (List Entry) × Table :=
  if octets = [] then (.ok found.reverse, table)
  else
    match _next : decodeRepresentation table octets with
    | .error failure => (.error failure, table)
    | .ok (.field entry stored, rest) =>
        decodeEntries (Representation.apply table (.field entry stored)) (entry :: found) rest
    | .ok (.resize limit, rest) =>
        if rest = [] then (.error .sizeUpdateAtEnd, table.resize limit)
        else decodeEntries (table.resize limit) found rest
termination_by octets.length
decreasing_by all_goals exact decodeRepresentation_length _next

def decodeBlock (table : Table) (block : Octets) : Except Failure (List Field) × Table :=
  let (result, table) := decodeEntries table [] block
  (result.map (List.map Field.ofEntry), table)

end Http2.Header
