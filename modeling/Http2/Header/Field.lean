import Http2.Header.Table

/-!
# Header fields

A field is a name and a value.  Lists of fields are what requests, responses and trailers carry.
-/

namespace Http2

structure Field where
  name : String
  value : String
  deriving DecidableEq, Repr

namespace Field

def isPseudo (field : Field) : Bool := field.name.toList.head? == some ':'

def listSize (field : Field) : Nat :=
  field.name.utf8ByteSize + field.value.utf8ByteSize + 32

def toEntry (field : Field) : Header.Entry :=
  ⟨Header.encodeUtf8 field.name, Header.encodeUtf8 field.value⟩

def ofEntry (entry : Header.Entry) : Field :=
  ⟨Header.decodeUtf8 entry.name, Header.decodeUtf8 entry.value⟩

end Field

def listSize (fields : List Field) : Nat := total (fields.map Field.listSize)

/-- Informational headers have a status of 1xx; the final ones are still to come. -/
def isInformational (fields : List Field) : Bool :=
  match fields.find? (fun field => field.name == ":status") with
  | some status => status.value.utf8ByteSize == 3 && status.value.toList.head? == some '1'
  | none => false

end Http2
