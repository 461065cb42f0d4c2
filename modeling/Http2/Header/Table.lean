import Http2.Header.Utf8

/-!
# Header tables

Both ends of a connection number the header entries they have in common: first the fixed ones, then
those added by earlier blocks, newest first.  A table keeps as many of its newest entries as fit its
limit.
-/

namespace Http2.Header

structure Entry where
  name : Octets
  value : Octets
  deriving DecidableEq, Repr

namespace Entry

def size (entry : Entry) : Nat := entry.name.length + entry.value.length + 32

end Entry

/-! ## The fixed entries -/

def staticTexts : List (String × String) :=
  [
    (":authority", ""), (":method", "GET"), (":method", "POST"), (":path", "/"),
    (":path", "/index.html"), (":scheme", "http"), (":scheme", "https"), (":status", "200"),
    (":status", "204"), (":status", "206"), (":status", "304"), (":status", "400"),
    (":status", "404"), (":status", "500"), ("accept-charset", ""),
    ("accept-encoding", "gzip, deflate"), ("accept-language", ""), ("accept-ranges", ""),
    ("accept", ""), ("access-control-allow-origin", ""), ("age", ""), ("allow", ""),
    ("authorization", ""), ("cache-control", ""), ("content-disposition", ""),
    ("content-encoding", ""), ("content-language", ""), ("content-length", ""),
    ("content-location", ""), ("content-range", ""), ("content-type", ""), ("cookie", ""),
    ("date", ""), ("etag", ""), ("expect", ""), ("expires", ""), ("from", ""), ("host", ""),
    ("if-match", ""), ("if-modified-since", ""), ("if-none-match", ""), ("if-range", ""),
    ("if-unmodified-since", ""), ("last-modified", ""), ("link", ""), ("location", ""),
    ("max-forwards", ""), ("proxy-authenticate", ""), ("proxy-authorization", ""), ("range", ""),
    ("referer", ""), ("refresh", ""), ("retry-after", ""), ("server", ""), ("set-cookie", ""),
    ("strict-transport-security", ""), ("transfer-encoding", ""), ("user-agent", ""),
    ("vary", ""), ("via", ""), ("www-authenticate", "")
  ]

def staticEntries : List Entry :=
  staticTexts.map fun (name, value) => ⟨encodeUtf8 name, encodeUtf8 value⟩

/-! ## The entries added by blocks -/

structure Table where
  entries : List Entry
  limit : Nat
  deriving DecidableEq, Repr

namespace Table

def new : Table := ⟨[], 4096⟩

instance : Inhabited Table := ⟨new⟩

/-- The longest initial part of the entries that takes up at most `room`. -/
def fit : (room : Nat) → List Entry → List Entry
  | _, [] => []
  | room, entry :: rest =>
      if entry.size ≤ room then entry :: fit (room - entry.size) rest else []

/-- An entry larger than the limit empties the table and is not kept either. -/
def add (table : Table) (entry : Entry) : Table :=
  { table with entries := fit table.limit (entry :: table.entries) }

def resize (table : Table) (limit : Nat) : Table :=
  ⟨fit limit table.entries, limit⟩

def all (table : Table) : List Entry := staticEntries ++ table.entries

def entry? (table : Table) (index : Nat) : Option Entry :=
  if index = 0 then none else table.all[index - 1]?

end Table

end Http2.Header
