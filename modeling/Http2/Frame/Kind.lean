/-!
# Frame kinds and flags

The kinds of frame that this endpoint understands, with their codes and names on the wire, and the
flag bits that qualify them.
-/

namespace Http2

inductive FrameKind where
  | data
  | headers
  | priority
  | rstStream
  | settings
  | pushPromise
  | ping
  | goaway
  | windowUpdate
  | continuation
  | altSvc
  | origin
  deriving DecidableEq, Repr

namespace FrameKind

def code : FrameKind → UInt8
  | data => 0x0
  | headers => 0x1
  | priority => 0x2
  | rstStream => 0x3
  | settings => 0x4
  | pushPromise => 0x5
  | ping => 0x6
  | goaway => 0x7
  | windowUpdate => 0x8
  | continuation => 0x9
  | altSvc => 0xa
  | origin => 0xc

def ofCode? (code : UInt8) : Option FrameKind :=
  match code.toNat with
  | 0x0 => some data
  | 0x1 => some headers
  | 0x2 => some priority
  | 0x3 => some rstStream
  | 0x4 => some settings
  | 0x5 => some pushPromise
  | 0x6 => some ping
  | 0x7 => some goaway
  | 0x8 => some windowUpdate
  | 0x9 => some continuation
  | 0xa => some altSvc
  | 0xc => some origin
  | _ => none

def name : FrameKind → String
  | data => "DATA"
  | headers => "HEADERS"
  | priority => "PRIORITY"
  | rstStream => "RST_STREAM"
  | settings => "SETTINGS"
  | pushPromise => "PUSH_PROMISE"
  | ping => "PING"
  | goaway => "GOAWAY"
  | windowUpdate => "WINDOW_UPDATE"
  | continuation => "CONTINUATION"
  | altSvc => "ALTSVC"
  | origin => "ORIGIN"

@[simp] theorem ofCode?_code (kind : FrameKind) : ofCode? kind.code = some kind := by
  cases kind <;> rfl

end FrameKind

/-! ## Flags -/

abbrev Flags := UInt8

namespace Flags

def none : Flags := 0x0
def endStream : Flags := 0x1

/-- Shares its bit with `endStream`; it qualifies SETTINGS and PING. -/
def ack : Flags := 0x1

def endHeaders : Flags := 0x4
def padded : Flags := 0x8
def priority : Flags := 0x20

def has (flags flag : Flags) : Bool := flags &&& flag != 0

def when (condition : Bool) (flag : Flags) : Flags := if condition then flag else none

end Flags

end Http2
