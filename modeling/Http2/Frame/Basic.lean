import Http2.Error
import Http2.Priority

/-!
# Frames

A frame is one message between the two ends.  Header blocks stay compressed here and are always
whole: cutting them up and joining them again belongs to the wire.
-/

namespace Http2

inductive Frame where
  /-- `padding` is the number of octets added to the data, if any may be added at all. -/
  | data (stream : Nat) (data : Octets) (endStream : Bool) (padding : Option UInt8)
  | headers (stream : Nat) (priority : Option Priority) (block : Octets) (endStream : Bool)
  | priority (stream : Nat) (priority : Priority)
  | rstStream (stream : Nat) (code : Nat)
  | settings (ack : Bool) (parameters : List (Nat × Nat))
  | pushPromise (stream promised : Nat) (block : Octets)
  | ping (ack : Bool) (payload : UInt64)
  | goaway (last : Nat) (code : Nat) (debug : Octets)
  | windowUpdate (stream increment : Nat)
  | altSvc (stream : Nat) (origin value : Octets)
  | origin (origins : List Octets)
  | unknown (kind : UInt8) (flags : Flags) (stream : Nat) (payload : Octets)
  deriving DecidableEq, Repr

namespace Frame

def stream : Frame → Nat
  | data id .. | headers id .. | priority id _ | rstStream id _ | pushPromise id .. |
    windowUpdate id _ | altSvc id .. | unknown _ _ id _ => id
  | settings .. | ping .. | goaway .. | origin _ => 0

def kind? : Frame → Option FrameKind
  | data .. => some .data
  | headers .. => some .headers
  | priority .. => some .priority
  | rstStream .. => some .rstStream
  | settings .. => some .settings
  | pushPromise .. => some .pushPromise
  | ping .. => some .ping
  | goaway .. => some .goaway
  | windowUpdate .. => some .windowUpdate
  | altSvc .. => some .altSvc
  | origin _ => some .origin
  | unknown .. => none

def kindName (frame : Frame) : String :=
  match frame.kind? with
  | some kind => kind.name
  | none => "UNKNOWN"

/-- What a frame takes from the windows.  Padding counts, and so does the octet with its length. -/
def chargedLength : Frame → Nat
  | data _ octets _ none => octets.length
  | data _ octets _ (some padding) => octets.length + (padding.toNat + 1)
  | _ => 0

end Frame

end Http2
