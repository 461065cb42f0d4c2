/-!
# The lifecycle of a stream

A stream moves through seven phases, driven by the signals that either end sends on it.  `next?` is
the whole transition table: it gives the phase that follows a signal, or nothing where the signal
has no place in the phase.
-/

namespace Http2

inductive Phase where
  | idle
  | reservedLocal
  | reservedRemote
  | opened
  | halfClosedLocal
  | halfClosedRemote
  | closed
  deriving DecidableEq, Repr

inductive Signal where
  | reset
  | sendHeaders (endStream : Bool)
  | receiveHeaders (endStream : Bool)
  | sendEnd
  | receiveEnd
  | sendPush
  | receivePush
  deriving DecidableEq, Repr

namespace Phase

def text : Phase → String
  | idle => "idle"
  | reservedLocal => "reserved (local)"
  | reservedRemote => "reserved (remote)"
  | opened => "open"
  | halfClosedLocal => "half-closed (local)"
  | halfClosedRemote => "half-closed (remote)"
  | closed => "closed"

def isClosed (phase : Phase) : Bool := phase == closed

def isActive : Phase → Bool
  | opened | halfClosedLocal | halfClosedRemote => true
  | _ => false

def canSend : Phase → Bool
  | opened | halfClosedRemote => true
  | _ => false

def canReceive : Phase → Bool
  | opened | halfClosedLocal => true
  | _ => false

def next? : Phase → Signal → Option Phase
  | _, .reset => some closed
  | idle, .sendHeaders false => some opened
  | idle, .sendHeaders true => some halfClosedLocal
  | idle, .receiveHeaders false => some opened
  | idle, .receiveHeaders true => some halfClosedRemote
  | idle, .sendPush => some reservedLocal
  | idle, .receivePush => some reservedRemote
  | reservedLocal, .sendHeaders false => some halfClosedRemote
  | reservedLocal, .sendHeaders true => some closed
  | reservedRemote, .receiveHeaders false => some halfClosedLocal
  | reservedRemote, .receiveHeaders true => some closed
  | opened, .sendHeaders false => some opened
  | opened, .receiveHeaders false => some opened
  | opened, .sendHeaders true => some halfClosedLocal
  | opened, .sendEnd => some halfClosedLocal
  | opened, .receiveHeaders true => some halfClosedRemote
  | opened, .receiveEnd => some halfClosedRemote
  | halfClosedLocal, .receiveHeaders false => some halfClosedLocal
  | halfClosedLocal, .receiveHeaders true => some closed
  | halfClosedLocal, .receiveEnd => some closed
  | halfClosedRemote, .sendHeaders false => some halfClosedRemote
  | halfClosedRemote, .sendHeaders true => some closed
  | halfClosedRemote, .sendEnd => some closed
  | _, _ => none

theorem next?_closed {signal : Signal} {phase : Phase}
    (h : next? closed signal = some phase) : phase = closed := by
  cases signal <;> simp_all [next?]

theorem next?_ne_idle {phase next : Phase} {signal : Signal}
    (h : phase.next? signal = some next) : next ≠ idle := by
  rintro rfl
  cases phase <;> cases signal <;> simp_all [next?] <;>
    rename_i endStream <;> cases endStream <;> simp_all

end Phase

end Http2
