import Http2.Header.Field
import Http2.Priority
import Http2.Reason
import Http2.Stream.Phase

/-!
# Streams

What one end keeps about a stream: its phase, its place among the priorities, and what waits to be
sent on it.
-/

namespace Http2

/-- Octets that wait in the pieces in which they were handed over.  They are counted as pieces come
and go, and `length` is the count. -/
structure Buffer where
  pieces : List Octets := []
  length : Nat := 0
  deriving DecidableEq, Repr

namespace Buffer

def octets (buffer : Buffer) : Octets := buffer.pieces.flatten

def push (buffer : Buffer) (piece : Octets) : Buffer :=
  if piece.isEmpty then buffer
  else ⟨buffer.pieces ++ [piece], buffer.length + piece.length⟩

/-- Takes `count` octets off the first piece. -/
def cut (buffer : Buffer) (count : Nat) : Buffer :=
  match buffer.pieces with
  | [] => buffer
  | piece :: rest =>
      ⟨if count < piece.length then piece.drop count :: rest else rest, buffer.length - count⟩

@[simp] theorem octets_empty : ({} : Buffer).octets = [] := rfl

@[simp] theorem octets_push (buffer : Buffer) (piece : Octets) :
    (buffer.push piece).octets = buffer.octets ++ piece := by
  unfold push octets
  cases piece <;> simp

@[simp] theorem length_push (buffer : Buffer) (piece : Octets) :
    (buffer.push piece).length = buffer.length + piece.length := by
  unfold push
  cases piece <;> simp

end Buffer

structure Stream where
  phase : Phase := .idle
  priority : Priority := .default
  resetReason : Option Reason := none
  queue : Buffer := {}
  trailers : Option (List Field) := none
  endQueued : Bool := false
  finalReceived : Bool := false
  finalSent : Bool := false
  deriving DecidableEq, Repr

namespace Stream

instance : Inhabited Stream := ⟨{}⟩

def isLive (stream : Stream) : Bool := !stream.phase.isClosed

def buffered (stream : Stream) : Nat := stream.queue.length

def hasOutbound (stream : Stream) : Bool := 0 < stream.buffered || stream.endQueued

def enqueue (stream : Stream) (octets : Octets) (endStream : Bool) : Stream :=
  { stream with
    queue := stream.queue.push octets
    endQueued := stream.endQueued || endStream }

def enqueueTrailers (stream : Stream) (trailers : List Field) : Stream :=
  { stream with trailers := some trailers, endQueued := true }

def endSent (stream : Stream) : Stream :=
  { stream with trailers := none, endQueued := false }

def reset (stream : Stream) (reason : Reason) : Stream :=
  { stream with
    phase := .closed, resetReason := some reason, queue := {}, trailers := none
    endQueued := false }

def dependOn (stream : Stream) (parent : Nat) : Stream :=
  { stream with priority := { stream.priority with dependency := parent } }

def advance? (stream : Stream) (signal : Signal) : Option Stream :=
  (stream.phase.next? signal).map fun phase => { stream with phase }

end Stream

end Http2
