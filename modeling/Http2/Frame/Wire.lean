import Http2.Frame.Basic
import Http2.Header.Utf8

/-!
# Frames on the wire

A raw frame is a head of nine octets and a payload.  Most frames are one raw frame; a header block
that is too long for one goes on in CONTINUATION frames.  `Frame.encode` writes a frame for a peer
that takes payloads up to a limit.
-/

namespace Http2

def preface : Octets := Header.encodeUtf8 "PRI * HTTP/2.0\r\n\r\nSM\r\n\r\n"

def startsWithPreface (octets : Octets) : Bool := preface.isPrefixOf octets

/-! ## Heads -/

structure FrameHead where
  length : Nat
  kind : UInt8
  flags : Flags
  stream : Nat
  deriving DecidableEq, Repr

namespace FrameHead

def size : Nat := 9

/-- The length is written modulo 2^24 and the stream modulo 2^31. -/
def encode (head : FrameHead) : Octets :=
  bigEndian 3 head.length ++ head.kind :: head.flags :: bigEndian 4 (low31 head.stream)

def decode? : Octets → Option (FrameHead × Octets)
  | length1 :: length2 :: length3 :: kind :: flags ::
      stream1 :: stream2 :: stream3 :: stream4 :: rest =>
        some (⟨ofBigEndian [length1, length2, length3], kind, flags,
          low31 (ofBigEndian [stream1, stream2, stream3, stream4])⟩, rest)
  | _ => none

def totalSize (head : FrameHead) : Nat := size + head.length

theorem decode?_length {octets rest : Octets} {head : FrameHead}
    (h : decode? octets = some (head, rest)) : octets.length = rest.length + size := by
  unfold decode? at h
  split at h
  · simp only [Option.some.injEq, Prod.mk.injEq] at h
    simp [← h.2, size]
  · simp at h

end FrameHead

/-! ## Raw frames -/

structure RawFrame where
  kind : UInt8
  flags : Flags
  stream : Nat
  payload : Octets
  deriving DecidableEq, Repr

namespace RawFrame

def head (raw : RawFrame) : FrameHead := ⟨raw.payload.length, raw.kind, raw.flags, raw.stream⟩

def encode (raw : RawFrame) : Octets := raw.head.encode ++ raw.payload

/-- The first raw frame and the octets after it, or nothing if it is not complete.  A payload longer
than the limit is turned down as soon as its head is there. -/
def decode? (limit : Nat) (octets : Octets) : Except Error (Option (RawFrame × Octets)) :=
  match FrameHead.decode? octets with
  | none => .ok none
  | some (head, rest) =>
      if limit < head.length then .error (.protocol (.frameTooLong head.length limit))
      else
        match split? head.length rest with
        | none => .ok none
        | some (payload, rest) => .ok (some (⟨head.kind, head.flags, head.stream, payload⟩, rest))

theorem decode?_length {limit : Nat} {octets rest : Octets} {raw : RawFrame}
    (h : decode? limit octets = .ok (some (raw, rest))) : rest.length < octets.length := by
  unfold decode? at h
  split at h
  · simp at h
  · rename_i head after hhead
    have := FrameHead.decode?_length hhead
    split at h
    · simp at h
    · split at h
      · simp at h
      · rename_i payload tail hsplit
        simp only [Except.ok.injEq, Option.some.injEq, Prod.mk.injEq] at h
        obtain ⟨-, rfl⟩ := h
        have := congrArg List.length (append_of_split? hsplit).2
        simp only [List.length_append, FrameHead.size] at *
        omega

end RawFrame

/-! ## Writing frames -/

def continuations (stream : Nat) : List Octets → List RawFrame
  | [] => []
  | [piece] => [⟨FrameKind.continuation.code, Flags.endHeaders, stream, piece⟩]
  | piece :: rest =>
      ⟨FrameKind.continuation.code, Flags.none, stream, piece⟩ :: continuations stream rest

def blockFrames (kind : FrameKind) (flags : Flags) (stream limit : Nat) (front block : Octets) :
    List RawFrame :=
  let room := limit - front.length
  let rest := block.drop room
  ⟨kind.code, flags ||| Flags.when rest.isEmpty Flags.endHeaders, stream,
      front ++ block.take room⟩ ::
    continuations stream (cut limit rest)

def encodeParameters (parameters : List (Nat × Nat)) : Octets :=
  parameters.flatMap fun (id, value) => bigEndian 2 id ++ bigEndian 4 value

/-- The length of an origin is written modulo 2^16. -/
def encodeOrigin (origin : Octets) : Octets := bigEndian 2 origin.length ++ origin

namespace Frame

/-- Every peer takes payloads of `leastFrameLimit`, whatever the limit given. -/
def rawFrames (limit : Nat) : Frame → List RawFrame
  | data id octets endStream none =>
      [⟨FrameKind.data.code, Flags.when endStream Flags.endStream, id, octets⟩]
  | data id octets endStream (some padding) =>
      [⟨FrameKind.data.code, Flags.when endStream Flags.endStream ||| Flags.padded, id,
        padding :: (octets ++ List.replicate padding.toNat 0)⟩]
  | headers id none block endStream =>
      blockFrames .headers (Flags.when endStream Flags.endStream) id (max limit leastFrameLimit)
        [] block
  | headers id (some place) block endStream =>
      blockFrames .headers (Flags.when endStream Flags.endStream ||| Flags.priority) id
        (max limit leastFrameLimit) place.encode block
  | priority id place => [⟨FrameKind.priority.code, Flags.none, id, place.encode⟩]
  | rstStream id code => [⟨FrameKind.rstStream.code, Flags.none, id, bigEndian 4 code⟩]
  | settings ack parameters =>
      [⟨FrameKind.settings.code, Flags.when ack Flags.ack, 0, encodeParameters parameters⟩]
  | pushPromise id promised block =>
      blockFrames .pushPromise Flags.none id (max limit leastFrameLimit)
        (bigEndian 4 (low31 promised)) block
  | ping ack payload =>
      [⟨FrameKind.ping.code, Flags.when ack Flags.ack, 0, bigEndian 8 payload.toNat⟩]
  | goaway last code debug =>
      [⟨FrameKind.goaway.code, Flags.none, 0,
        bigEndian 4 (low31 last) ++ bigEndian 4 code ++ debug⟩]
  | windowUpdate id increment =>
      [⟨FrameKind.windowUpdate.code, Flags.none, id, bigEndian 4 (low31 increment)⟩]
  | altSvc id source value =>
      [⟨FrameKind.altSvc.code, Flags.none, id, encodeOrigin source ++ value⟩]
  | origin origins => [⟨FrameKind.origin.code, Flags.none, 0, origins.flatMap encodeOrigin⟩]
  | unknown kind flags id payload => [⟨kind, flags, id, payload⟩]

def encode (limit : Nat) (frame : Frame) : Octets :=
  (frame.rawFrames limit).flatMap RawFrame.encode

end Frame

end Http2
