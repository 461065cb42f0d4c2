import Http2.Frame.Wire

/-!
# Reading frames

A `Reader` holds the octets that arrived and are not read yet, and the header block that is still
being received.  `Reader.next` takes the next frame off it.  A raw frame leaves the reader before it
is looked into, so it is gone even if it turns out to be faulty.
-/

namespace Http2

/-! ## Payloads -/

def requireStream (kind : FrameKind) (raw : RawFrame) : Except Error Unit :=
  if raw.stream = 0 then .error (.protocol (.withoutStream kind)) else .ok ()

def requireConnection (kind : FrameKind) (raw : RawFrame) : Except Error Unit :=
  if raw.stream = 0 then .ok () else .error (.protocol (.withStream kind raw.stream))

def requireLength (kind : FrameKind) (length : Nat) (raw : RawFrame) : Except Error Unit :=
  if raw.payload.length = length then .ok () else .error (.protocol (.wrongLength kind length))

def stripPadding (raw : RawFrame) : Except Error (Option UInt8 × Octets) :=
  if raw.flags.has Flags.padded then
    match raw.payload with
    | [] => .error (.protocol .paddingMissing)
    | padding :: rest =>
        if rest.length < padding.toNat then .error (.protocol .paddingTooLong)
        else .ok (some padding, rest.take (rest.length - padding.toNat))
  else .ok (none, raw.payload)

def decodeParameters : Octets → List (Nat × Nat)
  | id1 :: id2 :: value1 :: value2 :: value3 :: value4 :: rest =>
      (ofBigEndian [id1, id2], ofBigEndian [value1, value2, value3, value4]) ::
        decodeParameters rest
  | _ => []

def decodeOrigin? : Octets → Option (Octets × Octets)
  | length1 :: length2 :: rest => split? (ofBigEndian [length1, length2]) rest
  | _ => none

theorem decodeOrigin?_length {octets origin rest : Octets}
    (h : decodeOrigin? octets = some (origin, rest)) : rest.length < octets.length := by
  unfold decodeOrigin? at h
  split at h
  · have := congrArg List.length (append_of_split? h).2
    simp only [List.length_append, List.length_cons] at *
    omega
  · simp at h

/-- A last octet that cannot begin an origin is passed over. -/
def decodeOrigins? (octets : Octets) : Option (List Octets) :=
  if octets.length < 2 then some []
  else
    match _next : decodeOrigin? octets with
    | none => none
    | some (origin, rest) => (decodeOrigins? rest).map (origin :: ·)
termination_by octets.length
decreasing_by exact decodeOrigin?_length _next

/-! ## Raw frames outside a header block -/

structure PartialBlock where
  stream : Nat
  endStream : Bool
  priority : Option Priority
  promised : Option Nat
  block : Octets
  deriving DecidableEq, Repr

namespace PartialBlock

def frame (pending : PartialBlock) : Frame :=
  match pending.promised with
  | some promised => .pushPromise pending.stream promised pending.block
  | none => .headers pending.stream pending.priority pending.block pending.endStream

end PartialBlock

inductive Reading where
  | frame (frame : Frame)
  | started (block : PartialBlock)
  | skipped
  deriving DecidableEq, Repr

def Reading.ofBlock (raw : RawFrame) (block : PartialBlock) : Reading :=
  if raw.flags.has Flags.endHeaders then .frame block.frame else .started block

def readHeaders (raw : RawFrame) : Except Error Reading := do
  requireStream .headers raw
  let (_, payload) ← stripPadding raw
  let endStream := raw.flags.has Flags.endStream
  if raw.flags.has Flags.priority then
    match Priority.decode? payload with
    | none => throw (.protocol .priorityTruncated)
    | some (priority, block) =>
        return .ofBlock raw ⟨raw.stream, endStream, some priority, none, block⟩
  else
    return .ofBlock raw ⟨raw.stream, endStream, none, none, payload⟩

def readPushPromise (raw : RawFrame) : Except Error Reading := do
  requireStream .pushPromise raw
  let (_, payload) ← stripPadding raw
  match split? 4 payload with
  | none => throw (.protocol (.tooShort .pushPromise))
  | some (promised, block) =>
      return .ofBlock raw ⟨raw.stream, false, none, some (low31 (ofBigEndian promised)), block⟩

def readData (raw : RawFrame) : Except Error Reading := do
  requireStream .data raw
  let (padding, octets) ← stripPadding raw
  return .frame (.data raw.stream octets (raw.flags.has Flags.endStream) padding)

def readPriority (raw : RawFrame) : Except Error Reading := do
  requireStream .priority raw
  match Priority.decode? raw.payload with
  | some (priority, []) => return .frame (.priority raw.stream priority)
  | _ => throw (.protocol (.wrongLength .priority 5))

def readRstStream (raw : RawFrame) : Except Error Reading := do
  requireStream .rstStream raw
  requireLength .rstStream 4 raw
  return .frame (.rstStream raw.stream (ofBigEndian raw.payload))

def readSettings (raw : RawFrame) : Except Error Reading := do
  requireConnection .settings raw
  let ack := raw.flags.has Flags.ack
  if ack && !raw.payload.isEmpty then throw (.protocol .ackWithPayload)
  else if raw.payload.length % 6 ≠ 0 then throw (.protocol .settingsLength)
  else return .frame (.settings ack (decodeParameters raw.payload))

def readPing (raw : RawFrame) : Except Error Reading := do
  requireConnection .ping raw
  requireLength .ping 8 raw
  return .frame (.ping (raw.flags.has Flags.ack) (UInt64.ofNat (ofBigEndian raw.payload)))

def readGoaway (raw : RawFrame) : Except Error Reading := do
  requireConnection .goaway raw
  match split? 8 raw.payload with
  | none => throw (.protocol (.tooShort .goaway))
  | some (fields, debug) =>
      return .frame (.goaway (low31 (ofBigEndian (fields.take 4)))
        (ofBigEndian (fields.drop 4)) debug)

def readWindowUpdate (raw : RawFrame) : Except Error Reading := do
  requireLength .windowUpdate 4 raw
  return .frame (.windowUpdate raw.stream (low31 (ofBigEndian raw.payload)))

def readAltSvc (raw : RawFrame) : Reading :=
  match decodeOrigin? raw.payload with
  | some (origin, value) => .frame (.altSvc raw.stream origin value)
  | none => .skipped

def readOrigin (raw : RawFrame) : Reading :=
  if raw.stream = 0 then
    match decodeOrigins? raw.payload with
    | some origins => .frame (.origin origins)
    | none => .skipped
  else .skipped

def readRaw (raw : RawFrame) : Except Error Reading :=
  match FrameKind.ofCode? raw.kind with
  | some .data => readData raw
  | some .headers => readHeaders raw
  | some .priority => readPriority raw
  | some .rstStream => readRstStream raw
  | some .settings => readSettings raw
  | some .pushPromise => readPushPromise raw
  | some .ping => readPing raw
  | some .goaway => readGoaway raw
  | some .windowUpdate => readWindowUpdate raw
  | some .continuation => .error (.protocol (.unexpectedContinuation raw.stream))
  | some .altSvc => .ok (readAltSvc raw)
  | some .origin => .ok (readOrigin raw)
  | none => .ok (.frame (.unknown raw.kind raw.flags raw.stream raw.payload))

/-! ## Header blocks over several frames -/

def checkBlock (limit : Nat) (block : Octets) : Except Error Unit :=
  if limit < block.length then .error (.connection (.blockTooLarge block.length limit)) else .ok ()

/-- Joins a raw frame to the block begun before it.  The block is given up if the frame belongs to
another stream or makes it too large. -/
def continueBlock (limit : Nat) (pending : PartialBlock) (raw : RawFrame) :
    Except Error (Option Frame) × Option PartialBlock :=
  if pending.stream ≠ raw.stream then
    (.error (.protocol (.strayContinuation raw.stream pending.stream)), none)
  else
    let joined := { pending with block := pending.block ++ raw.payload }
    match checkBlock limit joined.block with
    | .error error => (.error error, none)
    | .ok () =>
        if raw.flags.has Flags.endHeaders then (.ok (some joined.frame), none)
        else (.ok none, some joined)

def beginBlock (limit : Nat) (block : PartialBlock) :
    Except Error (Option Frame) × Option PartialBlock :=
  match checkBlock limit block.block with
  | .error error => (.error error, none)
  | .ok () => (.ok none, some block)

def accept (limit : Nat) (pending : Option PartialBlock) (raw : RawFrame) :
    Except Error (Option Frame) × Option PartialBlock :=
  match pending with
  | some block =>
      if raw.kind = FrameKind.continuation.code then continueBlock limit block raw
      else (.error (.protocol (.expectedContinuation block.stream raw.kind)), some block)
  | none =>
      match readRaw raw with
      | .error error => (.error error, none)
      | .ok (.frame frame) => (.ok (some frame), none)
      | .ok (.started block) => beginBlock limit block
      | .ok .skipped => (.ok none, none)

/-! ## The reader -/

structure Reader where
  buffer : Octets := []
  prefaceDue : Bool := false
  frameLimit : Nat := leastFrameLimit
  blockLimit : Nat := 262144
  pending : Option PartialBlock := none
  deriving DecidableEq, Repr

namespace Reader

def feed (reader : Reader) (octets : Octets) : Reader :=
  { reader with buffer := reader.buffer ++ octets }

def reset (reader : Reader) : Reader := { reader with buffer := [], pending := none }

def nextFrame (reader : Reader) : Except Error (Option Frame) × Reader :=
  match _next : RawFrame.decode? reader.frameLimit reader.buffer with
  | .error error => (.error error, reader)
  | .ok none => (.ok none, reader)
  | .ok (some (raw, rest)) =>
      match accept reader.blockLimit reader.pending raw with
      | (.error error, pending) => (.error error, { reader with buffer := rest, pending })
      | (.ok (some frame), pending) =>
          (.ok (some frame), { reader with buffer := rest, pending })
      | (.ok none, pending) => nextFrame { reader with buffer := rest, pending }
termination_by reader.buffer.length
decreasing_by exact RawFrame.decode?_length _next

/-- Takes the preface off.  It is turned down at the first octet that differs. -/
def takePreface (reader : Reader) : Except Error Bool × Reader :=
  if !reader.prefaceDue then (.ok true, reader)
  else if startsWithPreface reader.buffer then
    (.ok true,
      { reader with buffer := reader.buffer.drop preface.length, prefaceDue := false })
  else if reader.buffer.isPrefixOf preface then (.ok false, reader)
  else (.error (.protocol .badPreface), reader)

def next (reader : Reader) : Except Error (Option Frame) × Reader :=
  match reader.takePreface with
  | (.error error, reader) => (.error error, reader)
  | (.ok false, reader) => (.ok none, reader)
  | (.ok true, reader) => reader.nextFrame

theorem nextFrame_length {reader after : Reader} {frame : Frame}
    (h : reader.nextFrame = (.ok (some frame), after)) :
    after.buffer.length < reader.buffer.length := by
  fun_induction nextFrame reader with
  | case1 => simp at h
  | case2 => simp at h
  | case3 => simp at h
  | case4 reader raw rest hnext found pending haccept =>
      simp only [Prod.mk.injEq] at h
      obtain ⟨-, rfl⟩ := h
      exact RawFrame.decode?_length hnext
  | case5 reader raw rest hnext pending haccept ih =>
      exact Nat.lt_trans (ih h) (RawFrame.decode?_length hnext)

theorem takePreface_length (reader : Reader) :
    reader.takePreface.2.buffer.length ≤ reader.buffer.length := by
  unfold takePreface
  repeat' split
  all_goals simp

theorem next_length {reader after : Reader} {frame : Frame}
    (h : reader.next = (.ok (some frame), after)) :
    after.buffer.length < reader.buffer.length := by
  unfold next at h
  have bound := takePreface_length reader
  split at h
  · simp at h
  · simp at h
  · rename_i rest hpreface
    rw [hpreface] at bound
    exact Nat.lt_of_lt_of_le (nextFrame_length h) bound

/-- Every frame that is complete.  Frames read before a fault are lost with it. -/
def drain (reader : Reader) (found : List Frame) : Except Error (List Frame) × Reader :=
  match _next : reader.next with
  | (.error error, after) => (.error error, after)
  | (.ok none, after) => (.ok found.reverse, after)
  | (.ok (some frame), after) => after.drain (frame :: found)
termination_by reader.buffer.length
decreasing_by exact next_length _next

def process (reader : Reader) (octets : Octets) : Except Error (List Frame) × Reader :=
  (reader.feed octets).drain []

end Reader

end Http2
