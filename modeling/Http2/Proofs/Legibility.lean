import Http2.Proofs.Output

/-!
# What a peer makes of what is written

A connection writes what it is asked to write: a number that is too large for its field loses its
high bits, and an origin that is too long for its length is passed over at the other end.  But a
frame that names a stream where its kind asks for one is read as some frame, or as none, and never
as a fault; and a header block arrives whole, in the order in which it was written.  So whatever
else is lost, a reader with sufficient limits gets all header blocks.
-/

namespace Http2

open List

/-! ## Single frames -/

private theorem Priority.exists_decode?_encode (place : Priority) :
    ∃ other, ∀ rest, Priority.decode? (place.encode ++ rest) = some (other, rest) := by
  simp [Priority.encode, bigEndian, Priority.decode?]

def RawFrame.Passes (raw : RawFrame) : Prop :=
  readRaw raw = .ok .skipped ∨ ∃ frame, readRaw raw = .ok (.frame frame) ∧ frame.block? = none

namespace Frame

variable {frame : Frame} {size : Nat}

private theorem passes_of_legible (legible : frame.Legible) (plain : frame.block? = none) :
    ∃ raw, frame.rawFrames size = [raw] ∧ raw.stream ≤ maxStreamId ∧ raw.Passes := by
  cases frame with
  | headers | pushPromise => cases plain
  | unknown => exact legible.elim
  | data id octets endStream padding =>
    obtain ⟨names, rfl⟩ := legible
    exact ⟨_, rfl, names.2, .inr ⟨_, readRaw_data names endStream, rfl⟩⟩
  | priority id place =>
    have names : NamesStream id := legible
    obtain ⟨other, decoded⟩ := place.exists_decode?_encode
    have decoded := decoded []
    rw [append_nil] at decoded
    refine ⟨_, rfl, names.2, .inr ⟨.priority id other, ?_, rfl⟩⟩
    simp [readRaw, readPriority, requireStream, names.1, decoded]
  | rstStream id code =>
    have names : NamesStream id := legible
    refine ⟨_, rfl, names.2, .inr ⟨.rstStream id (ofBigEndian (bigEndian 4 code)), ?_, rfl⟩⟩
    simp [readRaw, readRstStream, requireStream, requireLength, names.1]
  | settings ack parameters =>
    have empty : ack = true → parameters = [] := legible
    have whole : (encodeParameters parameters).length % 6 = 0 := by
      rw [length_encodeParameters]
      omega
    refine ⟨_, rfl, Nat.zero_le _,
      .inr ⟨.settings ack (decodeParameters (encodeParameters parameters)), ?_, rfl⟩⟩
    cases ack with
    | false => simp [readRaw, readSettings, requireConnection, whole]
    | true =>
      rw [empty rfl]
      rfl
  | ping ack payload => exact ⟨_, rfl, Nat.zero_le _, .inr ⟨_, readRaw_ping ack payload, rfl⟩⟩
  | goaway last code debug =>
    have fields := split?_append (bigEndian 4 (low31 last) ++ bigEndian 4 code) debug
    simp only [length_append, length_bigEndian, append_assoc] at fields
    refine ⟨_, rfl, Nat.zero_le _, .inr ⟨.goaway (low31 (ofBigEndian (bigEndian 4 (low31 last))))
      (ofBigEndian (bigEndian 4 code)) debug, ?_, rfl⟩⟩
    simp [readRaw, readGoaway, requireConnection, fields]
  | windowUpdate id increment =>
    refine ⟨_, rfl, legible,
      .inr ⟨.windowUpdate id (low31 (ofBigEndian (bigEndian 4 (low31 increment)))), ?_, rfl⟩⟩
    simp [readRaw, readWindowUpdate, requireLength]
  | altSvc id source value =>
    refine ⟨_, rfl, legible, ?_⟩
    cases read : decodeOrigin? (encodeOrigin source ++ value) with
    | none =>
      left
      simp [readRaw, readAltSvc, read]
    | some parts =>
      right
      exact ⟨.altSvc id parts.1 parts.2, by simp [readRaw, readAltSvc, read], rfl⟩
  | origin origins =>
    refine ⟨_, rfl, Nat.zero_le _, ?_⟩
    cases read : decodeOrigins? (origins.flatMap encodeOrigin) with
    | none =>
      left
      simp [readRaw, readOrigin, read]
    | some found =>
      right
      exact ⟨.origin found, by simp [readRaw, readOrigin, read], rfl⟩

/-- How the header block of a frame goes out in frames of at most some size, and as what its first
raw frame is read. -/
structure Sets (frame : Frame) (size : Nat) (kind : FrameKind) (flags : Flags) (front : Octets)
    (block : PartialBlock) : Prop where
  same : block.frame.block? = frame.block?
  written : frame.rawFrames size =
    blockFrames kind flags block.stream (max size leastFrameLimit) front block.block
  room : front.length ≤ 5
  stream : block.stream ≤ maxStreamId
  begun : ∀ (ended : Bool) (piece : Octets),
    readRaw ⟨kind.code, flags ||| Flags.when ended Flags.endHeaders, block.stream, front ++ piece⟩ =
      .ok (if ended then .frame { block with block := piece }.frame
        else .started { block with block := piece })

private theorem sets_of_legible (legible : frame.Legible) (carries : frame.block? ≠ none) :
    ∃ kind flags front block, frame.Sets size kind flags front block := by
  cases frame with
  | headers id place octets endStream =>
    have names : NamesStream id := legible
    cases place with
    | none =>
      exact ⟨.headers, Flags.when endStream Flags.endStream, [],
        ⟨id, endStream, none, none, octets⟩,
        rfl, rfl, Nat.zero_le _, names.2, readRaw_headers names endStream⟩
    | some place =>
      obtain ⟨other, decoded⟩ := place.exists_decode?_encode
      refine ⟨.headers, Flags.when endStream Flags.endStream ||| Flags.priority, place.encode,
        ⟨id, endStream, some other, none, octets⟩, rfl,
        rfl, by simp, names.2, fun ended piece => ?_⟩
      simp [readRaw, readHeaders, requireStream, names.1, stripPadding, Reading.ofBlock, decoded]
  | pushPromise id promised octets =>
    have names : NamesStream id := legible
    refine ⟨.pushPromise, Flags.none, bigEndian 4 (low31 promised),
      ⟨id, false, none, some (low31 (ofBigEndian (bigEndian 4 (low31 promised)))), octets⟩,
      rfl, rfl, by simp, names.2, fun ended piece => ?_⟩
    simp [readRaw, readPushPromise, requireStream, names.1, stripPadding, Reading.ofBlock,
      split?_bigEndian]
  | _ => exact absurd rfl carries

end Frame

private theorem stream_of_mem_blockFrames {kind : FrameKind} {flags : Flags} {stream size : Nat}
    {front block : Octets}
    {raw : RawFrame} (member : raw ∈ blockFrames kind flags stream size front block) :
    raw.stream = stream := by
  rcases mem_cons.mp member with rfl | later
  · rfl
  · exact (of_mem_continuations later).2.1

/-- Each of its raw frames and its header block is within the limits of a reader. -/
def Outgoing.Fits (limit blockLimit : Nat) : Outgoing → Prop
  | preface => True
  | frame size content => (∀ raw ∈ content.rawFrames size, raw.payload.length ≤ limit) ∧
      ∀ block ∈ content.block?, block.2.length ≤ blockLimit

instance (limit blockLimit : Nat) (outgoing : Outgoing) :
    Decidable (outgoing.Fits limit blockLimit) :=
  match outgoing with
  | .preface => inferInstanceAs (Decidable True)
  | .frame size content =>
    inferInstanceAs (Decidable ((∀ raw ∈ content.rawFrames size, raw.payload.length ≤ limit) ∧
      ∀ block ∈ content.block?, block.2.length ≤ blockLimit))

def opening (role : Role) : List Outgoing := if role = .client then [.preface] else []

namespace Reader

variable {reader : Reader} {frame : Frame} {size : Nat} {written : List Outgoing}

/-- A legible frame is read as one with the same header block, or passed over if it has none. -/
theorem nextFrame_legible (greatest : reader.frameLimit ≤ greatestFrameLimit)
    (legible : frame.Legible)
    (fits : (Outgoing.frame size frame).Fits reader.frameLimit reader.blockLimit) (rest : Octets) :
    (∃ other, nextFrame { reader with buffer := frame.encode size ++ rest, pending := none } =
        (.ok (some other), { reader with buffer := rest, pending := none }) ∧
      other.block? = frame.block?) ∨
    nextFrame { reader with buffer := frame.encode size ++ rest, pending := none } =
        nextFrame { reader with buffer := rest, pending := none } ∧
      frame.block? = none := by
  obtain ⟨short, bound⟩ := fits
  unfold Frame.encode
  by_cases plain : frame.block? = none
  · obtain ⟨raw, alone, stream, passes⟩ := @Frame.passes_of_legible frame size legible plain
    rw [alone, forall_mem_singleton] at short
    have fits : raw.Fits reader.frameLimit := ⟨short, stream⟩
    rw [alone, flatMap_singleton]
    rcases passes with skipped | ⟨other, read, blockless⟩
    · have incomplete : accept reader.blockLimit none raw = (.ok none, none) := by
        simp only [accept, skipped]
      exact .inr ⟨nextFrame_of_incomplete fits greatest incomplete, plain⟩
    · exact .inl ⟨other, nextFrame_of_complete fits greatest (accept_frame read),
        blockless.trans plain.symm⟩
  · obtain ⟨kind, flags, front, block, sets⟩ := @Frame.sets_of_legible frame size legible plain
    have room : front.length < max size leastFrameLimit := by
      have := sets.room
      unfold leastFrameLimit
      omega
    have own : block.block.length ≤ reader.blockLimit := by
      have own : ∃ stream, block.frame.block? = some (stream, block.block) := by
        unfold PartialBlock.frame
        split <;> exact ⟨_, rfl⟩
      obtain ⟨stream, own⟩ := own
      exact bound _ (sets.same.symm.trans own)
    rw [sets.written] at short ⊢
    have fits :
        ∀ raw ∈ blockFrames kind flags block.stream (max size leastFrameLimit) front block.block,
        raw.Fits reader.frameLimit := by
      intro raw member
      refine ⟨short raw member, ?_⟩
      rw [stream_of_mem_blockFrames member]
      exact sets.stream
    exact .inl ⟨block.frame, nextFrame_blockFrames greatest room own fits sets.begun, sets.same⟩

/-! ## Lists of frames -/

theorem next_of_empty (reader : Reader) (empty : reader.buffer = []) :
    reader.next = (.ok none, reader) := by
  cases due : reader.prefaceDue with
  | false =>
    rw [next_of_started reader due, nextFrame]
    split <;> rename_i read <;> rw [empty] at read <;> cases read
  | true =>
    apply next_of_partial reader due
    · rw [empty]
      decide
    · rw [empty]
      rfl

def drainOn (found : List Frame) :
    Except Error (Option Frame) × Reader → Except Error (List Frame) × Reader
  | (.error error, reader) => (.error error, reader)
  | (.ok none, reader) => (.ok found.reverse, reader)
  | (.ok (some frame), reader) => reader.drain (frame :: found)

theorem drain_eq (reader : Reader) (found : List Frame) :
    reader.drain found = drainOn found reader.next := by
  rw [drain]
  split <;> rename_i next <;> rw [next] <;> rfl

private theorem drain_legible (started : reader.prefaceDue = false)
    (greatest : reader.frameLimit ≤ greatestFrameLimit)
    (legible : ∀ outgoing ∈ written, outgoing.Legible)
    (fits : ∀ outgoing ∈ written, outgoing.Fits reader.frameLimit reader.blockLimit)
    (found : List Frame) :
    ∃ frames,
      drain { reader with buffer := written.flatMap Outgoing.octets, pending := none } found =
        (.ok (found.reverse ++ frames), { reader with buffer := [], pending := none }) ∧
      frames.filterMap Frame.block? = blocksIn written := by
  induction written generalizing found with
  | nil =>
    refine ⟨[], ?_, rfl⟩
    rw [flatMap_nil, drain_eq, next_of_empty _ rfl, append_nil, drainOn]
  | cons outgoing rest ih =>
    rw [forall_mem_cons] at legible fits
    have ih := ih legible.2 fits.2
    cases outgoing with
    | preface => exact legible.1.elim
    | frame size content =>
      have first := nextFrame_legible greatest legible.1 fits.1 (rest.flatMap Outgoing.octets)
      rw [← next_of_started _ (by exact started), ← next_of_started _ (by exact started)] at first
      rw [flatMap_cons, Outgoing.octets, drain_eq, blocksIn, filterMap_cons, Outgoing.block?]
      rcases first with ⟨other, read, same⟩ | ⟨passed, plain⟩
      · obtain ⟨frames, drained, blocks⟩ := ih (other :: found)
        refine ⟨other :: frames, ?_, ?_⟩
        · rw [read, drainOn, drained, reverse_cons, append_assoc, singleton_append]
        · rw [filterMap_cons, same, blocks]
          rfl
      · obtain ⟨frames, drained, blocks⟩ := ih found
        rw [passed, ← drain_eq, plain]
        exact ⟨frames, drained, blocks⟩

theorem process_legible {role : Role} {limit blockLimit : Nat}
    (greatest : limit ≤ greatestFrameLimit) (legible : ∀ outgoing ∈ written, outgoing.Legible)
    (fits : ∀ outgoing ∈ written, outgoing.Fits limit blockLimit) :
    ∃ frames, process { prefaceDue := role == .client, frameLimit := limit, blockLimit }
        ((opening role ++ written).flatMap Outgoing.octets) =
        (.ok frames, { frameLimit := limit, blockLimit }) ∧
      frames.filterMap Frame.block? = blocksIn written := by
  obtain ⟨frames, drained, blocks⟩ :=
    @drain_legible { frameLimit := limit, blockLimit } written rfl greatest legible fits []
  refine ⟨frames, ?_, blocks⟩
  rw [reverse_nil, nil_append] at drained
  cases role with
  | server => exact drained
  | client =>
    have skips : next ⟨preface ++ written.flatMap Outgoing.octets, true, limit, blockLimit, none⟩ =
        next ⟨written.flatMap Outgoing.octets, false, limit, blockLimit, none⟩ := by
      rw [next_of_preface _ rfl rfl, next_of_started _ rfl]
    have fed : process ⟨[], true, limit, blockLimit, none⟩
        ((opening .client ++ written).flatMap Outgoing.octets) =
        drain ⟨preface ++ written.flatMap Outgoing.octets, true, limit, blockLimit, none⟩ [] := rfl
    calc process ⟨[], true, limit, blockLimit, none⟩
          ((opening .client ++ written).flatMap Outgoing.octets)
      _ = drain ⟨written.flatMap Outgoing.octets, false, limit, blockLimit, none⟩ [] := by
          rw [fed, drain_eq, skips, ← drain_eq]
      _ = (.ok frames, ⟨[], false, limit, blockLimit, none⟩) := drained

end Reader

end Http2
