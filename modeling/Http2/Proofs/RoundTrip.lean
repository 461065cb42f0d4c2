import Http2.Frame.Reader
import Mathlib.Data.List.Induction

/-!
# Reading undoes writing

`Frame.WellFormed` says which frames fit the wire: every field within its bits, every payload within
the limit on frames, and every header block within the limit on blocks.  The octets of any list of
such frames are read back as the list, and the reader is clean afterwards.

The argument goes down and up again through the layers of the format.  A raw frame is read back from
its octets whatever follows them; what a raw frame amounts to is computed for each kind; a header
block is followed through its CONTINUATION frames by induction on the pieces; and a list of frames
is read one frame at a time.
-/

namespace Http2

open List

variable {value limit : Nat} {raw : RawFrame} {rest : Octets}
  {block : PartialBlock} {head : FrameHead} {reader : Reader}

/-! ## Well-formed frames -/

/-- A stream identifier that names a stream and not the connection. -/
def NamesStream (id : Nat) : Prop := id ≠ 0 ∧ id ≤ maxStreamId

instance (id : Nat) : Decidable (NamesStream id) := inferInstanceAs (Decidable (_ ∧ _))

def Priority.WellFormed (priority : Priority) : Prop :=
  priority.dependency ≤ maxStreamId ∧ priority.hasValidWeight

instance (place : Priority) : Decidable place.WellFormed := inferInstanceAs (Decidable (_ ∧ _))

namespace Frame

/-- The frames that can be written without loss for a reader with these limits.  The header block of
a HEADERS or PUSH_PROMISE frame may be longer than the limit on frames, since it can be cut up. -/
def WellFormed (limit blockLimit : Nat) : Frame → Prop
  | data id octets _ none => NamesStream id ∧ octets.length ≤ limit
  | data id octets _ (some padding) => NamesStream id ∧ 1 + octets.length + padding.toNat ≤ limit
  | headers id none block _ => NamesStream id ∧ block.length ≤ blockLimit
  | headers id (some place) block _ =>
    NamesStream id ∧ place.WellFormed ∧ block.length ≤ blockLimit
  | priority id place => NamesStream id ∧ place.WellFormed
  | rstStream id code => NamesStream id ∧ code < 4294967296
  | settings ack parameters =>
    (ack = true → parameters = []) ∧
      (∀ parameter ∈ parameters, parameter.1 < 65536 ∧ parameter.2 < 4294967296) ∧
      6 * parameters.length ≤ limit
  | pushPromise id promised block =>
    NamesStream id ∧ promised ≤ maxStreamId ∧ block.length ≤ blockLimit
  | ping _ _ => True
  | goaway last code debug =>
    last ≤ maxStreamId ∧ code < 4294967296 ∧ 8 + debug.length ≤ limit
  | windowUpdate id increment => id ≤ maxStreamId ∧ increment ≤ maxStreamId
  | altSvc id source value =>
    id ≤ maxStreamId ∧ source.length ≤ 65535 ∧ 2 + source.length + value.length ≤ limit
  | origin origins =>
    (∀ source ∈ origins, source.length ≤ 65535) ∧
      total (origins.map fun source => 2 + source.length) ≤ limit
  | unknown kind _ id payload =>
    FrameKind.ofCode? kind = none ∧ id ≤ maxStreamId ∧ payload.length ≤ limit

instance (limit blockLimit : Nat) (frame : Frame) : Decidable (frame.WellFormed limit blockLimit) :=
  match frame with
  | data _ _ _ none => inferInstanceAs (Decidable (_ ∧ _))
  | data _ _ _ (some _) => inferInstanceAs (Decidable (_ ∧ _))
  | headers _ none _ _ => inferInstanceAs (Decidable (_ ∧ _))
  | headers _ (some _) _ _ => inferInstanceAs (Decidable (_ ∧ _ ∧ _))
  | priority _ _ => inferInstanceAs (Decidable (_ ∧ _))
  | rstStream _ _ => inferInstanceAs (Decidable (_ ∧ _))
  | settings ack parameters =>
    inferInstanceAs (Decidable ((ack = true → parameters = []) ∧
      (∀ parameter ∈ parameters, parameter.1 < 65536 ∧ parameter.2 < 4294967296) ∧ _))
  | pushPromise _ _ _ => inferInstanceAs (Decidable (_ ∧ _ ∧ _))
  | ping _ _ => inferInstanceAs (Decidable True)
  | goaway _ _ _ => inferInstanceAs (Decidable (_ ∧ _ ∧ _))
  | windowUpdate _ _ => inferInstanceAs (Decidable (_ ∧ _))
  | altSvc _ _ _ => inferInstanceAs (Decidable (_ ∧ _ ∧ _))
  | origin origins =>
    inferInstanceAs (Decidable ((∀ source ∈ origins, source.length ≤ 65535) ∧ _))
  | unknown _ _ _ _ => inferInstanceAs (Decidable (_ ∧ _ ∧ _))

end Frame

/-! ## Fields -/

theorem ofBigEndian_bigEndian_of_lt {width : Nat} (h : value < Nat.pow 256 width) :
    ofBigEndian (bigEndian width value) = value := by
  rw [ofBigEndian_bigEndian, Nat.mod_eq_of_lt h]

private theorem ofBigEndian_word (h : value ≤ maxStreamId) :
    ofBigEndian (bigEndian 4 value) = value :=
  ofBigEndian_bigEndian_of_lt (Nat.lt_trans (Nat.lt_succ_of_le h) (by decide))

theorem low31_eq_self (h : value ≤ maxStreamId) : low31 value = value :=
  Nat.mod_eq_of_lt (Nat.lt_succ_of_le h)

theorem low31_le (value : Nat) : low31 value ≤ maxStreamId := by
  unfold low31 maxStreamId
  omega

theorem ofBigEndian_lt (octets : Octets) : ofBigEndian octets < Nat.pow 256 octets.length := by
  induction octets using List.reverseRecOn with
  | nil => exact Nat.zero_lt_one
  | append_singleton front last ih =>
    have octet := last.toNat_lt
    rw [ofBigEndian] at ih ⊢
    rw [foldl_append, length_append, length_singleton]
    show _ < Nat.pow 256 front.length * 256
    simp only [foldl_cons, foldl_nil]
    omega

theorem split?_bigEndian (width value : Nat) (rest : Octets) :
    split? width (bigEndian width value ++ rest) = some (bigEndian width value, rest) := by
  simpa using split?_append (bigEndian width value) rest

theorem Priority.decode?_encode {priority : Priority} (wellFormed : priority.WellFormed)
    (rest : Octets) : decode? (priority.encode ++ rest) = some (priority, rest) := by
  obtain ⟨dependency, weight, exclusive⟩ := priority
  obtain ⟨bound, weight_bound⟩ := wellFormed
  simp only [hasValidWeight, Bool.and_eq_true, decide_eq_true_eq] at bound weight_bound
  -- The four octets of the word, as `decode?` matches on them.
  have word (high : Nat) (h : high ≤ 2147483648) :
      ofBigEndian (bigEndian 4 (dependency + high)) = dependency + high := by
    apply ofBigEndian_bigEndian_of_lt
    show dependency + high < 4294967296
    unfold maxStreamId at bound
    omega
  have octet : (UInt8.ofNat (max 1 (min weight 256) - 1)).toNat + 1 = weight := by
    rw [UInt8.toNat_ofNat']
    omega
  simp only [bigEndian, nil_append, cons_append] at word
  simp only [encode, low31_eq_self bound, bigEndian, nil_append, cons_append, decode?, octet]
  unfold maxStreamId at bound
  cases exclusive with
  | false =>
    rw [if_neg (by simp), word 0 (by decide)]
    simp only [low31, Nat.add_zero, Nat.mod_eq_of_lt (Nat.lt_succ_of_le bound)]
    simp only [Option.some.injEq, Prod.mk.injEq, mk.injEq, decide_eq_false_iff_not, and_true,
      true_and]
    omega
  | true =>
    rw [if_pos rfl, word 2147483648 (by decide)]
    simp only [low31, Nat.add_mod_right, Nat.mod_eq_of_lt (Nat.lt_succ_of_le bound)]
    simp only [Option.some.injEq, Prod.mk.injEq, mk.injEq, decide_eq_true_eq, and_true, true_and]
    omega

private theorem decodeParameters_encodeParameters {parameters : List (Nat × Nat)}
    (bounded : ∀ parameter ∈ parameters, parameter.1 < 65536 ∧ parameter.2 < 4294967296) :
    decodeParameters (encodeParameters parameters) = parameters := by
  induction parameters with
  | nil => rfl
  | cons parameter rest ih =>
    obtain ⟨id, value⟩ := parameter
    obtain ⟨idBound, valueBound⟩ := bounded (id, value) mem_cons_self
    have idField : ofBigEndian (bigEndian 2 id) = id := ofBigEndian_bigEndian_of_lt idBound
    have valueField : ofBigEndian (bigEndian 4 value) = value :=
      ofBigEndian_bigEndian_of_lt valueBound
    have ih := ih fun parameter member => bounded parameter (mem_cons_of_mem _ member)
    unfold encodeParameters at ih ⊢
    simp only [bigEndian, nil_append, cons_append] at idField valueField ih
    simp only [flatMap_cons, bigEndian, nil_append, cons_append, decodeParameters,
      idField, valueField, ih]

theorem length_encodeParameters (parameters : List (Nat × Nat)) :
    (encodeParameters parameters).length = 6 * parameters.length := by
  induction parameters with
  | nil => rfl
  | cons parameter rest ih =>
    unfold encodeParameters at ih ⊢
    simp only [flatMap_cons, length_append, length_bigEndian, ih, length_cons]
    omega

private theorem decodeOrigin?_encodeOrigin {source : Octets} (bound : source.length ≤ 65535)
    (rest : Octets) : decodeOrigin? (encodeOrigin source ++ rest) = some (source, rest) := by
  have field : ofBigEndian (bigEndian 2 source.length) = source.length :=
    ofBigEndian_bigEndian_of_lt (Nat.lt_succ_of_le bound)
  simp only [bigEndian, nil_append, cons_append] at field
  simp only [encodeOrigin, bigEndian, nil_append, cons_append, decodeOrigin?, field,
    split?_append]

private theorem length_encodeOrigin (source : Octets) :
    (encodeOrigin source).length = 2 + source.length := by
  simp [encodeOrigin]

private theorem decodeOrigins?_encodeOrigin {origins : List Octets}
    (bounded : ∀ source ∈ origins, source.length ≤ 65535) :
    decodeOrigins? (origins.flatMap encodeOrigin) = some origins := by
  induction origins with
  | nil => simp [decodeOrigins?]
  | cons source rest ih =>
    have ih := ih fun source member => bounded source (mem_cons_of_mem _ member)
    have first := decodeOrigin?_encodeOrigin (bounded source mem_cons_self)
      (rest.flatMap encodeOrigin)
    have long : ¬(encodeOrigin source ++ rest.flatMap encodeOrigin).length < 2 := by
      rw [length_append, length_encodeOrigin]
      omega
    rw [flatMap_cons, decodeOrigins?, if_neg long]
    split
    · rename_i missing
      rw [first] at missing
      cases missing
    · rename_i found after next
      rw [first] at next
      cases next
      rw [ih, Option.map_some]

private theorem length_flatMap_encodeOrigin (origins : List Octets) :
    (origins.flatMap encodeOrigin).length =
      total (origins.map fun source => 2 + source.length) := by
  induction origins with
  | nil => rfl
  | cons source rest ih => simp [length_encodeOrigin, ih]

/-! ## Raw frames -/

private theorem FrameHead.decode?_encode (length : head.length ≤ greatestFrameLimit)
    (stream : head.stream ≤ maxStreamId) (rest : Octets) :
    decode? (head.encode ++ rest) = some (head, rest) := by
  have lengthField : ofBigEndian (bigEndian 3 head.length) = head.length :=
    ofBigEndian_bigEndian_of_lt (Nat.lt_succ_of_le length)
  have streamField := ofBigEndian_word stream
  simp only [bigEndian, nil_append, cons_append] at lengthField streamField
  simp only [encode, low31_eq_self stream, bigEndian, nil_append, cons_append, decode?,
    lengthField, streamField]

/-- A raw frame that survives the wire towards a reader with the limit. -/
structure RawFrame.Fits (limit : Nat) (raw : RawFrame) : Prop where
  payload : raw.payload.length ≤ limit
  stream : raw.stream ≤ maxStreamId

theorem RawFrame.Fits.narrow (fits : raw.Fits limit) (greatest : limit ≤ greatestFrameLimit) :
    raw.Fits (min limit greatestFrameLimit) := by
  rwa [Nat.min_eq_left greatest]

/-- Whatever the limit, the length of a payload must fit the field for it. -/
theorem RawFrame.decode?_encode (fits : raw.Fits (min limit greatestFrameLimit)) (rest : Octets) :
    decode? limit (raw.encode ++ rest) = .ok (some (raw, rest)) := by
  obtain ⟨within, field⟩ := Nat.le_min.mp fits.payload
  have head : FrameHead.decode? (raw.head.encode ++ (raw.payload ++ rest)) =
      some (raw.head, raw.payload ++ rest) := FrameHead.decode?_encode field fits.stream _
  have payload : split? raw.head.length (raw.payload ++ rest) = some (raw.payload, rest) :=
    split?_append raw.payload rest
  unfold decode? encode
  rw [append_assoc, head]
  simp only [payload, if_neg (Nat.not_lt.mpr (show raw.head.length ≤ limit from within))]
  rfl

/-- A head stands in its own octets, whatever follows, and says nothing that they cannot hold. -/
theorem FrameHead.of_decode? {octets : Octets} (decoded : decode? octets = some (head, rest)) :
    (head.length ≤ greatestFrameLimit ∧ head.stream ≤ maxStreamId) ∧ ∃ front,
      octets = front ++ rest ∧
      front.length = size ∧ ∀ more, decode? (front ++ more) = some (head, more) := by
  unfold decode? at decoded
  split at decoded
  · rename_i length1 length2 length3 kind flags stream1 stream2 stream3 stream4 _
    cases decoded
    have length := ofBigEndian_lt [length1, length2, length3]
    exact ⟨⟨Nat.le_of_lt_succ (by simpa [greatestFrameLimit] using length), low31_le _⟩,
      [length1, length2, length3, kind, flags, stream1, stream2, stream3, stream4],
      rfl, rfl, fun _ => rfl⟩
  · cases decoded

namespace RawFrame

variable {octets : Octets} {error : Error}

theorem of_decode? (decoded : decode? limit octets = .ok (some (raw, rest))) :
    raw.Fits (min limit greatestFrameLimit) ∧ ∃ piece, octets = piece ++ rest ∧
      piece.length = FrameHead.size + raw.payload.length ∧
      ∀ more, decode? limit (piece ++ more) = .ok (some (raw, more)) := by
  unfold decode? at decoded
  split at decoded
  · cases decoded
  · rename_i head after found
    obtain ⟨⟨length, stream⟩, front, rfl, size, reads⟩ := FrameHead.of_decode? found
    split at decoded
    · cases decoded
    · rename_i within
      split at decoded
      · cases decoded
      · rename_i payload tail taken
        cases decoded
        obtain ⟨same, rfl⟩ := append_of_split? taken
        refine ⟨⟨same ▸ Nat.le_min.mpr ⟨Nat.not_lt.mp within, length⟩, stream⟩, front ++ payload,
          (append_assoc ..).symm, by rw [length_append, size], fun more => ?_⟩
        have taken := split?_append payload more
        rw [same] at taken
        unfold decode?
        rw [append_assoc, reads]
        simp only [within, if_false, taken]

theorem of_decode?_error (failed : decode? limit octets = .error error) :
    (∃ size, limit < size ∧ size ≤ greatestFrameLimit ∧
      error = .protocol (.frameTooLong size limit)) ∧
      ∀ more, decode? limit (octets ++ more) = .error error := by
  unfold decode? at failed
  split at failed
  · cases failed
  · rename_i head after found
    obtain ⟨⟨length, -⟩, front, rfl, -, reads⟩ := FrameHead.of_decode? found
    split at failed
    · rename_i long
      cases failed
      refine ⟨⟨head.length, long, length, rfl⟩, fun more => ?_⟩
      unfold decode?
      rw [append_assoc, reads]
      simp only [long, if_true]
    · split at failed <;> cases failed

theorem length_of_decode?_none (missing : decode? limit octets = .ok none) :
    octets.length < FrameHead.size + limit := by
  unfold decode? at missing
  split at missing
  · rename_i short
    rcases octets with _ | ⟨_, _ | ⟨_, _ | ⟨_, _ | ⟨_, _ | ⟨_, _ | ⟨_, _ | ⟨_, _ | ⟨_, _ | _⟩⟩⟩⟩⟩⟩⟩⟩
    all_goals
      simp only [FrameHead.decode?, reduceCtorEq] at short
      try simp [FrameHead.size, Nat.add_comm]
  · rename_i head after found
    obtain ⟨-, front, rfl, size, -⟩ := FrameHead.of_decode? found
    split at missing
    · cases missing
    · split at missing
      · rename_i few
        have few := split?_eq_none_iff.mp few
        rw [length_append, size]
        omega
      · cases missing

end RawFrame

namespace Reader

variable {before after : Option PartialBlock}

/-- How a reader goes on behind a raw frame, given what the frame comes to. -/
def onward (reader : Reader) (rest : Octets) :
    Except Error (Option Frame) × Option PartialBlock → Except Error (Option Frame) × Reader
  | (.error error, pending) => (.error error, { reader with buffer := rest, pending })
  | (.ok (some frame), pending) => (.ok (some frame), { reader with buffer := rest, pending })
  | (.ok none, pending) => nextFrame { reader with buffer := rest, pending }

theorem nextFrame_eq (reader : Reader) :
    reader.nextFrame =
      match RawFrame.decode? reader.frameLimit reader.buffer with
      | .error error => (.error error, reader)
      | .ok none => (.ok none, reader)
      | .ok (some (raw, rest)) =>
        reader.onward rest (accept reader.blockLimit reader.pending raw) := by
  rw [nextFrame]
  split <;> rename_i found <;> rw [found]
  dsimp only
  obtain ⟨_ | _ | _, pending⟩ := accept reader.blockLimit reader.pending _ <;> rfl

theorem nextFrame_raw (fits : raw.Fits (min reader.frameLimit greatestFrameLimit)) :
    nextFrame { reader with buffer := raw.encode ++ rest, pending := before } =
      reader.onward rest (accept reader.blockLimit before raw) := by
  rw [nextFrame_eq, RawFrame.decode?_encode fits rest]
  rfl

theorem nextFrame_of_complete {frame : Frame} (fits : raw.Fits reader.frameLimit)
    (greatest : reader.frameLimit ≤ greatestFrameLimit)
    (complete : accept reader.blockLimit before raw = (.ok (some frame), after)) :
    nextFrame { reader with buffer := raw.encode ++ rest, pending := before } =
      (.ok (some frame), { reader with buffer := rest, pending := after }) := by
  rw [nextFrame_raw (fits.narrow greatest), complete]
  rfl

theorem nextFrame_of_incomplete (fits : raw.Fits reader.frameLimit)
    (greatest : reader.frameLimit ≤ greatestFrameLimit)
    (incomplete : accept reader.blockLimit before raw = (.ok none, after)) :
    nextFrame { reader with buffer := raw.encode ++ rest, pending := before } =
      nextFrame { reader with buffer := rest, pending := after } := by
  rw [nextFrame_raw (fits.narrow greatest), incomplete]
  rfl

end Reader

/-! ## Header blocks -/

theorem checkBlock_ok {block : Octets} (h : block.length ≤ limit) :
    checkBlock limit block = .ok () :=
  if_neg (Nat.not_lt.mpr h)

/-- The raw frame goes on with a header block on the stream. -/
structure RawFrame.Continues (stream : Nat) (raw : RawFrame) : Prop where
  kind : raw.kind = FrameKind.continuation.code
  same : raw.stream = stream

theorem accept_continuation (continues : raw.Continues block.stream)
    (bound : (block.block ++ raw.payload).length ≤ limit) :
    accept limit (some block) raw =
      if raw.flags.has Flags.endHeaders then
        (.ok (some { block with block := block.block ++ raw.payload }.frame), none)
      else (.ok none, some { block with block := block.block ++ raw.payload }) := by
  simp [accept, continueBlock, continues.kind, continues.same, checkBlock_ok bound]

theorem Reader.nextFrame_gather {raws : List RawFrame}
    (continues : ∀ raw ∈ raws, raw.Continues block.stream)
    (goesOn : ∀ raw ∈ raws, raw.flags.has Flags.endHeaders = false)
    (fits : ∀ raw ∈ raws, raw.Fits (min reader.frameLimit greatestFrameLimit))
    (bound : (block.block ++ raws.flatMap RawFrame.payload).length ≤ reader.blockLimit) :
    nextFrame { reader with
        buffer := raws.flatMap RawFrame.encode ++ rest, pending := some block } =
      nextFrame { reader with
        buffer := rest,
        pending := some { block with block := block.block ++ raws.flatMap RawFrame.payload } } := by
  induction raws generalizing block with
  | nil => simp
  | cons raw others ih =>
    simp only [forall_mem_cons] at continues goesOn fits
    simp only [flatMap_cons, ← append_assoc] at bound
    have joined : accept reader.blockLimit (some block) raw =
        (.ok none, some { block with block := block.block ++ raw.payload }) := by
      rw [accept_continuation continues.1, goesOn.1]
      · rfl
      · rw [length_append] at bound
        omega
    have ih := @ih { block with block := block.block ++ raw.payload } continues.2
      goesOn.2 fits.2 bound
    rw [flatMap_cons, append_assoc, nextFrame_raw fits.1, joined, onward, ih]
    simp

/-- The pieces of a block are joined to what has been received, and the last one ends it. -/
theorem Reader.nextFrame_continuations {pieces : List Octets} (some_piece : pieces ≠ [])
    (greatest : reader.frameLimit ≤ greatestFrameLimit)
    (fits : ∀ raw ∈ continuations block.stream pieces, raw.Fits reader.frameLimit)
    (bound : (block.block ++ pieces.flatten).length ≤ reader.blockLimit) :
    nextFrame { reader with
        buffer := (continuations block.stream pieces).flatMap RawFrame.encode ++ rest,
        pending := some block } =
      (.ok (some { block with block := block.block ++ pieces.flatten }.frame),
        { reader with buffer := rest, pending := none }) := by
  induction pieces generalizing block with
  | nil => exact absurd rfl some_piece
  | cons piece others ih =>
    rw [flatten_cons, ← append_assoc] at bound
    have short : (block.block ++ piece).length ≤ reader.blockLimit := by
      rw [length_append] at bound
      omega
    have joined (flags : Flags) := @accept_continuation reader.blockLimit
      ⟨FrameKind.continuation.code, flags, block.stream, piece⟩ block ⟨rfl, rfl⟩ short
    cases others with
    | nil =>
      have ended := joined Flags.endHeaders
      rw [if_pos (show Flags.endHeaders.has Flags.endHeaders = true by decide)] at ended
      rw [continuations, forall_mem_singleton] at fits
      rw [continuations, flatMap_singleton, nextFrame_of_complete fits greatest ended,
        flatten_singleton]
    | cons next later =>
      have joined := joined Flags.none
      rw [if_neg (show ¬Flags.none.has Flags.endHeaders = true by decide)] at joined
      have split : continuations block.stream (piece :: next :: later) =
        ⟨FrameKind.continuation.code, Flags.none, block.stream, piece⟩ ::
          continuations block.stream (next :: later) := rfl
      rw [split, forall_mem_cons] at fits
      rw [split, flatMap_cons, append_assoc, nextFrame_of_incomplete fits.1 greatest joined,
        @ih { block with block := block.block ++ piece } (by simp) fits.2 bound, append_assoc]
      rfl

section Blocks

variable {kind : FrameKind} {flags : Flags} {front : Octets} {size : Nat}

theorem of_mem_continuations {stream : Nat} {pieces : List Octets}
    (member : raw ∈ continuations stream pieces) :
    raw.kind = FrameKind.continuation.code ∧ raw.stream = stream ∧ raw.payload ∈ pieces := by
  fun_induction continuations stream pieces with
  | case1 => cases member
  | case2 piece =>
    cases mem_singleton.mp member
    exact ⟨rfl, rfl, mem_cons_self⟩
  | case3 piece others _ ih =>
    rcases mem_cons.mp member with rfl | member
    · exact ⟨rfl, rfl, mem_cons_self⟩
    · obtain ⟨kind, same, among⟩ := ih member
      exact ⟨kind, same, mem_cons_of_mem _ among⟩

theorem accept_frame {frame : Frame} (read : readRaw raw = .ok (.frame frame)) :
    accept limit none raw = (.ok (some frame), none) := by
  simp only [accept, read]

private theorem accept_started (read : readRaw raw = .ok (.started block))
    (bound : block.block.length ≤ limit) :
    accept limit none raw = (.ok none, some block) := by
  simp only [accept, read, beginBlock, checkBlock_ok bound]

/-- A block that goes out behind `front` in one or more frames arrives whole, provided that each of
them fits and that the first one is read as the beginning of the block. -/
theorem Reader.nextFrame_blockFrames (greatest : reader.frameLimit ≤ greatestFrameLimit)
    (room : front.length < size) (bound : block.block.length ≤ reader.blockLimit)
    (fits : ∀ raw ∈ blockFrames kind flags block.stream size front block.block,
    raw.Fits reader.frameLimit) (begun : ∀ (ended : Bool) (piece : Octets),
      readRaw
        ⟨kind.code, flags ||| Flags.when ended Flags.endHeaders, block.stream, front ++ piece⟩ =
        .ok (if ended then .frame { block with block := piece }.frame
          else .started { block with block := piece })) :
    nextFrame { reader with
        buffer := (blockFrames kind flags block.stream size front
          block.block).flatMap RawFrame.encode ++ rest,
        pending := none } =
      (.ok (some block.frame), { reader with buffer := rest, pending := none }) := by
  have whole := take_append_drop (size - front.length) block.block
  simp only [blockFrames, forall_mem_cons] at fits
  simp only [blockFrames, flatMap_cons, append_assoc]
  generalize block.block.take (size - front.length) = piece at whole fits ⊢
  generalize block.block.drop (size - front.length) = others at whole fits ⊢
  cases others with
  | nil =>
    have same : { block with block := piece } = block := by
      rw [append_nil] at whole
      rw [whole]
    have read := begun true piece
    rw [if_pos rfl, same] at read
    rw [isEmpty_nil] at fits ⊢
    rw [nextFrame_of_complete fits.1 greatest (accept_frame read)]
    simp [cut, continuations]
  | cons octet others =>
    have read := begun false piece
    rw [if_neg (by simp)] at read
    have started : piece.length ≤ reader.blockLimit := by
      rw [← whole, length_append] at bound
      omega
    have pieces := flatten_cut (Nat.zero_lt_of_lt room) (octet :: others)
    rw [isEmpty_cons] at fits ⊢
    rw [nextFrame_of_incomplete fits.1 greatest (accept_started read started)]
    have some_piece : cut size (octet :: others) ≠ [] := by
      intro none
      rw [none] at pieces
      cases pieces
    have continued := @nextFrame_continuations rest { block with block := piece } reader
      (cut size (octet :: others)) some_piece greatest fits.2
      (by rw [pieces, whole]; exact bound)
    rw [continued, pieces, whole]

end Blocks

/-! ## Single frames -/

namespace Flags

@[simp] theorem has_or (first second flag : Flags) :
    has (first ||| second) flag = (has first flag || has second flag) := by
  have distributed : (first ||| second) &&& flag = first &&& flag ||| second &&& flag :=
    UInt8.toBitVec_inj.mp BitVec.and_or_distrib_right
  rw [has, has, has, distributed, Bool.eq_iff_iff]
  simp only [bne_iff_ne, ne_eq, UInt8.or_eq_zero_iff, Bool.or_eq_true]
  exact Decidable.not_and_iff_not_or_not

@[simp] theorem has_when (condition : Bool) (flag other : Flags) :
    has (when condition flag) other = (condition && has flag other) := by
  cases condition
  · simp [when, has, none]
  · rfl

@[simp] theorem has_bits :
    has endStream endStream = true ∧ has endStream padded = false ∧
      has endStream priority = false ∧ has endStream endHeaders = false ∧
      has ack ack = true ∧ has padded padded = true ∧ has padded endStream = false ∧
      has priority priority = true ∧ has priority padded = false ∧
      has priority endStream = false ∧ has priority endHeaders = false ∧
      has endHeaders endHeaders = true ∧ has endHeaders padded = false ∧
      has endHeaders priority = false ∧ has endHeaders endStream = false ∧
      has none padded = false ∧ has none endHeaders = false := by
  decide

end Flags

@[simp] theorem ok_bind {ε α β : Type} (value : α) (next : α → Except ε β) :
    (.ok value >>= next) = next value := rfl

@[simp] theorem pure_eq_ok {ε α : Type} (value : α) : (pure value : Except ε α) = .ok value := rfl

section Reading

variable {id code : Nat} {octets : Octets} {place : Priority}

variable (names : NamesStream id)

include names

theorem readRaw_headers (endStream ended : Bool) (piece : Octets) :
    readRaw ⟨FrameKind.headers.code,
        Flags.when endStream Flags.endStream ||| Flags.when ended Flags.endHeaders, id,
          [] ++ piece⟩ =
      .ok (if ended then .frame (PartialBlock.frame ⟨id, endStream, none, none, piece⟩)
        else .started ⟨id, endStream, none, none, piece⟩) := by
  simp [readRaw, readHeaders, requireStream, names.1, stripPadding, Reading.ofBlock]

private theorem readRaw_headers_priority (wellFormed : place.WellFormed) (endStream ended : Bool)
    (piece : Octets) :
    readRaw ⟨FrameKind.headers.code, Flags.when endStream Flags.endStream ||| Flags.priority |||
          Flags.when ended Flags.endHeaders, id, place.encode ++ piece⟩ =
      .ok (if ended then .frame (PartialBlock.frame ⟨id, endStream, some place, none, piece⟩)
        else .started ⟨id, endStream, some place, none, piece⟩) := by
  simp [readRaw, readHeaders, requireStream, names.1, stripPadding, Reading.ofBlock,
    Priority.decode?_encode wellFormed]

private theorem readRaw_pushPromise {promised : Nat}
    (bound : promised ≤ maxStreamId) (ended : Bool) (piece : Octets) :
    readRaw ⟨FrameKind.pushPromise.code, Flags.none ||| Flags.when ended Flags.endHeaders, id,
        bigEndian 4 (low31 promised) ++ piece⟩ =
      .ok (if ended then .frame (PartialBlock.frame ⟨id, false, none, some promised, piece⟩)
        else .started ⟨id, false, none, some promised, piece⟩) := by
  simp [readRaw, readPushPromise, requireStream, names.1, stripPadding, Reading.ofBlock,
    low31_eq_self bound, split?_bigEndian, ofBigEndian_word bound]

theorem readRaw_data (endStream : Bool) :
    readRaw ⟨FrameKind.data.code, Flags.when endStream Flags.endStream, id, octets⟩ =
      .ok (.frame (.data id octets endStream none)) := by
  simp [readRaw, readData, requireStream, names.1, stripPadding]

private theorem readRaw_data_padded (endStream : Bool) (padding : UInt8) :
    readRaw ⟨FrameKind.data.code, Flags.when endStream Flags.endStream ||| Flags.padded, id,
        padding :: (octets ++ List.replicate padding.toNat 0)⟩ =
      .ok (.frame (.data id octets endStream (some padding))) := by
  have enough : ¬octets.length + padding.toNat < padding.toNat := by omega
  simp [readRaw, readData, requireStream, names.1, stripPadding, enough]

private theorem readRaw_priority (wellFormed : place.WellFormed) :
    readRaw ⟨FrameKind.priority.code, Flags.none, id, place.encode⟩ =
      .ok (.frame (.priority id place)) := by
  have decoded := Priority.decode?_encode wellFormed []
  rw [append_nil] at decoded
  simp [readRaw, readPriority, requireStream, names.1, decoded]

private theorem readRaw_rstStream (bound : code < 4294967296) :
    readRaw ⟨FrameKind.rstStream.code, Flags.none, id, bigEndian 4 code⟩ =
      .ok (.frame (.rstStream id code)) := by
  have field : ofBigEndian (bigEndian 4 code) = code := ofBigEndian_bigEndian_of_lt bound
  simp [readRaw, readRstStream, requireStream, requireLength, names.1, field]

omit names

private theorem readRaw_settings {ack : Bool} {parameters : List (Nat × Nat)}
    (empty : ack = true → parameters = [])
    (bounded : ∀ parameter ∈ parameters, parameter.1 < 65536 ∧ parameter.2 < 4294967296) :
    readRaw ⟨FrameKind.settings.code, Flags.when ack Flags.ack, 0, encodeParameters parameters⟩ =
      .ok (.frame (.settings ack parameters)) := by
  have decoded := decodeParameters_encodeParameters bounded
  have whole : (encodeParameters parameters).length % 6 = 0 := by
    rw [length_encodeParameters]
    omega
  cases ack with
  | false =>
    simp [readRaw, readSettings, requireConnection, whole, decoded]
  | true =>
    rw [empty rfl]
    rfl

theorem readRaw_ping (ack : Bool) (payload : UInt64) :
    readRaw ⟨FrameKind.ping.code, Flags.when ack Flags.ack, 0, bigEndian 8 payload.toNat⟩ =
      .ok (.frame (.ping ack payload)) := by
  have field : ofBigEndian (bigEndian 8 payload.toNat) = payload.toNat :=
    ofBigEndian_bigEndian_of_lt payload.toNat_lt
  simp [readRaw, readPing, requireConnection, requireLength, field]

private theorem readRaw_goaway {last : Nat} (lastBound : last ≤ maxStreamId)
    (codeBound : code < 4294967296) (debug : Octets) :
    readRaw ⟨FrameKind.goaway.code, Flags.none, 0,
      bigEndian 4 (low31 last) ++ bigEndian 4 code ++ debug⟩ =
      .ok (.frame (.goaway last code debug)) := by
  have field : ofBigEndian (bigEndian 4 code) = code := ofBigEndian_bigEndian_of_lt codeBound
  have fields := split?_append (bigEndian 4 last ++ bigEndian 4 code) debug
  simp only [length_append, length_bigEndian, append_assoc] at fields
  simp [readRaw, readGoaway, requireConnection, low31_eq_self lastBound, fields, field,
    ofBigEndian_word lastBound]

private theorem readRaw_windowUpdate {increment : Nat} (bound : increment ≤ maxStreamId) :
    readRaw ⟨FrameKind.windowUpdate.code, Flags.none, id, bigEndian 4 (low31 increment)⟩ =
      .ok (.frame (.windowUpdate id increment)) := by
  simp [readRaw, readWindowUpdate, requireLength, low31_eq_self bound, ofBigEndian_word bound]

private theorem readRaw_altSvc {source : Octets} (bound : source.length ≤ 65535) (value : Octets) :
    readRaw ⟨FrameKind.altSvc.code, Flags.none, id, encodeOrigin source ++ value⟩ =
      .ok (.frame (.altSvc id source value)) := by
  simp [readRaw, readAltSvc, decodeOrigin?_encodeOrigin bound]

private theorem readRaw_origin {origins : List Octets}
    (bounded : ∀ source ∈ origins, source.length ≤ 65535) :
    readRaw ⟨FrameKind.origin.code, Flags.none, 0, origins.flatMap encodeOrigin⟩ =
      .ok (.frame (.origin origins)) := by
  simp [readRaw, readOrigin, decodeOrigins?_encodeOrigin bounded]

end Reading

namespace Frame

variable {blockLimit : Nat} {frame : Frame}

/-- A frame with a header block, which may take several raw frames. -/
def hasBlock : Frame → Bool
  | headers .. | pushPromise .. => true
  | _ => false

variable (least : leastFrameLimit ≤ limit) (wellFormed : frame.WellFormed limit blockLimit)

include least wellFormed

/-- A frame without a header block is one raw frame, which fits and is read as the frame. -/
theorem readRaw_of_rawFrames (blockless : ¬frame.hasBlock) :
    ∃ raw, frame.rawFrames limit = [raw] ∧ raw.Fits limit ∧
      (∀ kind ∈ frame.kind?, raw.kind = kind.code) ∧ readRaw raw = .ok (.frame frame) := by
  unfold leastFrameLimit at least
  cases frame with
  | headers => exact absurd rfl blockless
  | pushPromise => exact absurd rfl blockless
  | data id octets endStream padding =>
    cases padding with
    | none =>
      obtain ⟨names, short⟩ := wellFormed
      exact ⟨_, rfl, ⟨short, names.2⟩, by simp [kind?], readRaw_data names endStream⟩
    | some padding =>
      obtain ⟨names, short⟩ := wellFormed
      refine ⟨_, rfl, ⟨?_, names.2⟩, by simp [kind?], readRaw_data_padded names endStream padding⟩
      simp only [length_cons, length_append, length_replicate]
      omega
  | priority id place =>
    obtain ⟨names, valid⟩ := wellFormed
    refine ⟨_, rfl, ⟨?_, names.2⟩, by simp [kind?], readRaw_priority names valid⟩
    simp only [Priority.length_encode]
    omega
  | rstStream id code =>
    obtain ⟨names, bound⟩ := wellFormed
    refine ⟨_, rfl, ⟨?_, names.2⟩, by simp [kind?], readRaw_rstStream names bound⟩
    simp only [length_bigEndian]
    omega
  | settings ack parameters =>
    obtain ⟨empty, bounded, short⟩ := wellFormed
    refine ⟨_, rfl, ⟨?_, Nat.zero_le _⟩, by simp [kind?], readRaw_settings empty bounded⟩
    simpa only [length_encodeParameters] using short
  | ping ack payload =>
    refine ⟨_, rfl, ⟨?_, Nat.zero_le _⟩, by simp [kind?], readRaw_ping ack payload⟩
    simp only [length_bigEndian]
    omega
  | goaway last code debug =>
    obtain ⟨lastBound, codeBound, short⟩ := wellFormed
    refine ⟨_, rfl, ⟨?_, Nat.zero_le _⟩, by simp [kind?], readRaw_goaway lastBound codeBound debug⟩
    simpa only [length_append, length_bigEndian] using short
  | windowUpdate id increment =>
    obtain ⟨idBound, bound⟩ := wellFormed
    refine ⟨_, rfl, ⟨?_, idBound⟩, by simp [kind?], readRaw_windowUpdate bound⟩
    simp only [length_bigEndian]
    omega
  | altSvc id source value =>
    obtain ⟨idBound, bound, short⟩ := wellFormed
    refine ⟨_, rfl, ⟨?_, idBound⟩, by simp [kind?], readRaw_altSvc bound value⟩
    simpa only [length_append, length_encodeOrigin] using short
  | origin origins =>
    obtain ⟨bounded, short⟩ := wellFormed
    refine ⟨_, rfl, ⟨?_, Nat.zero_le _⟩, by simp [kind?], readRaw_origin bounded⟩
    simpa only [length_flatMap_encodeOrigin] using short
  | unknown kind flags id payload =>
    obtain ⟨unknown, idBound, short⟩ := wellFormed
    exact ⟨_, rfl, ⟨short, idBound⟩, by simp [kind?], by simp [readRaw, unknown]⟩

/-- How a header block goes out: behind which octets, and as what its first raw frame is read. -/
structure Carries (frame : Frame) (limit blockLimit : Nat) (kind : FrameKind) (flags : Flags)
    (front : Octets) (block : PartialBlock) : Prop where
  own : frame.kind? = some kind
  whole : block.frame = frame
  written : frame.rawFrames limit = blockFrames kind flags block.stream limit front block.block
  room : front.length < limit
  stream : block.stream ≤ maxStreamId
  bound : block.block.length ≤ blockLimit
  begun : ∀ (ended : Bool) (piece : Octets),
    readRaw ⟨kind.code, flags ||| Flags.when ended Flags.endHeaders, block.stream, front ++ piece⟩ =
      .ok (if ended then .frame { block with block := piece }.frame
        else .started { block with block := piece })

private theorem carries_of_block (carrier : frame.hasBlock) :
    ∃ kind flags front block, frame.Carries limit blockLimit kind flags front block := by
  have same : max limit leastFrameLimit = limit := Nat.max_eq_left least
  unfold leastFrameLimit at least
  cases frame with
  | headers id place octets endStream =>
    cases place with
    | none =>
      obtain ⟨names, bound⟩ := wellFormed
      refine ⟨.headers, Flags.when endStream Flags.endStream, [],
        ⟨id, endStream, none, none, octets⟩, rfl, rfl, ?_, ?_, names.2, bound,
        readRaw_headers names endStream⟩
      · simp only [rawFrames, same]
      · simp only [length_nil]
        omega
    | some place =>
      obtain ⟨names, valid, bound⟩ := wellFormed
      refine ⟨.headers, Flags.when endStream Flags.endStream ||| Flags.priority, place.encode,
        ⟨id, endStream, some place, none, octets⟩, rfl, rfl, ?_, ?_, names.2, bound,
        readRaw_headers_priority names valid endStream⟩
      · simp only [rawFrames, same]
      · simp only [Priority.length_encode]
        omega
  | pushPromise id promised octets =>
    obtain ⟨names, promisedBound, bound⟩ := wellFormed
    refine ⟨.pushPromise, Flags.none, bigEndian 4 (low31 promised),
      ⟨id, false, none, some promised, octets⟩, rfl, rfl, ?_, ?_, names.2, bound,
      readRaw_pushPromise names promisedBound⟩
    · simp only [rawFrames, same]
    · simp only [length_bigEndian]
      omega
  | _ => simp [hasBlock] at carrier

theorem rawFrames_fit :
    ∃ first others, frame.rawFrames limit = first :: others ∧ first.Fits limit ∧
      (∀ kind ∈ frame.kind?, first.kind = kind.code) ∧
      ∀ raw ∈ others, raw.kind = FrameKind.continuation.code ∧ raw.Fits limit := by
  by_cases carrier : frame.hasBlock
  · obtain ⟨kind, flags, front, block, carries⟩ := carries_of_block least wellFormed carrier
    refine ⟨_, _, carries.written, ⟨?_, carries.stream⟩, ?_, fun raw member => ?_⟩
    · have := carries.room
      simp only [length_append, length_take]
      omega
    · simp [carries.own]
    · obtain ⟨kind, same, among⟩ := of_mem_continuations member
      exact ⟨kind, (length_le_of_mem_cut among).2, same ▸ carries.stream⟩
  · obtain ⟨raw, written, fits, kind, -⟩ := readRaw_of_rawFrames least wellFormed carrier
    exact ⟨raw, [], written, fits, kind, by simp⟩

/-- A frame that goes out in one raw frame comes in by it, however long its header block is. -/
theorem readRaw_of_single
    (single : frame.rawFrames limit = [raw]) :
    raw.Fits limit ∧ readRaw raw = .ok (.frame frame) := by
  by_cases carrier : frame.hasBlock
  · obtain ⟨first, others, written, fits, -⟩ := rawFrames_fit least wellFormed
    cases single.symm.trans written
    obtain ⟨kind, flags, front, block, carries⟩ := carries_of_block least wellFormed carrier
    obtain ⟨same, none⟩ := List.cons.inj (single.symm.trans carries.written)
    have whole := take_append_drop (limit - front.length) block.block
    have pieces :=
      flatten_cut (Nat.zero_lt_of_lt carries.room) (block.block.drop (limit - front.length))
    have rest : block.block.drop (limit - front.length) = [] := by
      cases held : cut limit (block.block.drop (limit - front.length)) with
      | nil => rw [← pieces, held, flatten_nil]
      | cons piece others => cases others <;> simp [held, continuations] at none
    rw [rest, append_nil] at whole
    have read := carries.begun true block.block
    refine ⟨fits, ?_⟩
    rw [same, rest, whole, ← carries.whole]
    exact read
  · obtain ⟨other, written, fits, -, read⟩ := readRaw_of_rawFrames least wellFormed carrier
    cases single.symm.trans written
    exact ⟨fits, read⟩

end Frame

/-! ## Lists of frames -/

namespace Reader

variable {frame : Frame} {frames : List Frame}

theorem nextFrame_encode {limit : Nat} (least : leastFrameLimit ≤ limit)
    (within : limit ≤ reader.frameLimit) (greatest : reader.frameLimit ≤ greatestFrameLimit)
    (wellFormed : frame.WellFormed limit reader.blockLimit) (rest : Octets) :
    nextFrame { reader with buffer := frame.encode limit ++ rest, pending := none } =
      (.ok (some frame), { reader with buffer := rest, pending := none }) := by
  have wider : ∀ {raw : RawFrame}, raw.Fits limit → raw.Fits reader.frameLimit :=
    fun fits => ⟨Nat.le_trans fits.payload within, fits.stream⟩
  unfold Frame.encode
  by_cases carrier : frame.hasBlock
  · obtain ⟨first, others, written, fits, -, continued⟩ := Frame.rawFrames_fit least wellFormed
    obtain ⟨kind, flags, front, block, carries⟩ := Frame.carries_of_block least wellFormed carrier
    have all : ∀ raw ∈ frame.rawFrames limit, raw.Fits reader.frameLimit := by
      rw [written]
      exact forall_mem_cons.mpr ⟨wider fits, fun raw member => wider (continued raw member).2⟩
    rw [carries.written] at all
    rw [carries.written, ← carries.whole]
    exact nextFrame_blockFrames greatest carries.room carries.bound all carries.begun
  · obtain ⟨raw, written, fits, -, read⟩ := Frame.readRaw_of_rawFrames least wellFormed carrier
    rw [written, flatMap_singleton]
    exact nextFrame_of_complete (wider fits) greatest (accept_frame read)

theorem next_of_started (reader : Reader) (started : reader.prefaceDue = false) :
    reader.next = reader.nextFrame := by
  simp only [next, takePreface, started, Bool.not_false, if_true]

theorem drain_each (started : reader.prefaceDue = false) (reads : ∀ frame ∈ frames, ∀ rest,
      nextFrame { reader with buffer := frame.encode reader.frameLimit ++ rest, pending := none } =
        (.ok (some frame), { reader with buffer := rest, pending := none }))
    (found : List Frame) :
    drain { reader with
        buffer := frames.flatMap (Frame.encode reader.frameLimit), pending := none } found =
      (.ok (found.reverse ++ frames), { reader with buffer := [], pending := none }) := by
  induction frames generalizing found with
  | nil =>
    have nothing : next { reader with buffer := [], pending := none } =
        (.ok none, { reader with buffer := [], pending := none }) := by
      rw [next_of_started, nextFrame]
      · rfl
      · exact started
    rw [drain, flatMap_nil]
    split <;> rename_i read <;> rw [nothing] at read <;> cases read
    rw [append_nil]
  | cons frame others ih =>
    have first := reads frame mem_cons_self (others.flatMap (Frame.encode reader.frameLimit))
    rw [← next_of_started] at first
    have ih := ih (fun frame member => reads frame (mem_cons_of_mem _ member)) (frame :: found)
    rw [drain, flatMap_cons]
    split <;> rename_i read <;> rw [first] at read <;> cases read
    · rw [ih, reverse_cons, append_assoc, singleton_append]
    · exact started

private theorem drain_encode (started : reader.prefaceDue = false)
    (least : leastFrameLimit ≤ reader.frameLimit)
    (greatest : reader.frameLimit ≤ greatestFrameLimit)
    (wellFormed : ∀ frame ∈ frames, frame.WellFormed reader.frameLimit reader.blockLimit)
    (found : List Frame) :
    drain { reader with
        buffer := frames.flatMap (Frame.encode reader.frameLimit), pending := none } found =
      (.ok (found.reverse ++ frames), { reader with buffer := [], pending := none }) :=
  drain_each started (fun frame member => nextFrame_encode least (Nat.le_refl _) greatest
    (wellFormed frame member)) found

/-- Any list of well-formed frames is read back from its octets, and leaves the reader as it was.
The frames go out in raw frames of their own kind, continued where a header block is too long for
one, and none of these exceeds the limit. -/
theorem process_encode {limit blockLimit : Nat} (least : leastFrameLimit ≤ limit)
    (greatest : limit ≤ greatestFrameLimit)
    (wellFormed : ∀ frame ∈ frames, frame.WellFormed limit blockLimit) :
    process { frameLimit := limit, blockLimit } (frames.flatMap (Frame.encode limit)) =
        (.ok frames, { frameLimit := limit, blockLimit }) ∧
      ∀ frame ∈ frames, ∃ first others, frame.rawFrames limit = first :: others ∧
        (∀ kind ∈ frame.kind?, first.kind = kind.code) ∧ first.payload.length ≤ limit ∧
        ∀ raw ∈ others, raw.kind = FrameKind.continuation.code ∧ raw.payload.length ≤ limit := by
  have read := @drain_encode { frameLimit := limit, blockLimit } frames rfl least
    greatest wellFormed []
  refine ⟨read, fun frame member => ?_⟩
  obtain ⟨first, others, written, fits, kind, continued⟩ :=
    Frame.rawFrames_fit least (wellFormed frame member)
  exact ⟨first, others, written, kind, fits.payload, fun raw member =>
    ⟨(continued raw member).1, (continued raw member).2.payload⟩⟩

/-- A header block behind a priority that takes two frames, and padded data on its stream. -/
theorem process_encode_continued :
    let frames : List Frame :=
      [.headers 1 (some ⟨3, 256, true⟩) (List.replicate 20000 130) false,
        .data 1 [7, 8, 9] true (some 2)]
    (∀ frame ∈ frames, frame.WellFormed 16384 262144) ∧
      (process {} (frames.flatMap (Frame.encode 16384))).1 = .ok frames := by
  intro frames
  have wellFormed : ∀ frame ∈ frames, frame.WellFormed 16384 262144 := by
    rw [List.forall_mem_cons, List.forall_mem_singleton]
    refine ⟨⟨by decide, by decide, ?_⟩, by decide⟩
    rw [List.length_replicate]
    decide
  refine ⟨wellFormed, ?_⟩
  have read := (process_encode (by decide) (by decide) wellFormed).1
  exact congrArg Prod.fst read

end Reader

end Http2
