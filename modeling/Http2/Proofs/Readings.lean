import Http2.Proofs.Brevity
import Http2.Proofs.RoundTrip

/-!
# What a reader gives out

A frame comes off a reader whole, in one raw frame or joined from several.  `Frame.Received` says
what such a frame is like: it is well-formed, and its header block is within the limit on blocks or
stands with the rest of the frame in one raw frame.  Every raw frame by itself amounts to such a
frame or to the beginning of one, and a longer header block does not spoil it.  The faults that a
reader finds are as brief.
-/

namespace Http2

open List

variable {octets : Octets} {size limit : Nat} {block : PartialBlock}

/-- A frame as a reader with these limits on raw frames and on header blocks gives it out. -/
def Frame.Received (size limit : Nat) (frame : Frame) : Prop :=
  frame.WellFormed size limit ∨ frame.WellFormed size size ∧ ∃ raw, frame.rawFrames size = [raw]

/-- What a raw frame amounts to, a frame or the beginning of one, has the property. -/
def Reading.All (good : Frame → Prop) : Reading → Prop
  | .frame content => good content
  | .started block => good block.frame
  | .skipped => True

/-- What a raw frame is read as has the property, or it is turned down for one of the faults. -/
def Giving (good : Frame → Prop) (fault : Error → Prop) : Except Error Reading → Prop
  | .ok reading => reading.All good
  | .error error => fault error

section Giving

variable {good : Frame → Prop} {fault : Error → Prop}

private theorem Reading.all_ofBlock {raw : RawFrame} (begun : good block.frame) :
    (ofBlock raw block).All good := by
  unfold ofBlock
  split <;> exact begun

private theorem giving_bind {α : Type} {first : Except Error α} {rest : α → Except Error Reading}
    (fails : ∀ error, first = .error error → fault error)
    (next : ∀ value, first = .ok value → Giving good fault (rest value)) :
    Giving good fault (first >>= rest) := by
  cases first with
  | error error => exact fails error rfl
  | ok value => exact next value rfl

end Giving

/-- The block begun, if there is one, has the property. -/
def Begun (good : Frame → Prop) (pending : Option PartialBlock) : Prop :=
  ∀ block, pending = some block → good block.frame

/-- The frame, if there is one, has the property, and an error is one of the faults. -/
def Finds (good : Frame → Prop) (fault : Error → Prop) : Except Error (Option Frame) → Prop
  | .ok (some frame) => good frame
  | .ok none => True
  | .error error => fault error

theorem begun_none (good : Frame → Prop) : Begun good none := by rintro _ ⟨⟩

theorem checkBlock_cases (limit : Nat) (block : Octets) :
    checkBlock limit block = .error (.connection (.blockTooLarge block.length limit)) ∨
      checkBlock limit block = .ok () ∧ block.length ≤ limit := by
  unfold checkBlock
  split
  · exact .inl rfl
  · exact .inr ⟨rfl, by omega⟩

/-! ## Fields of received frames -/

theorem stripPadding_length {raw : RawFrame} {padding : Option UInt8}
    (stripped : stripPadding raw = .ok (padding, octets)) (id : Nat) (endStream : Bool) :
    raw.payload.length = (Frame.data id octets endStream padding).chargedLength := by
  unfold stripPadding at stripped
  split at stripped
  · split at stripped
    · cases stripped
    · rename_i length rest payload
      split at stripped
      · cases stripped
      · cases stripped
        rw [payload, Frame.chargedLength, length_take, length_cons]
        omega
  · cases stripped
    rfl

private theorem stripPadding_le {raw : RawFrame} {padding : Option UInt8}
    (stripped : stripPadding raw = .ok (padding, octets)) : octets.length ≤ raw.payload.length := by
  rw [stripPadding_length stripped 0 false]
  cases padding with
  | none => exact Nat.le_refl _
  | some padding => exact Nat.le_add_right _ _

private theorem Priority.of_decode? {rest : Octets} {place : Priority}
    (decoded : decode? octets = some (place, rest)) :
    place.WellFormed ∧ octets.length = 5 + rest.length := by
  unfold decode? at decoded
  split at decoded
  · rename_i weight _
    cases decoded
    have := weight.toNat_lt
    refine ⟨⟨low31_le _, ?_⟩, by simp only [length_cons]; omega⟩
    simp only [hasValidWeight, Bool.and_eq_true, decide_eq_true_eq]
    omega
  · cases decoded

private theorem of_decodeParameters (octets : Octets) :
    (∀ parameter ∈ decodeParameters octets, parameter.1 < 65536 ∧ parameter.2 < 4294967296) ∧
      6 * (decodeParameters octets).length ≤ octets.length := by
  fun_induction decodeParameters octets with
  | case1 id1 id2 value1 value2 value3 value4 rest ih =>
    have id := ofBigEndian_lt [id1, id2]
    have value := ofBigEndian_lt [value1, value2, value3, value4]
    refine ⟨forall_mem_cons.mpr ⟨⟨by simpa using id, by simpa using value⟩, ih.1⟩, ?_⟩
    have := ih.2
    simp only [length_cons]
    omega
  | case2 => simp

private theorem of_decodeOrigin? {source rest : Octets}
    (decoded : decodeOrigin? octets = some (source, rest)) :
    source.length ≤ 65535 ∧ octets.length = 2 + source.length + rest.length := by
  unfold decodeOrigin? at decoded
  split at decoded
  · rename_i length1 length2 after
    obtain ⟨same, rfl⟩ := append_of_split? decoded
    have length := ofBigEndian_lt [length1, length2]
    rw [← same] at length
    refine ⟨Nat.le_of_lt_succ (by simpa using length), ?_⟩
    simp only [length_cons, length_append]
    omega
  · cases decoded

private theorem of_decodeOrigins? {origins : List Octets}
    (decoded : decodeOrigins? octets = some origins) :
    (∀ source ∈ origins, source.length ≤ 65535) ∧
      total (origins.map fun source => 2 + source.length) ≤ octets.length := by
  fun_induction decodeOrigins? octets generalizing origins with
  | case1 =>
    cases decoded
    simp
  | case2 => cases decoded
  | case3 octets _ source rest found ih =>
    obtain ⟨others, later, rfl⟩ := Option.map_eq_some_iff.mp decoded
    have first := of_decodeOrigin? found
    have others := ih later
    refine ⟨forall_mem_cons.mpr ⟨first.1, others.1⟩, ?_⟩
    rw [map_cons, total_cons]
    omega

private theorem blockFrames_single {kind : FrameKind} {flags : Flags} {stream : Nat}
    {front block : Octets} (short : front.length + block.length ≤ size) :
    ∃ raw, blockFrames kind flags stream (max size leastFrameLimit) front block = [raw] := by
  have rest : block.drop (max size leastFrameLimit - front.length) = [] :=
    drop_eq_nil_of_le (by omega)
  simp [blockFrames, rest, cut, continuations]

/-! ## Raw frames -/

section Raw

variable {raw : RawFrame} {size limit cap : Nat} (fits : raw.Fits size) {kind : FrameKind}

/-- The raw frame is read as a frame that a reader gives out, or turned down for a brief fault. -/
abbrev Receivable (size limit : Nat) : Except Error Reading → Prop :=
  Giving (Frame.Received size limit) (Error.Brief (limit + 4294967296))

private theorem word_lt (length : octets.length = 4) : ofBigEndian octets < 4294967296 := by
  have bound := ofBigEndian_lt octets
  rwa [length] at bound

private theorem requireStream_ok {value : Unit} (read : requireStream kind raw = .ok value) :
    raw.stream ≠ 0 := by
  unfold requireStream at read
  split at read
  · cases read
  · assumption

private theorem requireLength_ok {length : Nat} {value : Unit}
    (read : requireLength kind length raw = .ok value) :
    raw.payload.length = length := by
  unfold requireLength at read
  split at read
  · assumption
  · cases read

private theorem requireStream_brief : ∀ error, requireStream kind raw = .error error →
    error.Brief cap := by
  unfold requireStream
  split <;> rintro _ ⟨⟩
  trivial

private theorem requireLength_brief {length : Nat} (below : length < cap) :
    ∀ error, requireLength kind length raw = .error error → error.Brief cap := by
  unfold requireLength
  split <;> rintro _ ⟨⟩
  exact below

private theorem stripPadding_brief :
    ∀ error, stripPadding raw = .error error → error.Brief cap := by
  unfold stripPadding
  repeat' split
  all_goals
    rintro _ ⟨⟩
    try trivial

include fits

private theorem stream_lt : raw.stream < limit + 4294967296 := by
  have stream := fits.stream
  unfold maxStreamId at stream
  omega

private theorem requireConnection_brief :
    ∀ error, requireConnection kind raw = .error error → error.Brief (limit + 4294967296) := by
  unfold requireConnection
  split <;> rintro _ ⟨⟩
  exact stream_lt fits

private theorem namesStream {value : Unit} (stands : requireStream kind raw = .ok value) :
    NamesStream raw.stream :=
  ⟨requireStream_ok stands, fits.stream⟩

private theorem readData_received : Receivable size limit (readData raw) := by
  have payload := fits.payload
  refine giving_bind requireStream_brief fun _ stands => giving_bind stripPadding_brief
    fun read stripped => ?_
  obtain ⟨padding, octets⟩ := read
  have length := stripPadding_length stripped 0 false
  cases padding with
  | none => exact .inr ⟨⟨namesStream fits stands, length.symm.trans_le payload⟩, _, rfl⟩
  | some padding =>
    refine .inr ⟨⟨namesStream fits stands, ?_⟩, _, rfl⟩
    rw [Frame.chargedLength] at length
    omega

private theorem readHeaders_received : Receivable size limit (readHeaders raw) := by
  refine giving_bind requireStream_brief fun _ stands => giving_bind stripPadding_brief
    fun _ stripped => ?_
  have short := (stripPadding_le stripped).trans fits.payload
  have named := namesStream fits stands
  simp only
  split
  · split
    · trivial
    · rename_i place block decoded
      obtain ⟨valid, length⟩ := Priority.of_decode? decoded
      have short : place.encode.length + block.length ≤ size := by
        rw [Priority.length_encode]
        omega
      exact Reading.all_ofBlock
        (.inr ⟨⟨named, valid, Nat.le_of_add_left_le short⟩, blockFrames_single short⟩)
  · exact Reading.all_ofBlock (.inr ⟨⟨named, short⟩, blockFrames_single (by simpa using short)⟩)

private theorem readPriority_received : Receivable size limit (readPriority raw) := by
  refine giving_bind requireStream_brief fun _ stands => ?_
  split
  · rename_i decoded
    exact .inr ⟨⟨namesStream fits stands, (Priority.of_decode? decoded).1⟩, _, rfl⟩
  · show 5 < limit + 4294967296
    omega

private theorem readSettings_received : Receivable size limit (readSettings raw) := by
  refine giving_bind (requireConnection_brief fits) fun _ _ => ?_
  simp only
  split
  · trivial
  · rename_i filled
    split
    · trivial
    · obtain ⟨bounded, length⟩ := of_decodeParameters raw.payload
      refine .inr ⟨⟨fun ack => ?_, bounded, length.trans fits.payload⟩, _, rfl⟩
      have empty : raw.payload = [] := by simpa [ack] using filled
      rw [empty]
      rfl

private theorem readPushPromise_received : Receivable size limit (readPushPromise raw) := by
  refine giving_bind requireStream_brief fun _ stands => giving_bind stripPadding_brief
    fun _ stripped => ?_
  simp only
  split
  · trivial
  · rename_i promised block split
    obtain ⟨length, whole⟩ := append_of_split? split
    have short : promised.length + block.length ≤ size := by
      rw [← length_append, ← whole]
      exact (stripPadding_le stripped).trans fits.payload
    exact Reading.all_ofBlock
      (.inr ⟨⟨namesStream fits stands, low31_le _, Nat.le_of_add_left_le short⟩,
      blockFrames_single (by rwa [length_bigEndian, ← length])⟩)

private theorem readGoaway_received : Receivable size limit (readGoaway raw) := by
  have payload := fits.payload
  refine giving_bind (requireConnection_brief fits) fun _ _ => ?_
  split
  · trivial
  · rename_i fields debug split
    obtain ⟨length, whole⟩ := append_of_split? split
    have whole := congrArg List.length whole
    rw [length_append] at whole
    exact .inr ⟨⟨low31_le _, word_lt (by rw [length_drop, length]), by omega⟩, _, rfl⟩

private theorem readAltSvc_received : (readAltSvc raw).All (Frame.Received size limit) := by
  have payload := fits.payload
  unfold readAltSvc
  split
  · rename_i decoded
    obtain ⟨bound, length⟩ := of_decodeOrigin? decoded
    exact .inr ⟨⟨fits.stream, bound, by omega⟩, _, rfl⟩
  · trivial

private theorem readOrigin_received : (readOrigin raw).All (Frame.Received size limit) := by
  unfold readOrigin
  split
  · split
    · rename_i decoded
      obtain ⟨bounded, length⟩ := of_decodeOrigins? decoded
      exact .inr ⟨⟨bounded, length.trans fits.payload⟩, _, rfl⟩
    · trivial
  · trivial

theorem readRaw_received : Receivable size limit (readRaw raw) := by
  unfold readRaw
  split
  · exact readData_received fits
  · exact readHeaders_received fits
  · exact readPriority_received fits
  · exact giving_bind requireStream_brief fun _ stands =>
      giving_bind (requireLength_brief (by omega)) fun _ length =>
      .inr ⟨⟨namesStream fits stands, word_lt (requireLength_ok length)⟩, _, rfl⟩
  · exact readSettings_received fits
  · exact readPushPromise_received fits
  · exact giving_bind (requireConnection_brief fits) fun _ _ =>
      giving_bind (requireLength_brief (by omega)) fun _ _ =>
      .inr ⟨trivial, _, rfl⟩
  · exact readGoaway_received fits
  · exact giving_bind (requireLength_brief (by omega)) fun _ _ =>
      .inr ⟨⟨fits.stream, low31_le _⟩, _, rfl⟩
  · exact stream_lt fits
  · exact readAltSvc_received fits
  · exact readOrigin_received fits
  · rename_i unknown
    exact .inr ⟨⟨unknown, fits.stream, fits.payload⟩, _, rfl⟩

end Raw

/-! ## Readers -/

theorem Frame.WellFormed.resize {room : Nat} (wellFormed : block.frame.WellFormed size room)
    (short : octets.length ≤ limit) :
    { block with block := octets }.frame.WellFormed size limit := by
  obtain ⟨stream, endStream, place, promised, octets⟩ := block
  cases promised with
  | some promised => exact ⟨wellFormed.1, wellFormed.2.1, short⟩
  | none =>
    cases place with
    | none => exact ⟨wellFormed.1, short⟩
    | some place => exact ⟨wellFormed.1, wellFormed.2.1, short⟩

theorem Frame.WellFormed.block_le {room : Nat} (wellFormed : block.frame.WellFormed size room) :
    block.stream ≤ maxStreamId ∧ block.block.length ≤ room := by
  obtain ⟨stream, endStream, place, promised, octets⟩ := block
  cases promised with
  | some promised => exact ⟨wellFormed.1.2, wellFormed.2.2⟩
  | none =>
    cases place with
    | none => exact ⟨wellFormed.1.2, wellFormed.2⟩
    | some place => exact ⟨wellFormed.1.2, wellFormed.2.2⟩

theorem Frame.Received.block_le (received : block.frame.Received size limit) :
    block.stream ≤ maxStreamId ∧ block.block.length ≤ limit + size := by
  rcases received with wellFormed | ⟨wellFormed, -⟩
  · exact ⟨wellFormed.block_le.1, Nat.le_add_right_of_le wellFormed.block_le.2⟩
  · exact ⟨wellFormed.block_le.1, Nat.le_add_left_of_le wellFormed.block_le.2⟩

theorem Frame.Received.joined (received : block.frame.Received size limit)
    (short : octets.length ≤ limit) :
    { block with block := octets }.frame.Received size limit := by
  rcases received with wellFormed | ⟨wellFormed, -⟩ <;> exact .inl (wellFormed.resize short)

/-- The header block that the reader has begun, if any, is such as it gives out. -/
structure Reader.Keeps (size limit : Nat) (reader : Reader) : Prop where
  same : reader.blockLimit = limit
  begun : Begun (Frame.Received size limit) reader.pending

section Receiving

variable {size limit : Nat} (bounded : size ≤ greatestFrameLimit)

include bounded

theorem accept_received {pending : Option PartialBlock} {raw : RawFrame} (fits : raw.Fits size)
    (begun : Begun (Frame.Received size limit) pending) :
    Finds (Frame.Received size limit) (Error.Brief (limit + 4294967296))
      (accept limit pending raw).1 ∧
      Begun (Frame.Received size limit) (accept limit pending raw).2 := by
  have nothing := begun_none (Frame.Received size limit)
  have started : ∀ block : PartialBlock, block.frame.Received size limit →
      Begun (Frame.Received size limit) (some block) := by
    rintro _ begun _ ⟨⟩
    exact begun
  have greatest : greatestFrameLimit = 16777215 := rfl
  have numbers : maxStreamId = 2147483647 := rfl
  have stream := fits.stream
  unfold accept
  split
  · rename_i block
    have begun := begun block rfl
    have sized := begun.block_le
    unfold continueBlock
    simp only
    split
    · split
      · exact ⟨⟨by omega, by omega⟩, nothing⟩
      · rcases checkBlock_cases limit (block.block ++ raw.payload) with large | ⟨short, bound⟩
        · rw [large]
          refine ⟨⟨?_, by omega⟩, nothing⟩
          have payload := fits.payload
          rw [length_append]
          omega
        · have joined := begun.joined bound
          rw [short]
          simp only
          split
          · exact ⟨joined, nothing⟩
          · exact ⟨trivial, started _ joined⟩
    · refine ⟨?_, started _ begun⟩
      show block.stream < _
      omega
  · have reads := @readRaw_received raw _ limit fits
    split <;> rename_i read <;> rw [read] at reads
    · exact ⟨reads, nothing⟩
    · exact ⟨reads, nothing⟩
    · rename_i block
      unfold beginBlock
      rcases checkBlock_cases limit block.block with large | ⟨short, -⟩
      · rw [large]
        have sized := reads.block_le
        exact ⟨⟨by omega, by omega⟩, nothing⟩
      · rw [short]
        exact ⟨trivial, started _ reads⟩
    · exact ⟨trivial, nothing⟩

private theorem nextFrame_received {reader : Reader}
    (reads : min reader.frameLimit greatestFrameLimit ≤ size) (keeps : reader.Keeps size limit) :
    Finds (Frame.Received size limit) (Error.Brief (limit + 4294967296)) reader.nextFrame.1 ∧
      reader.nextFrame.2.Keeps size limit := by
  have accepted := fun {raw pending} => @accept_received size limit bounded pending raw
  have fits : ∀ {octets raw rest}, RawFrame.decode? reader.frameLimit octets =
      .ok (some (raw, rest)) →
      raw.Fits size := by
    intro octets raw rest decoded
    obtain ⟨payload, stream⟩ := (RawFrame.of_decode? decoded).1
    exact ⟨payload.trans reads, stream⟩
  fun_induction Reader.nextFrame reader with
  | case1 reader error failed =>
    obtain ⟨⟨long, large, bound, rfl⟩, -⟩ := RawFrame.of_decode?_error failed
    have greatest : greatestFrameLimit = 16777215 := rfl
    exact ⟨⟨by omega, by omega⟩, keeps⟩
  | case2 => exact ⟨trivial, keeps⟩
  | case3 reader raw rest next error pending read | case4 reader raw rest next frame pending read =>
    have kept := accepted (fits next) keeps.begun
    rw [keeps.same] at read
    rw [read] at kept
    exact ⟨kept.1, keeps.same, kept.2⟩
  | case5 reader raw rest next pending read ih =>
    have kept := accepted (fits next) keeps.begun
    rw [keeps.same] at read
    rw [read] at kept
    exact ih reads ⟨keeps.same, kept.2⟩ fits

theorem next_received {reader after : Reader} {outcome : Except Error (Option Frame)}
    (read : reader.next = (outcome, after))
    (reads : min reader.frameLimit greatestFrameLimit ≤ size) (keeps : reader.Keeps size limit) :
    Finds (Frame.Received size limit) (Error.Brief (limit + 4294967296)) outcome ∧
    after.Keeps size limit := by
  unfold Reader.next Reader.takePreface at read
  split at read <;> rename_i middle taken <;> repeat' split at taken
  all_goals cases taken
  · cases read
    exact ⟨trivial, keeps⟩
  · cases read
    exact ⟨trivial, keeps⟩
  · have kept := nextFrame_received bounded reads keeps
    rwa [read] at kept
  · have kept := @nextFrame_received size limit bounded
      { reader with buffer := reader.buffer.drop preface.length, prefaceDue := false } reads
      ⟨keeps.same, keeps.begun⟩
    rwa [read] at kept

end Receiving

/-! ## Numbers in received frames -/

/-- A frame as the peer can send it: where it names a stream, the number fits, and it is no larger
than a raw frame behind a header block of the limit. -/
def Frame.Addressed (limit : Nat) : Frame → Prop
  | data id octets .. => NamesStream id ∧ octets.length ≤ greatestFrameLimit
  | headers id _ block _ => NamesStream id ∧ block.length ≤ limit + greatestFrameLimit
  | priority id _ | rstStream id _ => NamesStream id
  | pushPromise id promised block =>
    id ≤ maxStreamId ∧ promised ≤ maxStreamId ∧ block.length ≤ limit + greatestFrameLimit
  | windowUpdate id _ => id ≤ maxStreamId
  | settings _ parameters => ∀ parameter ∈ parameters, parameter.2 < 4294967296
  | _ => True

theorem Frame.Received.addressed {frame : Frame}
    (received : frame.Received greatestFrameLimit limit) :
    frame.Addressed limit := by
  obtain ⟨room, wellFormed, bound⟩ : ∃ room, frame.WellFormed greatestFrameLimit room ∧
      room ≤ limit + greatestFrameLimit := by
    rcases received with wellFormed | ⟨wellFormed, -⟩
    · exact ⟨_, wellFormed, Nat.le_add_right _ _⟩
    · exact ⟨_, wellFormed, Nat.le_add_left _ _⟩
  cases frame with
  | data id octets endStream padding =>
    cases padding with
    | none => exact wellFormed
    | some padding => exact ⟨wellFormed.1, by have := wellFormed.2; omega⟩
  | headers id place block endStream =>
    cases place with
    | none => exact ⟨wellFormed.1, wellFormed.2.trans bound⟩
    | some place => exact ⟨wellFormed.1, wellFormed.2.2.trans bound⟩
  | pushPromise => exact ⟨wellFormed.1.2, wellFormed.2.1, wellFormed.2.2.trans bound⟩
  | settings => exact fun parameter member => (wellFormed.2.1 parameter member).2
  | priority | rstStream | windowUpdate => exact wellFormed.1
  | ping | goaway | altSvc | origin | unknown => trivial

end Http2
