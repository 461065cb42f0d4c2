import Http2.Proofs.Fragments

/-!
# What a reader has taken in

A reader takes whole raw frames off the octets that it is fed, in whatever portions they come, and
keeps only those behind the last of them and the header block that is still open.  So the room that
it needs is bounded by its limits, however much it is fed.  Of the blocks that it gives out, those
that came in several raw frames are within the limit on blocks; one that came whole in a single raw
frame is never measured against it.  Every frame that it gives out is such that the octets written
for it are read as the same frame again.
-/

namespace Http2

open List

private theorem PartialBlock.block?_frame (block : PartialBlock) :
    block.frame.block? = some (block.stream, block.block) := by
  unfold frame
  split <;> rfl

private theorem Frame.exists_partialBlock {frame : Frame} {id : Nat} {octets : Octets}
    (carries : frame.block? = some (id, octets)) :
    ∃ block : PartialBlock, block.frame = frame ∧ block.block = octets := by
  cases frame with
  | headers id place block endStream =>
    cases carries
    exact ⟨⟨id, endStream, place, none, octets⟩, rfl, rfl⟩
  | pushPromise id promised block =>
    cases carries
    exact ⟨⟨id, false, none, some promised, octets⟩, rfl, rfl⟩
  | _ => cases carries

namespace Reader

/-- Raw frames taken in one after the other, with the frames that they completed and the header
block that is still open. -/
inductive Gathers (size limit : Nat) : List Octets → List Frame → Option PartialBlock → Prop
  | none : Gathers size limit [] [] none
  | take {pieces : List Octets} {frames : List Frame} {pending after : Option PartialBlock}
      {piece : Octets}
      {raw : RawFrame} {found : Option Frame} (gathers : Gathers size limit pieces frames pending)
      (whole : RawFrame.decode? size piece = .ok (some (raw, [])))
      (accepted : accept limit pending raw = (.ok found, after)) :
      Gathers size limit (pieces ++ [piece]) (frames ++ found.toList) after

/-- Portions that were processed in turn without a fault, with the frames found in them. -/
inductive Processed (start : Reader) : List Octets → List Frame → Reader → Prop
  | none : Processed start [] [] start
  | next {portions : List Octets} {portion : Octets} {frames found : List Frame}
      {reader after : Reader} (processed : Processed start portions frames reader)
      (read : reader.process portion = (.ok found, after)) :
      Processed start (portions ++ [portion]) (frames ++ found) after

/-- What a reader has made of the octets that it was fed from the start. -/
structure Took (start : Reader) (octets : Octets) (pieces : List Octets) (frames : List Frame)
    (reader : Reader) : Prop where
  frameLimit : reader.frameLimit = start.frameLimit
  blockLimit : reader.blockLimit = start.blockLimit
  split : octets = (if reader.prefaceDue then [] else start.awaits) ++ pieces.flatten ++
    reader.buffer
  gathers : Gathers start.frameLimit start.blockLimit pieces frames reader.pending
  due : reader.prefaceDue → start.prefaceDue ∧ pieces = []

/-- The reader has no use for the octets at hand before more of them come. -/
def Waits (reader : Reader) :
    Prop := reader.buffer.length < max preface.length (FrameHead.size + reader.frameLimit)

namespace Took

variable {start reader after : Reader} {octets : Octets} {pieces : List Octets}
  {frames : List Frame} {found : Option Frame}

variable (took : Took start octets pieces frames reader)

include took

theorem feed (more : Octets) : Took start (octets ++ more) pieces frames (reader.feed more) where
  frameLimit := took.frameLimit
  blockLimit := took.blockLimit
  split := by
    rw [took.split, append_assoc]
    rfl
  gathers := took.gathers
  due := took.due

theorem raw (past : reader.prefaceDue = false) {raw : RawFrame} {rest : Octets}
    {pending : Option PartialBlock}
    (decoded : RawFrame.decode? reader.frameLimit reader.buffer = .ok (some (raw, rest)))
    (accepted : accept reader.blockLimit reader.pending raw = (.ok found, pending)) :
    ∃ piece, Took start octets (pieces ++ [piece]) (frames ++ found.toList)
      { reader with buffer := rest, pending } := by
  obtain ⟨-, piece, split, -, reads⟩ := RawFrame.of_decode? decoded
  have whole := reads []
  rw [append_nil, took.frameLimit] at whole
  rw [took.blockLimit] at accepted
  refine ⟨piece, took.frameLimit, took.blockLimit, ?_, took.gathers.take whole accepted,
    fun due => ?_⟩
  · rw [took.split, split]
    simp
  · cases past.symm.trans due

theorem nextFrame (past : reader.prefaceDue = false)
    (read : reader.nextFrame = (.ok found, after)) :
    ∃ more, Took start octets (pieces ++ more) (frames ++ found.toList) after ∧
    (found = none → after.Waits) := by
  fun_induction Reader.nextFrame reader generalizing pieces with
  | case1 | case3 => cases read
  | case2 reader missing =>
    cases read
    refine ⟨[], by simpa using took, fun _ => ?_⟩
    exact Nat.lt_of_lt_of_le (RawFrame.length_of_decode?_none missing) (Nat.le_max_right _ _)
  | case4 reader raw rest decoded frame pending accepted =>
    cases read
    obtain ⟨piece, took⟩ := took.raw past decoded accepted
    exact ⟨[piece], took, fun none => by cases none⟩
  | case5 reader raw rest decoded pending accepted ih =>
    obtain ⟨piece, took⟩ := took.raw past decoded accepted
    rw [Option.toList_none, append_nil] at took
    obtain ⟨more, took, waits⟩ := ih took past read
    rw [append_assoc] at took
    exact ⟨piece :: more, took, waits⟩

theorem next (read : reader.next = (.ok found, after)) :
    ∃ more, Took start octets (pieces ++ more) (frames ++ found.toList) after ∧
    (found = none → after.Waits) := by
  cases due : reader.prefaceDue with
  | false =>
    rw [next_of_started reader due] at read
    exact took.nextFrame due read
  | true =>
    obtain ⟨expected, rfl⟩ := took.due due
    cases whole : startsWithPreface reader.buffer with
    | true =>
      obtain ⟨rest, split⟩ := isPrefixOf_iff_prefix.mp whole
      rw [next_of_preface reader due split.symm] at read
      have past :
          Took start octets [] frames { reader with buffer := rest, prefaceDue := false } := by
        refine ⟨took.frameLimit, took.blockLimit, ?_, took.gathers, fun due => by cases due⟩
        rw [took.split, due, ← split]
        simp [awaits, expected]
      exact past.nextFrame rfl read
    | false =>
      cases part : reader.buffer.isPrefixOf preface with
      | true =>
        rw [next_of_partial reader due whole part] at read
        cases read
        refine ⟨[], by simpa using took, fun _ => Nat.lt_of_lt_of_le ?_ (Nat.le_max_left _ _)⟩
        have part := isPrefixOf_iff_prefix.mp part
        refine Nat.lt_of_le_of_ne part.length_le fun same => Bool.false_ne_true ?_
        rw [← whole, part.eq_of_length same]
        decide
      | false => simp [Reader.next, takePreface, due, whole, part] at read

omit took in
theorem drain {earlier all : List Frame}
    (took : Took start octets pieces (frames ++ earlier.reverse) reader)
    (read : reader.drain earlier = (.ok all, after)) :
    ∃ more, Took start octets (pieces ++ more) (frames ++ all) after ∧ after.Waits := by
  fun_induction Reader.drain reader earlier generalizing pieces with
  | case1 => cases read
  | case2 reader earlier after next =>
    cases read
    obtain ⟨more, took, waits⟩ := took.next next
    rw [Option.toList_none, append_nil] at took
    exact ⟨more, took, waits rfl⟩
  | case3 reader earlier frame after next ih =>
    obtain ⟨more, took, -⟩ := took.next next
    obtain ⟨others, took, waits⟩ := ih (by simpa using took) read
    rw [append_assoc] at took
    exact ⟨more ++ others, took, waits⟩

theorem process {portion : Octets} {all : List Frame}
    (read : reader.process portion = (.ok all, after)) :
    ∃ more, Took start (octets ++ portion) (pieces ++ more) (frames ++ all) after ∧
    after.Waits := by
  have fed := took.feed portion
  rw [← append_nil frames] at fed
  have read : (reader.feed portion).drain [] = (.ok all, after) := read
  exact fed.drain read

end Took

theorem Processed.took {due : Bool} {frameLimit blockLimit : Nat} {portions : List Octets}
    {frames : List Frame} {reader : Reader}
    (processed : Processed { prefaceDue := due, frameLimit, blockLimit } portions frames reader) :
    ∃ pieces,
      Took { prefaceDue := due, frameLimit, blockLimit } portions.flatten pieces frames reader ∧
      reader.Waits := by
  induction processed with
  | none =>
    refine ⟨[], ⟨rfl, rfl, ?_, .none, fun due => ⟨due, rfl⟩⟩, Nat.lt_of_lt_of_le ?_
      (Nat.le_max_left _ _)⟩
    · cases due <;> rfl
    · show 0 < preface.length
      decide
  | @next portions portion frames found reader after _ read ih =>
    obtain ⟨pieces, took, -⟩ := ih
    obtain ⟨more, took, waits⟩ := took.process read
    rw [flatten_append, flatten_singleton]
    exact ⟨_, took, waits⟩

/-! ## Rounds -/

def again? (reader : Reader) : Option Reader :=
  match RawFrame.decode? reader.frameLimit reader.buffer with
  | .ok (some (raw, rest)) =>
    match accept reader.blockLimit reader.pending raw with
    | (.ok none, pending) => some { reader with buffer := rest, pending }
    | _ => none
  | _ => none

/-- Rounds of the search for a frame, each of which takes off one whole raw frame. -/
inductive Rounds : Reader → List Octets → Reader → Prop
  | none {reader : Reader} : Rounds reader [] reader
  | round {reader again last : Reader} {piece : Octets} {raw : RawFrame} {pieces : List Octets}
      (goes : reader.again? = some again) (split : reader.buffer = piece ++ again.buffer)
      (whole : RawFrame.decode? reader.frameLimit piece = .ok (some (raw, [])))
      (later : Rounds again pieces last) : Rounds reader (piece :: pieces) last

private theorem of_again? {reader again : Reader} (goes : reader.again? = some again) :
    reader.nextFrame = again.nextFrame ∧ ∃ piece raw, reader.buffer = piece ++ again.buffer ∧
      FrameHead.size ≤ piece.length ∧ RawFrame.decode? reader.frameLimit piece =
        .ok (some (raw, [])) := by
  unfold again? at goes
  split at goes
  · rename_i raw rest decoded
    split at goes
    · rename_i pending accepted
      cases goes
      obtain ⟨-, piece, split, length, reads⟩ := RawFrame.of_decode? decoded
      have whole := reads []
      rw [append_nil] at whole
      refine ⟨?_, piece, raw, split, by omega, whole⟩
      rw [nextFrame_eq, decoded]
      simp only [accepted, onward]
    · cases goes
  · cases goes

private theorem exists_rounds (reader : Reader) :
    ∃ pieces last, Rounds reader pieces last ∧ last.again? = none ∧
    reader.nextFrame = last.nextFrame ∧
      FrameHead.size * pieces.length ≤ reader.buffer.length := by
  induction length : reader.buffer.length using Nat.strongRecOn generalizing reader with
  | _ length ih =>
    subst length
    cases goes : reader.again? with
    | none => exact ⟨[], reader, .none, goes, rfl, Nat.zero_le _⟩
    | some again =>
      obtain ⟨same, piece, raw, split, long, whole⟩ := of_again? goes
      have shorter := congrArg List.length split
      rw [length_append] at shorter
      have size : FrameHead.size = 9 := rfl
      obtain ⟨pieces, last, rounds, stops, last_same, few⟩ := ih _ (by omega) again rfl
      refine ⟨piece :: pieces, last, .round goes split whole rounds, stops,
        same.trans last_same, ?_⟩
      rw [length_cons, Nat.mul_succ]
      omega

/-! ## Limits -/

section Limits

variable {due : Bool} {frameLimit blockLimit limit size : Nat} {portions pieces : List Octets}
  {frames : List Frame} {reader : Reader} {pending : Option PartialBlock}

/-- A header block is measured with every further fragment, and not if it comes whole. -/
theorem accept_measured {after : Option PartialBlock} {raw : RawFrame} {found : Option Frame}
    (accepted : accept limit pending raw = (.ok found, after)) :
    (∀ block, after = some block → block.block.length ≤ limit) ∧
      ∀ frame ∈ found, readRaw raw = .ok (.frame frame) ∨
        ∃ block : PartialBlock, block.frame = frame ∧ block.block.length ≤ limit := by
  unfold accept at accepted
  split at accepted
  · rename_i block
    split at accepted
    · unfold continueBlock at accepted
      split at accepted
      · cases accepted
      · rcases checkBlock_cases limit (block.block ++ raw.payload) with large | ⟨short, bound⟩
        · simp [large] at accepted
        · simp only [short] at accepted
          split at accepted <;> cases accepted
          · exact ⟨by simp, fun frame same => .inr ⟨_, Option.some.inj same, bound⟩⟩
          · exact ⟨fun block same => Option.some.inj same ▸ bound, by simp⟩
    · cases accepted
  · split at accepted <;> rename_i read
    · cases accepted
    · cases accepted
      exact ⟨by simp, fun frame same => .inl (Option.some.inj same ▸ read)⟩
    · rename_i block
      unfold beginBlock at accepted
      rcases checkBlock_cases limit block.block with large | ⟨short, bound⟩
      · simp [large] at accepted
      · simp only [short] at accepted
        cases accepted
        exact ⟨fun block same => Option.some.inj same ▸ bound, by simp⟩
    · cases accepted
      exact ⟨by simp, by simp⟩

theorem Gathers.open_le {block : PartialBlock}
    (gathers : Gathers size limit pieces frames (some block)) :
    block.block.length ≤ limit := by
  cases gathers with
  | take _ _ accepted => exact (accept_measured accepted).1 _ rfl

theorem Gathers.whole (gathers : Gathers size limit pieces frames pending) :
    ∀ piece ∈ pieces, ∃ raw, RawFrame.decode? size piece = .ok (some (raw, [])) := by
  induction gathers with
  | none => simp
  | take _ whole _ ih => exact forall_mem_append.mpr ⟨ih, forall_mem_singleton.mpr ⟨_, whole⟩⟩

/-- However much a reader is fed, it keeps less than the preface or the largest frame that it takes,
and an open header block of no more than the limit.  What it keeps is the end of what it was fed,
behind whole raw frames, and each round in which it looks for a frame takes one of these. -/
theorem memory_bounded
    (processed : Processed { prefaceDue := due, frameLimit, blockLimit } portions frames reader) :
    reader.buffer.length < max 24 (9 + frameLimit) ∧
    (∀ block, reader.pending = some block → block.block.length ≤ blockLimit) ∧
    (∃ pieces : List Octets,
      portions.flatten = (if due && !reader.prefaceDue then preface else []) ++
        pieces.flatten ++ reader.buffer ∧
      ∀ piece ∈ pieces, ∃ raw, RawFrame.decode? frameLimit piece = .ok (some (raw, []))) ∧
    ∀ any : Reader, ∃ pieces last, Rounds any pieces last ∧ last.again? = none ∧
      any.nextFrame = last.nextFrame ∧ 9 * pieces.length ≤ any.buffer.length := by
  obtain ⟨pieces, took, waits⟩ := processed.took
  refine ⟨?_, fun block same => ?_, ⟨pieces, ?_, took.gathers.whole⟩, exists_rounds⟩
  · rw [Waits, took.frameLimit] at waits
    exact waits
  · have gathers := took.gathers
    rw [same] at gathers
    exact gathers.open_le
  · rw [took.split]
    cases reader.prefaceDue <;> simp [awaits]

/-- A server that has part of the preface, then an open header block, and then part of a head. -/
theorem memory_bounded_waiting :
    ∃ reader, Processed { prefaceDue := true, blockLimit := 4 } [preface.take 10,
        preface.drop 10 ++ [0, 0, 3, 1, 0, 0, 0, 0, 1, 0x82, 0x86, 0x84], [0, 0, 3, 9, 0]] []
          reader ∧
      reader.buffer = [0, 0, 3, 9, 0] ∧ reader.buffer.length < max 24 (9 + 16384) ∧
      ∀ block, reader.pending = some block → block.block.length ≤ 4 := by
  have first : process { prefaceDue := true, blockLimit := 4 } (preface.take 10) =
      (.ok [], { buffer := preface.take 10, prefaceDue := true, blockLimit := 4 }) := by
      decide +kernel
  have second : process { buffer := preface.take 10, prefaceDue := true, blockLimit := 4 }
      (preface.drop 10 ++ [0, 0, 3, 1, 0, 0, 0, 0, 1, 0x82, 0x86, 0x84]) =
      (.ok [], ⟨[], false, 16384, 4, some ⟨1, false, none, none, [0x82, 0x86, 0x84]⟩⟩) := by
      decide +kernel
  have third : process ⟨[], false, 16384, 4, some ⟨1, false, none, none, [0x82, 0x86, 0x84]⟩⟩
      [0, 0, 3, 9, 0] =
      (.ok [], ⟨[0, 0, 3, 9, 0], false, 16384, 4,
        some ⟨1, false, none, none, [0x82, 0x86, 0x84]⟩⟩) := by
    decide +kernel
  have processed := ((Processed.none.next first).next second).next third
  have bounded := memory_bounded processed
  exact ⟨_, processed, rfl, bounded.1, bounded.2.1⟩

/-! ## Header blocks -/

theorem Gathers.origin (gathers : Gathers size limit pieces frames pending) :
    ∀ frame ∈ frames, (∃ piece ∈ pieces, ∃ raw, RawFrame.decode? size piece = .ok (some (raw, [])) ∧
        readRaw raw = .ok (.frame frame)) ∨
      ∃ block : PartialBlock, block.frame = frame ∧ block.block.length ≤ limit := by
  induction gathers with
  | none => simp
  | @take pieces frames _ _ piece raw found _ whole accepted ih =>
    refine forall_mem_append.mpr ⟨fun frame member => ?_, fun frame member => ?_⟩
    · refine (ih frame member).imp_left ?_
      rintro ⟨piece, member, rest⟩
      exact ⟨piece, mem_append_left _ member, rest⟩
    · refine ((accept_measured accepted).2 frame (Option.mem_toList.mp member)).imp_left fun read =>
        ?_
      exact ⟨piece, mem_append_right _ (mem_singleton_self _), raw, whole, read⟩

/-- The raw frame begins a header block that is to be continued, or continues the one that is open,
and makes it longer than the limit. -/
def Outgrown (limit : Nat) (pending : Option PartialBlock) (raw : RawFrame) : Prop :=
  match pending with
  | none => ∃ block, readRaw raw = .ok (.started block) ∧ limit < block.block.length
  | some block => raw.Continues block.stream ∧ limit < (block.block ++ raw.payload).length

private theorem accept_outgrown {raw : RawFrame} (outgrown : Outgrown limit pending raw) :
    ∃ error, accept limit pending raw = (.error error, none) ∧ error.reason = .enhanceYourCalm := by
  cases pending with
  | none =>
    obtain ⟨block, read, long⟩ := outgrown
    refine ⟨.connection (.blockTooLarge block.block.length limit), ?_, rfl⟩
    simp only [accept, read, beginBlock, checkBlock, if_pos long]
  | some block =>
    obtain ⟨continues, long⟩ := outgrown
    refine ⟨.connection (.blockTooLarge (block.block ++ raw.payload).length limit), ?_, rfl⟩
    simp only [accept, continueBlock, checkBlock, if_pos continues.kind, continues.same, ne_eq,
      not_true, if_false, if_pos long]

/-- Every header block that a reader joins is within its limit, and one that outgrows it ends in a
fault.  Only a block that came whole in one raw frame may be longer, up to the limit on frames. -/
theorem header_blocks_measured
    (processed : Processed { prefaceDue := due, frameLimit, blockLimit } portions frames reader) :
    (∃ pieces : List Octets,
      portions.flatten = (if due && !reader.prefaceDue then preface else []) ++
        pieces.flatten ++ reader.buffer ∧
      ∀ frame ∈ frames, ∀ id block, frame.block? = some (id, block) → block.length ≤ blockLimit ∨
        block.length ≤ frameLimit ∧ ∃ piece ∈ pieces, ∃ raw,
          RawFrame.decode? frameLimit piece = .ok (some (raw, [])) ∧
          readRaw raw = .ok (.frame frame)) ∧
    ∀ portion piece rest raw, reader.prefaceDue = false → reader.buffer ++ portion = piece ++ rest →
      RawFrame.decode? frameLimit piece = .ok (some (raw, [])) →
      Outgrown blockLimit reader.pending raw →
      ∃ error, reader.process portion =
        (.error error, { reader with buffer := rest, pending := none }) ∧
        error.reason = .enhanceYourCalm := by
  obtain ⟨pieces, took, -⟩ := processed.took
  refine ⟨⟨pieces, ?_, fun frame member id octets carries => ?_⟩, ?_⟩
  · rw [took.split]
    cases reader.prefaceDue <;> simp [awaits]
  · rcases took.gathers.origin frame member with ⟨piece, among, raw, whole,
      read⟩ | ⟨block, rfl, short⟩
    · refine .inr ⟨?_, piece, among, raw, whole, read⟩
      obtain ⟨block, rfl, rfl⟩ := Frame.exists_partialBlock carries
      obtain ⟨payload, stream⟩ := (RawFrame.of_decode? whole).1
      have received :=
        @readRaw_received raw frameLimit 0 ⟨payload.trans (Nat.min_le_left _ _), stream⟩
      rw [read] at received
      exact received.block_le.2.trans (Nat.zero_add _).le
    · rw [block.block?_frame] at carries
      cases carries
      exact .inl short
  · intro portion piece rest raw past split whole outgrown
    obtain ⟨error, failed, reason⟩ := accept_outgrown outgrown
    obtain ⟨-, front, same, -, reads⟩ := RawFrame.of_decode? whole
    rw [List.append_nil] at same
    have decoded : RawFrame.decode? (reader.feed portion).frameLimit (reader.feed portion).buffer =
        .ok (some (raw, rest)) := by
      rw [buffer_feed, split, same]
      exact took.frameLimit ▸ reads rest
    have failed : accept (reader.feed portion).blockLimit (reader.feed portion).pending raw =
        (.error error, none) :=
      took.blockLimit ▸ failed
    refine ⟨error, ?_, reason⟩
    rw [process, drain_eq, next_of_started (reader.feed portion) past, nextFrame_eq, decoded]
    simp only [failed, onward, drainOn]
    rfl

private theorem processed_whole :
    Processed { blockLimit := 2 } [[0, 0, 3, 1, 4, 0, 0, 0, 1, 0x82, 0x86, 0x84]]
    [.headers 1 none [0x82, 0x86, 0x84] false] { blockLimit := 2 } :=
  .next .none (by decide +kernel)

/-- A block that came whole and is too long by one octet, and one as long that is not yet whole. -/
theorem header_blocks_measured_whole :
    Processed { blockLimit := 2 } [[0, 0, 3, 1, 4, 0, 0, 0, 1, 0x82, 0x86, 0x84]]
        [.headers 1 none [0x82, 0x86, 0x84] false] { blockLimit := 2 } ∧
      ∃ error, process { blockLimit := 2 } [0, 0, 3, 1, 0, 0, 0, 0, 3, 0x82, 0x86, 0x84] =
        (.error error, { blockLimit := 2 }) ∧ error.reason = .enhanceYourCalm := by
  have measured := (header_blocks_measured processed_whole).2
  refine ⟨processed_whole,
    measured _ _ [] ⟨1, 0, 3, [0x82, 0x86, 0x84]⟩ rfl (List.append_nil _).symm
    (by decide +kernel) ?_⟩
  exact ⟨⟨3, false, none, none, [0x82, 0x86, 0x84]⟩, rfl, by decide⟩

theorem header_blocks_exceed_limit :
    ¬ ∀ (blockLimit : Nat) (portions : List Octets) (frames : List Frame) (reader : Reader),
      Processed { blockLimit } portions frames reader →
      ∀ frame ∈ frames, ∀ id block, frame.block? = some (id, block) →
      block.length ≤ blockLimit := by
  intro within
  have short := within 2 _ _ _ processed_whole _ (List.mem_singleton_self _) _ _ rfl
  exact absurd short (by decide)

/-! ## Writing what was read -/

theorem Gathers.received (gathers : Gathers size limit pieces frames pending)
    (bounded : size ≤ greatestFrameLimit) :
    (∀ frame ∈ frames, frame.Received size limit) ∧ Begun (Frame.Received size limit) pending := by
  induction gathers with
  | none => exact ⟨by simp, begun_none _⟩
  | take _ whole accepted ih =>
    obtain ⟨payload, stream⟩ := (RawFrame.of_decode? whole).1
    have received := accept_received bounded ⟨payload.trans (Nat.min_le_left _ _), stream⟩ ih.2
    rw [accepted] at received
    refine ⟨forall_mem_append.mpr ⟨ih.1, fun frame member => ?_⟩, received.2⟩
    cases Option.mem_toList.mp member
    exact received.1

private theorem nextFrame_reencoded {frame : Frame} (least : leastFrameLimit ≤ reader.frameLimit)
    (greatest : reader.frameLimit ≤ greatestFrameLimit)
    (received : frame.Received reader.frameLimit reader.blockLimit) (rest : Octets) :
    nextFrame { reader with buffer := frame.encode reader.frameLimit ++ rest, pending := none } =
      (.ok (some frame), { reader with buffer := rest, pending := none }) := by
  rcases received with wellFormed | ⟨wellFormed, raw, single⟩
  · exact nextFrame_encode least (Nat.le_refl _) greatest wellFormed rest
  · obtain ⟨fits, read⟩ := Frame.readRaw_of_single least wellFormed single
    rw [Frame.encode, single, flatMap_singleton]
    exact nextFrame_of_complete fits greatest (accept_frame read)

/-- Whatever frames a reader makes of octets in any portions, the octets that are written for these
frames are read as the same frames, and nothing is left over. -/
theorem process_reencoded (least : leastFrameLimit ≤ frameLimit)
    (greatest : frameLimit ≤ greatestFrameLimit)
    (processed : Processed { prefaceDue := due, frameLimit, blockLimit } portions frames reader) :
    process { frameLimit, blockLimit } (frames.flatMap (Frame.encode frameLimit)) =
      (.ok frames, { frameLimit, blockLimit }) := by
  obtain ⟨pieces, took, -⟩ := processed.took
  have received := (took.gathers.received greatest).1
  exact @drain_each { frameLimit, blockLimit } frames rfl
    (fun frame member => nextFrame_reencoded least greatest (received frame member)) []

/-- Padding, a reserved bit, flags without a meaning, a last octet that begins no origin, and a
header block that is longer than the limit on blocks. -/
theorem process_reencoded_untidy :
    ∃ reader, Processed { blockLimit := 2 } [[0, 0, 4, 0, 0x4a, 0x80, 0, 0, 1, 1, 7, 8, 0] ++
        [0, 0, 4, 12, 0xff, 0, 0, 0, 0, 0, 1, 97, 5] ++
          [0, 0, 3, 1, 0xd4, 0, 0, 0, 1, 0x82, 0x86, 0x84]]
        [.data 1 [7, 8] false (some 1), .origin [[97]], .headers 1 none [0x82, 0x86, 0x84] false]
          reader ∧
      process { blockLimit := 2 } ([.data 1 [7, 8] false (some 1), .origin [[97]],
          .headers 1 none [0x82, 0x86, 0x84] false].flatMap (Frame.encode leastFrameLimit)) =
        (.ok [.data 1 [7, 8] false (some 1), .origin [[97]],
          .headers 1 none [0x82, 0x86, 0x84] false], { blockLimit := 2 }) := by
  have processed : Processed { blockLimit := 2 } [[0, 0, 4, 0, 0x4a, 0x80, 0, 0, 1, 1, 7, 8, 0] ++
      [0, 0, 4, 12, 0xff, 0, 0, 0, 0, 0, 1, 97, 5] ++ [0, 0, 3, 1, 0xd4, 0, 0, 0,
        1, 0x82, 0x86, 0x84]]
      [.data 1 [7, 8] false (some 1), .origin [[97]], .headers 1 none [0x82, 0x86, 0x84] false]
      { blockLimit := 2 } := .next .none (by decide +kernel)
  exact ⟨_, processed, process_reencoded (by decide) (by decide) processed⟩

end Limits

end Reader

end Http2
