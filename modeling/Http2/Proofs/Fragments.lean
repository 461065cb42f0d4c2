import Http2.Proofs.Legibility
import Mathlib.Order.Nat

/-!
# Header blocks in fragments

A header block may be cut anywhere, also into empty fragments.  Its first fragment stands in a
HEADERS or PUSH_PROMISE frame, behind a priority or the promised stream and before the padding; the
others are the payloads of CONTINUATION frames, and only the last of all frames has END_HEADERS.
However it is cut, a reader joins it to the one frame it was cut from.  Up to the last fragment
nothing else may come in between, and as soon as the fragments so far are longer than the limit on
blocks, the block is given up.
-/

namespace Http2

open List

/-! ## The first fragment -/

def pad : Option Octets → Octets → Octets
  | none, octets => octets
  | some padding, octets => UInt8.ofNat padding.length :: (octets ++ padding)

namespace RawFrame

structure Pads (raw : RawFrame) (padding : Option Octets) (octets : Octets) : Prop where
  flag : raw.flags.has Flags.padded = padding.isSome
  short : ∀ filler ∈ padding, filler.length < 256
  payload : raw.payload = pad padding octets

/-- The raw frame holds the first fragment of a header block.  Flags without a meaning here may be
set, and so may the bit above a promised stream. -/
inductive Begins (raw : RawFrame) : PartialBlock → Prop
  | headers {padding : Option Octets} {block : Octets} (kind : raw.kind = FrameKind.headers.code)
      (names : NamesStream raw.stream) (flag : raw.flags.has Flags.priority = false)
      (pads : raw.Pads padding block) :
      Begins raw ⟨raw.stream, raw.flags.has Flags.endStream, none, none, block⟩
  | placed {padding : Option Octets} {place : Priority} {block : Octets}
      (kind : raw.kind = FrameKind.headers.code) (names : NamesStream raw.stream)
      (flag : raw.flags.has Flags.priority) (wellFormed : place.WellFormed)
      (pads : raw.Pads padding (place.encode ++ block)) :
      Begins raw ⟨raw.stream, raw.flags.has Flags.endStream, some place, none, block⟩
  | promise {padding : Option Octets} {promised : Nat} {reserved : Bool} {block : Octets}
      (kind : raw.kind = FrameKind.pushPromise.code) (names : NamesStream raw.stream)
      (bound : promised ≤ maxStreamId)
      (pads : raw.Pads padding
        (bigEndian 4 (promised + if reserved then 2147483648 else 0) ++ block)) :
      Begins raw ⟨raw.stream, false, none, some promised, block⟩

variable {raw : RawFrame} {padding : Option Octets} {octets : Octets} {start : PartialBlock}

theorem Pads.strip (pads : raw.Pads padding octets) :
    stripPadding raw = .ok (padding.map fun filler => UInt8.ofNat filler.length, octets) := by
  obtain ⟨flag, short, payload⟩ := pads
  cases padding with
  | none => simp [stripPadding, flag, payload, pad]
  | some filler =>
    have length : (UInt8.ofNat filler.length).toNat = filler.length :=
      UInt8.toNat_ofNat_of_lt' (short filler rfl)
    simp [stripPadding, flag, payload, pad, length]

theorem Begins.read (begins : raw.Begins start) : readRaw raw = .ok (.ofBlock raw start) := by
  cases begins with
  | headers kind names flag pads =>
    simp [readRaw, kind, readHeaders, requireStream, names.1, pads.strip, flag]
  | placed kind names flag wellFormed pads =>
    simp [readRaw, kind, readHeaders, requireStream, names.1, pads.strip, flag,
      Priority.decode?_encode wellFormed]
  | @promise _ promised reserved _ kind names bound pads =>
    have word : ofBigEndian (bigEndian 4 (promised + if reserved then 2147483648 else 0)) =
        promised + if reserved then 2147483648 else 0 := by
      apply ofBigEndian_bigEndian_of_lt
      show _ < 4294967296
      unfold maxStreamId at bound
      split <;> omega
    have low : low31 (promised + if reserved then 2147483648 else 0) = promised := by
      unfold low31 maxStreamId at *
      split <;> omega
    simp [readRaw, kind, readPushPromise, requireStream, names.1, pads.strip, split?_bigEndian,
      word, low]

end RawFrame

/-! ## All fragments -/

def EndsLast : List RawFrame → Prop
  | [] => False
  | [raw] => raw.flags.has Flags.endHeaders = true
  | raw :: others => raw.flags.has Flags.endHeaders = false ∧ EndsLast others

private theorem endsLast_append {front back : List RawFrame} (ends : EndsLast (front ++ back))
    (more : back ≠ []) :
    (∀ raw ∈ front, raw.flags.has Flags.endHeaders = false) ∧ EndsLast back := by
  induction front with
  | nil => exact ⟨forall_mem_nil _, ends⟩
  | cons raw others ih =>
    have onward : raw.flags.has Flags.endHeaders = false ∧ EndsLast (others ++ back) := by
      cases rest : others ++ back with
      | nil => exact absurd (append_eq_nil_iff.mp rest).2 more
      | cons next later =>
        rw [cons_append, rest] at ends
        exact ends
    obtain ⟨inner, last⟩ := ih onward.2
    exact ⟨forall_mem_cons.mpr ⟨onward.1, inner⟩, last⟩

def PartialBlock.joined (start : PartialBlock) (later : List RawFrame) : PartialBlock :=
  { start with block := start.block ++ later.flatMap RawFrame.payload }

/-- The raw frames are a header block cut into fragments. -/
structure Fragments (first : RawFrame) (later : List RawFrame) (start : PartialBlock) : Prop where
  begins : first.Begins start
  continues : ∀ raw ∈ later, raw.Continues start.stream
  ends : EndsLast (first :: later)

namespace Reader

def awaits (reader : Reader) : Octets := if reader.prefaceDue then preface else []

variable {reader : Reader} {first : RawFrame} {front back later : List RawFrame}
  {start : PartialBlock} {rest octets : Octets}

/-- The raw frame arrives at the reader as it was sent. -/
abbrev HasRoomFor (reader : Reader) (raw : RawFrame) : Prop :=
  raw.Fits (min reader.frameLimit greatestFrameLimit)

private theorem process_awaits (idle : reader.pending = none) (empty : reader.buffer = [])
    (octets : Octets) :
    reader.process (reader.awaits ++ octets) =
      drainOn []
        (nextFrame { reader with buffer := octets, pending := none, prefaceDue := false }) := by
  obtain ⟨buffer, due, frameLimit, blockLimit, pending⟩ := reader
  cases idle
  cases empty
  rw [process, drain_eq]
  cases due with
  | false =>
    rw [next_of_started _ rfl]
    rfl
  | true =>
    rw [next_of_preface _ rfl rfl]
    rfl

section

variable {intruder : RawFrame} (fragments : Fragments first (front ++ back) start)
  (more : back ≠ []) (fits : ∀ raw ∈ first :: front, reader.HasRoomFor raw)
  (bound : (start.joined front).block.length ≤ reader.blockLimit)

include fragments more fits bound

private theorem nextFrame_begun :
    nextFrame
      { reader with buffer := (first :: front).flatMap RawFrame.encode ++ rest, pending := none } =
      nextFrame { reader with buffer := rest, pending := some (start.joined front) } := by
  obtain ⟨begins, continues, ends⟩ := fragments
  obtain ⟨goesOn, -⟩ := @endsLast_append (first :: front) back ends more
  rw [forall_mem_cons] at fits goesOn
  have short : start.block.length ≤ reader.blockLimit := by
    unfold PartialBlock.joined at bound
    rw [length_append] at bound
    omega
  have begun : accept reader.blockLimit none first = (.ok none, some start) := by
    simp [accept, begins.read, Reading.ofBlock, goesOn.1, beginBlock, checkBlock_ok short]
  rw [flatMap_cons, append_assoc, nextFrame_raw fits.1, begun, onward]
  exact nextFrame_gather (fun raw member => continues raw (mem_append_left _ member))
    goesOn.2 fits.2 bound

private theorem nextFrame_intruder (admitted : reader.HasRoomFor intruder)
    (stray : ¬intruder.Continues start.stream) :
    ∃ error after, nextFrame { reader with
        buffer := (first :: front).flatMap RawFrame.encode ++ (intruder.encode ++ rest), pending :=
        none } = (.error error, after) ∧ error.reason = .protocolError := by
  rw [nextFrame_begun fragments more fits bound, nextFrame_raw admitted]
  by_cases kind : intruder.kind = FrameKind.continuation.code
  · have other : start.stream ≠ intruder.stream := fun same => stray ⟨kind, same.symm⟩
    refine ⟨.protocol (.strayContinuation intruder.stream start.stream),
      { reader with buffer := rest, pending := none }, ?_, rfl⟩
    simp [accept, kind, continueBlock, other, PartialBlock.joined, onward]
  · refine ⟨.protocol (.expectedContinuation start.stream intruder.kind),
      { reader with buffer := rest, pending := some (start.joined front) }, ?_, rfl⟩
    simp [accept, kind, PartialBlock.joined, onward]

end

private theorem block_joined_concat (start : PartialBlock) (front : List RawFrame)
    (last : RawFrame) :
    (start.joined (front ++ [last])).block = (start.joined front).block ++ last.payload := by
  simp [PartialBlock.joined]

private theorem nextFrame_fragments (fragments : Fragments first later start)
    (fits : ∀ raw ∈ first :: later, reader.HasRoomFor raw)
    (bound : later ≠ [] → (start.joined later).block.length ≤ reader.blockLimit) :
    nextFrame { reader with buffer := (first :: later).flatMap RawFrame.encode, pending := none } =
      (.ok (some (start.joined later).frame), { reader with buffer := [], pending := none }) := by
  rcases eq_nil_or_concat' later with rfl | ⟨front, last, rfl⟩
  · have ended : first.flags.has Flags.endHeaders := fragments.ends
    have whole : accept reader.blockLimit none first = (.ok (some start.frame), none) := by
      simp [accept, fragments.begins.read, Reading.ofBlock, ended]
    rw [flatMap_cons, nextFrame_raw (fits first mem_cons_self), whole]
    simp [onward, PartialBlock.joined]
  · have bound := bound (by simp)
    rw [block_joined_concat] at bound
    have ended : last.flags.has Flags.endHeaders :=
      (@endsLast_append (first :: front) [last] fragments.ends (by simp)).2
    have continues : last.Continues (start.joined front).stream :=
      fragments.continues last (by simp)
    have whole : accept reader.blockLimit (some (start.joined front)) last =
        (.ok (some (start.joined (front ++ [last])).frame), none) := by
      rw [accept_continuation continues bound, ended, ← block_joined_concat]
      rfl
    rw [← cons_append, forall_mem_append, forall_mem_singleton] at fits
    rw [← cons_append, flatMap_append, flatMap_singleton,
      nextFrame_begun fragments (by simp) fits.1, ← append_nil last.encode,
      nextFrame_raw fits.2, whole]
    · rfl
    · rw [length_append] at bound
      omega

/-- With so many fragments after the first the block gets longer than the limit. -/
structure Overruns (limit : Nat) (start : PartialBlock) (later : List RawFrame)
    (count : Nat) : Prop where
  exceeds : limit < (start.joined (later.take count)).block.length
  within : ∀ fewer < count, (start.joined (later.take fewer)).block.length ≤ limit

variable {limit count : Nat}

private theorem exists_overruns (exceeds : limit < (start.joined (later.take count)).block.length) :
    ∃ least ≤ count, Overruns limit start later least := by
  classical
  have some_count : ∃ count, limit < (start.joined (later.take count)).block.length :=
    ⟨count, exceeds⟩
  exact ⟨Nat.find some_count, Nat.find_min' some_count exceeds, Nat.find_spec some_count,
    fun fewer less => Nat.not_lt.mp (Nat.find_min some_count less)⟩

theorem Overruns.lt_length (overruns : Overruns limit start later (count + 1)) :
    count < later.length := by
  apply Nat.lt_of_not_le
  intro all
  have exceeds := overruns.exceeds
  have within := overruns.within count (Nat.lt_succ_self count)
  rw [take_of_length_le (Nat.le_succ_of_le all)] at exceeds
  rw [take_of_length_le all] at within
  omega

private theorem nextFrame_before_overrun (fragments : Fragments first later start)
    (fits : ∀ raw ∈ first :: later, reader.HasRoomFor raw)
    (overruns : Overruns reader.blockLimit start later count) :
    ∃ after, nextFrame { reader with
      buffer := ((first :: later).take count).flatMap RawFrame.encode, pending := none } =
      (.ok none, after) := by
  have silent (pending : Option PartialBlock) :
      nextFrame { reader with buffer := [], pending } =
      (.ok none, { reader with buffer := [], pending }) := by
    rw [nextFrame]
    split <;> rename_i found <;> cases found
    rfl
  cases count with
  | zero => exact ⟨_, silent none⟩
  | succ count =>
    have more : later.drop count ≠ [] := by
      rw [Ne, drop_eq_nil_iff]
      exact Nat.not_le.mpr overruns.lt_length
    rw [← take_append_drop count later] at fragments
    rw [take_succ_cons, ← append_nil (List.flatMap _ _),
      nextFrame_begun fragments more _ (overruns.within count (Nat.lt_succ_self count))]
    · exact ⟨_, silent _⟩
    · intro raw member
      exact fits raw (mem_of_mem_take (i := count + 1) member)

private theorem nextFrame_overrun (fragments : Fragments first later start) (several : later ≠ [])
    (fits : ∀ raw ∈ first :: later, reader.HasRoomFor raw)
    (overruns : Overruns reader.blockLimit start later count) :
    ∃ error, nextFrame { reader with
        buffer := ((first :: later).take (count + 1)).flatMap RawFrame.encode ++ rest, pending :=
          none } =
        (.error error, { reader with buffer := rest, pending := none }) ∧
        error.reason = .enhanceYourCalm := by
  have exceeds := overruns.exceeds
  cases count with
  | zero =>
    obtain ⟨goesOn, -⟩ := @endsLast_append [first] later fragments.ends several
    rw [forall_mem_singleton] at goesOn
    simp only [PartialBlock.joined, take_zero, flatMap_nil, append_nil] at exceeds
    refine ⟨.connection (.blockTooLarge start.block.length reader.blockLimit), ?_, rfl⟩
    have refused : accept reader.blockLimit none first =
        (.error (.connection (.blockTooLarge start.block.length reader.blockLimit)), none) := by
      simp [accept, fragments.begins.read, Reading.ofBlock, goesOn, beginBlock, checkBlock, exceeds]
    rw [take_succ_cons, take_zero, flatMap_singleton,
      nextFrame_raw (fits first mem_cons_self), refused]
    rfl
  | succ count =>
    have bound := overruns.lt_length
    have more : later.drop count ≠ [] := by
      rw [Ne, drop_eq_nil_iff]
      exact Nat.not_le.mpr bound
    have taken : later.take (count + 1) = later.take count ++ [later[count]] :=
      take_succ_eq_append_getElem bound
    rw [taken, block_joined_concat] at exceeds
    have continues := fragments.continues later[count] (getElem_mem bound)
    refine ⟨.connection (.blockTooLarge
      ((start.joined (later.take count)).block ++ later[count].payload).length reader.blockLimit),
      ?_, rfl⟩
    have refused : accept reader.blockLimit (some (start.joined (later.take count))) later[count] =
        (.error (.connection (.blockTooLarge
          ((start.joined (later.take count)).block ++ later[count].payload).length
          reader.blockLimit)), none) := by
      have same : (start.joined (later.take count)).stream = later[count].stream :=
        continues.same.symm
      simp only [accept, continues.kind, continueBlock, same, checkBlock, exceeds, if_true, ne_eq,
        not_true_eq_false, if_false]
    rw [take_succ_cons, taken, ← cons_append, flatMap_append, flatMap_singleton,
      append_assoc]
    rw [← take_append_drop count later] at fragments
    rw [nextFrame_begun fragments more _ (overruns.within count (Nat.lt_succ_self count)),
      nextFrame_raw (fits _ (mem_cons_of_mem _ (getElem_mem bound))), refused]
    · rfl
    · intro raw member
      exact fits raw (mem_of_mem_take (i := count + 1) member)

/-- A reader at the start of a frame joins a header block from its fragments, however it was cut.
Another frame between two of them is a violation of the protocol, and the block is given up with the
first fragment that makes it too long. -/
theorem header_blocks_reassembled (idle : reader.pending = none) (empty : reader.buffer = [])
    (fragments : Fragments first later start)
    (fits : ∀ raw ∈ first :: later, reader.HasRoomFor raw) :
    ((later ≠ [] → (start.joined later).block.length ≤ reader.blockLimit) →
      reader.process (reader.awaits ++ (first :: later).flatMap RawFrame.encode) =
        (.ok [(start.joined later).frame], { reader with prefaceDue := false })) ∧
    (∀ front back intruder rest, later = front ++ back → back ≠ [] →
      (start.joined front).block.length ≤ reader.blockLimit →
      reader.HasRoomFor intruder → ¬intruder.Continues start.stream →
      ∃ error after, reader.process
          (reader.awaits ++
            ((first :: front).flatMap RawFrame.encode ++ (intruder.encode ++ rest))) =
          (.error error, after) ∧ error.reason = .protocolError) ∧
    (later ≠ [] → ∀ count, reader.blockLimit < (start.joined (later.take count)).block.length →
      ∃ least ≤ count, Overruns reader.blockLimit start later least ∧
        (reader.process
          (reader.awaits ++ ((first :: later).take least).flatMap RawFrame.encode)).1 = .ok [] ∧
        ∀ rest, ∃ error, reader.process
            (reader.awaits ++
              (((first :: later).take (least + 1)).flatMap RawFrame.encode ++ rest)) =
            (.error error, { reader with buffer := rest, prefaceDue := false }) ∧
          error.reason = .enhanceYourCalm) := by
  obtain ⟨buffer, due, frameLimit, blockLimit, pending⟩ := reader
  cases idle
  cases empty
  -- Past the preface all three parts are about one reader.
  let past : Reader := { frameLimit, blockLimit }
  refine ⟨fun bound => ?_, ?_, fun several count exceeds => ?_⟩
  · have read := @nextFrame_fragments past _ _ _ fragments fits bound
    rw [process_awaits rfl rfl, read, drainOn, drain_eq, next_of_empty _ rfl]
    rfl
  · rintro front back intruder rest rfl more bound admitted stray
    obtain ⟨error, after, failed, reason⟩ :=
      @nextFrame_intruder past _ _ _ _ rest intruder fragments more
      (fun raw member => fits raw (List.mem_append_left back member)) bound admitted stray
    refine ⟨error, after, ?_, reason⟩
    rw [process_awaits rfl rfl, failed, drainOn]
  · obtain ⟨least, few, overruns⟩ := exists_overruns exceeds
    refine ⟨least, few, overruns, ?_, fun rest => ?_⟩
    · obtain ⟨after, silent⟩ := @nextFrame_before_overrun past _ _ _ _ fragments fits overruns
      rw [process_awaits rfl rfl, silent]
      rfl
    · obtain ⟨error, failed, reason⟩ :=
        @nextFrame_overrun past _ _ _ rest _ fragments several fits overruns
      refine ⟨error, ?_, reason⟩
      rw [process_awaits rfl rfl, failed, drainOn]

/-- A request that is placed and padded, cut into three fragments of which the second is empty. -/
def requestHead : RawFrame :=
  ⟨FrameKind.headers.code, 0x29, 3, pad (some [0, 0])
    (Priority.encode ⟨1, 16, true⟩ ++ [0x82, 0x86])⟩

def requestRest : List RawFrame :=
  [⟨FrameKind.continuation.code, Flags.none, 3, []⟩, ⟨FrameKind.continuation.code, Flags.endHeaders,
    3, [0x84]⟩]

private theorem requestFragments :
    Fragments requestHead requestRest ⟨3, true, some ⟨1, 16, true⟩, none, [0x82, 0x86]⟩ where
  begins := @RawFrame.Begins.placed _ (some [0, 0]) _ _ rfl (by decide) (by decide) (by decide)
    ⟨by decide, by rintro _ ⟨⟩; decide, rfl⟩
  continues := by
    intro raw member
    simp only [requestRest, mem_cons, not_mem_nil, or_false] at member
    rcases member with rfl | rfl <;> exact ⟨rfl, rfl⟩
  ends := by
    simp only [EndsLast, requestRest]
    decide

theorem header_blocks_reassembled_request :
    process { prefaceDue := true }
      (preface ++ (requestHead :: requestRest).flatMap RawFrame.encode) =
      (.ok [.headers 3 (some ⟨1, 16, true⟩) [0x82, 0x86, 0x84] true], {}) ∧
    (∃ error after,
      process { prefaceDue := true } (preface ++ ([requestHead].flatMap RawFrame.encode ++
        (RawFrame.encode ⟨FrameKind.continuation.code, Flags.endHeaders, 5, [0x84]⟩ ++ []))) =
        (.error error, after) ∧ error.reason = .protocolError) ∧
    ∃ least ≤ 2, Overruns 2 ⟨3, true, some ⟨1, 16, true⟩, none, [0x82, 0x86]⟩ requestRest least ∧
      (process { blockLimit := 2 }
        (((requestHead :: requestRest).take least).flatMap RawFrame.encode)).1 = .ok [] ∧
      ∀ rest, ∃ error, process { blockLimit := 2 }
          ((((requestHead :: requestRest).take (least + 1)).flatMap RawFrame.encode ++ rest)) =
          (.error error, { buffer := rest, blockLimit := 2 }) ∧
        error.reason = .enhanceYourCalm := by
  have fits : ∀ raw ∈ requestHead :: requestRest,
      raw.Fits (min leastFrameLimit greatestFrameLimit) := by
    intro raw member
    simp only [requestRest, List.mem_cons, List.not_mem_nil, or_false] at member
    rcases member with rfl | rfl | rfl <;> exact ⟨by decide, by decide⟩
  obtain ⟨whole, intruded, -⟩ :=
    @header_blocks_reassembled { prefaceDue := true } _ _ _ rfl rfl requestFragments fits
  obtain ⟨-, -, overrun⟩ :=
    @header_blocks_reassembled { blockLimit := 2 } _ _ _ rfl rfl requestFragments fits
  refine ⟨whole fun _ => by decide, ?_, overrun (by decide) 2 (by decide)⟩
  exact intruded [] requestRest _ [] rfl (by decide) (by decide) ⟨by decide, by decide⟩
    fun continues => absurd continues.same (by decide)

end Reader

end Http2
