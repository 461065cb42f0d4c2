import Http2.Proofs.Headings
import Http2.Proofs.HeadersFirst

/-!
# Sizes of the frames that are written

The peer sets a limit on the payloads that it takes.  Data is cut to the limit when it is sent and
header blocks go on in CONTINUATION frames, most of the other frames are small, and the farewell to
a session that fails has a short text.  The settings, the farewells, the alternative services and
the origins of the application go out as they are given, however long they are.
-/

namespace Http2

open List

/-! ## Raw frames -/

private theorem payload_le_of_mem_blockFrames {kind : FrameKind} {flags : Flags} {stream size : Nat}
    {front block : Octets} {raw : RawFrame} (room : front.length ≤ size)
    (member : raw ∈ blockFrames kind flags stream size front block) :
    raw.payload.length ≤ size := by
  rcases mem_cons.mp member with rfl | later
  · simp only [length_append, length_take]
    omega
  · exact (length_le_of_mem_cut (of_mem_continuations later).2.2).2

/-- The head of a raw frame tells the length of its payload if three octets can. -/
theorem RawFrame.length_told {raw : RawFrame} (short : raw.payload.length ≤ greatestFrameLimit) :
    ofBigEndian (raw.encode.take 3) = raw.payload.length := by
  have told : raw.encode.take 3 = bigEndian 3 raw.payload.length := by
    rw [encode, FrameHead.encode, append_assoc]
    exact take_left' (length_bigEndian _ _)
  rw [told]
  exact ofBigEndian_bigEndian_of_lt (Nat.lt_succ_of_le short)

namespace Frame

variable {frame : Frame} {limit : Nat}

/-- What keeps to a limit goes out in raw frames that do, unless it has words of its own. -/
theorem Keeps.payload_le {words : Frame → Prop} (keeps : frame.Keeps words limit)
    (legible : frame.Legible) (least : leastFrameLimit ≤ limit) :
    words frame ∨ ∀ raw ∈ frame.rawFrames limit, raw.payload.length ≤ limit := by
  have same : max limit leastFrameLimit = limit := Nat.max_eq_left least
  have small : ∀ {count : Nat}, count ≤ 8 → count ≤ limit :=
    fun few => (few.trans (by decide)).trans least
  cases frame with
  | data id octets endStream padding =>
    cases legible.2
    exact .inr (forall_mem_singleton.mpr keeps)
  | headers id place block endStream =>
    right
    cases place with
    | none =>
      rw [rawFrames, same]
      exact fun raw => payload_le_of_mem_blockFrames (Nat.zero_le _)
    | some place =>
      rw [rawFrames, same]
      refine fun raw => payload_le_of_mem_blockFrames (small ?_)
      rw [Priority.length_encode]
      decide
  | pushPromise id promised block =>
    rw [rawFrames, same]
    refine .inr fun raw => payload_le_of_mem_blockFrames (small ?_)
    rw [length_bigEndian]
    decide
  | priority id place =>
    refine .inr (forall_mem_singleton.mpr (small ?_))
    rw [Priority.length_encode]
    decide
  | rstStream | windowUpdate | ping =>
    refine .inr (forall_mem_singleton.mpr (small ?_))
    simp [length_bigEndian]
  | settings ack parameters =>
    cases ack with
    | false => exact .inl keeps
    | true =>
      cases legible rfl
      exact .inr (forall_mem_singleton.mpr (Nat.zero_le _))
  | goaway | altSvc | origin => exact .inl keeps
  | unknown => cases legible

private theorem payload_le_of_goaway {last code : Nat} {debug : Octets}
    (short : debug.length ≤ 1600) (least : leastFrameLimit ≤ limit) :
    ∀ raw ∈ (goaway last code debug).rawFrames limit, raw.payload.length ≤ limit := by
  refine forall_mem_singleton.mpr (le_trans ?_ least)
  simp only [length_append, length_bigEndian, leastFrameLimit]
  omega

end Frame

/-! ## Errors that end the session -/

namespace Connection

variable {conn start after : Connection} {motion : Motion} {frame : Frame}
  {error : Error} {id limit : Nat}

private theorem missingStream_brief (conn : Connection) (kind : FrameKind)
    (small : id < 4294967296) :
    (conn.missingStream kind id).Brief 4294967296 := by
  unfold missingStream
  split <;> exact small

private theorem acceptRemote_brief {registry : Registry} (named : registry.Named)
    (small : id < 4294967296) (failed : registry.acceptRemote id = .error error) :
    error.Brief 4294967296 := by
  unfold Registry.acceptRemote at failed
  split at failed
  · cases failed
    exact small
  · split at failed
    · cases failed
      exact ⟨small, Nat.lt_of_le_of_lt named.last (by decide)⟩
    · cases failed

/-- A window that would grow too large is that of a stream which is held. -/
theorem shift_brief {windows : Windows} {delta : Int} {fault : WindowError}
    (named : conn.registry.Named)
    (live : ∀ id, (windows.stream? id).isSome = (conn.registry.cargo? id).isSome)
    (failed : windows.shift delta = .error fault) : fault.Brief 4294967296 := by
  obtain ⟨id, window, rfl, held, -⟩ := Windows.shift_fails failed
  have among := live id
  rw [held] at among
  obtain ⟨cargo, cargoed⟩ := Option.isSome_iff_exists.mp among.symm
  obtain ⟨stream, held, -⟩ := Registry.cargo?_eq_some_iff.mp cargoed
  exact Nat.lt_of_le_of_lt (named.of_get? held).2 (by decide)

theorem Dealt.brief (dealt : Dealt conn frame (.error error) after)
    (addressed : frame.Addressed limit)
    (sound : conn.Sound) (named : conn.registry.Named) (fatal : error.isFatal) :
    error.Brief 4294967296 := by
  have low : ∀ {id : Nat}, id ≤ maxStreamId → id < 4294967296 :=
    fun small => Nat.lt_of_le_of_lt small (by decide)
  cases dealt with
  | @overspent id octets endStream padding _ short =>
    unfold Windows.chargeConnection at short
    split at short
    · cases short
      have window := And.intro sound.receive.connection_low sound.receive.connection_high
      have length := addressed.2
      simp only [maxWindow, greatestFrameLimit] at window length
      refine ⟨by decide, ?_, by omega⟩
      cases padding with
      | none => exact Nat.lt_of_le_of_lt length (by decide)
      | some padding =>
        have := padding.toNat_lt
        simp only [Frame.chargedLength]
        omega
    · cases short
  | data _ dealt =>
    cases dealt with
    | unheld => exact missingStream_brief _ _ (low addressed.1.2)
    | unwelcome =>
      unfold dataFault at fatal ⊢
      split at fatal
      · cases fatal
      · rename_i other
        rw [if_neg other]
        exact low addressed.1.2
    | overdrawn => cases fatal
  | headers _ dealt =>
    cases dealt with
    | misplaced fault =>
      cases fault with
      | missing => exact missingStream_brief _ _ (low addressed.1.2)
      | unaccepted _ _ failed => exact acceptRemote_brief named (low addressed.1.2) failed
      | wrongPhase => exact low addressed.1.2
    | declined => cases fatal
  | unfounded _ fault =>
    cases fault with
    | missing => exact missingStream_brief _ _ (low addressed.1)
    | wrongPhase => exact low addressed.1
    | unaccepted failed => exact acceptRemote_brief named (low addressed.2.1) failed
  | unopened => exact low addressed.2
  | unlimited _ failed => exact shift_brief named sound.receiveLive failed
  | malformed fault =>
    exact Exchange.readParameters_fails fault fun parameter member _ =>
      ⟨addressed _ member, addressed _ member⟩
  | outgrown _ failed => exact shift_brief named sound.sendLive failed
  | overfilled failed =>
    simp only [Windows.credit, Windows.window?, if_true] at failed
    split at failed <;> cases failed
    exact Nat.zero_lt_succ _
  | uncredited => exact missingStream_brief _ _ (low addressed)
  | looped | emptyCredit | overflowed => cases fatal
  | garbled | garbledPromise | pushToServer | pushRefused | ackNotDue | zeroCredit => trivial

/-! ## What a motion writes -/

def Wording (conn : Connection) : Motion → Frame → Prop
  | .call call => call.Words
  | .frame received => conn.FailsWith received
  | .fail error => error.Goaway
  | .close => fun frame => ∃ last, frame = .goaway last Reason.noError.code []
  | _ => fun _ => False

/-- What is written can be read, and keeps to the limits of the peer but for such words. -/
structure WritesWithin (words : Frame → Prop) (before after : Connection) : Prop where
  written : ∃ written, after.outbound = before.outbound ++ written ∧
    (before.registry.Named → ∀ outgoing ∈ written, outgoing.Legible) ∧
    ∀ outgoing ∈ written, outgoing.Keeps words before.exchange.peer after.exchange.peer
  valid : before.exchange.Sound → after.exchange.peer.Valid

theorem Output.writesWithin {words : Frame → Prop} {heads : List Heading}
    (output : Output words heads start after)
    (outbound : start.outbound = conn.outbound) (exchange : start.exchange = conn.exchange)
    (named : conn.registry.Named → start.registry.Named) : WritesWithin words conn after := by
  obtain ⟨written, wrote, -, legible, keeps⟩ := output.wrote
  rw [outbound] at wrote
  rw [exchange] at keeps
  exact ⟨⟨written, wrote, fun known => legible (named known), keeps⟩, exchange ▸ output.valid⟩

private theorem move_writesWithin (addressed : motion.Addressed limit) (inner : motion.isInner) :
    WritesWithin (conn.Wording motion) conn (conn.move motion) := by
  cases motion with
  | call call =>
    cases called_output conn call with
    | announces _ announces =>
      obtain ⟨heads, output⟩ := announces.exists_output
      exact output.writesWithin rfl rfl id
    | trailers _ _ releases =>
      obtain ⟨heads, output, -⟩ := releases
      exact output.writesWithin rfl rfl fun named => named.modify _ _
    | resizes _ output => exact output.writesWithin rfl rfl id
    | releases _ _ _ releases =>
      obtain ⟨heads, output, -⟩ := releases
      exact output.writesWithin rfl rfl id
  | frame frame =>
    obtain ⟨decoder, ⟨heads, output, -⟩, -⟩ := handle_releases conn addressed
    exact output.writesWithin rfl rfl id
  | fail error => exact (conn.fail_output error).writesWithin rfl rfl id
  | close => exact conn.close_output.writesWithin rfl rfl id
  | handOver | tell => cases inner

variable (addressed : motion.Addressed limit) (bounded : limit < 2 ^ 64) (sound : conn.Sound)
  (named : conn.registry.Named)

include addressed bounded sound named

theorem Wording.payload_le (worded : conn.Wording motion frame) {size : Nat}
    (least : leastFrameLimit ≤ size) : (∃ call, motion = .call call ∧ call.Words frame) ∨
      ∀ raw ∈ frame.rawFrames size, raw.payload.length ≤ size := by
  cases motion with
  | call call => exact .inl ⟨call, rfl, worded⟩
  | frame received =>
    obtain ⟨error, after, ran, fatal, last, rfl⟩ := worded
    have brief := ((receiveFrame_dealt conn received).of_error ran).brief
      addressed sound named fatal
    exact .inr (Frame.payload_le_of_goaway (brief.debugText_le (by decide)) least)
  | fail error =>
    obtain ⟨last, rfl⟩ := worded
    have brief : error.Brief (limit + 4294967296) := addressed
    exact .inr (Frame.payload_le_of_goaway (brief.debugText_le (by omega)) least)
  | close =>
    obtain ⟨last, rfl⟩ := worded
    exact .inr (Frame.payload_le_of_goaway (Nat.zero_le _) least)
  | handOver | tell => cases worded

private theorem writings_payload_le {writing : Writing} (member : writing ∈ conn.writings motion) :
    ∃ size frame, writing.item = .frame size frame ∧
      (size = conn.exchange.peer.maxFrameSize ∨
        size = (conn.move motion).exchange.peer.maxFrameSize) ∧
      (leastFrameLimit ≤ size ∧ size ≤ greatestFrameLimit) ∧
      ((∃ call, motion = .call call ∧ call.Words frame) ∨
        ∀ raw ∈ frame.rawFrames size, raw.payload.length ≤ size) := by
  cases inner : motion.isInner with
  | false =>
    rw [writings_of_outer inner] at member
    cases member
  | true =>
    have writes : WritesWithin (conn.Wording motion) conn (conn.move motion) :=
      move_writesWithin addressed inner
    obtain ⟨written, outbound, legible, keeps⟩ := writes.written
    rw [writings_of_inner inner outbound] at member
    obtain ⟨item, among, rfl⟩ := mem_map.mp member
    have readable := legible named item among
    have kept := keeps item among
    cases item with
    | preface => cases kept
    | frame size frame =>
      have range : leastFrameLimit ≤ size ∧ size ≤ greatestFrameLimit := by
        rcases kept.1 with same | same <;> rw [same]
        · exact sound.exchange.peer.maxFrameSize_range
        · exact (writes.valid sound.exchange).maxFrameSize_range
      refine ⟨size, frame, rfl, kept.1, range, ?_⟩
      rcases kept.2.payload_le readable range.1 with worded | short
      · exact Wording.payload_le addressed bounded sound named worded range.1
      · exact .inr short

end Connection

namespace Session

variable {role : Role} {config : Config} {now : Nat} {session : Session}

/-- Everything that a session writes after its creation, in whatever use of it, are frames that go
out under the limit that the peer has set by then.  The payload of each raw frame keeps to this
limit, unless the frame repeats settings, a farewell, an alternative service or origins of the
application, and its head tells its length as long as it can.  The limit on header blocks, which is
quoted where a session fails over it, is a number of 64 bits. -/
theorem writings_measured (created : create role config now = .ok session)
    (bounded : config.blockLimit < 2 ^ 64) (uses : List Use) :
    session.sent uses = session.connection.outbound ++
      (session.connection.along Connection.writings (session.history uses)).map Writing.item ∧
    ∀ earlier motion later, session.history uses = earlier ++ motion :: later →
      ∀ writing ∈ (session.connection.moved earlier).writings motion,
        ∃ limit frame, writing.item = .frame limit frame ∧
          (limit = (session.connection.moved earlier).exchange.peer.maxFrameSize ∨
            limit = (session.connection.moved (earlier ++ [motion])).exchange.peer.maxFrameSize) ∧
          (leastFrameLimit ≤ limit ∧ limit ≤ greatestFrameLimit) ∧
          ∀ raw ∈ frame.rawFrames limit,
            (raw.payload.length ≤ limit ∨ ∃ call, motion = .call call ∧ call.Words frame) ∧
            (raw.payload.length ≤ greatestFrameLimit →
              ofBigEndian (raw.encode.take 3) = raw.payload.length) := by
  have trail := trail_after (Run.create created) uses
  refine ⟨trail.sentAlong_eq, fun earlier motion later split writing member => ?_⟩
  have addressed := history_addressed created uses
  rw [split] at addressed
  rw [split, List.append_cons] at trail
  obtain ⟨before, allowed, -⟩ := trail.split.1.last
  obtain ⟨lists, -, posted⟩ := before.posted
    (fun motion member => addressed motion (List.mem_append_left _ member))
    (posted_of_create created)
  cases closed : (session.connection.moved earlier).closed with
  | true =>
    rw [Connection.writings, (allowed.staysClosed closed).sent, List.drop_length] at member
    cases member
  | false =>
    have sound := (reached_of_split created split).sound closed
    obtain ⟨limit, frame, item, committed, range, fits⟩ :=
      Connection.writings_payload_le (addressed motion (by simp)) bounded sound posted.named member
    refine ⟨limit, frame, item, ?_, range, fun raw among => ⟨?_, RawFrame.length_told⟩⟩
    · rwa [Connection.moved_append]
    · exact fits.symm.imp_left fun short => short raw among

def raised : List Motion := [.frame (.settings false [(5, 16400)])]

/-- The peer raises its limit, and then speaks on a stream that nobody has opened. -/
def intruding : List Use :=
  [.receive (Frame.encode leastFrameLimit (.settings false [(5, 16400)])),
    .receive (Frame.encode leastFrameLimit (.data 1 [7] false none))]

def longGoaway : Frame :=
  .goaway 0 1 (Header.encodeUtf8 (Error.protocol (.idleStream .data 1)).debugText)

theorem writings_measured_intruding :
    newClient.history intruding = raised ++ .frame (.data 1 [7] false none) :: [] ∧
    (newClient.connection.moved raised).writings (.frame (.data 1 [7] false none)) =
      [⟨.frame (.data 1 [7] false none), .frame 16400 longGoaway⟩] ∧
    ∀ raw ∈ longGoaway.rawFrames 16400,
      raw.payload.length ≤ 16400 ∧ ofBigEndian (raw.encode.take 3) = raw.payload.length := by
  have split : newClient.history intruding = raised ++ .frame (.data 1 [7] false none) :: [] := by
    decide +kernel
  have written : (newClient.connection.moved raised).writings (.frame (.data 1 [7] false none)) =
      [⟨.frame (.data 1 [7] false none), .frame 16400 longGoaway⟩] := by decide +kernel
  refine ⟨split, written, fun raw among => ?_⟩
  obtain ⟨-, measured⟩ := writings_measured create_newClient (by decide) intruding
  obtain ⟨limit, frame, item, -, range, fits⟩ :=
    measured _ _ _ split _ (written ▸ List.mem_singleton.mpr rfl)
  cases item
  obtain ⟨short | ⟨call, calls, -⟩, told⟩ := fits raw among
  · exact ⟨short, told (short.trans range.2)⟩
  · cases calls

/-- A farewell of the application goes out as it is given, and be it too long for the peer. -/
theorem farewell_exceeds_limit :
    ¬ ∀ role config now session uses earlier motion later, create role config now = .ok session →
      session.history uses = earlier ++ motion :: later →
      ∀ writing ∈ (session.connection.moved earlier).writings motion,
        ∀ limit frame, writing.item = .frame limit frame →
          ∀ raw ∈ frame.rawFrames limit, raw.payload.length ≤ limit := by
  intro fits
  have written : ∀ debug, newClient.connection.writings (.call (.sendGoaway 0 .noError debug)) =
      [⟨.call (.sendGoaway 0 .noError debug), .frame 16384 (.goaway 0 0 debug)⟩] := fun _ => rfl
  have goes : ∀ debug, newClient.history [.call (.sendGoaway 0 .noError debug)] =
      [] ++ .call (.sendGoaway 0 .noError debug) :: [] := fun _ => rfl
  have short := fits _ _ _ _ _ _ _ _ create_newClient (goes (List.replicate 16377 97)) _
    ((written _).symm ▸ List.mem_singleton.mpr rfl) _ _ rfl _ (List.mem_singleton.mpr rfl)
  simp only [List.length_append, length_bigEndian, List.length_replicate] at short
  omega

end Session

end Http2
