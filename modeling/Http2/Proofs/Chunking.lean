import Http2.Proofs.RoundTrip
import Http2.Proofs.Run

/-!
# Octets in any portions

A reader decides as early as it can: at the first wrong octet of the preface, at the head of a frame
that is too long, at the last octet of a frame.  What it has decided stands whatever comes later,
and where it has decided nothing it goes on as if everything had come at once.  So the portions in
which the octets of the peer arrive make no difference to a session, although what one frame
changes, the limit on frames among it, is in force for the next.
-/

namespace Http2

open Reader List

/-! ## Readers -/

namespace Reader

variable (reader : Reader)

@[simp] theorem buffer_feed (octets : Octets) :
    (reader.feed octets).buffer = reader.buffer ++ octets := rfl

@[simp] theorem feed_feed (first second : Octets) :
    (reader.feed first).feed second = reader.feed (first ++ second) := by
  simp [feed]

@[simp] theorem feed_nil : reader.feed [] = reader := by
  simp [feed]

/-- A result of reading once more octets have arrived: one that was not reached yet is found by
reading on, any other one stands. -/
def readOn (read : Reader → Except Error (Option Frame) × Reader) (more : Octets) :
    Except Error (Option Frame) × Reader → Except Error (Option Frame) × Reader
  | (.ok none, reader) => read (reader.feed more)
  | (.ok (some frame), reader) => (.ok (some frame), reader.feed more)
  | (.error error, reader) => (.error error, reader.feed more)

private theorem nextFrame_feed (more : Octets) :
    (reader.feed more).nextFrame = readOn nextFrame more reader.nextFrame := by
  have taken : ∀ {reader : Reader} {raw rest},
      RawFrame.decode? reader.frameLimit reader.buffer = .ok (some (raw, rest)) →
      (reader.feed more).nextFrame =
        (reader.feed more).onward (rest ++ more) (accept reader.blockLimit reader.pending raw) := by
    intro reader raw rest found
    obtain ⟨-, piece, split, -, reads⟩ := RawFrame.of_decode? found
    rw [nextFrame_eq, buffer_feed, split, append_assoc]
    simp only [feed, reads]
  -- By induction on the raw frames that complete no frame.
  fun_induction nextFrame reader with
  | case1 reader error failed =>
    rw [nextFrame_eq, buffer_feed]
    simp only [feed, (RawFrame.of_decode?_error failed).2 more, readOn]
  | case2 reader missing => rfl
  | case3 reader raw rest found error pending refused =>
    rw [taken found, refused]
    rfl
  | case4 reader raw rest found frame pending complete =>
    rw [taken found, complete]
    rfl
  | case5 reader raw rest found pending incomplete ih =>
    rw [taken found, incomplete]
    exact ih

private theorem prefaceDue_nextFrame : reader.nextFrame.2.prefaceDue = reader.prefaceDue := by
  fun_induction nextFrame reader with
  | case5 reader raw rest found pending incomplete ih => exact ih
  | _ => rfl

private theorem frameLimit_nextFrame : reader.nextFrame.2.frameLimit = reader.frameLimit := by
  fun_induction nextFrame reader with
  | case5 reader raw rest found pending incomplete ih => exact ih
  | _ => rfl

private theorem frameLimit_next : reader.next.2.frameLimit = reader.frameLimit := by
  have kept : reader.takePreface.2.frameLimit = reader.frameLimit := by
    unfold takePreface
    repeat' split
    all_goals rfl
  unfold next
  match reader.takePreface, kept with
  | (.error _, _), kept => exact kept
  | (.ok false, _), kept => exact kept
  | (.ok true, _), kept => exact (frameLimit_nextFrame _).trans kept

private theorem bad_preface_extend {octets : Octets} (unlike : startsWithPreface octets = false)
    (mismatch : octets.isPrefixOf preface = false) (more : Octets) :
    startsWithPreface (octets ++ more) = false ∧ (octets ++ more).isPrefixOf preface = false := by
  rw [startsWithPreface, Bool.eq_false_iff, ne_eq, isPrefixOf_iff_prefix] at unlike ⊢
  rw [Bool.eq_false_iff, ne_eq, isPrefixOf_iff_prefix] at mismatch ⊢
  constructor
  · intro found
    rcases prefix_or_prefix_of_prefix found (prefix_append octets more) with whole | part
    · exact unlike whole
    · exact mismatch part
  · exact fun part => mismatch ((prefix_append octets more).trans part)

private theorem nextFrame_readOn (started : reader.prefaceDue = false) (more : Octets) :
    (reader.feed more).nextFrame = readOn next more reader.nextFrame := by
  have kept := prefaceDue_nextFrame reader
  rw [nextFrame_feed]
  match reader.nextFrame, kept with
  | (.ok none, after), kept => exact (next_of_started (after.feed more) (kept.trans started)).symm
  | (.ok (some _), _), _ => rfl
  | (.error _, _), _ => rfl

theorem next_of_preface (due : reader.prefaceDue) {rest : Octets}
    (whole : reader.buffer = preface ++ rest) :
    reader.next = nextFrame { reader with buffer := rest, prefaceDue := false } := by
  have starts : startsWithPreface (preface ++ rest) = true :=
    isPrefixOf_iff_prefix.mpr (prefix_append ..)
  simp only [next, takePreface, due, whole, starts, Bool.not_true, Bool.false_eq_true, if_false,
    if_true, drop_left]

theorem next_of_partial (due : reader.prefaceDue) (whole : startsWithPreface reader.buffer = false)
    (part : reader.buffer.isPrefixOf preface) : reader.next = (.ok none, reader) := by
  simp only [next, takePreface, due, whole, part, Bool.not_true, Bool.false_eq_true, if_false,
    if_true]

theorem next_feed (more : Octets) : (reader.feed more).next = readOn next more reader.next := by
  cases due : reader.prefaceDue with
  | false =>
    rw [next_of_started reader due, next_of_started (reader.feed more) due]
    exact nextFrame_readOn reader due more
  | true =>
    cases whole : startsWithPreface reader.buffer with
    | true =>
      obtain ⟨rest, split⟩ := isPrefixOf_iff_prefix.mp whole
      have split' : (reader.feed more).buffer = preface ++ (rest ++ more) := by
        rw [buffer_feed, ← split, append_assoc]
      rw [next_of_preface reader due split.symm, next_of_preface (reader.feed more) due split']
      exact nextFrame_readOn { reader with buffer := rest, prefaceDue := false } rfl more
    | false =>
      have due' : (reader.feed more).prefaceDue = true := due
      cases part : reader.buffer.isPrefixOf preface with
      | true => rw [next_of_partial reader due whole part, readOn]
      | false =>
        obtain ⟨whole', part'⟩ := bad_preface_extend whole part more
        simp only [next, takePreface, due, due', whole, part, buffer_feed, whole', part',
          Bool.not_true, Bool.false_eq_true, if_false, readOn]

end Reader

/-! ## Sessions -/

namespace Session

def proceed (conn : Connection) :
    Except Error (Option Frame) × Reader → Except Error Unit × Session
  | (.error error, reader) => (.error error, ⟨reader, conn.fail error⟩)
  | (.ok none, reader) => (.ok (), ⟨reader, conn⟩)
  | (.ok (some frame), reader) =>
    match (Connection.receiveFrame frame).run conn with
    | .ok _ conn => consume reader conn
    | .error error conn =>
      if error.isFatal then (.error error, ⟨reader, conn.fail error⟩)
      else consume reader (conn.absorb error)

theorem consume_eq_proceed (reader : Reader) (conn : Connection) :
    consume reader conn = proceed conn { reader with frameLimit := conn.frameLimit }.next := by
  rw [consume]
  split <;> rename_i next <;> rw [next] <;> rfl

private theorem consume_feed (reader : Reader) (conn : Connection) (more : Octets) :
    consume (reader.feed more) conn =
      match consume reader conn with
      | (.ok (), session) => consume (session.reader.feed more) session.connection
      | (.error error, session) =>
        (.error error, { session with reader := session.reader.feed more }) := by
  have fed (reader : Reader) (conn : Connection) :
      consume (reader.feed more) conn = proceed conn (readOn Reader.next more
          { reader with frameLimit := conn.frameLimit }.next) := by
    rw [← next_feed]
    exact consume_eq_proceed (reader.feed more) conn
  fun_induction consume reader conn with
  | case1 reader conn error after next => rw [fed, next, readOn, proceed]
  | case2 reader conn after next =>
    -- The limit was brought up to date before; doing so again changes nothing.
    have limit : after.frameLimit = conn.frameLimit := by
      have kept := frameLimit_next { reader with frameLimit := conn.frameLimit }
      rwa [next] at kept
    have again := consume_eq_proceed (after.feed more) conn
    rw [← limit] at again
    rw [fed, next]
    exact again.symm
  | case3 reader conn frame after next _ later ran ih =>
    rw [fed, next, readOn, proceed]
    simp only [ran]
    exact ih
  | case4 reader conn frame after next error later ran fatal =>
    rw [fed, next, readOn, proceed]
    simp only [ran, fatal, if_true]
  | case5 reader conn frame after next error later ran harmless ih =>
    rw [fed, next, readOn, proceed]
    simp only [ran, harmless, Bool.false_eq_true, if_false]
    exact ih

private theorem consume_open {reader : Reader} {conn : Connection} {after : Session}
    (sound : conn.Sound) (opened : conn.closed = false)
    (ran : consume reader conn = (.ok (), after)) :
    after.connection.Sound ∧ after.connection.closed = false := by
  fun_induction consume reader conn with
  | case1 => cases ran
  | case2 =>
    cases ran
    exact ⟨sound, opened⟩
  | case3 reader conn frame rest next _ later handling ih =>
    obtain ⟨written, handled⟩ := Connection.accept_handled sound handling
    exact ih handled.sound (handled.closed.trans opened) ran
  | case4 => cases ran
  | case5 reader conn frame rest next error later handling harmless ih =>
    obtain ⟨written, handled⟩ := Connection.absorb_handled sound handling (by simpa using harmless)
    exact ih handled.sound (handled.closed.trans opened) ran

section Receive

variable {session middle : Session} (sound : session.connection.Sound)
  (opened : session.connection.closed = false) {before after : Octets}

theorem receive_of_open (opened : session.connection.closed = false) (octets : Octets) :
    session.receive octets = consume (session.reader.feed octets) session.connection := by
  rw [receive, if_neg (Bool.eq_false_iff.mp opened)]

include sound opened

private theorem receive_open {octets : Octets} {after : Session}
    (ran : session.receive octets = (.ok (), after)) :
    after.connection.Sound ∧ after.connection.closed = false := by
  rw [receive_of_open opened] at ran
  exact consume_open sound opened ran

private theorem receive_append_of_ok (ran : session.receive before = (.ok (), middle)) :
    session.receive (before ++ after) = middle.receive after := by
  have still := (receive_open sound opened ran).2
  rw [receive_of_open opened] at ran
  rw [receive_of_open opened, receive_of_open still, ← feed_feed, consume_feed, ran]

omit sound in
private theorem receive_append_of_error {error : Error}
    (ran : session.receive before = (.error error, middle)) :
    session.receive (before ++ after) =
      (.error error, { middle with reader := middle.reader.feed after }) := by
  rw [receive_of_open opened] at ran
  rw [receive_of_open opened, ← feed_feed, consume_feed, ran]

/-- Receiving in portions goes as far as the first failure and leaves only what comes after it. -/
theorem receiveAll_eq (portion : Octets) (portions : List Octets) :
    ∃ unread, session.receive (portion :: portions).flatten =
      ((session.receiveAll (portion :: portions)).1,
          { (session.receiveAll (portion :: portions)).2 with
            reader := (session.receiveAll (portion :: portions)).2.reader.feed unread }) ∧
      ((session.receiveAll (portion :: portions)).1 = .ok () → unread = []) := by
  -- By induction on the portions, each of which leaves a session that is open or has failed.
  induction portions generalizing session portion with
  | nil =>
    refine ⟨[], ?_, fun _ => rfl⟩
    rw [flatten_singleton, feed_nil]
    match ran : session.receive portion with
    | (.ok (), middle) => simp only [receiveAll, ran]
    | (.error error, middle) => simp only [receiveAll, ran]
  | cons second others ih =>
    rw [flatten_cons]
    match ran : session.receive portion with
    | (.ok (), middle) =>
      obtain ⟨still, open_still⟩ := receive_open sound opened ran
      have rest : session.receiveAll (portion :: second :: others) =
          middle.receiveAll (second :: others) := by
        rw [receiveAll, ran]
      rw [receive_append_of_ok sound opened ran, rest]
      exact ih still open_still second
    | (.error error, middle) =>
      have stopped : session.receiveAll (portion :: second :: others) = (.error error, middle) := by
        rw [receiveAll, ran]
      rw [stopped]
      exact ⟨_, receive_append_of_error opened ran, fun fine => by cases fine⟩

end Receive

/-- How the octets of the peer are divided into portions makes no difference.  A portion that is
received without a fault leaves the session as it is when the next one comes along with it; after a
fault, what comes along is not read; and so any portions do what all of them at once do. -/
theorem receive_append {session : Session} {log : List Activity} (run : Run session log)
    (opened : session.connection.closed = false) (before after : Octets) :
    (∀ middle, session.receive before = (.ok (), middle) →
        session.receive (before ++ after) = middle.receive after) ∧
      (∀ error middle, session.receive before = (.error error, middle) →
        session.receive (before ++ after) =
          (.error error, { middle with reader := middle.reader.feed after })) ∧
      ∀ portion portions, ∃ unread, session.receive (portion :: portions).flatten =
          ((session.receiveAll (portion :: portions)).1,
            { (session.receiveAll (portion :: portions)).2 with
              reader := (session.receiveAll (portion :: portions)).2.reader.feed unread }) ∧
        ((session.receiveAll (portion :: portions)).1 = .ok () → unread = []) := by
  obtain ⟨role, config, steps⟩ := run.steps
  have sound := steps.sound (fresh_sound role config) opened
  exact ⟨fun _ => receive_append_of_ok sound opened, fun _ _ => receive_append_of_error opened,
    receiveAll_eq sound opened⟩

/-- A server in the middle of the preface.  With the rest of it come the settings of the client, an
acknowledgement of its own, and a frame as long as those allow. -/
theorem receive_append_preface :
    let server := newServer [(.maxFrameSize, 20000)]
    let waiting : Session :=
      ⟨{ server.reader with buffer := preface.take 10, frameLimit := 20000 }, server.connection⟩
    let rest := preface.drop 10 ++ [Frame.settings false [], .settings true [],
        .unknown 0xff 0 0 (List.replicate 20000 0)].flatMap (Frame.encode 20000)
    Run server (server.connection.queued.map .wrote) ∧ server.connection.closed = false ∧
      server.receive (preface.take 10) = (.ok (), waiting) ∧
      server.receive (preface.take 10 ++ rest) = waiting.receive rest := by
  intro server waiting rest
  have created : create .server { settings := [(.maxFrameSize, 20000)] } 0 = .ok server := rfl
  have undecided : server.receive (preface.take 10) = (.ok (), waiting) := by
    rw [receive_of_open rfl, consume_eq_proceed, Reader.next_of_partial _ (by rfl)
      (by decide) (by decide)]
    rfl
  have equal := receive_append (.create created) rfl (preface.take 10) rest
  exact ⟨.create created, rfl, undecided, equal.1 waiting undecided⟩

end Session

end Http2
