import Http2.Proofs.Finality
import Http2.Proofs.Legibility

/-!
# The frames that a session has heard

A session reads as it goes along: octets come in portions, and the limit on frames follows its
settings.  But as long as it is open, no frame has been turned down.  A reader without any limit on
frames that gets all the octets at once therefore finds the same frames, and these are the ones that
the session has handled.
-/

namespace Http2

open Reader List

/-! ## Readers without a limit -/

private theorem RawFrame.decode?_greatest {limit : Nat} {octets : Octets}
    {found : Option (RawFrame × Octets)} (read : decode? limit octets = .ok found) :
    decode? greatestFrameLimit octets = .ok found := by
  unfold decode? at read ⊢
  split at read
  · exact read
  · rename_i head rest decoded
    have short : ¬ greatestFrameLimit < head.length := by
      unfold FrameHead.decode? at decoded
      split at decoded
      · rename_i first second third kind flags _ _ _ _ _
        cases decoded
        have := first.toNat_lt
        have := second.toNat_lt
        have := third.toNat_lt
        simp only [ofBigEndian, foldl_cons, foldl_nil, greatestFrameLimit]
        omega
      · cases decoded
    split at read
    · cases read
    · rw [if_neg short]
      exact read

namespace Reader

variable {reader after : Reader} {found : Option Frame}

def widen (reader : Reader) : Reader := { reader with frameLimit := greatestFrameLimit }

private theorem nextFrame_widen (read : reader.nextFrame = (.ok found, after)) :
    reader.widen.nextFrame = (.ok found, after.widen) := by
  fun_induction nextFrame reader with
  | case1 => cases read
  | case2 reader missing =>
    have missing : RawFrame.decode? reader.widen.frameLimit reader.widen.buffer = .ok none :=
      RawFrame.decode?_greatest missing
    cases read
    rw [nextFrame]
    split <;> rename_i found <;> cases missing.symm.trans found
    rfl
  | case3 => cases read
  | case4 reader raw rest next frame pending complete =>
    cases read
    have next : RawFrame.decode? reader.widen.frameLimit reader.widen.buffer =
        .ok (some (raw, rest)) :=
      RawFrame.decode?_greatest next
    have complete : accept reader.widen.blockLimit reader.widen.pending raw =
        (.ok (some frame), pending) :=
      complete
    rw [nextFrame]
    split <;> rename_i found <;> cases next.symm.trans found
    rw [complete]
    rfl
  | case5 reader raw rest next pending incomplete ih =>
    have next : RawFrame.decode? reader.widen.frameLimit reader.widen.buffer =
        .ok (some (raw, rest)) :=
      RawFrame.decode?_greatest next
    have incomplete : accept reader.widen.blockLimit reader.widen.pending raw =
        (.ok none, pending) :=
      incomplete
    rw [nextFrame]
    split <;> rename_i found <;> cases next.symm.trans found
    rw [incomplete]
    exact ih read

private theorem next_widen (read : reader.next = (.ok found, after)) :
    reader.widen.next = (.ok found, after.widen) := by
  have taken : reader.widen.takePreface = (reader.takePreface.1, reader.takePreface.2.widen) := by
    cases due : reader.prefaceDue with
    | false => simp [takePreface, widen, due]
    | true =>
      cases whole : startsWithPreface reader.buffer with
      | true => simp [takePreface, widen, due, whole]
      | false =>
        cases part : reader.buffer.isPrefixOf preface <;>
          simp [takePreface, widen, due, whole, part]
  unfold next at read ⊢
  rw [taken]
  split at read
  · cases read
  · rename_i middle waits
    cases read
    rw [waits]
  · rename_i middle past
    rw [past]
    exact nextFrame_widen read

private theorem drain_feed (reader : Reader) (more : Octets) {found frames : List Frame}
    (drained : reader.drain found = (.ok frames, after)) :
    (reader.feed more).drain found = (after.feed more).drain frames.reverse := by
  fun_induction drain reader found with
  | case1 => cases drained
  | case2 reader found after' next =>
    cases drained
    rw [drain_eq, next_feed, next, readOn, reverse_reverse, ← drain_eq]
  | case3 reader found frame after' next ih =>
    rw [drain_eq, next_feed, next, readOn, drainOn]
    exact ih drained

end Reader

/-! ## Sessions -/

def Motion.frame? : Motion → Option Frame
  | .frame content => some content
  | _ => none

def framesIn (motions : List Motion) : List Frame := motions.filterMap Motion.frame?

def Use.octets : Use → Octets
  | .receive octets => octets
  | _ => []

namespace Session

variable {session : Session} {role : Role} {config : Config} {now : Nat}

/-- What a session makes of octets without a fault is what a reader gets out of them. -/
theorem Consumed.drain {reader : Reader} {conn : Connection} {motions : List Motion}
    {result : Except Error Unit}
    (consumed : Consumed reader conn motions result session) (found : List Frame)
    (accepted : result.isOk) :
    reader.widen.drain found = (.ok (found.reverse ++ framesIn motions), session.reader.widen) := by
  induction consumed generalizing found with
  | fails => cases accepted
  | @stops reader after conn _ _ next =>
    have read : reader.widen.next = (.ok none, after.widen) :=
      @next_widen { reader with frameLimit := conn.frameLimit } _ _ next
    rw [drain_eq, read, framesIn, filterMap_nil, append_nil]
    rfl
  | ends => cases accepted
  | @goes reader after conn frame _ _ _ _ _ next _ ih =>
    have read : reader.widen.next = (.ok (some frame), after.widen) :=
      @next_widen { reader with frameLimit := conn.frameLimit } _ _ next
    rw [drain_eq, read, drainOn, ih (frame :: found) accepted, framesIn, framesIn]
    simp [Motion.frame?]

private theorem framesIn_motions (session : Session) {use : Use}
    (other : ∀ octets, use ≠ .receive octets) :
    framesIn (session.motions use) = [] := by
  cases use with
  | receive octets => exact absurd rfl (other octets)
  | tick now =>
    simp only [motions]
    split
    · split <;> rfl
    · rfl
  | flush transport =>
    simp only [motions]
    split
    · rfl
    · split <;> rfl
  | call | close | takeOutbound | nextEvent | takeEvents => rfl

private theorem octets_of_ne_receive {use : Use} (other : ∀ octets, use ≠ .receive octets) :
    use.octets = [] := by
  cases use with
  | receive octets => exact absurd rfl (other octets)
  | _ => rfl

/-- A session that is open has handled every frame that is complete in the octets of its peer. -/
theorem process_received (created : create role config now = .ok session) (uses : List Use)
    (opened : (session.after uses).connection.closed = false) :
    session.reader.widen.process (uses.flatMap Use.octets) =
      (.ok (framesIn (session.history uses)), (session.after uses).reader.widen) := by
  induction uses using List.reverseRecOn with
  | nil =>
    have empty : session.reader.widen.buffer = [] := by
      rw [reader_create created]
      rfl
    rw [flatMap_nil, process, feed_nil, drain_eq, next_of_empty _ empty]
    rfl
  | append_singleton uses use ih =>
    have still : (session.after uses).connection.closed = false := by
      cases closed : (session.after uses).connection.closed with
      | false => rfl
      | true =>
        rw [(silent_of_closed (.create created) closed [use]).1] at opened
        cases opened
    have earlier := ih still
    rw [after_concat] at opened
    rw [flatMap_append, flatMap_singleton, history_concat, framesIn, filterMap_append,
      after_concat]
    by_cases other : ∀ octets, use ≠ .receive octets
    · have silent : ((session.after uses).motions use).filterMap Motion.frame? = [] :=
        framesIn_motions _ other
      rw [octets_of_ne_receive other, append_nil, silent, append_nil, reader_use _ other]
      exact earlier
    · simp only [not_forall, not_not] at other
      obtain ⟨octets, rfl⟩ := other
      have sound : (session.after uses).connection.Sound :=
        ((reached_of_create created).trail (trail_after (.create created) uses)).sound still
      have entered : (session.after uses).receive octets =
          consume ((session.after uses).reader.feed octets) (session.after uses).connection :=
        receive_of_open still octets
      have accepted : (consume ((session.after uses).reader.feed octets)
          (session.after uses).connection).1.isOk = true := by
        rw [Session.use, entered] at opened
        rw [(consumed sound still _).isOk, opened]
        rfl
      have later := (consumed sound still _).drain (framesIn (session.history uses)).reverse
        accepted
      rw [reverse_reverse] at later
      rw [Session.use, entered, motions, if_neg (Bool.eq_false_iff.mp still), process,
        Use.octets, ← feed_feed, drain_feed _ octets earlier]
      exact later

end Session

end Http2
