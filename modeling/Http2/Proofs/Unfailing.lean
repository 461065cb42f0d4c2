import Http2.Proofs.Draining
import Http2.Proofs.Finality

/-!
# What is provided for and never happens

A session looks before it acts.  Still it asks again where it could not go on: whether a stream can
take the step for which its phase has been checked, whether credit that was found can be taken and
whether a queue that is not empty has a piece to send.  `flush?` is flushing that gives up wherever
`flush` would pass over such a failure; whether something is left it reads off the count of the
queue.  It never gives up, since the count is right in every session, and the other checks of this
kind never fail either.
-/

namespace Http2

open List

/-- The errors with which a frame can fail: violations, but none by which a new stream could not
take its first step, and faults of one stream. -/
def Error.isFault : Error → Bool
  | .protocol (.cannotOpen _) | .protocol (.cannotReserve _) => false
  | .protocol _ | .connection _ | .stream _ _ => true
  | _ => false

namespace Connection

variable {conn start after : Connection} {id limit : Nat} {closing : Bool} {queue : Buffer}
  {stream : Stream} {error : Error} {frame : Frame} {role : Role}

/-! ## Flushing with all checks -/

def sendQueue? (id limit : Nat) (closing : Bool) (queue : Buffer) (conn : Connection) :
    Option (Buffer × Connection) :=
  if _done : queue.length = 0 ∨ conn.sendWindows.available id = 0 then some (queue, conn)
  else
    match queue with
    | ⟨[], _⟩ => none
    | ⟨piece :: rest, length⟩ =>
        let count := min piece.length (min limit (conn.sendWindows.available id))
        if _empty : count = 0 then none
        else
          match conn.sendWindows.charge id count with
          | .error _ => none
          | .ok windows =>
              let left := Buffer.cut ⟨piece :: rest, length⟩ count
              sendQueue? id limit closing left
                ({ conn with sendWindows := windows }.write
                  (.data id (piece.take count) (closing && left.length = 0) none))
termination_by queue.length
decreasing_by
  simp only [Buffer.cut] at *
  omega

def advanced? (conn : Connection) (id : Nat) (signal : Signal) : Option Connection :=
  match (advance id signal).run conn with
  | .ok _ after => some after
  | .error _ _ => none

def finishFlush? (id : Nat) (stream : Stream) (left : Buffer) (conn : Connection) :
    Option Connection :=
  let conn := conn.modifyStream id fun stream => { stream with queue := left }
  if left.length = 0 then
    match stream.trailers with
    | some fields =>
        ((conn.modifyStream id Stream.endSent).writeHeaders id fields none true).advanced? id
          (.sendHeaders true)
    | none =>
        if stream.endQueued then
          let conn := conn.modifyStream id Stream.endSent
          (if stream.buffered = 0 then conn.write (.data id [] true none) else conn).advanced? id
          .sendEnd
        else some conn
  else some { conn with sendWindows := conn.sendWindows.park id }

def flush? (conn : Connection) (id : Nat) : Option Connection :=
  match conn.registry.get? id with
  | none => some conn
  | some stream =>
      if stream.phase.canSend then
        (sendQueue? id conn.exchange.peer.maxFrameSize (stream.endQueued && stream.trailers.isNone)
          stream.queue conn).bind fun (left, conn) => finishFlush? id stream left conn
      else some conn

/-- A queue that is counted right is sent as it is without the checks. -/
theorem sendQueue?_eq (exact : queue.Exact) (positive : 0 < limit) (conn : Connection) :
    sendQueue? id limit closing queue conn = some (sendQueue id limit closing queue conn) := by
  fun_induction sendQueue id limit closing queue conn with
  | case1 conn length =>
    have none : length = 0 := exact.counted
    rw [sendQueue?, dif_pos (.inl none)]
  | case2 conn piece rest length count spent =>
    have some := length_pos_iff.mpr (exact.filled piece mem_cons_self)
    rw [sendQueue?, dif_pos (.inr (by omega))]
  | case3 conn piece rest length count spent error failed =>
    obtain ⟨windows, charged⟩ := Windows.charge_of_le_available
      (show count ≤ conn.sendWindows.available id by omega) (by omega)
    cases failed.symm.trans charged
  | case4 conn piece rest length count spent windows charged left ih =>
    have counted : length ≠ 0 := fun none => by cases exact.length_eq_zero_iff.mp none
    rw [sendQueue?, dif_neg (show ¬(length = 0 ∨ conn.sendWindows.available id = 0) by omega)]
    simp only
    rw [dif_neg spent, charged]
    exact ih (exact.cut (by omega))

private theorem advanced?_eq {signal : Signal} {next : Stream}
    (held : conn.registry.get? id = some stream) (moves : stream.advance? signal = some next) :
    conn.advanced? id signal = some (conn.advanceAnyway id signal) := by
  have leads : (advance id signal).Leads conn fun result _ => result = .ok () :=
    (advance_leads held moves).mpr rfl
  unfold advanced? advanceAnyway
  cases ran : (advance id signal).run conn with
  | ok => rfl
  | error => cases leads.of_error ran

private theorem finishFlush?_eq (held : conn.registry.get? id = some stream)
    (sends : stream.phase.canSend) (left : Buffer) :
    finishFlush? id stream left conn = some (finishFlush id stream left conn) := by
  have ended : ((conn.modifyStream id fun stream => { stream with queue := left }).modifyStream id
      Stream.endSent).registry.get? id = some { stream.endSent with queue := left } :=
    get?_modifyStream (get?_modifyStream held)
  unfold finishFlush? finishFlush
  simp only
  by_cases spent : left.length = 0
  · rw [if_pos spent, if_pos spent]
    cases stream.trailers with
    | some fields =>
      obtain ⟨next, moves⟩ : ∃ next, ({ stream.endSent with queue := left } : Stream).advance?
          (.sendHeaders true) = some next := exists_sendHeaders (.inl (by exact sends)) true
      refine advanced?_eq ?_ moves
      exact ended
    | none =>
      obtain ⟨next, moves⟩ : ∃ next, ({ stream.endSent with queue := left } : Stream).advance?
          .sendEnd = some next := exists_sendEnd sends
      by_cases ends : stream.endQueued
      · simp only [if_pos ends]
        refine advanced?_eq ?_ moves
        split <;> exact ended
      · simp only [if_neg ends]
  · rw [if_neg spent, if_neg spent]

private theorem flush?_eq (sound : conn.Sound) (id : Nat) :
    conn.flush? id = some (conn.flush id) := by
  unfold flush? flush
  cases held : conn.registry.get? id with
  | none => rfl
  | some stream =>
    simp only
    by_cases sends : stream.phase.canSend
    · have kept := registry_sendQueue id conn.exchange.peer.maxFrameSize
        (stream.endQueued && stream.trailers.isNone) stream.queue conn
      rw [if_pos sends, if_pos sends,
        sendQueue?_eq (sound.registry.exact held) sound.exchange.peer.maxFrameSize_pos,
        Option.bind_some]
      exact finishFlush?_eq (kept ▸ held) sends _
    · rw [if_neg sends, if_neg sends]

/-! ## Counting what is queued -/

/-- No stream has an empty piece queued, and each counts the octets of its pieces right. -/
def Counts (conn : Connection) : Prop :=
  ∀ id stream, conn.registry.get? id = some stream →
    (∀ piece ∈ stream.queue.pieces, piece ≠ []) ∧ stream.buffered = totalLength stream.queue.pieces

private theorem counts_of_sound (sound : conn.registry.Sound) : conn.Counts := by
  intro id stream held
  have exact := sound.exact held
  exact ⟨exact.filled, exact.counted⟩

private theorem registry_teardown_sound (sound : conn.registry.Sound) (reason : Reason) :
    (conn.teardown reason).registry.Sound := by
  unfold teardown
  simp only
  generalize conn.registry.liveIds = ids
  induction ids generalizing conn with
  | nil => exact sound
  | cons id rest ih => exact ih (registry_dropStream_sound sound id reason false .sessionClosed)

private theorem registry_fail_sound (sound : conn.registry.Sound) (error : Error) :
    (conn.fail error).registry.Sound := by
  unfold fail
  split
  · exact sound
  · exact registry_teardown_sound (by exact sound) error.reason

private theorem registry_close_sound (sound : conn.registry.Sound) : conn.close.registry.Sound := by
  unfold close
  split
  · exact sound
  · refine registry_teardown_sound ?_ .cancel
    split <;> exact sound

/-- A registry stays sound even where a connection ends. -/
theorem Step.registry_sound {log : List Activity} (step : Step conn log after)
    (sound : conn.closed = false → conn.Sound) (known : conn.registry.Sound) :
    after.registry.Sound := by
  cases step with
  | call call =>
    cases closed : conn.closed with
    | true =>
      rcases called_eq_or_skips closed call with same | ⟨id, registry, skips, same⟩ <;> rw [same]
      · exact known
      · exact known.skipTo skips
    | false => exact (called_keeps (sound closed) call).1.registry
  | accept opened ran =>
    obtain ⟨_, handled⟩ := accept_handled (sound opened) ran
    exact handled.sound.registry
  | absorb opened ran harmless =>
    obtain ⟨_, handled⟩ := absorb_handled (sound opened) ran harmless
    exact handled.sound.registry
  | collapse opened ran fatal =>
    have receipt := (receiveFrame_receipt (sound opened) _).of_error ran
    exact registry_fail_sound (receipt.registry_sound (sound opened)) _
  | fail error => exact registry_fail_sound known error
  | close => exact registry_close_sound known
  | handOver | tell events => exact known

theorem Steps.registry_sound {log : List Activity} (steps : Steps start log conn)
    (sound : start.Sound) :
    conn.registry.Sound := by
  induction steps with
  | refl => exact sound.registry
  | tail steps step ih => exact step.registry_sound (steps.sound sound) ih

theorem Reached.counts (reached : conn.Reached role) : conn.Counts := by
  obtain ⟨config, log, steps⟩ := reached
  exact counts_of_sound (steps.registry_sound (Session.fresh_sound role config))

/-! ## Frames that fail -/

private theorem missingStream_isFault (conn : Connection) (kind : FrameKind) (id : Nat) :
    (conn.missingStream kind id).isFault = true := by
  unfold missingStream
  split <;> rfl

private theorem acceptRemote_isFault {registry : Registry}
    (failed : registry.acceptRemote id = .error error) :
    error.isFault = true := by
  unfold Registry.acceptRemote at failed
  split at failed
  · cases failed
    rfl
  · split at failed <;> cases failed
    rfl

theorem Dealt.isFault (dealt : Dealt conn frame (.error error) after) : error.isFault := by
  cases dealt with
  | data _ dealt =>
    cases dealt with
    | unheld => exact missingStream_isFault ..
    | unwelcome =>
      unfold dataFault
      split <;> rfl
    | overdrawn => rfl
  | headers _ dealt =>
    cases dealt with
    | misplaced fault =>
      cases fault with
      | missing => exact missingStream_isFault ..
      | unaccepted _ _ failed => exact acceptRemote_isFault failed
      | wrongPhase => rfl
    | declined => rfl
  | unfounded _ fault =>
    cases fault with
    | missing => exact missingStream_isFault ..
    | unaccepted failed => exact acceptRemote_isFault failed
    | wrongPhase => rfl
  | malformed fault =>
    apply Exchange.readParameters_fails fault
    exact fun _ _ _ => ⟨rfl, rfl⟩
  | uncredited => exact missingStream_isFault ..
  | _ => rfl

/-! ## Following our settings -/

/-- The exchange after we have announced changes, or the peer has acknowledged them. -/
def Negotiates (exchange after : Exchange) : Prop :=
  (∃ changes now, exchange.announce changes now = .ok after) ∨
    ∃ commit, exchange.acknowledge = some (commit, after)

private theorem syncLimits_of_negotiates (sound : conn.Sound) {exchange : Exchange}
    (negotiates : Negotiates conn.exchange exchange) (outbound : List Outgoing) :
    ∃ after, syncLimits.run { conn with exchange, outbound } = .ok () after := by
  have valid : exchange.Sound := by
    rcases negotiates with ⟨changes, now, announced⟩ | ⟨commit, acknowledged⟩
    · exact sound.exchange.announce announced
    · exact sound.exchange.acknowledge acknowledged
  have leads : syncLimits.Leads { conn with exchange, outbound } fun result after =>
      result = .ok () ∧ _ :=
    syncLimits_leads valid sound.receive sound.topped sound.receiveInitial
  cases ran : syncLimits.run { conn with exchange, outbound } with
  | ok _ after => exact ⟨after, rfl⟩
  | error error after => cases (leads.of_error ran).1

/-! ## Nothing of all this fails -/

/-- Nothing fails that has been ruled out before. -/
structure Unfailing (conn : Connection) : Prop where
  frames : ∀ {frame error after}, (receiveFrame frame).run conn = .error error after →
    error.isFault = true ∧ after.events = conn.events
  calls : ∀ {call error after}, (perform call).run conn = .error error after →
    Rejected call error conn after
  responses : ∀ {id fields endStream refused after},
    (perform (.respond id fields endStream)).run conn = .error (.refused refused) after →
      after = conn.resetStream id .refusedStream true
  begins : ∀ signal, signal = .sendPush ∨ signal = .receivePush ∨
    (∃ endStream, signal = .sendHeaders endStream ∨ signal = .receiveHeaders endStream) →
      (({} : Stream).advance? signal).isSome
  flushes : conn.closed = false → ∀ {middle}, conn.Nudged middle → ∀ id,
    middle.flush? id = some (middle.flush id)
  counts : conn.Counts
  counting : conn.closed = false → ∀ {middle}, conn.Nudged middle → middle.Counts
  syncs : conn.closed = false → ∀ {exchange} outbound, Negotiates conn.exchange exchange →
    ∃ after, syncLimits.run { conn with exchange, outbound } = .ok () after

theorem Reached.unfailing (reached : conn.Reached role) : conn.Unfailing where
  frames ran :=
    have dealt := (receiveFrame_dealt conn _).of_error ran
    ⟨dealt.isFault, dealt.intact.events⟩
  calls ran := (perform_rejects reached.sound _).of_error ran
  responses {id fields endStream refused after} ran := by
    have served := (perform_served conn (.respond id fields endStream)).of_error ran
    cases served with
    | denied plain => exact absurd rfl (plain refused)
    | overfull => rfl
  begins := by
    rintro _ (rfl | rfl | ⟨endStream, rfl | rfl⟩)
    · rfl
    · rfl
    · cases endStream <;> rfl
    · cases endStream <;> rfl
  flushes opened _ nudged := flush?_eq (nudged.sound (reached.sound opened)).1
  counts := reached.counts
  counting opened _ nudged := counts_of_sound (nudged.sound (reached.sound opened)).1.registry
  syncs opened _ outbound negotiates :=
    syncLimits_of_negotiates (reached.sound opened) negotiates outbound

/-- A client whose stream waits with the last of three octets, after the peer has allowed it two. -/
theorem Reached.unfailing_waiting :
    let conn := (Session.newClient.after [.call (.createStream [] none false),
      .receive [0, 0, 6, 4, 0, 0, 0, 0, 0, 0, 4, 0, 0, 0, 2],
      .call (.sendData 1 [1, 2, 3] true)]).connection
    conn.Reached .client ∧ conn.closed = false ∧ conn.sendWindows.parked = [1] ∧
      (conn.registry.get? 1).any (·.queue = ⟨[[3]], 1⟩) ∧ conn.Counts ∧
      conn.flush? 1 = some (conn.flush 1) := by
  intro conn
  have reached : conn.Reached .client := (Session.reached_of_create Session.create_newClient).trail
    (Session.trail_after (.create Session.create_newClient) _)
  have opened : conn.closed = false := by decide +kernel
  exact ⟨reached, opened, by decide +kernel, by decide +kernel, reached.unfailing.counts,
    reached.unfailing.flushes opened .refl 1⟩

end Connection

end Http2
