import Http2.Proofs.Farewells
import Http2.Proofs.Passage
import Mathlib.Data.List.Basic

/-!
# Frames on streams that were left behind

When we say farewell, frames of the peer on streams above the one that is named may still be on
their way.  Headers that open such a stream are passed over, and frames on a stream that was given
up, and that is still kept, end no session.  The trouble is with streams of which nothing is kept.
Data, further headers and credit on them are taken for frames on a stream that the peer has no
business with, and these end the session.  A stream whose headers were passed over is of this kind
from the start.
-/

namespace Http2

open Registry

def fatally {α : Type} : Except Error α → Bool
  | .ok _ => false
  | .error error => error.isFatal

/-! ## Streams of the peer -/

private theorem Phase.next?_ne_reservedLocal {phase next : Phase} {signal : Signal}
    (moves : phase.next? signal = some next) (begun : phase ≠ .idle) : next ≠ .reservedLocal := by
  rintro rfl
  cases phase <;> cases signal <;> simp_all [Phase.next?] <;>
    rename_i endStream <;> cases endStream <;> simp_all

/-- What may show of a stream of the peer: once there it is not idle, and not promised by us. -/
def View.IsTheirs : View → Prop
  | .unused ours => ours = false
  | .gone => True
  | .live stream => stream.phase ≠ .idle ∧ stream.phase ≠ .reservedLocal

namespace View.IsTheirs

variable {stream next : Stream} {signal : Signal}

theorem of_advance (moves : stream.advance? signal = some next) (begun : stream.phase ≠ .idle) :
    (View.of next).IsTheirs := by
  obtain ⟨phase, follows, rfl⟩ := Option.map_eq_some_iff.mp moves
  unfold View.of
  split
  · exact ⟨Phase.next?_ne_idle follows, Phase.next?_ne_reservedLocal follows begun⟩
  · trivial

theorem of_endIf {ended : Bool} (moves : stream.endIf? ended signal = some next)
    (theirs : (View.live stream).IsTheirs) : (View.of next).IsTheirs := by
  cases ended with
  | true => exact of_advance moves theirs.1
  | false =>
    cases moves
    unfold View.of
    split
    · exact theirs
    · trivial

end View.IsTheirs

open View.IsTheirs (of_advance of_endIf)

theorem Act.isTheirs {id : Nat} {view next : View} {marks : List Mark}
    (act : Act id view marks next) (theirs : view.IsTheirs) : next.IsTheirs := by
  cases act with
  | aside | inform | promise | speak | hearPromise | enqueue | enqueueTrailers | dispatch =>
    exact theirs
  | pass | refuseOwn | drop | disown | refuseRemote | passOver | refuse | ignore => trivial
  | openLocal | reserveLocal => cases theirs
  | conclude _ _ _ moves => exact of_advance moves theirs.1
  | trail _ _ _ moves => exact of_advance moves theirs.1
  | respond _ _ _ moves => exact of_advance moves theirs.1
  | @openRemote fields priority endStream stream opens =>
    cases endStream <;> cases opens <;> exact ⟨by simp, by simp⟩
  | reserveRemote => exact ⟨by simp, by simp⟩
  | receiveData _ moves => exact of_endIf moves theirs
  | receiveFirst _ moves => exact of_advance moves theirs.1
  | receiveHeaders _ _ moves => exact of_endIf moves theirs
  | receiveTrailers _ _ moves => exact of_advance moves theirs.1

theorem Life.isTheirs {id : Nat} {start view : View} {marks : List Mark}
    (life : Life id start marks view) (theirs : start.IsTheirs) : view.IsTheirs := by
  induction life with
  | refl => exact theirs
  | tail _ act _ ih => exact act.isTheirs ih

namespace Connection

variable {conn after : Connection} {id last : Nat} {α β : Type} {frame : Frame}

/-! ## Strays -/

/-- The stream is one of the peer, above the last one that was named. -/
def IsBehind (last : Nat) (conn : Connection) (id : Nat) : Prop :=
  conn.registry.role.peer.initiates id = true ∧ last < id

/-- Frames that the peer may have on their way on its streams above the last one that was named.  It
has used the stream unless the frame opens it, and has begun to send on it before there is data.
Header blocks can be read, and data is within the window of the connection. -/
def Stray (last : Nat) (conn : Connection) : Frame → Prop
  | .headers id _ block _ => conn.IsBehind last id ∧
      ∃ fields, (Header.decodeBlock conn.decoder block).1 = .ok fields
  | .data id octets endStream padding => conn.IsBehind last id ∧
      id ≤ conn.registry.lastRemote ∧ conn.phase? id ≠ some .reservedRemote ∧
      (Frame.data id octets endStream padding).chargedLength ≤ conn.receiveWindows.connection
  | .windowUpdate id _ | .rstStream id _ => conn.IsBehind last id ∧ id ≤ conn.registry.lastRemote
  | .priority id _ => conn.IsBehind last id
  | _ => False

/-- The frames are strays as they come, as long as the session goes on. -/
def Strays (last : Nat) (conn : Connection) : List Frame → Prop
  | [] => True
  | frame :: frames => conn.Stray last frame ∧
      ((conn.handle frame).closed = false → (conn.handle frame).Strays last frames)

/-- The frame needs a stream that the peer has used and of which nothing is kept. -/
def Orphan (conn : Connection) : Frame → Prop
  | .headers id .. | .data id .. | .windowUpdate id _ =>
    id ≤ conn.registry.lastRemote ∧ conn.registry.get? id = none
  | _ => False

/-- A connection that has said farewell, with what is known of the streams of the peer. -/
structure Departing (last : Nat) (conn : Connection) : Prop where
  sound : conn.Sound
  sent : conn.farewell.sent = some last
  theirs : ∀ id, conn.registry.role.peer.initiates id → (conn.registry.view id).IsTheirs

theorem Departing.phase (departing : conn.Departing last)
    (theirs : conn.registry.role.peer.initiates id) {phase : Phase}
    (stands : conn.phase? id = some phase) : phase ≠ .idle ∧ phase ≠ .reservedLocal := by
  obtain ⟨stream, held, rfl⟩ := Option.map_eq_some_iff.mp stands
  rcases view_cases conn.registry id with ⟨_, held', -, view⟩ | ⟨ended, -⟩
  · obtain rfl := Option.some.inj (held.symm.trans held')
    have shown := departing.theirs id theirs
    rw [view] at shown
    exact shown
  · have closed : stream.phase = .closed := by
      simpa [Stream.isLive, Phase.isClosed] using ended stream held
    rw [closed]
    exact ⟨by simp, by simp⟩

theorem Departing.unheld (departing : conn.Departing last)
    (theirs : conn.registry.role.peer.initiates id)
    (new : conn.registry.lastRemote < id) : conn.registry.get? id = none := by
  have remote : conn.registry.isLocal id = false := not_initiates_of_peer theirs
  have idle : conn.registry.isIdle id := by simp [isIdle, remote, new]
  exact Option.map_eq_none_iff.mp (departing.sound.registry.fresh id idle)

private theorem ne_none_of_get? {stream : Stream} (held : conn.registry.get? id = some stream) :
    conn.registry.get? id ≠ none := fun missing => by cases held.symm.trans missing

theorem DataDealt.fatally_iff {octets : Octets} {count : Nat} {endStream : Bool}
    {result : Except Error Unit} (dealt : DataDealt conn id octets count endStream result after)
    (fit : ∀ phase, conn.phase? id = some phase →
      phase ≠ .idle ∧ phase ≠ .reservedLocal ∧ phase ≠ .reservedRemote) :
    fatally result = true ↔ conn.registry.get? id = none := by
  cases dealt with
  | unheld unknown => exact iff_of_true (missingStream_isFatal ..) (phase?_eq_none_iff.mp unknown)
  | @unwelcome _ stream held shut =>
    have mild : (dataFault id stream.phase).isFatal = false := by
      have phases := fit stream.phase (phase?_of_get? held)
      cases phase : stream.phase <;> simp_all [Phase.canReceive, dataFault, Error.isFatal]
    exact iff_of_false (Bool.eq_false_iff.mp mild) (ne_none_of_get? held)
  | overdrawn held | delivered held | finished held =>
    exact iff_of_false Bool.false_ne_true (ne_none_of_get? held)

section Behind

variable {fields : List Field} {priority : Option Priority} {endStream : Bool}
  {result : Except Error Unit}
  {after : Connection} (dealt : HeadersDealt conn id fields priority endStream result after)
  (sent : conn.farewell.sent = some last) (behind : conn.IsBehind last id)
  (fit : ∀ phase, conn.phase? id = some phase → phase ≠ .idle ∧ phase ≠ .reservedLocal)

include dealt sent behind fit

/-- Headers on a stream above the last one that was named end the session if the stream has been
used and nothing is kept of it. -/
theorem HeadersDealt.fatally_iff :
    fatally result = true ↔ id ≤ conn.registry.lastRemote ∧ conn.registry.get? id = none := by
  obtain ⟨theirs, above⟩ := behind
  have beyond : conn.farewell.sent.any (· < id) = true := by
    rw [sent]
    exact decide_eq_true above
  cases dealt with
  | misplaced fault =>
    cases fault with
    | missing _ ours => cases ours.symm.trans (not_initiates_of_peer theirs)
    | unaccepted unknown _ failed =>
      refine iff_of_true (acceptRemote_isFatal failed) ⟨?_, phase?_eq_none_iff.mp unknown⟩
      by_contra new
      simp [Registry.acceptRemote, theirs, new] at failed
    | wrongPhase held unfit =>
      obtain ⟨started, ours⟩ := fit _ (phase?_of_get? held)
      exact absurd unfit (not_or.mpr ⟨started, ours⟩)
  | passed _ taken =>
    obtain ⟨-, new, -⟩ := acceptRemote_eq taken
    exact iff_of_false Bool.false_ne_true fun orphan => Nat.not_lt.mpr orphan.1 new
  | turnedAway _ _ within | accepted _ _ within => cases within.symm.trans beyond
  | declined held | started held | continued held | concluded held | trailed held =>
    exact iff_of_false Bool.false_ne_true fun orphan => ne_none_of_get? held orphan.2

theorem HeadersDealt.passes (new : conn.registry.lastRemote < id)
    (missing : conn.registry.get? id = none) :
    result = .ok () ∧
    after = { conn with registry := { conn.registry with lastRemote := id } } := by
  have mild := mt (dealt.fatally_iff sent behind fit).mp fun orphan => Nat.not_lt.mpr orphan.1 new
  have beyond : conn.farewell.sent.any (· < id) = true := by
    rw [sent]
    exact decide_eq_true behind.2
  cases dealt with
  | misplaced fault => exact absurd fault.isFatal mild
  | passed _ taken =>
    obtain ⟨-, -, rfl⟩ := acceptRemote_eq taken
    exact ⟨rfl, rfl⟩
  | turnedAway _ _ within | accepted _ _ within => cases within.symm.trans beyond
  | declined held | started held | continued held | concluded held | trailed held =>
    exact absurd missing (ne_none_of_get? held)

end Behind

theorem Stray.fatally_iff (departing : conn.Departing last) (stray : conn.Stray last frame) :
    (receiveFrame frame).Leads conn fun result _ => fatally result = true ↔ conn.Orphan frame := by
  refine (receiveFrame_dealt conn frame).mono fun result after dealt => ?_
  cases dealt with
  | overspent short =>
    obtain ⟨-, -, -, within⟩ := stray
    have short := Windows.chargeConnection_fails short
    omega
  | @data id octets _ _ windows _ _ _ dealt =>
    obtain ⟨⟨theirs, -⟩, used, begun, -⟩ := stray
    have same : (conn.debited windows).registry = conn.registry := registry_refill ..
    refine (dealt.fatally_iff fun phase known => ?_).trans ?_
    · rw [phase?, same] at known
      obtain ⟨started, ours⟩ := departing.phase theirs known
      exact ⟨started, ours, fun reserved => begun (reserved ▸ known)⟩
    · rw [same]
      exact (and_iff_right used).symm
  | garbled decoded =>
    obtain ⟨-, fields, legible⟩ := stray
    rw [decoded] at legible
    cases legible
  | headers _ dealt =>
    exact dealt.fatally_iff departing.sent stray.1 fun _ => departing.phase stray.1.1
  | looped | unplaced | placed | dropped =>
    exact iff_of_false Bool.false_ne_true fun orphan => orphan
  | unopened _ idle =>
    obtain ⟨⟨theirs, -⟩, used⟩ := stray
    have remote : conn.registry.isLocal _ = false := not_initiates_of_peer theirs
    rw [isIdle, remote, if_neg Bool.false_ne_true] at idle
    exact absurd used (Nat.not_le.mpr (of_decide_eq_true idle))
  | zeroCredit | overfilled | credited =>
    obtain ⟨⟨theirs, -⟩, -⟩ := stray
    cases role : conn.registry.role <;> rw [role] at theirs <;> cases theirs
  | uncredited _ unknown =>
    exact iff_of_true (missingStream_isFatal ..) ⟨stray.2, phase?_eq_none_iff.mp unknown⟩
  | unneeded _ held | emptyCredit _ held | overflowed _ held | served _ held | saved _ held =>
    exact iff_of_false Bool.false_ne_true fun orphan => ne_none_of_get? held orphan.2
  | _ => cases stray

private theorem closed_handle_iff (sound : conn.Sound) (opened : conn.closed = false) {cause : Prop}
    (leads : (receiveFrame frame).Leads conn fun result _ => fatally result = true ↔ cause) :
    (conn.handle frame).closed = true ↔ cause := by
  cases ran : (receiveFrame frame).run conn with
  | ok _ after =>
    obtain ⟨_, handled⟩ := accept_handled sound ran
    rw [handle_of_ok ran, handled.closed, opened]
    exact leads.of_ok ran
  | error error after =>
    have settled : error.isFatal ↔ cause := leads.of_error ran
    rw [← settled, handle_of_error ran]
    cases fatal : error.isFatal with
    | true => simp [closed_fail]
    | false =>
      obtain ⟨_, handled⟩ := absorb_handled sound ran fatal
      rw [if_neg Bool.false_ne_true, handled.closed, opened]

theorem Stray.last?_eq_none (stray : conn.Stray last frame) : frame.last? = none := by
  cases frame <;> first | rfl | cases stray

theorem Departing.handle (departing : conn.Departing last) (stays : frame.last? = none)
    (opened : conn.closed = false) (going : (conn.handle frame).closed = false) :
    (conn.handle frame).Departing last := by
  have steady : ∃ born, Steady born conn (conn.handle frame) := by
    rcases handle_steady conn stays with steady | ⟨middle, error, -, failed⟩
    · exact steady
    · rw [failed, closed_fail] at going
      cases going
  obtain ⟨born, steady⟩ := steady
  obtain ⟨marks, lived⟩ := handle_lived departing.sound opened frame
  refine ⟨handle_sound departing.sound going, ?_, fun id theirs => ?_⟩
  · rw [steady.farewell, departing.sent]
  · rw [steady.role] at theirs
    exact (lived.life id).isTheirs (departing.theirs id theirs)

/-- Strays end the session if and only if one of them is an orphan when its turn comes. -/
theorem closed_handleAll_iff {reader rest : Reader} {frames : List Frame}
    (departing : conn.Departing last) (opened : conn.closed = false)
    (reads : conn.Reads reader frames rest) (strays : conn.Strays last frames) :
    (conn.handleAll frames).closed = true ↔ ∃ before frame after,
      frames = before ++ frame :: after ∧
        (conn.handleAll before).Orphan frame := by
  induction frames generalizing conn reader with
  | nil => simp [handleAll, opened]
  | cons frame frames ih =>
    obtain ⟨-, next, -, reads⟩ := reads
    obtain ⟨stray, strays⟩ := strays
    have first := closed_handle_iff departing.sound opened (stray.fatally_iff departing)
    cases going : (conn.handle frame).closed with
    | true =>
      refine iff_of_true ?_ ⟨[], frame, frames, rfl, first.mp going⟩
      cases frames with
      | nil => exact going
      | cons => cases going.symm.trans reads.1
    | false =>
      have kept : ¬ conn.Orphan frame := fun orphan => by
        cases going.symm.trans (first.mpr orphan)
      refine (ih (departing.handle stray.last?_eq_none opened going) going reads
        (strays going)).trans ?_
      constructor
      · rintro ⟨before, orphan, after, rfl, lost⟩
        exact ⟨frame :: before, orphan, after, rfl, lost⟩
      · rintro ⟨before, orphan, after, split, lost⟩
        cases before with
        | nil =>
          cases split
          exact absurd lost kept
        | cons =>
          cases split
          exact ⟨_, orphan, after, rfl, lost⟩

/-- The session goes on after headers that are passed over, and all that may follow them on the
stream is an orphan. -/
theorem handle_passes (departing : conn.Departing last) (behind : conn.IsBehind last id)
    (new : conn.registry.lastRemote < id) (priority : Option Priority) {block : Octets}
    {fields : List Field} {table : Header.Table}
    (legible : Header.decodeBlock conn.decoder block = (.ok fields, table)) (endStream : Bool) :
    conn.handle (.headers id priority block endStream) =
      { conn with
        decoder := table, registry := { conn.registry with lastRemote := id } } := by
  have missing := departing.unheld behind.1 new
  have leads : (receiveFrame (.headers id priority block endStream)).Leads conn fun result after =>
      result = .ok () ∧ after = { conn with
        decoder := table, registry := { conn.registry with lastRemote := id } } := by
    refine (receiveFrame_dealt conn _).mono fun result after dealt => ?_
    cases dealt with
    | garbled decoded => cases legible.symm.trans decoded
    | headers decoded dealt =>
      cases legible.symm.trans decoded
      exact dealt.passes departing.sent behind (fun _ => departing.phase behind.1) new missing
  cases ran : (receiveFrame (.headers id priority block endStream)).run conn with
  | ok _ after => exact (handle_of_ok ran).trans (leads.of_ok ran).2
  | error error after => cases (leads.of_error ran).1

end Connection

namespace Session

open Connection (Departing)

variable {session : Session} {log : List Activity} {last : Nat} {octets : Octets}
  {frames : List Frame}

/-- The octets amount to the frames.  None is left, unless the last has ended the session. -/
def Amounts (session : Session) (octets : Octets) (frames : List Frame) : Prop :=
  ∃ rest, session.connection.Reads (session.reader.feed octets) frames rest ∧
    ((session.connection.handleAll frames).closed = false →
      ∃ left, { rest with frameLimit := (session.connection.handleAll frames).frameLimit }.next =
        (.ok none, left))

theorem receive_of_amounts (amounts : session.Amounts octets frames)
    (sound : session.connection.Sound) (opened : session.connection.closed = false) :
    (session.receive octets).2.connection = session.connection.handleAll frames := by
  obtain ⟨rest, reads, spent⟩ := amounts
  rw [receive_of_open opened, reads.consume sound opened]
  split
  · rfl
  · rename_i going
    obtain ⟨left, next⟩ := spent (by simpa using going)
    rw [consume_eq_proceed, next]
    rfl

section

variable {frame : Frame} (amounts : session.Amounts octets (frames ++ [frame]))
  (sound : session.connection.Sound)

include amounts sound

theorem Amounts.sound_before : (session.connection.handleAll frames).Sound := by
  obtain ⟨_, reads, -⟩ := amounts
  obtain ⟨going, _, before, -⟩ := reads.split
  exact before.sound sound going

theorem receive_eq_error_iff {error : Error} (opened : session.connection.closed = false) :
    (session.receive octets).1 = .error error ↔ error.isFatal ∧
      ∃ later, (Connection.receiveFrame frame).run (session.connection.handleAll frames) =
        .error error later := by
  have isOk : (consume (session.reader.feed octets) session.connection).1.isOk = _ :=
    (consumed sound opened _).isOk
  have after := receive_of_amounts amounts sound opened
  have steady := amounts.sound_before sound
  rw [receive_of_open opened] at after ⊢
  obtain ⟨rest, reads, -⟩ := amounts
  constructor
  · intro failed
    have closed : (session.connection.handleAll (frames ++ [frame])).closed = true := by
      rw [after, failed] at isOk
      simpa [Except.isOk, Except.toBool] using isOk.symm
    have going := reads.split.1
    rw [Connection.handleAll_concat] at closed
    rcases Connection.handle_cases steady frame with ⟨_, handled⟩ | ⟨other, later,
      _, ran, fatal, -, -⟩
    · cases (handled.closed.trans going).symm.trans closed
    · obtain rfl : other = error :=
        Except.error.inj ((reads.consume_fails sound ran fatal).symm.trans failed)
      exact ⟨fatal, later, ran⟩
  · rintro ⟨fatal, later, ran⟩
    exact reads.consume_fails sound ran fatal

end

theorem Run.departing (run : Run session log) (opened : session.connection.closed = false)
    (sent : session.connection.farewell.sent = some last) : Departing last session.connection where
  sound := run.sound opened
  sent := sent
  theirs id theirs := by
    obtain ⟨role, config, steps⟩ := run.steps
    have sound := fresh_sound role config
    obtain ⟨marks, shown⟩ := steps.shown fun _ => sound
    rw [steps.role sound] at theirs
    refine (shown.life id).isTheirs ?_
    rcases fresh_view role config id with view | view
    · rw [view]
      exact not_initiates_of_peer theirs
    · rw [view]
      trivial

/-- Once we have said farewell, frames that were on their way on streams above the one named end the
session if and only if one of them is data, headers or credit on a stream that the peer has used and
of which nothing is kept; otherwise they are taken without an error.  Headers that open a stream are
passed over, and they make it such a stream. -/
theorem Run.strays_end_session_iff (run : Run session log)
    (opened : session.connection.closed = false)
    (sent : session.connection.farewell.sent = some last) (amounts : session.Amounts octets frames)
    (strays : session.connection.Strays last frames) :
    ((session.receive octets).2.connection.closed = true ↔
      ∃ before frame after, frames = before ++ frame :: after ∧
        (session.connection.handleAll before).Orphan frame) ∧
    (session.receive octets).1.isOk = !(session.receive octets).2.connection.closed ∧
    ∀ id priority block endStream fields table, session.connection.IsBehind last id →
      session.connection.registry.lastRemote < id →
      Header.decodeBlock session.connection.decoder block = (.ok fields, table) →
      let passed := session.connection.handle (.headers id priority block endStream)
      passed.closed = false ∧ id ≤ passed.registry.lastRemote ∧ passed.registry.get? id = none := by
  have departing := run.departing opened sent
  refine ⟨?_, ?_, fun id priority block endStream fields table behind new legible => ?_⟩
  · rw [receive_of_amounts amounts departing.sound opened]
    obtain ⟨rest, reads, -⟩ := amounts
    exact Connection.closed_handleAll_iff departing opened reads strays
  · rw [receive_of_open opened]
    exact (consumed departing.sound opened _).isOk
  · intro passed
    have same : passed = _ :=
      Connection.handle_passes departing behind new priority legible endStream
    rw [same]
    exact ⟨opened, Nat.le_refl id, departing.unheld behind.1 new⟩

/-- A server that has said farewell and given up the stream of its client. -/
def parting : Session :=
  (newServer []).after [.receive (preface ++ [0, 0, 0, 4, 0, 0, 0, 0, 0] ++
    [0, 0, 0, 1, 4, 0, 0, 0, 1]), .call (.sendGoaway 0 .noError [])]

private theorem exists_run_parting : ∃ log, Run parting log := by
  have created : Session.create .server {} 0 = .ok (newServer []) := rfl
  exact ⟨_, (Run.create created).after _⟩

/-- Data on the stream that was given up is no reason to end the session. -/
theorem Run.strays_end_session_iff_parting :
    parting.connection.farewell.sent = some 0 ∧
    parting.Amounts [0, 0, 1, 0, 0, 0, 0, 0, 1, 7] [.data 1 [7] false none] ∧
    parting.connection.Strays 0 [.data 1 [7] false none] ∧
    (parting.receive [0, 0, 1, 0, 0, 0, 0, 0, 1, 7]).2.connection.closed = false := by
  obtain ⟨log, run⟩ := exists_run_parting
  have sent : parting.connection.farewell.sent = some 0 := by decide +kernel
  have amounts : parting.Amounts [0, 0, 1, 0, 0, 0, 0, 0, 1, 7] [.data 1 [7] false none] :=
    ⟨_, ⟨by decide +kernel, _, Prod.ext (by decide +kernel) rfl, rfl⟩,
      fun _ => ⟨_, Prod.ext (by decide +kernel) rfl⟩⟩
  have strays : parting.connection.Strays 0 [.data 1 [7] false none] :=
    ⟨⟨⟨by decide +kernel, by decide⟩, by decide +kernel, by decide +kernel, by decide +kernel⟩,
      fun _ => trivial⟩
  have ends := (run.strays_end_session_iff (by decide +kernel) sent amounts strays).1
  refine ⟨sent, amounts, strays, Bool.eq_false_iff.mpr fun closed => ?_⟩
  obtain ⟨before, frame, after, split, orphan⟩ := ends.mp closed
  cases before with
  | nil =>
    cases split
    exact absurd orphan.2 (by decide +kernel)
  | cons => simp at split

/-- Headers that open a stream after the farewell, and the data after them, end the session. -/
theorem strays_end_a_session :
    ¬ ∀ session log last octets frames, Run session log → session.connection.closed = false →
      session.connection.farewell.sent = some last → session.Amounts octets frames →
      session.connection.Strays last frames → (session.receive octets).1.isOk = true := by
  intro taken
  obtain ⟨log, run⟩ := exists_run_parting
  have closes :
      (parting.connection.handleAll [.headers 3 none [] false, .data 3 [7] false none]).closed =
      true := by decide +kernel
  have amounts : parting.Amounts [0, 0, 0, 1, 4, 0, 0, 0, 3, 0, 0, 1, 0, 0, 0, 0, 0, 3, 7]
      [.headers 3 none [] false, .data 3 [7] false none] :=
    ⟨_, ⟨by decide +kernel, _, Prod.ext (by decide +kernel) rfl, by decide +kernel, _,
      Prod.ext (by decide +kernel) rfl, rfl⟩, fun going => by cases closes.symm.trans going⟩
  have strays : parting.connection.Strays 0 [.headers 3 none [] false, .data 3 [7] false none] :=
    ⟨⟨⟨by decide +kernel, by decide⟩, [], by decide +kernel⟩, fun _ =>
      ⟨⟨⟨by decide +kernel, by decide⟩, by decide +kernel, by decide +kernel, by decide +kernel⟩,
        fun _ => trivial⟩⟩
  have ok := taken _ _ 0 _ _ run (by decide +kernel) (by decide +kernel) amounts strays
  exact absurd ok (by decide +kernel)

end Session

end Http2
