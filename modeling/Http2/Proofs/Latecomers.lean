import Http2.Proofs.Strays

/-!
# Frames that come late

A stream that has closed is kept for a while, for the frames that the peer sent before it heard of
the end.  Data and headers among them are answered with another reset, and resets, credit and
priorities are passed over.  None of these changes what is kept of any stream.  A promise is the
exception.  It is a violation on every stream on which the peer cannot send, and so it ends the
session although it only came late.
-/

namespace Http2

namespace Connection

variable {conn : Connection} {id : Nat} {stream : Stream} {frame : Frame}

/-- Frames that may be on their way when a stream closes.  Data is within the window of the
connection, header blocks can be read, a priority names another stream, and a promise comes to a
client that takes pushes and names a stream that the peer may open next. -/
def Late (id : Nat) (conn : Connection) : Frame → Prop
  | .data stream octets endStream padding => stream = id ∧
      (Frame.data stream octets endStream padding).chargedLength ≤ conn.receiveWindows.connection
  | .headers stream _ block _ => stream = id ∧
      ∃ fields, (Header.decodeBlock conn.decoder block).1 = .ok fields
  | .rstStream stream _ | .windowUpdate stream _ => stream = id
  | .priority stream priority => stream = id ∧ priority.dependency ≠ id
  | .pushPromise stream promised block => stream = id ∧ conn.role = .client ∧
      conn.exchange.own.enablePush = true ∧
      (∃ request, (Header.decodeBlock conn.decoder block).1 = .ok request) ∧
      conn.role.peer.initiates promised = true ∧ conn.registry.lastRemote < promised
  | _ => False

/-- The frames are late as they come, as long as the session goes on. -/
def Latecomers (id : Nat) (conn : Connection) : List Frame → Prop
  | [] => True
  | frame :: frames => conn.Late id frame ∧
      ((conn.handle frame).closed = false → (conn.handle frame).Latecomers id frames)

abbrev latePromise (id : Nat) : Error := .protocol (.wrongPhase .pushPromise id .closed)

/-- The registry is left alone, and if anything is wrong then with this stream only. -/
structure Spared (id : Nat) (conn : Connection) (result : Except Error Unit) (after : Connection) :
    Prop where
  registry : after.registry = conn.registry
  closed : after.closed = conn.closed
  mild : ∀ error, result = .error error → ∃ reason, error = .stream id reason

theorem Spared.ok {after : Connection} (registry : after.registry = conn.registry)
    (closed : after.closed = conn.closed) : Spared id conn (.ok ()) after :=
  ⟨registry, closed, fun _ failed => by cases failed⟩

private theorem mild_stream (reason : Reason) (error : Error)
    (failed : (.error (.stream id reason) : Except Error Unit) = .error error) :
    ∃ reason, error = .stream id reason :=
  ⟨reason, (Except.error.inj failed).symm⟩

private theorem closed_refill (conn : Connection) (id target : Nat) :
    (conn.refill id target).closed = conn.closed := by
  unfold refill
  split <;> rfl

private theorem closed_handle_of_fatal {later : Connection} {error : Error}
    (failed : (receiveFrame frame).run conn = .error error later) (fatal : error.isFatal) :
    (conn.handle frame).closed = true := by
  rw [handle_of_error failed, if_pos fatal, closed_fail]

/-! ## One frame -/

section

variable (sound : conn.Sound) (held : conn.registry.get? id = some stream)
  (ended : stream.phase = .closed)
  (late : conn.Late id frame) (other : frame.kind? ≠ some .pushPromise)

include held ended late

theorem Late.promise_fails (promise : frame.kind? = some .pushPromise) :
    ∃ later, (receiveFrame frame).run conn = .error (latePromise id) later := by
  have fails : (receiveFrame frame).Leads conn fun result _ => result =
      .error (latePromise id) := by
    refine (receiveFrame_dealt conn frame).mono fun result after dealt => ?_
    cases dealt with
    | pushToServer server => cases late.2.1.symm.trans server
    | pushRefused refuses => cases late.2.2.1.symm.trans refuses
    | garbledPromise decoded =>
      obtain ⟨-, -, -, ⟨request, legible⟩, -⟩ := late
      rw [decoded] at legible
      cases legible
    | unfounded _ fault =>
      obtain ⟨rfl, -, -, -, theirs, new⟩ := late
      cases fault with
      | missing unknown => cases (Registry.phase?_of_get? held).symm.trans unknown
      | wrongPhase held' =>
        cases held.symm.trans held'
        rw [ended]
      | unaccepted failed => cases (Registry.acceptRemote_of theirs new).symm.trans failed
    | promised _ _ _ held' receives =>
      obtain ⟨rfl, -⟩ := late
      cases held.symm.trans held'
      rw [ended] at receives
      cases receives
    | _ => cases promise
  cases ran : (receiveFrame frame).run conn with
  | ok _ later => cases fails.of_ok ran
  | error error later =>
    cases fails.of_error ran
    exact ⟨later, rfl⟩

include sound other

theorem Late.spares : (receiveFrame frame).Leads conn (Spared id conn) := by
  have known : ∀ {middle : Connection} {found : Stream}, middle.registry = conn.registry →
      middle.registry.get? id = some found → found.phase = .closed := by
    intro middle found same held'
    rw [same, held] at held'
    cases held'
    exact ended
  have phases : conn.phase? id = some .closed := by simp [phase?, Registry.phase?, held, ended]
  have dead : ∀ {found : Stream}, conn.registry.get? id = some found → found.isLive = false :=
    fun held' => by simp [Stream.isLive, Phase.isClosed, known rfl held']
  refine (receiveFrame_dealt conn frame).mono fun result after dealt => ?_
  cases dealt with
  | overspent short =>
    have short := Windows.chargeConnection_fails short
    have within := late.2
    omega
  | @data _ _ _ _ windows _ _ _ dealt =>
    obtain ⟨rfl, -⟩ := late
    have same : (conn.debited windows).registry = conn.registry := registry_refill ..
    cases dealt with
    | unheld unknown =>
      rw [phase?, same] at unknown
      cases phases.symm.trans unknown
    | unwelcome held' =>
      rw [known same held']
      exact ⟨same, closed_refill .., mild_stream _⟩
    | overdrawn held' receives | delivered held' receives | finished held' receives =>
      rw [known same held'] at receives
      cases receives
  | garbled decoded =>
    obtain ⟨-, fields, legible⟩ := late
    rw [decoded] at legible
    cases legible
  | headers _ dealt =>
    obtain ⟨rfl, -⟩ := late
    cases dealt with
    | misplaced fault =>
      cases fault with
      | missing unknown | unaccepted unknown => cases phases.symm.trans unknown
      | wrongPhase held' unfit => simp [known rfl held'] at unfit
    | declined => exact ⟨rfl, rfl, mild_stream _⟩
    | passed unknown | turnedAway unknown | accepted unknown => cases phases.symm.trans unknown
    | started held' _ reserved => cases (known rfl held').symm.trans reserved
    | continued held' _ receives | concluded held' _ receives | trailed held' _ receives =>
      rw [known rfl held'] at receives
      cases receives
  | looped own =>
    obtain ⟨rfl, elsewhere⟩ := late
    exact absurd own elsewhere
  | placed _ live =>
    obtain ⟨rfl, -⟩ := late
    rw [held, Option.any_some, dead held] at live
    cases live
  | unopened unknown | uncredited _ unknown =>
    obtain rfl := late
    cases phases.symm.trans unknown
  | @dropped id code =>
    obtain rfl := late
    have same : conn.resetStream id ⟨code⟩ false = conn := by
      simp [resetStream, dropStream, held, dead held]
    rw [same]
    exact .ok rfl rfl
  | zeroCredit | overfilled | credited =>
    obtain rfl := late
    exact absurd rfl (sound.registry.ne_zero held)
  | unplaced | unneeded => exact .ok rfl rfl
  | emptyCredit _ held' live | overflowed _ held' live | served _ held' live | saved _ held' live =>
    obtain rfl := late
    cases (dead held').symm.trans live
  | pushToServer | pushRefused | garbledPromise | unfounded | promised => exact absurd rfl other
  | _ => cases late

theorem Late.handle_spares :
    (conn.handle frame).closed = conn.closed ∧ (conn.handle frame).registry = conn.registry := by
  have spares := late.spares sound held ended other
  cases ran : (receiveFrame frame).run conn with
  | ok _ after =>
    have spared := spares.of_ok ran
    rw [handle_of_ok ran]
    exact ⟨spared.closed, spared.registry⟩
  | error error after =>
    have spared := spares.of_error ran
    obtain ⟨reason, rfl⟩ := spared.mild error rfl
    have reset : after.absorb (.stream id reason) = after.write (.rstStream id reason.code) := by
      simp [absorb, resetFaulty, spared.registry, held, Stream.isLive, Phase.isClosed, ended]
    rw [handle_of_error ran, if_neg (by simp [Error.isFatal]), reset]
    exact ⟨spared.closed, spared.registry⟩

end

/-! ## All frames -/

/-- Late frames end the session at the first promise, and before it leave the registry alone. -/
theorem Latecomers.handleAll {reader rest : Reader} {frames : List Frame} (sound : conn.Sound)
    (opened : conn.closed = false) (held : conn.registry.get? id = some stream)
    (ended : stream.phase = .closed) (reads : conn.Reads reader frames rest)
    (late : conn.Latecomers id frames) :
    ((∀ frame ∈ frames, frame.kind? ≠ some .pushPromise) ∧ (conn.handleAll frames).closed = false ∧
      (conn.handleAll frames).registry = conn.registry) ∨
    ∃ before frame, frames = before ++ [frame] ∧ frame.kind? = some .pushPromise ∧
      ∃ later, (receiveFrame frame).run (conn.handleAll before) =
        .error (latePromise id) later := by
  induction frames generalizing conn reader with
  | nil => exact .inl ⟨by simp, opened, rfl⟩
  | cons frame frames ih =>
    obtain ⟨-, next, -, reads⟩ := reads
    obtain ⟨first, late⟩ := late
    by_cases promise : frame.kind? = some .pushPromise
    · obtain ⟨later, failed⟩ := first.promise_fails held ended promise
      have closes := closed_handle_of_fatal failed rfl
      cases frames with
      | nil => exact .inr ⟨[], frame, rfl, promise, later, failed⟩
      | cons => cases closes.symm.trans reads.1
    · obtain ⟨closed, registry⟩ := first.handle_spares sound held ended promise
      have going := closed.trans opened
      rcases ih (handle_sound sound going) going (registry ▸ held) reads (late going) with
        ⟨none', still, same⟩ | ⟨before, last, rfl, kind, later, failed⟩
      · refine .inl ⟨?_, still, same.trans registry⟩
        rintro other (_ | ⟨_, among⟩)
        · exact promise
        · exact none' other among
      · exact .inr ⟨frame :: before, last, rfl, kind, later, failed⟩

end Connection

namespace Session

variable {session : Session} {log : List Activity} {id : Nat} {stream : Stream} {octets : Octets}
  {frames : List Frame}

/-- Late frames on a stream that is kept as closed end the session if and only if there is a promise
among them, which is reported as a violation.  Otherwise they are taken without an error, and what
is kept of the streams stays as it is. -/
theorem Run.latecomers_end_session_iff (run : Run session log)
    (opened : session.connection.closed = false)
    (held : session.connection.registry.get? id = some stream) (ended : stream.phase = .closed)
    (amounts : session.Amounts octets frames) (late : session.connection.Latecomers id frames) :
    ((session.receive octets).2.connection.closed = true ↔
      ∃ frame ∈ frames, frame.kind? = some .pushPromise) ∧
    ((session.receive octets).2.connection.closed = false → (session.receive octets).1 = .ok () ∧
      (session.receive octets).2.connection.registry = session.connection.registry) ∧
    ((session.receive octets).2.connection.closed = true →
      (session.receive octets).1 = .error (.protocol (.wrongPhase .pushPromise id .closed))) := by
  have sound := run.sound opened
  have isOk : (consume (session.reader.feed octets) session.connection).1.isOk = _ :=
    (consumed sound opened _).isOk
  have reads := amounts.choose_spec.1
  have after := receive_of_amounts amounts sound opened
  rcases late.handleAll sound opened held ended reads with
    ⟨others, still, same⟩ | ⟨before, frame, rfl, kind, later, failed⟩
  · rw [← after] at still same
    refine ⟨iff_of_false (Bool.eq_false_iff.mp still) ?_, fun _ => ⟨?_, same⟩, fun closed => ?_⟩
    · rintro ⟨frame, among, promise⟩
      exact others frame among promise
    · rw [receive_of_open opened] at still ⊢
      rw [still] at isOk
      cases result : (consume (session.reader.feed octets) session.connection).1 with
      | ok => rfl
      | error => rw [result] at isOk; cases isOk
    · cases still.symm.trans closed
  · have fails := (receive_eq_error_iff amounts sound opened).mpr ⟨rfl, later, failed⟩
    have closes : (session.receive octets).2.connection.closed = true := by
      rw [after, Connection.handleAll_concat, Connection.closed_handle_of_fatal failed rfl]
    refine ⟨iff_of_true closes ⟨frame, by simp, kind⟩, fun going => ?_, fun _ => fails⟩
    cases closes.symm.trans going

def asking : Session := newClient.after [.call (.createStream [] none false)]

private theorem exists_run_asking : ∃ log, Run asking log :=
  ⟨_, (Run.create create_newClient).after _⟩

def retracting : Session := (asking.call (.reset 1 .cancel)).2

/-- Data and headers of the answer that cross with the reset do no harm. -/
theorem Run.latecomers_end_session_iff_retracting :
    retracting.Amounts [0, 0, 1, 0, 0, 0, 0, 0, 1, 7, 0, 0, 0, 1, 5, 0, 0, 0, 1]
      [.data 1 [7] false none, .headers 1 none [] true] ∧
    retracting.connection.Latecomers 1 [.data 1 [7] false none, .headers 1 none [] true] ∧
    (retracting.receive [0, 0, 1, 0, 0, 0, 0, 0, 1, 7, 0, 0, 0, 1, 5, 0, 0, 0, 1]).1 = .ok () := by
  obtain ⟨log, run⟩ := exists_run_asking
  have amounts : retracting.Amounts [0, 0, 1, 0, 0, 0, 0, 0, 1, 7, 0, 0, 0, 1, 5, 0, 0, 0, 1]
      [.data 1 [7] false none, .headers 1 none [] true] :=
    ⟨_, ⟨by decide +kernel, _, Prod.ext (by decide +kernel) rfl, by decide +kernel, _,
      Prod.ext (by decide +kernel) rfl, rfl⟩, fun _ => ⟨_, Prod.ext (by decide +kernel) rfl⟩⟩
  have late : retracting.connection.Latecomers 1 [.data 1 [7] false none,
      .headers 1 none [] true] :=
    ⟨⟨rfl, by decide +kernel⟩, fun _ => ⟨⟨rfl, [], by decide +kernel⟩, fun _ => trivial⟩⟩
  have held : retracting.connection.registry.get? 1 =
      some { phase := .closed, resetReason := some .cancel, finalSent := true } := by decide +kernel
  have ends := (run.after [.call (.reset 1 .cancel)]).latecomers_end_session_iff (by decide +kernel)
    held rfl amounts late
  have going := Bool.eq_false_iff.mpr fun closed => by
    obtain ⟨frame, among, promise⟩ := ends.1.mp closed
    revert frame
    simp [Frame.kind?]
  exact ⟨amounts, late, (ends.2.1 going).1⟩

/-- A promise of the server that crosses with the reset of the client ends the session. -/
theorem latecomers_end_a_session :
    ¬ ∀ session log id reason octets frames, Run session log → session.connection.closed = false →
      id ∈ session.connection.registry.liveIds → (session.call (.reset id reason)).1 = .ok none →
      (session.call (.reset id reason)).2.Amounts octets frames →
      (session.call (.reset id reason)).2.connection.Latecomers id frames →
      ((session.call (.reset id reason)).2.receive octets).1.isOk = true := by
  intro taken
  obtain ⟨log, run⟩ := exists_run_asking
  have closes : (retracting.connection.handleAll [.pushPromise 1 2 []]).closed = true := by
    decide +kernel
  have amounts : retracting.Amounts [0, 0, 4, 5, 4, 0, 0, 0, 1, 0, 0, 0, 2] [.pushPromise 1 2 []] :=
    ⟨_, ⟨by decide +kernel, _, Prod.ext (by decide +kernel) rfl, rfl⟩,
      fun going => by cases closes.symm.trans going⟩
  have late : retracting.connection.Latecomers 1 [.pushPromise 1 2 []] :=
    ⟨⟨rfl, by decide +kernel, by decide +kernel, ⟨[], by decide +kernel⟩, by decide +kernel,
      by decide +kernel⟩, fun _ => trivial⟩
  have ok := taken asking log 1 .cancel _ _ run (by decide +kernel) (by decide +kernel)
    (by decide +kernel) amounts late
  exact absurd ok (by decide +kernel)

end Session

end Http2
