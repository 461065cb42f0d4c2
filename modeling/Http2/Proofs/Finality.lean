import Http2.Proofs.Strays
import Http2.Proofs.Uses

/-!
# How a session ends

A session ends because it is closed or for a violation.  Either way every live stream is taken leave
of, lowest identifier first: the application is told of what was left unsent on it, and that it has
closed.  A violation is told last of all, to the application in an event and to the peer in a GOAWAY
frame, and it is also what the failing use of the session returns.

Behind the end there is nothing.  A closed session takes no octets and no calls, and whatever is
done with it adds neither an event nor a frame.
-/

namespace Http2

open Connection Registry List

namespace Connection

variable {conn after : Connection}

/-! ## What a violation leaves alone -/

/-- The streams and what the application has been told are as they were. -/
structure Intact (start conn : Connection) : Prop where
  streams : conn.registry.streams = start.registry.streams
  events : conn.events = start.events

theorem Dealt.intact {frame : Frame} {error : Error}
    (dealt : Dealt conn frame (.error error) after) :
    Intact conn after := by
  cases dealt with
  | @data _ _ _ _ windows _ _ _ dealt =>
    rw [dealt.eq_of_error, debited, refill]
    split <;> exact ⟨rfl, rfl⟩
  | headers _ dealt => cases dealt <;> exact ⟨rfl, rfl⟩
  | _ => exact ⟨rfl, rfl⟩

end Connection

/-! ## Taking leave of the streams -/

/-- What the application is told in the end of a stream that is still live: how much of it was never
sent, if anything was queued, and that it has closed. -/
def Stream.partings (stream : Stream) (id : Nat) (reason : Reason) : List Event :=
  (if stream.hasOutbound then [.sendCancelled id stream.buffered .sessionClosed] else []) ++
    [.streamClosed id (some reason)]

def View.partings (id : Nat) (reason : Reason) : View → List Event
  | .live stream => stream.partings id reason
  | _ => []

namespace Connection

variable {conn start after : Connection} {id : Nat} {error : Error} {motion : Motion}

/-- What is told of all live streams when the session ends, the lowest identifier first. -/
def partings (conn : Connection) (reason : Reason) : List Event :=
  conn.registry.liveIds.flatMap fun id =>
    ((conn.registry.get? id).map (·.partings id reason)).getD []

private theorem partings_of_streams (same : after.registry.streams = conn.registry.streams)
    (reason : Reason) :
    after.partings reason = conn.partings reason := by
  unfold partings liveIds Registry.get?
  rw [same]

private theorem liveIds_ascending (registry : Registry) : registry.liveIds.Pairwise (· < ·) :=
  IdMap.keysWhere_ascending _ _

variable (sound : conn.registry.Sound)

include sound

private theorem events_dropStream (id : Nat) (reason : Reason) :
    (conn.dropStream id reason false .sessionClosed).events =
      conn.events ++ (conn.registry.view id).partings id reason := by
  rcases view_cases conn.registry id with ⟨stream, held, live, view⟩ | ⟨ended, view⟩
  · have scene :=
      congrArg Scene.events (scene_dropStream sound held live reason false .sessionClosed)
    refine scene.trans ?_
    have same : stream.bare.partings id reason = stream.partings id reason := rfl
    rw [view, View.partings, same, Stream.partings, dropping]
    cases stream.hasOutbound <;> simp [Scene.setView, Scene.note, Connection.scene]
  · rw [dropStream_of_dead ended, view]
    cases conn.registry.isIdle id <;> simp [View.partings]

private theorem events_dropAll {ids : List Nat} (distinct : ids.Nodup) (reason : Reason) :
    (ids.foldl (fun conn id => conn.dropStream id reason false .sessionClosed) conn).events =
      conn.events ++ ids.flatMap fun id => (conn.registry.view id).partings id reason := by
  induction ids generalizing conn with
  | nil => simp
  | cons id rest ih =>
    obtain ⟨new, distinct⟩ := nodup_cons.mp distinct
    have first := events_dropStream sound id reason
    have others : ∀ other ∈ rest,
        ((conn.dropStream id reason false .sessionClosed).registry.view other).partings other
        reason =
          (conn.registry.view other).partings other reason := by
      intro other member
      have differ : id ≠ other := fun same => new (same ▸ member)
      rw [view_dropStream sound, if_neg differ]
    rw [foldl_cons, ih (registry_dropStream_sound sound id reason false .sessionClosed) distinct,
      first,
      flatMap_cons, append_assoc, flatMap_congr others]

private theorem events_teardown (reason : Reason) :
    (conn.teardown reason).events = conn.events ++ conn.partings reason := by
  have distinct : conn.registry.liveIds.Nodup :=
    (liveIds_ascending conn.registry).imp fun less => Nat.ne_of_lt less
  have live : ∀ id ∈ conn.registry.liveIds, (conn.registry.view id).partings id reason =
      ((conn.registry.get? id).map (·.partings id reason)).getD [] := by
    intro id member
    obtain ⟨stream, held, live⟩ := isLive_iff.mp (mem_liveIds_iff.mp member)
    rw [view_of_get? held live, held]
    rfl
  exact (events_dropAll sound distinct reason).trans (by rw [partings, flatMap_congr live])

/-! ## The last motion -/

/-- A motion ends the session for an error, which is told after everything else. -/
structure Fails (conn : Connection) (motion : Motion) (error : Error) : Prop where
  opened : conn.closed = false
  closes : (conn.move motion).closed = true
  events : (conn.move motion).events = conn.events ++ conn.partings error.reason ++
    [.sessionError error]
  goaway : ∃ front limit last debug, (conn.move motion).outbound =
    front ++ [.frame limit (.goaway last error.reason.code debug)]

omit sound in
private theorem outbound_fail (opened : conn.closed = false) (error : Error) :
    ∃ front limit last debug, (conn.fail error).outbound =
      front ++ [.frame limit (.goaway last error.reason.code debug)] := by
  unfold fail
  rw [if_neg (Bool.eq_false_iff.mp opened)]
  exact ⟨conn.outbound, _, _, _, (teardown_silent (conn.sayFarewell _ _ _) error.reason).outbound⟩

private theorem events_fail (opened : conn.closed = false) (error : Error) :
    (conn.fail error).events = conn.events ++ conn.partings error.reason ++
      [.sessionError error] := by
  unfold fail
  rw [if_neg (Bool.eq_false_iff.mp opened)]
  exact congrArg (· ++ [Event.sessionError error]) (@events_teardown (conn.sayFarewell _ _ _) sound
    error.reason)

private theorem events_close (opened : conn.closed = false) :
    conn.close.events = conn.events ++ conn.partings .cancel := by
  unfold close
  rw [if_neg (Bool.eq_false_iff.mp opened)]
  simp only
  split
  · exact @events_teardown (conn.sayFarewell _ _ _) sound .cancel
  · exact events_teardown sound .cancel

private theorem fail_fails (opened : conn.closed = false) (error : Error) :
    conn.Fails (.fail error) error where
  opened := opened
  closes := closed_fail conn error
  events := events_fail sound opened error
  goaway := outbound_fail opened error

omit sound

private theorem handle_fails (sound : conn.Sound) (opened : conn.closed = false) {frame : Frame}
    (ran : (receiveFrame frame).run conn = .error error after) (fatal : error.isFatal) :
    conn.Fails (.frame frame) error := by
  have handled : conn.move (.frame frame) = after.fail error :=
    (handle_of_error ran).trans (if_pos fatal)
  have intact := ((receiveFrame_dealt conn frame).of_error ran).intact
  have receipt := (receiveFrame_receipt sound frame).of_error ran
  obtain ⟨_, broken⟩ := receipt.broken sound fatal
  have still := broken.closed.trans opened
  constructor
  · exact opened
  · rw [handled]
    exact closed_fail after error
  · rw [handled, events_fail (receipt.registry_sound sound) still, intact.events,
      partings_of_streams intact.streams]
  · rw [handled]
    exact outbound_fail still error

/-! ## Everything that has been told and sent -/

def givesOut (conn : Connection) : Motion → List Event
  | .tell count => conn.events.take count
  | _ => []

def sendsOff (conn : Connection) : Motion → List Outgoing
  | .handOver => conn.outbound
  | _ => []

def toldAlong (start : Connection) (motions : List Motion) : List Event :=
  start.along givesOut motions ++ (start.moved motions).events

def sentAlong (start : Connection) (motions : List Motion) : List Outgoing :=
  start.along sendsOff motions ++ (start.moved motions).outbound

variable {motions more : List Motion} {role : Role}

private theorem toldAlong_append (start : Connection) (motions more : List Motion) :
    start.toldAlong (motions ++ more) =
      start.along givesOut motions ++ (start.moved motions).toldAlong more := by
  rw [toldAlong, toldAlong, along_append, moved_append, append_assoc]

private theorem sentAlong_append (start : Connection) (motions more : List Motion) :
    start.sentAlong (motions ++ more) =
      start.along sendsOff motions ++ (start.moved motions).sentAlong more := by
  rw [sentAlong, sentAlong, along_append, moved_append, append_assoc]

theorem Trail.toldAlong_concat (trail : Trail start motions conn) (motion : Motion) :
    start.toldAlong (motions ++ [motion]) =
      start.along givesOut motions ++ (conn.givesOut motion ++ (conn.move motion).events) := by
  rw [toldAlong_append, trail.moved, toldAlong, along_cons, along_nil, append_nil,
    moved_cons, moved_nil]

theorem Trail.sentAlong_concat (trail : Trail start motions conn) (motion : Motion) :
    start.sentAlong (motions ++ [motion]) =
      start.along sendsOff motions ++ (conn.sendsOff motion ++ (conn.move motion).outbound) := by
  rw [sentAlong_append, trail.moved, sentAlong, along_cons, along_nil, append_nil,
    moved_cons, moved_nil]

/-! ## Behind the end -/

/-- Nothing can be done with a closed connection but to take out what waits. -/
structure StaysClosed (conn : Connection) (motion : Motion) : Prop where
  closed : (conn.move motion).closed = true
  told : conn.givesOut motion ++ (conn.move motion).events = conn.events
  sent : conn.sendsOff motion ++ (conn.move motion).outbound = conn.outbound
  parked : (conn.move motion).sendWindows.parked = conn.sendWindows.parked

theorem Allows.staysClosed (allowed : conn.Allows motion) (closed : conn.closed) :
    conn.StaysClosed motion := by
  cases motion with
  | call call =>
    obtain ⟨next, same⟩ := called_eq_of_closed closed call
    have moved : conn.move (.call call) =
        { conn with registry := { conn.registry with nextLocal := next } } := same
    constructor <;> rw [moved]
    · exact closed
    · rfl
    · rfl
  | frame frame => cases closed.symm.trans allowed
  | fail error => cases closed.symm.trans allowed
  | close =>
    have moved : conn.move .close = conn := if_pos closed
    constructor <;> rw [moved]
    · exact closed
    · rfl
    · rfl
  | handOver => exact ⟨closed, rfl, append_nil _, rfl⟩
  | tell count => exact ⟨closed, take_append_drop count _, rfl, rfl⟩

theorem Trail.silent (trail : Trail start motions conn) (closed : start.closed) :
    conn.closed = true ∧ start.toldAlong motions = start.events ∧
      start.sentAlong motions = start.outbound := by
  induction trail with
  | refl => exact ⟨closed, rfl, rfl⟩
  | tail before allowed ih =>
    obtain ⟨still, told, sent⟩ := ih
    have staysClosed := allowed.staysClosed still
    refine ⟨staysClosed.closed, ?_, ?_⟩
    · rw [before.toldAlong_concat, staysClosed.told, ← told, toldAlong, before.moved]
    · rw [before.sentAlong_concat, staysClosed.sent, ← sent, sentAlong, before.moved]

private theorem parked_of_closes (opened : conn.closed = false) (sound : conn.Sound)
    (closes : (conn.move motion).closed = true) : (conn.move motion).sendWindows.parked = [] := by
  have failed : ∀ {conn : Connection}, conn.closed = false → ∀ error,
      (conn.fail error).sendWindows.parked = [] := by
    intro conn opened error
    unfold fail
    rw [if_neg (Bool.eq_false_iff.mp opened)]
    rfl
  cases motion with
  | call call =>
    rw [Connection.move, (called_keeps sound call).2.1, opened] at closes
    cases closes
  | frame frame =>
    change (conn.handle frame).closed = true at closes
    show (conn.handle frame).sendWindows.parked = []
    rcases handle_cases sound frame with ⟨_, handled⟩ | ⟨error, _, _, -, -, fails, broken⟩
    · cases (handled.closed.trans opened).symm.trans closes
    · rw [fails]
      exact failed (broken.closed.trans opened) error
  | fail error => exact failed opened error
  | close =>
    show conn.close.sendWindows.parked = []
    unfold close
    rw [if_neg (Bool.eq_false_iff.mp opened)]
    rfl
  | handOver | tell => cases opened.symm.trans closes

theorem Reached.parked (reached : start.Reached role) (opened : start.closed = false)
    (trail : Trail start motions conn) (closed : conn.closed) : conn.sendWindows.parked = [] := by
  induction trail with
  | refl => cases opened.symm.trans closed
  | @tail motions middle motion before allowed ih =>
    cases was : middle.closed with
    | true => exact (allowed.staysClosed was).parked.trans (ih was)
    | false => exact parked_of_closes was ((reached.trail before).sound was) closed

/-! ## The error is told last -/

private theorem any_isFailure_partings (conn : Connection) (reason : Reason) :
    (conn.partings reason).any Event.isFailure = false := by
  have one : ∀ (stream : Stream) (id : Nat), (stream.partings id reason).any Event.isFailure =
      false := by
    intro stream id
    unfold Stream.partings
    cases stream.hasOutbound <;> rfl
  rw [partings, any_flatMap, any_eq_false]
  intro id _
  cases conn.registry.get? id with
  | none => simp
  | some stream => simp [one]

theorem Continued.mild (continued : Continued conn after) (still : after.closed = false) :
    ∃ told, after.events = conn.events ++ told ∧ told.any Event.isFailure = false := by
  obtain ⟨written, told, -, events, keeps⟩ := continued
  have parted : Parted conn.farewell.sent.toList [] conn := by
    refine .of_orderly ?_ rfl ?_
    · cases conn.farewell.sent <;> rfl
    · cases conn.farewell.sent with
      | none => exact .nil
      | some last => exact pairwise_singleton _ _
  exact ⟨told, events, (keeps _ _ parted).of_open still |>.1⟩

theorem Reached.mild_move (reached : conn.Reached role) (allowed : conn.Allows motion)
    (opened : conn.closed = false) (still : (conn.move motion).closed = false) :
    ∃ told, conn.givesOut motion ++ (conn.move motion).events = conn.events ++ told ∧
      told.any Event.isFailure = false := by
  cases motion with
  | call call => exact (Continued.called reached.sound call).mild still
  | frame frame => exact (Continued.handle opened frame).mild still
  | fail error => exact (Continued.fail conn error).mild still
  | close => exact (Continued.close conn).mild still
  | handOver => exact ⟨[], (append_nil _).symm, rfl⟩
  | tell count => exact ⟨[], (take_append_drop count _).trans (append_nil _).symm, rfl⟩

theorem Reached.mild (reached : start.Reached role)
    (mild : start.events.any Event.isFailure = false)
    (trail : Trail start motions conn) (opened : conn.closed = false) :
    (start.toldAlong motions).any Event.isFailure = false := by
  induction trail with
  | refl => exact mild
  | @tail motions middle motion before allowed ih =>
    cases was : middle.closed with
    | true => cases opened.symm.trans (allowed.staysClosed was).closed
    | false =>
      obtain ⟨more, grown, mild⟩ := (reached.trail before).mild_move allowed was opened
      have along : start.toldAlong motions = start.along givesOut motions ++ middle.events := by
        rw [toldAlong, before.moved]
      rw [before.toldAlong_concat, grown, ← append_assoc, ← along, any_append, ih was, mild]
      rfl

/-- The events take leave of every live stream, the lowest identifier first. -/
def TakesLeave (conn : Connection) (reason : Reason) (events : List Event) : Prop :=
  ∃ ids : List Nat, ids.Pairwise (· < ·) ∧ (∀ id, id ∈ ids ↔ conn.registry.IsLive id) ∧
    events = ids.flatMap fun id => ((conn.registry.get? id).map (·.partings id reason)).getD []

private theorem partings_takesLeave (conn : Connection) (reason : Reason) :
    conn.TakesLeave reason (conn.partings reason) :=
  ⟨conn.registry.liveIds, liveIds_ascending conn.registry, fun _ => mem_liveIds_iff, rfl⟩

theorem Trail.toldAlong_fails (trail : Trail start motions conn) (fails : conn.Fails motion error) :
    start.toldAlong (motions ++ [motion]) =
      start.toldAlong motions ++ conn.partings error.reason ++ [.sessionError error] := by
  have given : conn.givesOut motion = [] := by
    cases motion with
    | tell count =>
      have grown := congrArg List.length fails.events
      simp only [Connection.move, length_drop, length_append, length_singleton] at grown
      omega
    | _ => rfl
  rw [trail.toldAlong_concat, given, fails.events, toldAlong, trail.moved]
  simp

theorem Trail.sentAlong_fails (trail : Trail start motions conn) (fails : conn.Fails motion error) :
    ∃ front limit last debug, start.sentAlong (motions ++ [motion]) =
      front ++ [.frame limit (.goaway last error.reason.code debug)] := by
  obtain ⟨front, limit, last, debug, outbound⟩ := fails.goaway
  refine ⟨start.along sendsOff motions ++ (conn.sendsOff motion ++ front), limit, last, debug, ?_⟩
  rw [trail.sentAlong_concat, outbound]
  simp

end Connection

/-! ## Sessions -/

namespace Session

open Connection (Trail)

variable {session : Session} {log : List Activity} {role : Role} {config : Config}
  {now : Nat} {error : Error} {use : Use} {uses : List Use}

def outcome (session : Session) : Use → Except Error (Option Nat)
  | .call call => (session.call call).1
  | .receive octets => (session.receive octets).1.map fun _ => none
  | .tick now => (session.tick now).1.map fun _ => none
  | _ => .ok none

def told (session : Session) (uses : List Use) : List Event :=
  session.connection.toldAlong (session.history uses)

def sent (session : Session) (uses : List Use) : List Outgoing :=
  session.connection.sentAlong (session.history uses)

/-- How a use after some earlier ones ends the session.  An error that ends it is the one that the
use returns; it is told once, after everything else, and the last frame names its code. -/
inductive Ends (session : Session) (earlier : List Use) : Use → Prop
  | asked {events : List Event} (told : session.told (earlier ++ [.close]) =
      session.told earlier ++ events)
      (leave : (session.after earlier).connection.TakesLeave .cancel events)
      (mild : ∀ error, .sessionError error ∉ session.told (earlier ++ [.close])) :
      Ends session earlier .close
  | failed {use : Use} {error : Error} {before : List Motion} {motion : Motion}
      {events : List Event} (returned : (session.after earlier).outcome use = .error error)
      (history : session.history (earlier ++ [use]) = before ++ [motion])
      (told : session.told (earlier ++ [use]) =
        session.connection.toldAlong before ++ events ++ [.sessionError error])
      (leave : (session.connection.moved before).TakesLeave error.reason events)
      (mild : ∀ other, .sessionError other ∉ session.connection.toldAlong before ++ events)
      (sent : ∃ front limit last debug, session.sent (earlier ++ [use]) =
        front ++ [.frame limit (.goaway last error.reason.code debug)]) :
      Ends session earlier use

structure Final (session : Session) : Prop where
  receive (octets : Octets) : session.receive octets = (.error .sessionClosed, session)
  call (call : Call) : (∀ id, call ≠ .skipTo id) → session.call call =
    (.error .sessionClosed, session)
  deadline : session.deadline? = none
  live (id : Nat) : ¬ session.connection.registry.IsLive id
  sendWindows : session.connection.sendWindows.streams = ∅
  receiveWindows : session.connection.receiveWindows.streams = ∅
  parked : session.connection.sendWindows.parked = []

theorem Consumed.fails_last {reader : Reader} {conn : Connection} {motions : List Motion}
    {result : Except Error Unit} (consumed : Consumed reader conn motions result session)
    (returned : result = .error error) :
    ∃ before motion, motions = before ++ [motion] ∧ (conn.moved before).Fails motion error := by
  induction consumed with
  | fails sound opened =>
    cases returned
    exact ⟨[], _, rfl, fail_fails sound.registry opened error⟩
  | stops => cases returned
  | ends sound opened _ ran fatal =>
    cases returned
    exact ⟨[], _, rfl, handle_fails sound opened ran fatal⟩
  | goes _ _ _ _ ih =>
    obtain ⟨before, motion, rest, fails⟩ := ih returned
    exact ⟨_ :: before, motion, congrArg (_ :: ·) rest, fails⟩

private theorem use_fails (sound : session.connection.Sound)
    (opened : session.connection.closed = false)
    (returned : session.outcome use = .error error) (uncalled : ∀ call, use ≠ .call call) :
    ∃ before motion, session.motions use = before ++ [motion] ∧
      (session.connection.moved before).Fails motion error := by
  cases use with
  | call call => exact absurd rfl (uncalled call)
  | receive octets =>
    have entered := receive_of_open opened octets
    have motions : session.motions (.receive octets) =
        consumeMotions (session.reader.feed octets) session.connection :=
      if_neg (Bool.eq_false_iff.mp opened)
    rw [motions]
    apply (consumed sound opened _).fails_last
    rw [outcome, entered] at returned
    cases consumed : (consume (session.reader.feed octets) session.connection).1 with
    | ok _ => simp [consumed, Except.map] at returned
    | error other =>
      rw [consumed] at returned
      cases returned
      rfl
  | tick now =>
    cases due : session.deadline? with
    | none => simp [outcome, tick, due, Except.map] at returned
    | some deadline =>
      by_cases late : deadline ≤ now
      · simp only [outcome, tick, due, if_pos late, Except.map] at returned
        cases returned
        refine ⟨[], .fail (.connection .settingsTimeout), ?_, fail_fails sound.registry opened _⟩
        simp only [motions, due, if_pos late]
        rfl
      · simp [outcome, tick, due, late, Except.map] at returned
  | close | takeOutbound | flush | nextEvent | takeEvents => cases returned

private theorem use_closes (sound : session.connection.Sound)
    (opened : session.connection.closed = false)
    (closes : (session.use use).connection.closed = true) :
    use = .close ∨ (∃ error, session.outcome use = .error error) ∧ ∀ call, use ≠ .call call := by
  cases use with
  | call call =>
    rw [Session.use, connection_call, (called_keeps sound call).2.1, opened] at closes
    cases closes
  | receive octets =>
    have entered := receive_of_open opened octets
    rw [Session.use, entered] at closes
    have stopped : (consume (session.reader.feed octets) session.connection).1.isOk =
        !(consume (session.reader.feed octets) session.connection).2.connection.closed :=
      (consumed sound opened _).isOk
    rw [closes] at stopped
    refine .inr ⟨?_, by simp⟩
    rw [outcome, entered]
    cases consumed : (consume (session.reader.feed octets) session.connection).1 with
    | ok _ => simp [consumed, Except.isOk, Except.toBool] at stopped
    | error error => exact ⟨error, rfl⟩
  | close => exact .inl rfl
  | tick now =>
    refine .inr ⟨?_, by simp⟩
    cases due : session.deadline? with
    | none =>
      simp only [Session.use, tick, due, opened] at closes
      cases closes
    | some deadline =>
      by_cases late : deadline ≤ now
      · simp only [outcome, tick, due, if_pos late]
        exact ⟨_, rfl⟩
      · simp only [Session.use, tick, due, if_neg late, opened] at closes
        cases closes
  | takeOutbound | flush | nextEvent | takeEvents =>
    rw [closed_of_takes rfl, opened] at closes
    cases closes

private theorem call_of_closed (closed : session.connection.closed) {call : Call}
    (stays : ∀ id, call ≠ .skipTo id) : session.call call = (.error .sessionClosed, session) := by
  have leads : (perform call).Leads session.connection fun result after =>
      result = .error .sessionClosed ∧ after = session.connection := by
    cases call with
    | skipTo id => exact absurd rfl (stays id)
    | _ =>
      simp [perform, silently, createStream, sendData,
        sendTrailers, reset, updatePriority, respond,
        inform, pushPromise, sendSettings, sendGoaway,
        sendPing, sendAltSvc, sendOrigin, resizeWindow,
        ensureOpen, closed]
  unfold Session.call
  cases ran : (perform call).run session.connection with
  | ok answer after => cases (leads.of_ok ran).1
  | error error after =>
    obtain ⟨refused, same⟩ := leads.of_error ran
    cases refused
    rw [same]

private theorem create_opened (created : create role config now = .ok session) :
    session.connection.closed = false ∧ session.connection.events.any Event.isFailure = false := by
  have reached := Reached.fresh role config
  have opened : session.connection.closed = false :=
    create_induct (motive := fun conn => conn.closed = false) created rfl
      fun sound _ opened => (called_keeps sound _).2.1.trans opened
  refine ⟨opened, ?_⟩
  rcases trail_of_create created with trail | trail
  · have mild := reached.mild rfl trail opened
    rwa [toldAlong, trail.moved] at mild
  · have mild := reached.mild rfl trail opened
    rwa [toldAlong, trail.moved] at mild

private theorem final_of_closed (created : create role config now = .ok session)
    (closed : (session.after uses).connection.closed = true) : (session.after uses).Final := by
  have opened := (create_opened created).1
  have trail := trail_after (.create created) uses
  have reached := reached_of_create created
  have deserted := (reached.trail trail).deserted closed
  obtain ⟨closings, tidy⟩ := (reached.trail trail).tidy
  have none : ∀ id, ¬ ∃ phase, (session.after uses).connection.phase? id = some phase ∧
      phase ≠ .closed := by
    rintro id ⟨phase, held, live⟩
    obtain ⟨stream, found, rfl⟩ := Option.map_eq_some_iff.mp held
    refine deserted.not_isLive id (isLive_iff.mpr ⟨stream, found, ?_⟩)
    simpa [Stream.isLive, Phase.isClosed] using live
  constructor
  · exact fun octets => if_pos closed
  · exact fun call => call_of_closed closed
  · exact if_pos closed
  · exact deserted.not_isLive
  · ext id : 1
    exact Option.not_isSome_iff_eq_none.mp fun some => none id ((tidy.send id).mp some)
  · ext id : 1
    exact Option.not_isSome_iff_eq_none.mp fun some => none id ((tidy.receive id).mp some)
  · exact reached.parked opened trail closed

private theorem not_mem_of_mild {events : List Event} (mild : events.any Event.isFailure = false)
    (error : Error) :
    .sessionError error ∉ events := by
  intro member
  have failure := any_eq_false.mp mild _ member
  exact failure rfl

private theorem ends_of_closes (created : create role config now = .ok session) {earlier : List Use}
    (opened : (session.after earlier).connection.closed = false)
    (closes : (session.after (earlier ++ [use])).connection.closed = true) :
    session.Ends earlier use := by
  have trail := trail_after (.create created) earlier
  have reached := reached_of_create created
  have here := reached.trail trail
  have sound := here.sound opened
  have start := (create_opened created).2
  rw [after_concat] at closes
  rcases use_closes sound opened closes with rfl | ⟨⟨error, returned⟩, uncalled⟩
  · have events := events_close sound.registry opened
    have told : session.told (earlier ++ [.close]) =
        session.told earlier ++ (session.after earlier).connection.partings .cancel := by
      calc session.told (earlier ++ [.close])
          = session.connection.along givesOut (session.history earlier) ++
              ([] ++ (session.after earlier).connection.close.events) := by
            rw [Session.told, history_concat]
            exact trail.toldAlong_concat .close
        _ = session.told earlier ++ (session.after earlier).connection.partings .cancel := by
            rw [events, Session.told, toldAlong, trail.moved, nil_append, append_assoc]
    refine .asked told (partings_takesLeave _ _) (not_mem_of_mild ?_)
    rw [told, any_append, any_isFailure_partings, Session.told,
      reached.mild start trail opened]
    rfl
  · obtain ⟨before, motion, motions, fails⟩ := use_fails sound opened returned uncalled
    have history : session.history (earlier ++ [use]) = session.history earlier ++
        before ++ [motion] := by
      rw [history_concat, motions, append_assoc]
    have route : Trail session.connection (session.history earlier ++ before)
        ((session.after earlier).connection.moved before) := by
      have whole := use_trail (fun _ => sound) use
      rw [motions] at whole
      exact trail.trans whole.split.1
    have told := route.toldAlong_fails fails
    have sent := route.sentAlong_fails fails
    rw [← history] at told sent
    rw [← route.moved] at told
    refine .failed returned history told (partings_takesLeave _ _) (not_mem_of_mild ?_) sent
    rw [any_append, any_isFailure_partings, reached.mild start route fails.opened]
    rfl

/-- A session that has closed was closed by one of its uses. -/
theorem exists_ends (created : create role config now = .ok session)
    (closed : (session.after uses).connection.closed = true) :
    ∃ earlier use later, uses = earlier ++ use :: later ∧
      (session.after earlier).connection.closed = false ∧ session.Ends earlier use ∧
      (session.after (earlier ++ [use])).connection.closed = true := by
  induction uses using List.reverseRecOn with
  | nil => cases (create_opened created).1.symm.trans closed
  | append_singleton uses use ih =>
    cases was : (session.after uses).connection.closed with
    | false => exact ⟨uses, use, [], rfl, was, ends_of_closes created was closed, closed⟩
    | true =>
      obtain ⟨earlier, last, later, rfl, opened, ends⟩ := ih was
      exact ⟨earlier, last, later ++ [use], by simp, opened, ends⟩

theorem silent_of_closed (run : Run session log)
    (closed : (session.after uses).connection.closed = true) (more : List Use) :
    (session.after (uses ++ more)).connection.closed = true ∧
      session.told (uses ++ more) = session.told uses ∧ session.sent (uses ++ more) =
        session.sent uses := by
  have trail := trail_after run uses
  obtain ⟨still, told, sent⟩ := (trail_after (run.after uses) more).silent closed
  rw [after_append]
  refine ⟨still, ?_, ?_⟩
  · rw [Session.told, history_append, toldAlong_append, trail.moved, told, Session.told,
      toldAlong, trail.moved]
  · rw [Session.sent, history_append, sentAlong_append, trail.moved, sent, Session.sent,
      sentAlong, trail.moved]

private theorem closed_of_error (created : create role config now = .ok session)
    (opened : (session.after uses).connection.closed = false)
    (returned : (session.after uses).outcome use = .error error)
    (uncalled : ∀ call, use ≠ .call call) :
    (session.after (uses ++ [use])).connection.closed = true := by
  have reached := (reached_of_create created).trail (trail_after (.create created) uses)
  have sound := reached.sound opened
  obtain ⟨before, motion, motions, fails⟩ := use_fails sound opened returned uncalled
  have whole := (use_trail (fun _ => sound) use).moved
  rw [motions, moved_append, moved_cons, moved_nil] at whole
  rw [after_concat, ← whole]
  exact fails.closes

/-- A session ends once and for all.  As long as it is open no error has been told, and an error
that anything but a call returns ends it.  When it has ended, the use that ended it took leave of
the live streams; nothing has been told or sent since that use, and nothing ever will be. -/
theorem closing_is_final (created : create role config now = .ok session) (uses : List Use) :
    ((session.after uses).connection.closed = false →
      (∀ error, .sessionError error ∉ session.told uses) ∧
        ∀ use error, (∀ call, use ≠ .call call) → (session.after uses).outcome use = .error error →
          (session.after (uses ++ [use])).connection.closed = true) ∧
    ((session.after uses).connection.closed = true → (session.after uses).Final ∧
        ∃ earlier use later, uses = earlier ++ use :: later ∧
          (session.after earlier).connection.closed = false ∧ session.Ends earlier use ∧
          ∀ more, (session.after (earlier ++ use :: more)).connection.closed = true ∧
            session.told (earlier ++ use :: more) = session.told (earlier ++ [use]) ∧
            session.sent (earlier ++ use :: more) = session.sent (earlier ++ [use])) := by
  constructor
  · intro opened
    constructor
    · have trail := trail_after (.create created) uses
      exact not_mem_of_mild ((reached_of_create created).mild (create_opened created).2
        trail opened)
    · exact fun use error uncalled returned => closed_of_error created opened returned uncalled
  · intro closed
    refine ⟨final_of_closed created closed, ?_⟩
    obtain ⟨earlier, use, later, split, opened, ends, closes⟩ := exists_ends created closed
    refine ⟨earlier, use, later, split, opened, ends, fun more => ?_⟩
    rw [List.append_cons]
    exact silent_of_closed (.create created) closes more

/-- A client that can send nothing on its first stream, and hears a PING on it. -/
def mishap : List Use :=
  [.receive [0, 0, 6, 4, 0, 0, 0, 0, 0, 0, 4, 0, 0, 0, 0], .call (.createStream [] none false),
    .call (.createStream [] none true), .call (.sendData 1 [1, 2] false),
    .receive [0, 0, 8, 6, 0, 0, 0, 0, 1, 0, 0, 0, 0, 0, 0, 0, 0]]

theorem closing_is_final_mishap :
    (newClient.after mishap).connection.closed = true ∧
    (newClient.told mishap).drop 1 =
      [.sendCancelled 1 2 .sessionClosed, .streamClosed 1 (some .protocolError),
        .streamClosed 3 (some .protocolError), .sessionError (.protocol (.withStream .ping 1))] ∧
    (newClient.after mishap).Final ∧
    ∃ earlier use later, mishap = earlier ++ use :: later ∧ newClient.Ends earlier use := by
  have closed : (newClient.after mishap).connection.closed = true := by decide +kernel
  obtain ⟨final, earlier, use, later, split, -, ends, -⟩ :=
    (closing_is_final create_newClient mishap).2 closed
  exact ⟨closed, by decide +kernel, final, earlier, use, later, split, ends⟩

end Session

end Http2
