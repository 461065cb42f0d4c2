import Http2.Proofs.Passage
import Http2.Proofs.Supply

/-!
# Transcripts

A `Transcript` of a session lists what has passed between its application, itself and its peer from
the creation on: every frame of the peer that was taken in, whatever came of it, every frame that
was written for the peer, and every batch of settings that the application has asked for and that
was accepted.

What holds of a fresh connection, and goes on to hold with every call and with every frame that
leaves the connection open, holds of the transcript of an open session.
-/

namespace Http2

open Connection List

inductive Line where
  | heard (frame : Frame)
  | wrote (frame : Frame)
  | changed (changes : List (Setting × Nat))
  deriving DecidableEq, Repr

namespace Line

def heard? : Line → Option Frame
  | heard frame => some frame
  | _ => none

def wrote? : Line → Option Frame
  | wrote frame => some frame
  | _ => none

def changed? : Line → Option (List (Setting × Nat))
  | changed changes => some changes
  | _ => none

end Line

def heardBy (lines : List Line) : List Frame := lines.filterMap Line.heard?

def wroteBy (lines : List Line) : List Frame := lines.filterMap Line.wrote?

def changedBy (lines : List Line) : List (List (Setting × Nat)) := lines.filterMap Line.changed?

section Lines

variable {lines more : List Line} {frames : List Frame} {frame : Frame}

@[simp] theorem heardBy_append : heardBy (lines ++ more) = heardBy lines ++ heardBy more :=
  filterMap_append

@[simp] theorem wroteBy_append : wroteBy (lines ++ more) = wroteBy lines ++ wroteBy more :=
  filterMap_append

@[simp] theorem changedBy_append : changedBy (lines ++ more) = changedBy lines ++ changedBy more :=
  filterMap_append

@[simp] theorem heardBy_wrote : heardBy (frames.map .wrote) = [] := by
  simp [heardBy, filterMap_map, Function.comp_def, Line.heard?]

@[simp] theorem wroteBy_wrote : wroteBy (frames.map .wrote) = frames := by
  simp [wroteBy, filterMap_map, Function.comp_def, Line.wrote?]

@[simp] theorem changedBy_wrote : changedBy (frames.map .wrote) = [] := by
  simp [changedBy, filterMap_map, Function.comp_def, Line.changed?]

@[simp] theorem heardBy_heard : heardBy (.heard frame :: lines) = frame :: heardBy lines := rfl

@[simp] theorem wroteBy_heard : wroteBy (.heard frame :: lines) = wroteBy lines := rfl

@[simp] theorem changedBy_heard : changedBy (.heard frame :: lines) = changedBy lines := rfl

end Lines

namespace Connection

def linesTo (before after : Connection) : List Line :=
  (after.queued.drop before.queued.length).map .wrote

def changedLines (conn : Connection) (call : Call) : List Line :=
  match call, (perform call).run conn with
  | .sendSettings changes _, .ok .. => [.changed changes]
  | _, _ => []

def callLines (conn : Connection) (call : Call) : List Line :=
  conn.changedLines call ++ conn.linesTo (conn.called call)

def hearLines (conn : Connection) (frame : Frame) : List Line :=
  .heard frame :: conn.linesTo (conn.handle frame)

variable {conn after : Connection} {written : List Frame} {frame : Frame}

private theorem linesTo_eq (queued : after.queued = conn.queued ++ written) :
    conn.linesTo after = written.map .wrote := by
  rw [linesTo, queued, drop_left]

private theorem changedLines_of_ok {changes : List (Setting × Nat)} {now : Nat}
    {answer : Option Nat}
    (ran : (perform (.sendSettings changes now)).run conn = .ok answer after) :
    conn.changedLines (.sendSettings changes now) = [.changed changes] := by
  simp only [changedLines, ran]

@[simp] theorem heardBy_linesTo : heardBy (conn.linesTo after) = [] := heardBy_wrote

@[simp] theorem changedBy_linesTo : changedBy (conn.linesTo after) = [] := changedBy_wrote

private theorem wroteBy_linesTo (queued : after.queued = conn.queued ++ written) :
    wroteBy (conn.linesTo after) = written := by
  rw [linesTo_eq queued, wroteBy_wrote]

theorem heardBy_callLines (conn : Connection) (call : Call) :
    heardBy (conn.callLines call) = [] := by
  have silent : heardBy (conn.changedLines call) = [] := by
    unfold changedLines
    split <;> rfl
  rw [callLines, heardBy_append, silent, heardBy_linesTo, append_nil]

theorem wroteBy_callLines {call : Call}
    (queued : (conn.called call).queued = conn.queued ++ written) :
    wroteBy (conn.callLines call) = written := by
  have silent : wroteBy (conn.changedLines call) = [] := by
    unfold changedLines
    split <;> rfl
  rw [callLines, wroteBy_append, silent, wroteBy_linesTo queued, nil_append]

theorem changedBy_callLines (conn : Connection) (call : Call) :
    changedBy (conn.callLines call) = changedBy (conn.changedLines call) := by
  rw [callLines, changedBy_append, changedBy_linesTo, append_nil]

theorem heardBy_hearLines (conn : Connection) (frame : Frame) :
    heardBy (conn.hearLines frame) = [frame] := by
  rw [hearLines, heardBy_heard, heardBy_linesTo]

theorem changedBy_hearLines (conn : Connection) (frame : Frame) :
    changedBy (conn.hearLines frame) = [] := by
  rw [hearLines, changedBy_heard, changedBy_linesTo]

theorem wroteBy_hearLines {reasons : Reason → Prop}
    (handled : Handled reasons conn frame written (conn.handle frame)) :
    wroteBy (conn.hearLines frame) = frame.answer ++ written := by
  rw [hearLines, wroteBy_heard, wroteBy_linesTo handled.queued]

end Connection

/-! ## What calls and frames leave as it is -/

namespace Connection

variable {reasons : Reason → Prop} {conn after : Connection}

/-- A property that outlasts whatever a connection does: its moves, the settings it learns from the
peer, and changes to its own.  Data is a case by itself, as the receive windows are charged. -/
structure Invariant (holds : Connection → Prop) : Prop where
  move : ∀ {reasons conn after}, Move reasons conn after → holds conn → holds after
  write : ∀ {conn} frame, holds conn → holds (conn.write frame)
  learn : ∀ {conn} peer sendWindows, holds conn →
    holds { conn with exchange := { conn.exchange with peer }, sendWindows }
  sync : ∀ {conn after} exchange, Synced { conn with exchange } after → holds conn → holds after
  data : ∀ {conn frame}, conn.Sound → frame.kind? = some .data → holds conn →
    (receiveFrame frame).Leads conn fun _ after => holds after

namespace Invariant

variable {holds : Connection → Prop} (invariant : Invariant holds)

include invariant

theorem moves (moves : Moves reasons conn after) (held : holds conn) : holds after := by
  induction moves with
  | refl => exact held
  | tail _ last ih => exact invariant.move last ih

theorem calms (calms : Calms reasons conn after) (held : holds conn) : holds after :=
  invariant.moves calms.moves held

theorem called (sound : conn.Sound) (call : Call) (held : holds conn) :
    holds (conn.called call) := by
  have performed := called_of_leads (perform_performed sound call)
  generalize conn.called call = after at performed ⊢
  cases performed with
  | calm calms => exact invariant.calms calms held
  | announced allowed synced => exact invariant.sync _ synced (invariant.write _ held)
  | queued kept sends phase cargo =>
    refine invariant.moves ((flush_flushed _ _).moves : Moves (fun _ => True) _ _)
      (invariant.move (.requeue conn fun other found => ?_ : Move (fun _ => True) _ _) held)
    obtain rfl := Option.some.inj (kept.symm.trans found)
    exact ⟨phase _, cargo⟩

theorem receiveFrame (sound : conn.Sound) (frame : Frame) (held : holds conn) :
    (receiveFrame frame).Leads conn fun _ after => holds after := by
  by_cases data : frame.kind? = some .data
  · exact invariant.data sound data held
  · have emit : ∀ {conn : Connection} event, holds conn → holds (conn.emit event) :=
      fun event => invariant.move (.calm (.emit _ event) : Move (fun _ => True) _ _)
    refine (receiveFrame_receipt sound frame).mono fun result after receipt => ?_
    cases receipt with
    | calm control quiet => exact invariant.calms quiet.1 held
    | overspent other | refused other | overdrawn other | taken other => exact absurd other data
    | acknowledged due synced => exact emit _ (invariant.sync _ synced held)
    | outgrown => exact invariant.learn _ _ (invariant.write _ held)
    | applied read shifted risen =>
      exact emit _ (invariant.moves (resumeIf_moves _ _ : Moves (fun _ => True) _ _)
        (invariant.learn _ _ (invariant.write _ held)))
    | credited positive fits =>
      exact invariant.moves (resumeIf_moves _ _ : Moves (fun _ => True) _ _)
        (invariant.learn _ _ held)
    | streamCredited stands positive found fits =>
      exact invariant.moves (creditedOn_moves _ _ _ _ : Moves (fun _ => True) _ _)
        (invariant.learn _ _ held)
    | ackNotDue | malformed | zeroCredit | creditOverflow | unwanted | streamOverflow => exact held

theorem handle (sound : conn.Sound) {frame : Frame}
    (going : (conn.handle frame).closed = false) (held : holds conn) :
    holds (conn.handle frame) := by
  have leads := invariant.receiveFrame sound frame held
  cases ran : (Connection.receiveFrame frame).run conn with
  | ok _ after =>
    rw [handle_of_ok ran]
    exact leads.of_ok ran
  | error error after =>
    rw [handle_of_error ran] at going ⊢
    split
    · rename_i fatal
      rw [if_pos fatal, closed_fail] at going
      cases going
    · exact invariant.calms (absorb_calms trivial : Calms (fun _ => True) _ _) (leads.of_error ran)

end Invariant

end Connection

namespace Session

def consumeLines (reader : Reader) (conn : Connection) : List Line :=
  match _next : { reader with frameLimit := conn.frameLimit }.next with
  | (.error error, _) => conn.linesTo (conn.fail error)
  | (.ok none, _) => []
  | (.ok (some frame), after) =>
    conn.hearLines frame ++
      if (conn.handle frame).closed then [] else consumeLines after (conn.handle frame)
termination_by reader.buffer.length
decreasing_by
  have shorter := Reader.next_length _next
  exact shorter

def receiveLines (session : Session) (octets : Octets) : List Line :=
  if session.connection.closed then []
  else consumeLines (session.reader.feed octets) session.connection

def linesBy (session : Session) : Use → List Line
  | .call call => session.connection.callLines call
  | .receive octets => session.receiveLines octets
  | use => session.connection.linesTo (session.use use).connection

def Transcript (session : Session) (lines : List Line) : Prop :=
  ∃ role config now first uses, create role config now = .ok first ∧ first.after uses = session ∧
    .changed config.settings :: first.connection.queued.map .wrote ++ first.along
    linesBy uses = lines

variable {session : Session} {lines : List Line} {role : Role} {config : Config} {now : Nat}

theorem Transcript.run (transcript : Transcript session lines) : ∃ log, Run session log := by
  obtain ⟨role, config, now, first, uses, created, rfl, -⟩ := transcript
  exact ⟨_, (Run.create created).after uses⟩

theorem Transcript.sound (transcript : Transcript session lines)
    (opened : session.connection.closed = false) : session.connection.Sound := by
  obtain ⟨log, run⟩ := transcript.run
  exact run.sound opened

/-! ## What holds of every transcript -/

/-- What goes on to hold, line by line, as long as the connection is open.  What waits to be handed
over and to be told has no part in it. -/
structure Upheld (holds : List Line → Connection → Prop) : Prop where
  begins : ∀ role config, holds [] (fresh role config)
  handOver : ∀ {lines conn}, holds lines conn → holds lines { conn with outbound := [] }
  tell : ∀ {lines conn} events, holds lines conn → holds lines { conn with events }
  call : ∀ {lines conn} call, conn.Sound → conn.closed = false →
    holds lines conn → holds (lines ++ conn.callLines call) (conn.called call)
  hear : ∀ {lines conn} frame, conn.Sound → conn.closed = false →
    (conn.handle frame).closed = false → holds lines conn →
    holds (lines ++ conn.hearLines frame) (conn.handle frame)

variable {holds : List Line → Connection → Prop} {conn : Connection}

theorem Upheld.consume (upheld : Upheld holds) (reader : Reader) (sound : conn.Sound)
    (opened : conn.closed = false) (begins : holds lines conn)
    (going : (consume reader conn).2.connection.closed = false) :
    holds (lines ++ consumeLines reader conn) (consume reader conn).2.connection := by
  fun_induction consumeLines reader conn generalizing lines with
  | case1 reader conn error after next =>
    rw [consume] at going
    split at going <;> rename_i next' <;> cases next.symm.trans next'
    rw [closed_fail] at going
    cases going
  | case2 reader conn after next =>
    rw [consume]
    split <;> rename_i next' <;> cases next.symm.trans next'
    rwa [append_nil]
  | case3 reader conn frame after next ih =>
    rw [consume_of_next sound opened next] at going ⊢
    cases still : (conn.handle frame).closed with
    | true =>
      rw [if_pos still] at going
      cases still.symm.trans going
    | false =>
      simp only [still, Bool.false_eq_true, if_false] at going ⊢
      rw [← append_assoc]
      exact ih (handle_sound sound still) still
        (upheld.hear frame sound opened still begins) going

theorem Upheld.create (upheld : Upheld holds) (created : create role config now = .ok session) :
    holds (.changed config.settings :: session.connection.queued.map .wrote)
      session.connection := by
  obtain ⟨middle, ran, calls⟩ := create_calls created
  have none : (fresh role config).queued = [] := by cases role <;> rfl
  have opened : (fresh role config).closed = false := rfl
  have sound := fresh_sound role config
  have called : (fresh role config).called (.sendSettings config.settings now) = middle := by
    rw [Connection.called, ran]
  obtain ⟨settled, still, -⟩ := called_keeps sound (.sendSettings config.settings now)
  rw [called] at settled still
  have begins := upheld.call (.sendSettings config.settings now) sound opened
    (upheld.begins role config)
  rw [callLines, changedLines_of_ok ran, called,
    linesTo_eq (none ▸ rfl : middle.queued = (fresh role config).queued ++ middle.queued)]
    at begins
  rcases calls with same | same
  · rw [same]
    exact begins
  · obtain ⟨-, -, written, queued⟩ := called_keeps settled (.resizeWindow config.connectionWindow)
    have resized :=
      upheld.call (.resizeWindow config.connectionWindow) settled (still.trans opened) begins
    rw [← same] at queued
    rw [callLines, ← same, linesTo_eq queued] at resized
    rw [queued, map_append]
    exact resized

private theorem linesBy_of_takes {use : Use} (takes : use.takes) : session.linesBy use = [] := by
  have silent : session.connection.linesTo (session.use use).connection = [] := by
    obtain ⟨rest, -, same | same⟩ := use_takes takes <;> rw [same]
    · exact linesTo_eq (append_nil _).symm
    · exact congrArg (List.map Line.wrote) drop_nil
  cases use <;> first | exact silent | cases takes

theorem Upheld.used (upheld : Upheld holds)
    (sound : session.connection.closed = false → session.connection.Sound) (use : Use)
    (holding : session.connection.closed = false → holds lines session.connection)
    (opened : (session.use use).connection.closed = false) :
    holds (lines ++ session.linesBy use) (session.use use).connection := by
  cases takes : use.takes with
  | true =>
    rw [linesBy_of_takes takes, append_nil]
    obtain ⟨rest, -, same | same⟩ := use_takes takes <;> rw [same] at opened ⊢
    · exact upheld.tell rest (holding opened)
    · exact upheld.tell rest (upheld.handOver (holding opened))
  | false =>
    cases use with
    | call call =>
      simp only [Session.use, connection_call, linesBy] at opened ⊢
      have was : session.connection.closed = false :=
        (.call call : Step session.connection _ _).opened opened
      exact upheld.call call (sound was) was (holding was)
    | receive octets =>
      simp only [Session.use, linesBy, receiveLines] at opened ⊢
      cases was : session.connection.closed with
      | true =>
        rw [receive, if_pos was] at opened
        cases was.symm.trans opened
      | false =>
        rw [receive_of_open was] at opened ⊢
        exact upheld.consume _ (sound was) was (holding was) opened
    | close =>
      have was : session.connection.closed = false :=
        (.close : Step session.connection _ _).opened opened
      obtain ⟨_, ended⟩ := close_ended was
      cases ended.closed.symm.trans opened
    | tick now =>
      have idle : session.connection.linesTo session.connection = [] :=
        linesTo_eq (append_nil _).symm
      simp only [Session.use, linesBy] at opened ⊢
      rcases connection_tick session now with same | ⟨-, same⟩ <;> rw [same] at opened ⊢
      · rw [idle, append_nil]
        exact holding opened
      · cases (closed_fail ..).symm.trans opened
    | takeOutbound | flush | nextEvent | takeEvents => cases takes

theorem Upheld.transcript (upheld : Upheld holds) (transcript : Transcript session lines)
    (opened : session.connection.closed = false) : holds lines session.connection := by
  obtain ⟨role, config, now, first, uses, created, rfl, rfl⟩ := transcript
  induction uses using List.reverseRecOn with
  | nil =>
    rw [along_nil, append_nil]
    exact upheld.create created
  | append_singleton uses use ih =>
    rw [after_concat] at opened ⊢
    rw [along_concat, ← append_assoc]
    exact upheld.used ((Run.create created).after uses).sound use ih opened

end Session

end Http2
