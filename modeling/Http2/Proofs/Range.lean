import Http2.Proofs.Tables

/-!
# Windows in range

The windows of a connection stay within 32 bits for as long as it exists, after its end and halfway
through a frame that fails as well.  `InRange` asks less of a connection than `Sound` does: it says
nothing of the settings, so it survives the moment at which the peer's settings have changed and the
windows have not.
-/

namespace Http2

namespace Connection

/-- The windows are sound, streams are refilled to the window with which they start, and every
increment that waits to be sent can be told in 31 bits. -/
structure InRange (conn : Connection) : Prop where
  send : conn.sendWindows.Sound
  receive : conn.receiveWindows.Sound
  initial : conn.receiveWindows.initial = conn.receiveInitial
  increments : ∀ frame ∈ conn.queued, ∀ increment, frame.increment? = some increment →
    0 < increment ∧ increment ≤ maxWindow

variable {reasons : Reason → Prop} {conn after : Connection} {id : Nat}

namespace InRange

variable {windows : Windows} {frame : Frame}

/-! ## What a connection does -/

variable (inRange : conn.InRange)

include inRange

theorem setSend (sound : windows.Sound) : { conn with sendWindows := windows }.InRange :=
  ⟨sound, inRange.receive, inRange.initial, inRange.increments⟩

theorem setReceive (sound : windows.Sound)
    (initial : windows.initial = conn.receiveWindows.initial) :
    { conn with receiveWindows := windows }.InRange :=
  ⟨inRange.send, sound, initial.trans inRange.initial, inRange.increments⟩

theorem write (fits : ∀ increment, frame.increment? = some increment →
      0 < increment ∧ increment ≤ maxWindow) : (conn.write frame).InRange := by
  refine ⟨inRange.send, inRange.receive, inRange.initial, ?_⟩
  intro other member
  rw [queued_write] at member
  rcases List.mem_append.mp member with before | last
  · exact inRange.increments other before
  · rw [List.mem_singleton.mp last]
    exact fits

theorem write_plain (plain : frame.increment? = none) : (conn.write frame).InRange := by
  apply inRange.write
  intro increment found
  rw [plain] at found
  cases found

theorem addStream (id : Nat) (stream : Stream) : (conn.addStream id stream).InRange := by
  refine ⟨inRange.send.openStream id, inRange.receive.openStream id, ?_, inRange.increments⟩
  rw [Connection.addStream, Windows.initial_openStream]
  exact inRange.initial

theorem finishStream (id : Nat) (reason : Option Reason) : (conn.finishStream id reason).InRange :=
  ⟨inRange.send.closeStream id, inRange.receive.closeStream id, inRange.initial, inRange.increments⟩

theorem setRegistry (registry : Registry) : { conn with registry }.InRange :=
  ⟨inRange.send, inRange.receive, inRange.initial, inRange.increments⟩

theorem setExchange (exchange : Exchange) : { conn with exchange }.InRange :=
  ⟨inRange.send, inRange.receive, inRange.initial, inRange.increments⟩

theorem emit (event : Event) : (conn.emit event).InRange :=
  ⟨inRange.send, inRange.receive, inRange.initial, inRange.increments⟩

theorem dropStream (id : Nat) (reason : Reason) (announced : Bool) (error : Error) :
    (conn.dropStream id reason announced error).InRange := by
  unfold Connection.dropStream
  split
  · exact inRange
  · rename_i stream _
    split
    · apply InRange.finishStream
      have reset := inRange.setRegistry (conn.registry.insert id (stream.reset reason))
      cases announced <;> cases stream.hasOutbound
      · exact reset
      · exact reset.emit _
      · exact reset.write_plain rfl
      · exact (reset.write_plain rfl).emit _
    · exact inRange

/-- A stream is refilled to its first window, which it is never further below than `maxWindow`. -/
theorem refill {target : Nat} (fits : id = 0 ∨ target = conn.receiveInitial) :
    (conn.refill id target).InRange := by
  have initial := inRange.initial
  have initial_high := inRange.receive.initial_high
  unfold Connection.refill
  split
  · exact inRange
  · rename_i increment windows refilled
    obtain ⟨window, held, short, amount, rfl⟩ := Windows.refill_eq refilled
    by_cases stands : id = 0
    · subst stands
      obtain rfl : conn.receiveWindows.connection = window := Option.some.inj held
      have low := inRange.receive.connection_low
      apply InRange.write
      · exact inRange.setReceive (inRange.receive.setConnection (by omega) (by omega)) rfl
      · rintro _ ⟨⟩
        omega
    · rw [Windows.window?, if_neg stands] at held
      obtain rfl : target = conn.receiveInitial := fits.resolve_left stands
      have low := inRange.receive.stream_low id window held
      have same :
          (conn.receiveWindows.setWindow id (min conn.receiveInitial maxWindow : Nat)).initial =
            conn.receiveWindows.initial := by
        simp [Windows.setWindow, stands]
      apply InRange.write
      · exact inRange.setReceive (inRange.receive.setWindow stands held (by omega) (by omega)) same
      · rintro _ ⟨⟩
        omega

theorem grow {increment : Nat} {crossed : Bool}
    (credited : conn.receiveWindows.credit 0 increment = .ok crossed windows)
    (positive : 0 < increment) :
    ({ conn with receiveWindows := windows }.write (.windowUpdate 0 increment)).InRange := by
  obtain ⟨bound, -, rfl⟩ := Windows.credit_connection_eq credited
  have low := inRange.receive.connection_low
  apply (inRange.setReceive (inRange.receive.setConnection (by omega) bound) rfl).write
  rintro _ ⟨⟩
  exact ⟨positive, by omega⟩

theorem calm (calm : Calm reasons conn after) : after.InRange := by
  cases calm with
  | emit event => exact inRange.emit event
  | tables | farewell | target =>
    exact ⟨inRange.send, inRange.receive, inRange.initial, inRange.increments⟩
  | write inert => exact inRange.write_plain inert.increment
  | take | skip | touch | reprioritize | advance => exact inRange.setRegistry _
  | add => exact (inRange.setRegistry _).addStream _ _
  | refuseOwn => exact (inRange.setRegistry _).finishStream _ _
  | refuseStream => exact (inRange.setRegistry _).write_plain rfl
  | finish => exact (inRange.setRegistry _).finishStream _ none
  | drop id error => exact inRange.dropStream id _ _ error
  | refill fits => exact inRange.refill fits
  | grow larger fits credited =>
    have grown := inRange.grow credited (Nat.sub_pos_of_lt larger)
    exact ⟨grown.send, grown.receive, grown.initial, grown.increments⟩

theorem calms (calms : Calms reasons conn after) : after.InRange := by
  induction calms with
  | refl => exact inRange
  | tail _ last ih => exact ih.calm last

theorem move (move : Move reasons conn after) : after.InRange := by
  cases move with
  | calm calm => exact inRange.calm calm
  | spend endStream charged =>
    exact (inRange.setSend (inRange.send.charge charged)).write_plain rfl
  | requeue fits => exact inRange.setRegistry _
  | wait parked => exact inRange.setSend (inRange.send.setParked parked)

theorem moves (moves : Moves reasons conn after) : after.InRange := by
  induction moves with
  | refl => exact inRange
  | tail _ last ih => exact ih.move last

/-! ## Frames and calls -/

theorem drawn {count : Nat} (fits : count ≤ conn.receiveWindows.connection) :
    (conn.drawn count).InRange := by
  have high := inRange.receive.connection_high
  exact inRange.setReceive (inRange.receive.setConnection (by omega) (by omega)) rfl

theorem synced (synced : Synced conn after) : after.InRange := by
  obtain ⟨windows, shifted, rfl⟩ := synced
  exact ⟨inRange.send, shifted.sound, shifted.initial, inRange.increments⟩

theorem receipt {result : Except Error Unit} (sound : conn.Sound)
    (receipt : Receipt conn frame result after) :
    after.InRange := by
  cases receipt with
  | calm control quiet => exact inRange.calms quiet.1
  | refused data fits | overdrawn data fits =>
    exact (inRange.drawn fits).calm (.refill _ (.inl rfl) : Calm (fun _ => True) _ _)
  | taken data fits found covered quiet =>
    have charged := sound.drawnOn fits found covered
    exact InRange.calms ⟨charged.send, charged.receive, charged.receiveInitial,
      inRange.increments⟩ quiet.1
  | acknowledged due synced =>
    exact ((inRange.setExchange _).synced synced).emit _
  | outgrown =>
    have written : (conn.write (.settings true [])).InRange := inRange.write_plain rfl
    exact written.setExchange _
  | applied read shifted risen =>
    have written : (conn.write (.settings true [])).InRange := inRange.write_plain rfl
    have shifted := written.setSend shifted.sound
    refine InRange.emit (InRange.moves ?_ (resumeIf_moves _ _ : Moves (fun _ => True) _ _)) _
    exact shifted.setExchange _
  | credited positive fits =>
    have low := inRange.send.connection_low
    have credited := inRange.setSend (inRange.send.setConnection (by omega) fits)
    exact credited.moves (resumeIf_moves _ _ : Moves (fun _ => True) _ _)
  | streamCredited stands positive held fits =>
    have credited := inRange.setSend (inRange.send.setWindow stands held (by omega) fits)
    exact credited.moves (creditedOn_moves _ _ _ _ : Moves (fun _ => True) _ _)
  | overspent | ackNotDue | malformed | zeroCredit | creditOverflow | unwanted | streamOverflow =>
    exact inRange

theorem performed {call : Call} (performed : Performed conn call after) : after.InRange := by
  cases performed with
  | calm calms => exact inRange.calms calms
  | @announced changes now _ allowed synced =>
    have written : (conn.write (.settings false (wireForm changes))).InRange :=
      inRange.write_plain rfl
    exact (written.setExchange _).synced synced
  | queued held sends phase sound =>
    exact (inRange.setRegistry _).moves ((flush_flushed _ _).moves : Moves (fun _ => True) _ _)

theorem fail (error : Error) : (conn.fail error).InRange := by
  cases closed : conn.closed with
  | true =>
    rw [Connection.fail, closed]
    exact inRange
  | false =>
    obtain ⟨middle, moves, eq⟩ := fail_moves closed error
    have ended := inRange.moves moves
    rw [eq]
    exact ⟨ended.send, ended.receive, ended.initial, ended.increments⟩

theorem close : conn.close.InRange := by
  cases closed : conn.closed with
  | true =>
    rw [Connection.close, closed]
    exact inRange
  | false =>
    obtain ⟨middle, moves, eq⟩ := close_moves closed
    have ended := inRange.moves moves
    rw [eq]
    exact ⟨ended.send, ended.receive, ended.initial, ended.increments⟩

end InRange

/-! ## Runs -/

variable {log : List Activity}

theorem Step.inRange (step : Step conn log after)
    (sound : conn.closed = false → conn.Sound) (inRange : conn.InRange) : after.InRange := by
  cases step with
  | call call =>
    cases closed : conn.closed with
    | true => exact inRange.calms (called_of_closed closed call)
    | false => exact inRange.performed (called_of_leads (perform_performed (sound closed) call))
  | accept opened ran =>
    exact inRange.receipt (sound opened) ((receiveFrame_receipt (sound opened) _).of_ok ran)
  | absorb opened ran harmless =>
    have failed :=
      inRange.receipt (sound opened) ((receiveFrame_receipt (sound opened) _).of_error ran)
    exact failed.calms (absorb_calms trivial : Calms (fun _ => True) _ _)
  | collapse opened ran fatal =>
    have failed :=
      inRange.receipt (sound opened) ((receiveFrame_receipt (sound opened) _).of_error ran)
    exact failed.fail _
  | fail error => exact inRange.fail error
  | close => exact inRange.close
  | handOver =>
    refine ⟨inRange.send, inRange.receive, inRange.initial, ?_⟩
    intro frame member
    cases member
  | tell events => exact ⟨inRange.send, inRange.receive, inRange.initial, inRange.increments⟩

private theorem mem_queued_of_wroteSince {frame : Frame}
    (member : .wrote frame ∈ conn.wroteSince after) : frame ∈ after.queued := by
  obtain ⟨other, member, same⟩ := List.mem_map.mp member
  cases same
  exact List.mem_of_mem_drop member

theorem Step.mem_queued (step : Step conn log after) {frame : Frame}
    (member : .wrote frame ∈ log) : frame ∈ after.queued := by
  cases step with
  | accept opened ran =>
    rcases List.mem_cons.mp member with other | member
    · cases other
    · exact mem_queued_of_wroteSince member
  | handOver | tell => cases member
  | call | absorb | collapse | fail | close => exact mem_queued_of_wroteSince member

theorem Steps.inRange {start : Connection} (steps : Steps start log conn)
    (sound : start.Sound) (inRange : start.InRange) :
    conn.InRange ∧ ∀ frame, .wrote frame ∈ log → ∀ increment,
      frame.increment? = some increment → 0 < increment ∧ increment ≤ maxWindow := by
  induction steps with
  | refl =>
    refine ⟨inRange, ?_⟩
    intro frame member
    cases member
  | tail steps last ih =>
    have later := last.inRange (steps.sound sound) ih.1
    refine ⟨later, ?_⟩
    intro frame member
    rcases List.mem_append.mp member with before | now
    · exact ih.2 frame before
    · exact later.increments frame (last.mem_queued now)

end Connection

namespace Session

theorem fresh_inRange (role : Role) (config : Config) : (fresh role config).InRange := by
  have sound := fresh_sound role config
  refine ⟨sound.send, sound.receive, sound.receiveInitial, ?_⟩
  intro frame member
  cases role with
  | client => cases member
  | server => cases member

theorem Run.inRange {session : Session} {log : List Activity} (run : Run session log) :
    session.connection.InRange ∧ ∀ frame, .wrote frame ∈ log → ∀ increment,
      frame.increment? = some increment → 0 < increment ∧ increment ≤ maxWindow := by
  obtain ⟨role, config, steps⟩ := run.steps
  exact steps.inRange (fresh_sound role config) (fresh_inRange role config)

end Session

end Http2
