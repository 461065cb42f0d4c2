import Http2.Proofs.Readings
import Http2.Proofs.Strays
import Http2.Proofs.Transcript

/-!
# What a connection takes in

The receive window of a connection is an account of its own.  It is charged for every DATA frame
that is taken in, by the length of its payload on the wire, whatever becomes of the stream, and what
it is granted is told to the peer in WINDOW_UPDATE frames on stream 0.  It is filled up as soon as
no more than half of its target is left, and a larger target is granted at once.  So a connection
that wants any data is never out of credit, and the peer that sends more than the window is the only
one to be accused of it.
-/

namespace Http2

open Connection

variable {raw : RawFrame} {frame : Frame}

/-! ## Payloads on the wire -/

private theorem Reading.ofBlock_kind {block : PartialBlock}
    (read : Reading.ofBlock raw block = .frame frame) :
    frame.kind? ≠ some .data := by
  unfold Reading.ofBlock PartialBlock.frame at read
  split at read
  · cases read
    split <;> simp [Frame.kind?]
  · cases read

private theorem readRaw_charged (read : readRaw raw = .ok (.frame frame))
    (data : frame.kind? = some .data) :
    FrameKind.ofCode? raw.kind = some .data ∧ raw.payload.length = frame.chargedLength := by
  unfold readRaw at read
  split at read <;> rename_i kind
  case h_1 =>
    simp only [readData, bind, Except.bind] at read
    split at read
    · cases read
    · split at read
      · cases read
      · rename_i stripped
        cases read
        exact ⟨kind, stripPadding_length stripped raw.stream _⟩
  case h_2 =>
    simp only [readHeaders, bind, Except.bind] at read
    repeat' split at read
    all_goals first | cases read | exact absurd data (Reading.ofBlock_kind (Except.ok.inj read))
  case h_6 =>
    simp only [readPushPromise, bind, Except.bind] at read
    repeat' split at read
    all_goals first | cases read | exact absurd data (Reading.ofBlock_kind (Except.ok.inj read))
  case h_10 => cases read
  case h_13 =>
    cases read
    cases data
  all_goals
    simp only [readPriority, readRstStream, readSettings, readPing, readGoaway, readWindowUpdate,
      readAltSvc, readOrigin, bind, Except.bind] at read
    repeat' split at read
    all_goals
      cases read
      try cases data

private theorem accept_charged {limit : Nat} {pending left : Option PartialBlock}
    (accepted : accept limit pending raw = (.ok (some frame), left))
    (data : frame.kind? = some .data) :
    FrameKind.ofCode? raw.kind = some .data ∧ raw.payload.length = frame.chargedLength := by
  unfold accept at accepted
  split at accepted
  · -- a frame that completes a header block is none with data
    rename_i block
    simp only [continueBlock, PartialBlock.frame] at accepted
    repeat' split at accepted
    all_goals
      cases accepted
      try cases data
  · split at accepted
    · cases accepted
    · rename_i read
      cases accepted
      exact readRaw_charged read data
    · unfold beginBlock at accepted
      split at accepted <;> cases accepted
    · cases accepted

/-- Right before the octets left after DATA stands a raw DATA frame of the charged length. -/
theorem Reader.nextFrame_charged {reader rest : Reader}
    (next : reader.nextFrame = (.ok (some frame), rest)) (data : frame.kind? = some .data) :
    ∃ front octets raw, reader.buffer = front ++ octets ∧
      RawFrame.decode? reader.frameLimit octets = .ok (some (raw, rest.buffer)) ∧
      FrameKind.ofCode? raw.kind = some .data ∧ raw.payload.length = frame.chargedLength := by
  fun_induction Reader.nextFrame reader with
  | case1 | case2 | case3 => simp at next
  | case4 reader raw left decoded found pending accepted =>
    cases next
    exact ⟨[], reader.buffer, raw, rfl, decoded, accept_charged accepted data⟩
  | case5 reader raw left decoded pending accepted ih =>
    obtain ⟨-, before, split, -⟩ := RawFrame.of_decode? decoded
    obtain ⟨front, octets, other, shown, rest⟩ := ih next
    refine ⟨before ++ front, octets, other, ?_, rest⟩
    rw [split, List.append_assoc, ← shown]

private theorem Reader.next_charged {reader rest : Reader}
    (next : reader.next = (.ok (some frame), rest)) (data : frame.kind? = some .data) :
    ∃ front octets raw, reader.buffer = front ++ octets ∧
      RawFrame.decode? reader.frameLimit octets = .ok (some (raw, rest.buffer)) ∧
      FrameKind.ofCode? raw.kind = some .data ∧ raw.payload.length = frame.chargedLength := by
  unfold Reader.next Reader.takePreface at next
  split at next <;> rename_i taken
  · cases next
  · cases next
  · split at taken
    · cases taken
      exact Reader.nextFrame_charged next data
    · split at taken
      · cases taken
        obtain ⟨front, octets, raw, shown, rest⟩ := Reader.nextFrame_charged next data
        refine ⟨reader.buffer.take preface.length ++ front, octets, raw, ?_, rest⟩
        rw [List.append_assoc, ← shown, List.take_append_drop]
      · split at taken <;> cases taken

/-! ## Enough credit for the peer -/

namespace Connection

variable {reasons : Reason → Prop} {conn after : Connection} {id : Nat}

/-- More than half of the target is left of the window, or all of it. -/
def Ample (conn : Connection) : Prop :=
  conn.receiveTarget < conn.receiveWindows.connection * 2 ∨
    conn.receiveTarget ≤ conn.receiveWindows.connection

private theorem receiveTarget_refill (conn : Connection) (id target : Nat) :
    (conn.refill id target).receiveTarget = conn.receiveTarget := by
  unfold refill
  split <;> rfl

private theorem le_window_refill (conn : Connection) (id target : Nat) :
    conn.receiveWindows.connection ≤ (conn.refill id target).receiveWindows.connection := by
  unfold refill
  split
  · exact Int.le_refl _
  · rename_i refilled
    obtain ⟨window, held, short, -, rfl⟩ := Windows.refill_eq refilled
    by_cases stands : id = 0
    · subst stands
      obtain rfl : conn.receiveWindows.connection = window := Option.some.inj held
      exact Int.le_of_lt short
    · rw [Windows.setWindow, if_neg stands]
      exact Int.le_refl _

private theorem refill_ample (fits : conn.receiveTarget ≤ maxWindow) :
    (conn.refill 0 conn.receiveTarget).Ample := by
  rw [Ample, receiveTarget_refill]
  unfold refill
  split
  · rename_i none
    simp only [Windows.refill, Windows.window?, if_true, Nat.min_eq_left fits] at none
    split at none
    · rename_i more
      exact .inl more
    · split at none
      · rename_i full
        exact .inr full
      · cases none
  · rename_i refilled
    obtain ⟨_, -, -, -, rfl⟩ := Windows.refill_eq refilled
    refine .inr ?_
    change (conn.receiveTarget : Int) ≤ (min conn.receiveTarget maxWindow : Nat)
    omega

private theorem receive_dropStream (conn : Connection) (id : Nat)
    (reason : Reason) (announced : Bool) (error : Error) :
    (conn.dropStream id reason announced error).receiveTarget = conn.receiveTarget ∧
    (conn.dropStream id reason announced error).receiveWindows.connection =
      conn.receiveWindows.connection := by
  rcases dropStream_eq conn id reason announced error with same | ⟨_, _, _, -, -, same⟩ <;>
    rw [same] <;>
    exact ⟨rfl, rfl⟩

namespace Ample

theorem mono (ample : conn.Ample) (target : after.receiveTarget ≤ conn.receiveTarget)
    (window : conn.receiveWindows.connection ≤ after.receiveWindows.connection) : after.Ample := by
  unfold Ample at *
  omega

theorem calm (ample : conn.Ample) (calm : Calm reasons conn after) : after.Ample := by
  cases calm with
  | emit | tables | farewell | write | take | skip | touch | reprioritize | advance | refuseOwn |
    refuseStream | finish => exact ample
  | add => exact ample.mono (Nat.le_refl _) (by simp [addStream])
  | target lower => exact ample.mono lower (Int.le_refl _)
  | drop id error =>
    obtain ⟨target, window⟩ := receive_dropStream conn id _ _ error
    exact ample.mono (Nat.le_of_eq target) (Int.le_of_eq window.symm)
  | refill fits =>
    exact ample.mono (Nat.le_of_eq (receiveTarget_refill ..)) (le_window_refill ..)
  | @grow size _ _ larger fits credited =>
    obtain ⟨-, -, rfl⟩ := Windows.credit_connection_eq credited
    change size < (conn.receiveWindows.connection + (size - conn.receiveTarget : Nat)) * 2 ∨
      (size : Int) ≤ conn.receiveWindows.connection + (size - conn.receiveTarget : Nat)
    unfold Ample at ample
    omega

theorem calms (ample : conn.Ample) (calms : Calms reasons conn after) : after.Ample := by
  induction calms with
  | refl => exact ample
  | tail _ last ih => exact ih.calm last

end Ample

private theorem receiveData_ample (ample : conn.Ample) (fits : conn.receiveTarget ≤ maxWindow)
    (octets : Octets) (endStream : Bool) (padding : Option UInt8) :
    (receiveFrame (.data id octets endStream padding)).Leads conn fun _ after => after.Ample := by
  refine (receiveFrame_dealt conn _).mono fun result after dealt => ?_
  cases dealt with
  | overspent => exact ample
  | @data _ _ _ _ windows _ _ _ dealt =>
    have filled : (conn.debited windows).Ample := refill_ample fits
    cases result with
    | error => exact dealt.eq_of_error ▸ filled
    | ok =>
      obtain ⟨rest, drawn, calms⟩ := dealt.calms
      obtain ⟨_, -, -, rfl⟩ := Windows.chargeStream_eq drawn
      exact Ample.calms (by exact filled) calms

private theorem ample_invariant : Invariant Ample where
  move move ample := by
    cases move with
    | calm calm => exact Ample.calm ample calm
    | spend | requeue | wait => exact ample
  write frame ample := ample
  learn peer sendWindows ample := ample
  sync exchange synced ample := by
    obtain ⟨windows, shifted, rfl⟩ := synced
    exact Ample.mono ample (Nat.le_refl _) (Int.le_of_eq shifted.connection.symm)
  data {conn frame} sound data ample := by
    obtain ⟨octets, endStream, padding, shape⟩ := exists_data data
    rw [shape]
    exact receiveData_ample ample sound.target octets endStream padding

/-! ## Who is accused -/

/-- DATA violates flow control if and only if it is longer than the window of the connection. -/
theorem receiveData_breaks_iff (sound : conn.Sound) (data : frame.kind? = some .data) :
    (∃ error, error.isFatal ∧ error.reason = .flowControlError ∧
      ∃ after, (receiveFrame frame).run conn = .error error after) ↔
      conn.receiveWindows.connection < frame.chargedLength := by
  constructor
  · rintro ⟨error, fatal, reason, after, ran⟩
    cases (receiveFrame_receipt sound frame).of_error ran with
    | calm control => cases frame <;> simp [Frame.kind?, Frame.isControl] at data control
    | overspent _ excess => exact excess
    | refused _ _ _ mild => exact absurd reason mild
    | overdrawn => cases fatal
    | taken _ _ _ _ quiet => exact absurd reason (quiet.2 error rfl)
    | _ => cases data
  · intro excess
    obtain ⟨octets, endStream, padding, shape⟩ := exists_data data
    have leads : (receiveFrame frame).Leads conn fun result _ =>
        ∃ error, result = .error error ∧ error.isFatal ∧ error.reason = .flowControlError := by
      rw [shape] at excess ⊢
      refine (receiveFrame_dealt conn _).mono fun result after dealt => ?_
      cases dealt with
      | overspent => exact ⟨_, rfl, rfl, rfl⟩
      | data paid =>
        have fits := (Windows.chargeConnection_eq paid).1
        omega
    cases ran : (receiveFrame frame).run conn with
    | ok _ after =>
      obtain ⟨_, failed, -⟩ := leads.of_ok ran
      cases failed
    | error error after =>
      obtain ⟨_, failed, fatal, reason⟩ := leads.of_error ran
      cases failed
      exact ⟨error, fatal, reason, after, rfl⟩

end Connection

/-! ## The account of a session -/

/-- The window of the connection is what it was at first and has been granted, less what it was
charged for, and it is ample. -/
structure Connection.Intake (lines : List Line) (conn : Connection) : Prop where
  window : conn.receiveWindows.connection + charged (heardBy lines) =
    (defaultWindow : Int) + granted 0 (wroteBy lines)
  ample : conn.Ample

namespace Session

private theorem intake_upheld : Upheld fun lines conn => conn.Intake lines where
  begins role config := ⟨rfl, .inr (Int.le_refl _)⟩
  handOver intake := ⟨intake.window, intake.ample⟩
  tell events intake := ⟨intake.window, intake.ample⟩
  call {lines conn} call sound opened intake := by
    refine ⟨?_, ample_invariant.called sound call intake.ample⟩
    have before := intake.window
    rw [heardBy_append, wroteBy_append, heardBy_callLines, List.append_nil, granted_append]
    rcases called_cases sound call with ⟨written, balanced, -⟩ | ⟨changes, now, announced⟩
    · have received := balanced.receiveConnection
      rw [wroteBy_callLines balanced.queued]
      omega
    · have received := announced.receiveConnection
      have none : granted 0 [Frame.settings false (wireForm changes)] = 0 := rfl
      rw [wroteBy_callLines announced.queued, none]
      omega
  hear {lines conn} frame sound opened going intake := by
    refine ⟨?_, ample_invariant.handle sound going intake.ample⟩
    have before := intake.window
    obtain ⟨reasons, written, handled⟩ := handle_handled sound going
    have received := handled.receiveConnection
    rw [heardBy_append, wroteBy_append, heardBy_hearLines, wroteBy_hearLines handled,
      granted_append, granted_append, Frame.granted_answer, charged_append,
      charged_cons, charged_nil]
    omega

/-- In every state of an open session the receive window of the connection is the default window
with all that has been granted on stream 0, less the payloads of all DATA frames that were taken in.
It is not negative, and more than half of the target is left of it, or all of the target, so that
there is credit as long as any is wanted.  DATA is turned down with a violation of flow control if
and only if it is longer than the window when its turn comes, and the length in question is that of
the payload on the wire. -/
theorem Transcript.receive_window_eq_ledger {session : Session} {lines : List Line}
    (transcript : Transcript session lines) (opened : session.connection.closed = false) :
    let window := session.connection.receiveWindows.connection
    let target := session.connection.receiveTarget
    window = (defaultWindow : Int) + granted 0 (wroteBy lines) - charged (heardBy lines) ∧
    0 ≤ window ∧ (target < window * 2 ∨ target ≤ window) ∧ (0 < target → 0 < window) ∧
    (∀ octets before frame, frame.kind? = some .data → session.Amounts octets (before ++ [frame]) →
      ((∃ error, (session.receive octets).1 = .error error ∧ error.reason = .flowControlError) ↔
        (session.connection.handleAll before).receiveWindows.connection < frame.chargedLength)) ∧
    ∀ reader rest frame, Reader.next reader = (.ok (some frame), rest) → frame.kind? = some .data →
      ∃ front octets raw, reader.buffer = front ++ octets ∧
        RawFrame.decode? reader.frameLimit octets = .ok (some (raw, rest.buffer)) ∧
        FrameKind.ofCode? raw.kind = some .data ∧ raw.payload.length = frame.chargedLength := by
  intro window target
  have sound := transcript.sound opened
  have intake := intake_upheld.transcript transcript opened
  have account := intake.window
  have ample : target < window * 2 ∨ target ≤ window := intake.ample
  refine ⟨by omega, sound.receive.connection_low,
    ample, by omega, fun octets before frame data amounts => ?_,
    fun reader rest frame => Reader.next_charged⟩
  rw [← Connection.receiveData_breaks_iff (amounts.sound_before sound) data]
  constructor
  · rintro ⟨error, failed, reason⟩
    obtain ⟨fatal, ran⟩ := (receive_eq_error_iff amounts sound opened).mp failed
    exact ⟨error, fatal, reason, ran⟩
  · rintro ⟨error, fatal, reason, ran⟩
    exact ⟨error, (receive_eq_error_iff amounts sound opened).mpr ⟨fatal, ran⟩, reason⟩

/-- A server that has reset the stream of its client, and has then received padded data on it. -/
def padded : Session :=
  (newServer []).after [.receive (preface ++ [0, 0, 0, 4, 0, 0, 0, 0, 0] ++
    [0, 0, 0, 1, 4, 0, 0, 0, 1]),
    .call (.reset 1 .cancel), .receive [0, 0, 4, 0, 8, 0, 0, 0, 1, 2, 7, 0, 0]]

private theorem exists_transcript_padded : ∃ lines, Transcript padded lines := by
  have created : Session.create .server {} 0 = .ok (newServer []) := rfl
  exact ⟨_, _, _, _, _, _, created, rfl, rfl⟩

/-- One octet of data with two of padding takes four octets, though the stream was closed. -/
theorem Transcript.receive_window_eq_ledger_padded : ∃ lines, Transcript padded lines ∧
    padded.connection.closed = false ∧ padded.connection.receiveWindows.connection = 65531 ∧
    (charged (heardBy lines) : Int) = granted 0 (wroteBy lines) + 4 := by
  obtain ⟨lines, transcript⟩ := exists_transcript_padded
  have opened : padded.connection.closed = false := by decide +kernel
  have window : padded.connection.receiveWindows.connection = 65531 := by decide +kernel
  have ledger := (transcript.receive_window_eq_ledger opened).1
  have initial : (defaultWindow : Int) = 65535 := rfl
  exact ⟨lines, transcript, opened, window, by omega⟩

end Session

end Http2
