import Http2.Proofs.Calm

/-!
# Frames that are received calmly

Frames other than DATA, WINDOW_UPDATE and SETTINGS lead to calm changes only, and no error that they
meet with speaks of flow control.
-/

namespace Http2.Connection

variable {error : Error} {endStream : Bool} {octets : Octets} {count : Nat}
  {result : Except Error Unit}

def Mild (reason : Reason) : Prop := reason ≠ .flowControlError

instance (reason : Reason) : Decidable (Mild reason) := inferInstanceAs (Decidable (_ ≠ _))

theorem mild_protocolError : Mild .protocolError := by decide

theorem mild_streamClosed : Mild .streamClosed := by decide

def Quiet {α : Type} (start : Connection) (result : Except Error α) (after : Connection) : Prop :=
  Calms Mild start after ∧ ∀ error, result = .error error → Mild error.reason

variable {α : Type} {start conn after : Connection} {id : Nat}

@[simp] theorem quiet_ok (value : α) : Quiet start (.ok value) conn ↔ Calms Mild start conn :=
  ⟨fun quiet => quiet.1, fun calms => ⟨calms, nofun⟩⟩

@[simp] theorem quiet_error (error : Error) :
    Quiet start (.error error : Except Error α) conn ↔ Calms Mild start conn ∧
    Mild error.reason := by
  constructor
  · exact fun quiet => ⟨quiet.1, quiet.2 error rfl⟩
  · rintro ⟨calms, mild⟩
    refine ⟨calms, ?_⟩
    rintro _ ⟨⟩
    exact mild

theorem deliverHeaders_calms (calms : Calms Mild start conn) (fields : List Field)
    (endStream : Bool) :
    Calms Mild start (conn.deliverHeaders id fields endStream) :=
  have noted : Calms Mild start (conn.modifyStream id fun stream =>
      { stream with finalReceived := !isInformational fields }) :=
    calms.tail (.touch conn id fun _ => rfl)
  noted.tail (.emit _ _)

private theorem emitIf_calms (calms : Calms Mild start conn) (condition : Bool) (event : Event) :
    Calms Mild start (conn.emitIf condition event) := by
  unfold emitIf
  split
  · exact calms.tail (.emit _ _)
  · exact calms

/-! ## Complaints -/

theorem missingStream_mild (conn : Connection) (kind : FrameKind) (id : Nat) :
    Mild (conn.missingStream kind id).reason := by
  unfold missingStream
  split
  · exact mild_protocolError
  · exact mild_streamClosed

private theorem acceptRemote_mild {registry : Registry}
    (failed : registry.acceptRemote id = .error error) :
    Mild error.reason := by
  unfold Registry.acceptRemote at failed
  split at failed
  · cases failed
    exact mild_protocolError
  · split at failed
    · cases failed
      exact mild_protocolError
    · cases failed

private theorem refusal?_mild {malformed : Bool} {reason : Reason}
    (refused : conn.refusal? malformed = some reason) : Mild reason := by
  unfold refusal? at refused
  split at refused
  · cases refused
    decide
  · split at refused
    · cases refused
      decide
    · cases refused

theorem Misplaced.mild (misplaced : Misplaced conn id error) : Mild error.reason := by
  cases misplaced with
  | missing => exact missingStream_mild conn _ id
  | unaccepted _ _ failed => exact acceptRemote_mild failed
  | wrongPhase => exact mild_protocolError

theorem Unfounded.mild {promised : Nat} (unfounded : Unfounded conn id promised error) :
    Mild error.reason := by
  cases unfounded with
  | missing => exact missingStream_mild conn _ id
  | wrongPhase => exact mild_protocolError
  | unaccepted failed => exact acceptRemote_mild failed

/-! ## Frames -/

theorem DataDealt.calms (dealt : DataDealt conn id octets count endStream (.ok ()) after) :
    ∃ windows, conn.receiveWindows.chargeStream id count = .ok windows ∧
      Calms Mild { conn with receiveWindows := windows } after := by
  cases dealt with
  | delivered _ _ drawn =>
    refine ⟨_, drawn, (emitIf_calms .refl _ _).tail (.refill _ (.inr ?_))⟩
    unfold emitIf
    split <;> rfl
  | @finished _ _ windows held _ drawn moves =>
    have told : Calms Mild { conn with receiveWindows := windows }
        ({ conn with receiveWindows := windows }.emit (.data id octets true)) := .single (.emit _ _)
    exact ⟨windows, drawn, told.settled held moves⟩

theorem DataDealt.eq_of_error
    (dealt : DataDealt conn id octets count endStream (.error error) after) :
    after = conn := by
  cases dealt <;> rfl

theorem HeadersDealt.quiet {fields : List Field} {priority : Option Priority}
    (dealt : HeadersDealt conn id fields priority endStream result after)
    (calms : Calms Mild start conn) :
    Quiet start result after := by
  cases dealt with
  | misplaced fault => exact (quiet_error _).mpr ⟨calms, fault.mild⟩
  | declined _ complains =>
    refine (quiet_error _).mpr ⟨calms, ?_⟩
    rcases complains with rfl | rfl
    · exact mild_protocolError
    · exact mild_streamClosed
  | passed _ taken => exact (quiet_ok _).mpr (calms.tail (.take conn (.theirs taken)))
  | turnedAway _ taken _ refused =>
    exact (quiet_ok _).mpr (calms.tail (.refuseStream conn (.theirs taken) (refusal?_mild refused)))
  | @accepted _ registry stream _ taken _ _ begun =>
    have added : Calms Mild start ({ conn with registry }.addStream id
        { stream with finalReceived := !isInformational fields }) := by
      refine calms.tail (.add conn (.theirs taken) ?_ ?_ ?_)
      · cases endStream <;> cases begun <;> rfl
      · cases endStream <;> cases begun <;> simp [Stream.cargo, Cargo.Waits]
      · cases endStream <;> cases begun <;> simp
    exact (quiet_ok _).mpr (((added.reprioritizeIf priority).tail (.emit _ _)).tail (.emit _ _))
  | started held _ _ moves =>
    refine (quiet_ok _).mpr ((deliverHeaders_calms calms fields endStream).settled ?_ moves)
    exact get?_deliverHeaders held fields endStream
  | continued =>
    exact (quiet_ok _).mpr ((deliverHeaders_calms calms fields false).reprioritizeIf priority)
  | concluded _ _ _ _ holds _ moves =>
    exact (quiet_ok _).mpr
      (((deliverHeaders_calms calms fields true).reprioritizeIf priority).settled holds moves)
  | trailed _ _ _ _ holds _ moves =>
    have told : Calms Mild start (conn.emit (.trailers id fields)) := calms.tail (.emit _ _)
    exact (quiet_ok _).mpr ((told.reprioritizeIf priority).settled holds moves)

private theorem receiveGoaway_calms (conn : Connection) (last : Nat) (reason : Reason)
    (debug : Octets) : Calms Mild conn (conn.receiveGoaway last reason debug) :=
  Calms.dropAll (.tail (.single (.farewell conn _)) (.emit _ _)) _ .refusedStream
    fun id => .stream id .refusedStream

theorem Dealt.quiet {frame : Frame} (dealt : Dealt conn frame result after)
    (control : frame.isControl) :
    Quiet conn result after := by
  have read : ∀ table, Calms Mild conn { conn with decoder := table } := fun table =>
    .single (.tables conn conn.encoder table)
  cases dealt with
  | garbled | garbledPromise =>
    exact (quiet_error _).mpr ⟨read _, (by decide : Mild .compressionError)⟩
  | headers _ dealt => exact dealt.quiet (read _)
  | pushToServer | pushRefused | unopened | looped =>
    exact (quiet_error _).mpr ⟨.refl, mild_protocolError⟩
  | unfounded _ fault => exact (quiet_error _).mpr ⟨read _, fault.mild⟩
  | @promised id promised _ _ table registry _ _ _ _ _ _ taken =>
    have added : Calms Mild conn ({ conn with decoder := table, registry }.addPromised promised id
        { phase := .reservedRemote }) :=
      (read table).tail (.add _ (.theirs taken) rfl (by simp [Stream.cargo, Cargo.Waits]) (by simp))
    exact (quiet_ok _).mpr (added.tail (.emit _ _))
  | placed => exact (quiet_ok _).mpr (.single (.reprioritize conn _ _))
  | dropped => exact (quiet_ok _).mpr (.single (.drop conn _ _ (absurd · Bool.false_ne_true)))
  | pinged => exact (quiet_ok _).mpr (.single (.write conn (.of_control rfl) nofun))
  | answered | offered | named => exact (quiet_ok _).mpr (.single (.emit conn _))
  | parted => exact (quiet_ok _).mpr (receiveGoaway_calms ..)
  | unplaced | unoffered | unnamed | unknown => exact (quiet_ok _).mpr .refl
  | _ => cases control

end Http2.Connection
