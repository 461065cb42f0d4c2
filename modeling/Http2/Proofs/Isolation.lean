import Http2.Proofs.Life

/-!
# Streams apart from each other

What is done on one stream, by the peer or by the application, leaves the other streams alone,
whether it succeeds or is answered with a reset.  `Elsewhere id before after` says so of two states:
away from the stream `id` nothing has changed but whom a stream depends on, and that closed streams
may have been forgotten.

A stream is forgotten only when it stands in the list of closed streams, and nothing but the
stream `id` is entered there.
-/

namespace Http2

/-! ## Streams -/

/-- What may become of a stream while something is done on another one. -/
inductive Stream.Unaffected : Option Stream → Option Stream → Prop
  | absent : Unaffected none none
  | kept (stream : Stream) (parent : Nat) : Unaffected (some stream) (some (stream.dependOn parent))
  | forgotten {stream : Stream} (closed : stream.isLive = false) : Unaffected (some stream) none

namespace Stream.Unaffected

variable {before middle after : Option Stream}

theorem refl (stream : Option Stream) : Unaffected stream stream := by
  cases stream with
  | none => exact .absent
  | some stream => exact .kept stream stream.priority.dependency

theorem trans (first : Unaffected before middle) (second : Unaffected middle after) :
    Unaffected before after := by
  cases first with
  | absent => exact second
  | forgotten closed =>
    cases second
    exact .forgotten closed
  | kept stream parent =>
    cases second with
    | kept _ other => exact .kept stream other
    | forgotten closed => exact .forgotten closed

theorem map_dependOn (stream : Option Stream) {f : Stream → Stream}
    (moves : ∀ stream, f stream = stream ∨ ∃ parent, f stream = stream.dependOn parent) :
    Unaffected stream (stream.map f) := by
  cases stream with
  | none => exact .absent
  | some stream =>
    rw [Option.map_some]
    rcases moves stream with same | ⟨parent, moved⟩
    · rw [same]
      exact refl _
    · rw [moved]
      exact .kept stream parent

end Stream.Unaffected

/-! ## The registry -/

namespace Registry

structure Elsewhere (id : Nat) (before after : Registry) : Prop where
  streams : ∀ other, other ≠ id → Stream.Unaffected (before.get? other) (after.get? other)
  closed : ∀ other, other ≠ id → other ∈ after.closed → other ∈ before.closed

namespace Elsewhere

variable {start registry after : Registry} {id : Nat}

variable (elsewhere : Elsewhere id start registry)

include elsewhere

omit elsewhere in
theorem refl (id : Nat) (registry : Registry) : Elsewhere id registry registry :=
  ⟨fun _ _ => .refl _, fun _ _ member => member⟩

theorem step
    (streams : ∀ other, other ≠ id → Stream.Unaffected (registry.get? other) (after.get? other))
    (closed : after.closed = registry.closed) : Elsewhere id start after where
  streams other apart := (elsewhere.streams other apart).trans (streams other apart)
  closed other apart member := elsewhere.closed other apart (closed ▸ member)

theorem insert (stream : Stream) : Elsewhere id start (registry.insert id stream) := by
  refine elsewhere.step (fun other apart => ?_) rfl
  rw [get?_insert, if_neg apart.symm]
  exact .refl _

theorem modify (f : Stream → Stream) : Elsewhere id start (registry.modify id f) := by
  refine elsewhere.step (fun other apart => ?_) rfl
  rw [get?_modify, if_neg apart]
  exact .refl _

theorem take (takes : registry.Takes id after) : Elsewhere id start after := by
  rw [takes.same]
  exact elsewhere.step (fun _ _ => .refl _) rfl

theorem mapWithKey {f : Nat → Stream → Stream}
    (moves : ∀ other stream, f other stream = stream ∨ ∃ parent,
      f other stream = stream.dependOn parent) :
    Elsewhere id start { registry with streams := registry.streams.mapWithKey f } := by
  refine elsewhere.step (fun other apart => ?_) rfl
  simp only [get?, IdMap.get?_mapWithKey]
  exact .map_dependOn _ (moves other)

theorem detachChildren (parent : Nat) : Elsewhere id start (registry.detachChildren parent) := by
  refine elsewhere.mapWithKey fun other stream => ?_
  split
  · exact .inr ⟨0, rfl⟩
  · exact .inl rfl

theorem liftParent (child parent : Nat) :
    Elsewhere id start (registry.liftParent child parent) := by
  unfold Registry.liftParent
  split
  · refine elsewhere.step (fun other apart => ?_) rfl
    rw [get?_modify]
    split
    · exact .map_dependOn _ fun stream => .inr ⟨0, rfl⟩
    · exact .refl _
  · exact elsewhere

theorem reprioritize (priority : Priority) :
    Elsewhere id start (registry.reprioritize id priority) := by
  have lifted := elsewhere.liftParent id (registry.effectivePriority priority).dependency
  unfold Registry.reprioritize
  simp only
  split
  · refine (lifted.mapWithKey fun other stream => ?_).modify _
    split
    · exact .inr ⟨id, rfl⟩
    · exact .inl rfl
  · exact lifted.modify _

theorem markClosed (sound : start.Sound) : Elsewhere id start (registry.markClosed id).2 where
  streams other apart := by
    rcases get?_markClosed registry id other with same | ⟨gone, member | same⟩
    · rw [same]
      exact elsewhere.streams other apart
    · have listed := sound.closed other (elsewhere.closed other apart member)
      rw [gone]
      cases held : start.get? other with
      | none => exact .absent
      | some stream =>
        refine .forgotten (Bool.eq_false_iff.mpr fun live => ?_)
        rw [cargo?_of_get? held live] at listed
        cases listed
    · exact absurd same apart
  closed other apart member := by
    rcases mem_closed_markClosed member with member | same
    · exact elsewhere.closed other apart member
    · exact absurd same apart

end Elsewhere

end Registry

/-! ## The windows -/

namespace Windows

structure Elsewhere (id : Nat) (before after : Windows) : Prop where
  streams : ∀ other, other ≠ id → after.stream? other = before.stream? other
  parked : after.parked.filter (· ≠ id) = before.parked.filter (· ≠ id)

namespace Elsewhere

variable {start windows after : Windows} {id count : Nat}

theorem refl (id : Nat) (windows : Windows) : Elsewhere id windows windows := ⟨fun _ _ => rfl, rfl⟩

theorem trans (first : Elsewhere id start windows) (second : Elsewhere id windows after) :
    Elsewhere id start after :=
  ⟨fun other apart => (second.streams other apart).trans (first.streams other apart),
    second.parked.trans first.parked⟩

variable (windows id)

theorem openStream : Elsewhere id windows (windows.openStream id) := by
  refine ⟨fun other apart => ?_, ?_⟩
  · rw [stream?_openStream, if_neg apart.symm]
  · unfold Windows.openStream
    split <;> rfl

theorem park : Elsewhere id windows (windows.park id) := by
  refine ⟨fun other _ => stream?_park windows id other, ?_⟩
  unfold Windows.park
  split
  · rfl
  · simp

theorem unpark : Elsewhere id windows (windows.unpark id) := by
  refine ⟨fun _ _ => rfl, ?_⟩
  change (windows.parked.erase id).filter _ = _
  rw [← List.erase_filter, List.erase_of_not_mem (by simp)]

theorem closeStream : Elsewhere id windows (windows.closeStream id) := by
  refine ⟨fun other apart => ?_, (unpark windows id).parked⟩
  rw [stream?_closeStream, if_neg apart.symm]

variable {windows id}

theorem charge (paid : windows.charge id count = .ok after) : Elsewhere id windows after := by
  refine ⟨fun other apart => ?_, ?_⟩
  · rw [stream?_charge paid, if_neg apart]
  · rw [(charge_eq paid).2.2]

theorem chargeConnection (paid : windows.chargeConnection count = .ok after) :
    Elsewhere id windows after := by
  rw [(chargeConnection_eq paid).2]
  exact ⟨fun _ _ => rfl, rfl⟩

theorem chargeStream (paid : windows.chargeStream id count = .ok after) :
    Elsewhere id windows after := by
  refine ⟨fun other apart => ?_, ?_⟩
  · rw [stream?_chargeStream paid, if_neg apart]
  · obtain ⟨_, -, -, same⟩ := chargeStream_eq paid
    rw [same]

theorem setWindow {key : Nat} (about : key = 0 ∨ key = id) (windows : Windows) (window : Int) :
    Elsewhere id windows (windows.setWindow key window) := by
  unfold Windows.setWindow
  split
  · exact ⟨fun _ _ => rfl, rfl⟩
  · rename_i stands
    obtain rfl := about.resolve_left stands
    refine ⟨fun other apart => ?_, rfl⟩
    simp [stream?, IdMap.get?_insert, apart.symm]

theorem credit {crossed : Bool} (credited : windows.credit id count = .ok crossed after) :
    Elsewhere id windows after := by
  unfold Windows.credit at credited
  split at credited
  · cases credited
    exact .refl id _
  · simp only at credited
    split at credited
    · cases credited
    · cases credited
      exact setWindow (.inr rfl) windows _

end Elsewhere

end Windows

/-! ## The connection -/

namespace Connection

structure Elsewhere (id : Nat) (before after : Connection) : Prop where
  registry : before.registry.Elsewhere id after.registry
  sendWindows : before.sendWindows.Elsewhere id after.sendWindows
  receiveWindows : before.receiveWindows.Elsewhere id after.receiveWindows

def Confined {α : Type} (id : Nat) (start : Connection) : Except Error α → Connection → Prop
  | .ok _, after => Elsewhere id start after
  | .error error, after =>
    Elsewhere id start after ∧ ∀ other, error.faulty? = some other → other = id

namespace Elsewhere

variable {start conn : Connection} {id : Nat}

theorem refl (id : Nat) (conn : Connection) : Elsewhere id conn conn :=
  ⟨.refl id _, .refl id _, .refl id _⟩

section Changes

variable (elsewhere : Elsewhere id start conn) {windows : Windows}

include elsewhere

theorem emit (event : Event) : Elsewhere id start (conn.emit event) :=
  ⟨elsewhere.registry, elsewhere.sendWindows, elsewhere.receiveWindows⟩

theorem write (frame : Frame) : Elsewhere id start (conn.write frame) :=
  ⟨elsewhere.registry, elsewhere.sendWindows, elsewhere.receiveWindows⟩

theorem writeHeaders (fields : List Field) (priority : Option Priority) (endStream : Bool) :
    Elsewhere id start (conn.writeHeaders id fields priority endStream) :=
  ⟨elsewhere.registry, elsewhere.sendWindows, elsewhere.receiveWindows⟩

theorem setRegistry {registry : Registry} (rests : start.registry.Elsewhere id registry) :
    Elsewhere id start { conn with registry } :=
  ⟨rests, elsewhere.sendWindows, elsewhere.receiveWindows⟩

theorem setSendWindows (rests : conn.sendWindows.Elsewhere id windows) :
    Elsewhere id start { conn with sendWindows := windows } :=
  ⟨elsewhere.registry, elsewhere.sendWindows.trans rests, elsewhere.receiveWindows⟩

theorem setReceiveWindows (rests : conn.receiveWindows.Elsewhere id windows) :
    Elsewhere id start { conn with receiveWindows := windows } :=
  ⟨elsewhere.registry, elsewhere.sendWindows, elsewhere.receiveWindows.trans rests⟩

theorem modifyStream (f : Stream → Stream) : Elsewhere id start (conn.modifyStream id f) :=
  elsewhere.setRegistry (elsewhere.registry.modify f)

theorem reprioritizeIf (priority : Option Priority) :
    Elsewhere id start (conn.reprioritizeIf id priority) := by
  cases priority with
  | none => exact elsewhere
  | some priority => exact elsewhere.setRegistry (elsewhere.registry.reprioritize priority)

theorem addStream (stream : Stream) : Elsewhere id start (conn.addStream id stream) :=
  ⟨elsewhere.registry.insert stream, elsewhere.sendWindows.trans (.openStream _ id),
    elsewhere.receiveWindows.trans (.openStream _ id)⟩

theorem refill {key : Nat} (about : key = 0 ∨ key = id) (target : Nat) :
    Elsewhere id start (conn.refill key target) := by
  unfold Connection.refill
  split
  · exact elsewhere
  · rename_i increment windows filled
    obtain ⟨-, -, -, -, rfl⟩ := Windows.refill_eq filled
    exact (elsewhere.setReceiveWindows (.setWindow about _ _)).write _

variable (sound : start.registry.Sound)

include sound

theorem finishStream (reason : Option Reason) : Elsewhere id start (conn.finishStream id reason) :=
  ⟨(elsewhere.registry.detachChildren id).markClosed sound, elsewhere.sendWindows.trans
    (.closeStream _ id), elsewhere.receiveWindows.trans (.closeStream _ id)⟩

theorem dropStream (reason : Reason) (announced : Bool) (error : Error) :
    Elsewhere id start (conn.dropStream id reason announced error) := by
  unfold Connection.dropStream
  split
  · exact elsewhere
  · rename_i stream held
    split
    · have dropped := elsewhere.setRegistry (elsewhere.registry.insert (stream.reset reason))
      refine finishStream ?_ sound _
      split <;> split
      · exact (dropped.write _).emit _
      · exact dropped.emit _
      · exact dropped.write _
      · exact dropped
    · exact elsewhere

theorem settled (next : Stream) : Elsewhere id start (conn.settled id next) := by
  have moved := elsewhere.setRegistry (elsewhere.registry.insert next)
  unfold Connection.settled
  split
  · exact moved
  · exact moved.finishStream sound none

theorem advanceAnyway (signal : Signal) : Elsewhere id start (conn.advanceAnyway id signal) :=
  holds_advanceAnyway elsewhere fun _ _ => elsewhere.settled sound _

theorem flush : Elsewhere id start (conn.flush id) := by
  refine holds_flush id elsewhere fun _ _ => ⟨fun elsewhere _ charged _ => ?_,
    fun _ elsewhere => ?_, fun elsewhere => ?_, fun elsewhere _ _ => ?_, fun elsewhere _ => ?_⟩
  · exact (elsewhere.setSendWindows (.charge charged)).write _
  · exact elsewhere.modifyStream _
  · exact elsewhere.setSendWindows (.park _ id)
  · exact ((elsewhere.modifyStream _).writeHeaders _ none true).advanceAnyway sound _
  · have ended := elsewhere.modifyStream Stream.endSent
    exact ⟨ended.advanceAnyway sound _, (ended.write _).advanceAnyway sound _⟩

theorem refuseStream (reason : Reason) : Elsewhere id start (conn.refuseStream id reason) :=
  (elsewhere.setRegistry ((elsewhere.registry.insert _).markClosed sound)).write _

theorem absorb {error : Error} (about : ∀ other, error.faulty? = some other → other = id) :
    Elsewhere id start (conn.absorb error) := by
  refine holds_absorb elsewhere (fun faulty => ?_) fun _ => elsewhere.write _
  obtain rfl := about _ faulty
  exact elsewhere.dropStream sound ..

end Changes

end Elsewhere

variable {α β : Type} {start conn : Connection} {id : Nat}

/-! ## Frames -/

section Frames

variable {after : Connection} {result : Except Error Unit} {count : Nat} {endStream : Bool}

private theorem faulty?_of_isFatal {error : Error} (fatal : error.isFatal) (other : Nat) :
    error.faulty? = some other → other = id := by
  simp [Error.faulty?_of_isFatal fatal]

variable (elsewhere : Elsewhere id start conn) (sound : start.registry.Sound)

include elsewhere

theorem Elsewhere.debited {windows : Windows}
    (paid : conn.receiveWindows.chargeConnection count = .ok windows) :
    Elsewhere id start (conn.debited windows) :=
  (elsewhere.setReceiveWindows (.chargeConnection paid)).refill (.inl rfl) _

include sound

theorem DataDealt.confined {octets : Octets}
    (dealt : DataDealt conn id octets count endStream result after)
    : Confined id start result after := by
  cases dealt with
  | unheld => exact ⟨elsewhere, faulty?_of_isFatal (missingStream_isFatal conn .data id)⟩
  | unwelcome =>
    refine ⟨elsewhere, ?_⟩
    unfold dataFault
    split <;> simp [Error.faulty?]
  | overdrawn => exact ⟨elsewhere, by simp [Error.faulty?]⟩
  | delivered _ _ drawn =>
    have charged := elsewhere.setReceiveWindows (.chargeStream drawn)
    refine Elsewhere.refill ?_ (.inr rfl) _
    unfold emitIf
    split
    · exact charged.emit _
    · exact charged
  | finished _ _ drawn =>
    exact ((elsewhere.setReceiveWindows (.chargeStream drawn)).emit _).settled sound _

theorem HeadersDealt.confined {fields : List Field} {priority : Option Priority}
    (dealt : HeadersDealt conn id fields priority endStream result after)
    : Confined id start result after := by
  have delivered : ∀ endStream, Elsewhere id start (conn.deliverHeaders id fields endStream) :=
    fun _ => (elsewhere.modifyStream _).emit _
  cases dealt with
  | misplaced fault => exact ⟨elsewhere, faulty?_of_isFatal fault.isFatal⟩
  | declined => exact ⟨elsewhere, by simp [Error.faulty?]⟩
  | passed _ taken => exact elsewhere.setRegistry (elsewhere.registry.take (.theirs taken))
  | turnedAway _ taken =>
    exact (elsewhere.setRegistry (elsewhere.registry.take (.theirs taken))).refuseStream sound _
  | accepted _ taken =>
    have taken := elsewhere.setRegistry (elsewhere.registry.take (.theirs taken))
    exact (((taken.addStream _).reprioritizeIf priority).emit _).emit _
  | started => exact (delivered _).settled sound _
  | continued => exact (delivered _).reprioritizeIf priority
  | concluded => exact ((delivered _).reprioritizeIf priority).settled sound _
  | trailed => exact ((elsewhere.emit _).reprioritizeIf priority).settled sound _

end Frames

end Connection

/-! ## Frames and calls on a stream -/

def Frame.isWithin (id : Nat) : Frame → Bool
  | data stream .. | headers stream .. | priority stream _ | rstStream stream _
  | windowUpdate stream _ => stream == id
  | _ => false

def Call.isWithin (id : Nat) : Call → Bool
  | sendData stream .. | sendTrailers stream _ | reset stream _ | updatePriority stream _
  | respond stream .. | inform stream _ => stream == id
  | _ => false

namespace Connection

variable {conn : Connection} {id : Nat} {frame : Frame}

theorem Dealt.confined {result : Except Error Unit} {after : Connection}
    (dealt : Dealt conn frame result after)
    (sound : conn.registry.Sound) (stands : id ≠ 0) (within : frame.isWithin id) :
    Confined id conn result after := by
  have here := Elsewhere.refl id conn
  have read : ∀ table, Elsewhere id conn { conn with decoder := table } := fun _ =>
    ⟨here.registry, here.sendWindows, here.receiveWindows⟩
  cases dealt with
  | overspent | garbled | unopened => exact ⟨read _, by simp [Error.faulty?]⟩
  | data paid dealt =>
    obtain rfl := beq_iff_eq.mp within
    exact dealt.confined (here.debited paid) sound
  | headers _ dealt =>
    obtain rfl := beq_iff_eq.mp within
    exact dealt.confined (read _) sound
  | looped | emptyCredit | overflowed =>
    obtain rfl := beq_iff_eq.mp within
    exact ⟨here, by simp [Error.faulty?]⟩
  | unplaced | unneeded => exact here
  | placed =>
    obtain rfl := beq_iff_eq.mp within
    exact here.setRegistry (here.registry.reprioritize _)
  | dropped =>
    obtain rfl := beq_iff_eq.mp within
    exact here.dropStream sound ..
  | zeroCredit | overfilled | credited => exact absurd (beq_iff_eq.mp within).symm stands
  | uncredited => exact ⟨here, faulty?_of_isFatal (missingStream_isFatal ..)⟩
  | served _ _ _ _ entered =>
    obtain rfl := beq_iff_eq.mp within
    exact (here.setSendWindows (.trans (.credit entered) (.unpark _ _))).flush sound
  | saved _ _ _ _ entered =>
    obtain rfl := beq_iff_eq.mp within
    exact here.setSendWindows (.credit entered)
  | _ => cases within

private theorem handle_elsewhere (sound : conn.registry.Sound) (stands : id ≠ 0)
    (within : frame.isWithin id) (opened : (conn.handle frame).closed = false) :
    Elsewhere id conn (conn.handle frame) := by
  have leads := (receiveFrame_dealt conn frame).mono fun _ _ dealt =>
    dealt.confined sound stands within
  cases ran : (receiveFrame frame).run conn with
  | ok _ after =>
    rw [handle_of_ok ran]
    exact leads.of_ok ran
  | error error after =>
    obtain ⟨elsewhere, about⟩ := leads.of_error ran
    rw [handle_of_error ran] at opened ⊢
    cases fatal : error.isFatal with
    | false => exact elsewhere.absorb sound about
    | true =>
      simp only [fatal, if_true, closed_fail] at opened
      cases opened

private theorem called_elsewhere (sound : conn.registry.Sound) {call : Call}
    (within : call.isWithin id) : Elsewhere id conn (conn.called call) := by
  have here := Elsewhere.refl id conn
  refine called_of_leads ((perform_served conn call).mono fun result after served => ?_)
  cases served with
  | denied => exact here
  | queued | trailed =>
    obtain rfl := beq_iff_eq.mp within
    exact (here.modifyStream _).flush sound
  | dropped | overfull =>
    obtain rfl := beq_iff_eq.mp within
    exact here.dropStream sound ..
  | placed =>
    obtain rfl := beq_iff_eq.mp within
    exact (here.setRegistry (here.registry.reprioritize _)).write _
  | responded =>
    obtain rfl := beq_iff_eq.mp within
    exact ((here.modifyStream _).writeHeaders _ none _).settled sound _
  | informed =>
    obtain rfl := beq_iff_eq.mp within
    exact here.writeHeaders _ none false
  | _ => cases within

end Connection

namespace Session

/-- A frame or a call about one stream alone has been dealt with, and the session goes on. -/
inductive Uses (session : Session) (id : Nat) : Session → Prop
  | frame {frame : Frame} (stands : id ≠ 0) (within : frame.isWithin id)
      (going : (session.handle frame).connection.closed = false) :
      Uses session id (session.handle frame)
  | call {call : Call} (within : call.isWithin id) : Uses session id (session.call call).2

variable {session after : Session} {log : List Activity} {id : Nat}

theorem Uses.elsewhere (uses : session.Uses id after) (sound : session.connection.Sound)
    (opened : session.connection.closed = false) :
    session.connection.Elsewhere id after.connection := by
  cases uses with
  | frame stands within going =>
    rw [connection_handle opened] at going ⊢
    exact Connection.handle_elsewhere sound.registry stands within going
  | call within =>
    rw [connection_call]
    exact Connection.called_elsewhere sound.registry within

/-- Whatever a frame or a call does on a stream, by way of its errors too, every other stream keeps
its windows and all that the registry has of it, but for the stream that it depends on, or is
forgotten once it is closed; and those of them that wait for credit do so in the same order. -/
theorem Run.isolated (run : Run session log) (opened : session.connection.closed = false)
    (uses : session.Uses id after) :
    (∀ other, other ≠ id →
      Stream.Unaffected (session.connection.registry.get? other)
        (after.connection.registry.get? other) ∧
      after.connection.sendWindows.stream? other = session.connection.sendWindows.stream? other ∧
      after.connection.receiveWindows.stream? other =
        session.connection.receiveWindows.stream? other) ∧
    after.connection.sendWindows.parked.filter (· ≠ id) =
      session.connection.sendWindows.parked.filter (· ≠ id) := by
  have elsewhere := uses.elsewhere (run.sound opened) opened
  exact ⟨fun other apart => ⟨elsewhere.registry.streams other apart,
    elsewhere.sendWindows.streams other apart, elsewhere.receiveWindows.streams other apart⟩,
    elsewhere.sendWindows.parked⟩

/-- A server without credit and with answers that wait on two streams, of which the second depends
on the first. -/
def crowded : Session :=
  (newServer []).after [.receive (preface ++ [0, 0, 6, 4, 0, 0, 0, 0, 0, 0, 4, 0, 0, 0, 0] ++
      [0, 0, 0, 1, 4, 0, 0, 0, 3] ++ [0, 0, 5, 1, 0x24, 0, 0, 0, 5, 0, 0, 0, 3, 15]),
    .call (.sendData 3 [1, 2, 3] false), .call (.sendData 5 [4] false)]

/-- Credit of nothing for the first stream is an error, for which it is reset.  The second then
depends on no stream and is otherwise as it was. -/
theorem Run.isolated_crowded :
    (crowded.handle (.windowUpdate 3 0)).connection.sendWindows.stream? 3 = none ∧
    crowded.connection.sendWindows.parked = [3, 5] ∧
    (crowded.handle (.windowUpdate 3 0)).connection.sendWindows.parked.filter (· ≠ 3) = [5] ∧
    (crowded.handle (.windowUpdate 3 0)).connection.sendWindows.stream? 5 = some 0 ∧
    ∃ stream, crowded.connection.registry.get? 5 = some stream ∧ stream.queue = ⟨[[4]], 1⟩ ∧
      stream.priority.dependency = 3 ∧
      (crowded.handle (.windowUpdate 3 0)).connection.registry.get? 5 =
        some (stream.dependOn 0) := by
  have created : Session.create .server {} 0 = .ok (newServer []) := rfl
  have run : ∃ log, Run crowded log := ⟨_, (Run.create created).after _⟩
  obtain ⟨log, run⟩ := run
  have uses : crowded.Uses 3 (crowded.handle (.windowUpdate 3 0)) :=
    .frame (by decide) rfl (by decide +kernel)
  have waiting : crowded.connection.sendWindows.parked = [3, 5] := by decide +kernel
  obtain ⟨others, parked⟩ := run.isolated (by decide +kernel) uses
  obtain ⟨rests, window, -⟩ := others 5 (by decide)
  have before : (crowded.connection.registry.get? 5).any (fun stream =>
      stream.queue = ⟨[[4]], 1⟩ ∧ stream.priority.dependency = 3) = true := by decide +kernel
  have now : ((crowded.handle (.windowUpdate 3 0)).connection.registry.get? 5).any
      (·.priority.dependency = 0) = true := by decide +kernel
  obtain ⟨stream, held, facts⟩ := (Option.any_eq_true _ _).mp before
  obtain ⟨queue, dependency⟩ := of_decide_eq_true facts
  obtain ⟨later, held', root⟩ := (Option.any_eq_true _ _).mp now
  rw [held, held'] at rests
  cases rests with
  | kept _ parent =>
    obtain rfl : parent = 0 := of_decide_eq_true root
    refine ⟨by decide +kernel, waiting, ?_, window.trans (by decide +kernel), stream, held, queue,
      dependency, held'⟩
    rw [parked, waiting]
    rfl

end Session

end Http2
