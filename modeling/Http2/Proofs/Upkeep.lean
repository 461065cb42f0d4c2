import Http2.Proofs.Rejection

/-!
# Upkeep

Most of what a connection does is upkeep.  It answers settings and pings, gives and takes credit,
passes data on, sends what it is given for a stream as far as there is credit, and closes streams.
None of this opens or promises a stream, sends the final headers of one, delivers headers, or says
farewell.

`Upkeep holds` says that a property of connections survives each change that upkeep is made of.  The
frames and the calls that are nothing but upkeep then keep the property, and so do those parts of
the others that are.

A property that farewells keep as well `Endures`.  `ByUpkeep` relates two states that have only
upkeep and farewells between them: whatever endures these goes over from the one to the other.
-/

namespace Http2

def Frame.isService : Frame → Bool
  | data .. | headers .. | pushPromise .. | goaway .. => false
  | _ => true

def Frame.isPlain : Frame → Bool
  | headers .. | pushPromise .. | goaway .. => false
  | _ => true

def Event.isPlain : Event → Bool
  | streamCreated .. | headers .. | trailers .. | goaway .. | sessionError _ => false
  | _ => true

/-- The stream on whose message the frame is: its headers, its data or its trailers. -/
def Frame.message? : Frame → Option Nat
  | data id .. | headers id .. => some id
  | _ => none

theorem Phase.isActive_of_canSend {phase : Phase} (sends : phase.canSend) : phase.isActive := by
  cases phase <;> first | rfl | cases sends

def Signal.isEnd : Signal → Bool
  | sendEnd | receiveEnd | sendHeaders true => true
  | _ => false

def Event.isParting : Event → Bool
  | goaway .. | sessionError _ => true
  | _ => false

def Call.isPlain : Call → Bool
  | createStream .. | respond .. | pushPromise .. | sendGoaway .. => false
  | _ => true

namespace Connection

structure Upkeep (holds : Connection → Prop) : Prop where
  /-- Windows, tables and settings do not matter. -/
  keep {conn after : Connection} : holds conn → after.registry = conn.registry →
    after.farewell = conn.farewell → after.closed = conn.closed →
    after.outbound = conn.outbound → after.events = conn.events → holds after
  number {conn : Connection} (next last : Nat) : holds conn →
    holds { conn with
      registry := { conn.registry with nextLocal := next, lastRemote := last } }
  emit {conn : Connection} {event : Event} : holds conn → event.isPlain →
    holds (conn.emit event)
  write {conn : Connection} {frame : Frame} : holds conn → frame.isService →
    holds (conn.write frame)
  /-- Data, trailers and informational headers go out on a stream that can send. -/
  say {conn : Connection} {frame : Frame} {id : Nat} {stream : Stream} : holds conn →
    conn.registry.get? id = some stream → stream.phase.canSend →
    frame.message? = some id → holds (conn.write frame)
  reprioritize {conn : Connection} (id : Nat) (priority : Priority) : holds conn →
    holds (conn.reprioritize id priority)
  detach {conn : Connection} (id : Nat) : holds conn →
    holds { conn with registry := conn.registry.detachChildren id }
  forget {conn : Connection} (id : Nat) : holds conn →
    holds { conn with registry := (conn.registry.markClosed id).2 }
  shut {conn : Connection} {stream : Stream} (id : Nat) : holds conn →
    stream.isLive = false → holds { conn with registry := conn.registry.insert id stream }
  /-- Either side of an active stream may end. -/
  finish {conn : Connection} {id : Nat} {signal : Signal} {stream next : Stream} :
    holds conn → conn.registry.get? id = some stream → stream.phase.isActive →
    signal.isEnd = true → stream.advance? signal = some next →
    holds { conn with registry := conn.registry.insert id next }
  /-- Of a stream that stays in its phase only the final headers matter. -/
  touch {conn : Connection} (id : Nat) {f : Stream → Stream} : holds conn →
    (∀ stream, (f stream).phase = stream.phase) →
    (∀ stream, (f stream).finalSent = stream.finalSent) →
    holds (conn.modifyStream id f)

variable {holds : Connection → Prop} {conn : Connection} {id : Nat}

namespace Upkeep

variable (upkeep : Upkeep holds) (ready : holds conn) {next stream : Stream}
  {result : Except Error Unit} {after : Connection}

include upkeep ready

theorem setSendWindows (windows : Windows) : holds { conn with sendWindows := windows } :=
  upkeep.keep ready rfl rfl rfl rfl rfl

theorem setReceiveWindows (windows : Windows) : holds { conn with receiveWindows := windows } :=
  upkeep.keep ready rfl rfl rfl rfl rfl

theorem setNextLocal (next : Nat) :
    holds { conn with registry := { conn.registry with nextLocal := next } } :=
  upkeep.number next conn.registry.lastRemote ready

theorem setLastRemote (last : Nat) :
    holds { conn with registry := { conn.registry with lastRemote := last } } :=
  upkeep.number conn.registry.nextLocal last ready

theorem compress (fields : List Field) : holds (conn.compress fields).2 :=
  upkeep.keep ready rfl rfl rfl rfl rfl

theorem reprioritizeIf (id : Nat) (priority : Option Priority) :
    holds (conn.reprioritizeIf id priority) := by
  cases priority with
  | none => exact ready
  | some priority => exact upkeep.reprioritize id priority ready

theorem refill (target : Nat) : holds (conn.refill id target) := by
  unfold Connection.refill
  split
  · exact ready
  · exact upkeep.write (upkeep.setReceiveWindows ready _) rfl

theorem finishStream (reason : Option Reason) : holds (conn.finishStream id reason) := by
  have shut :=
    upkeep.setReceiveWindows (upkeep.setSendWindows ready (conn.sendWindows.closeStream id))
    (conn.receiveWindows.closeStream id)
  exact upkeep.emit (upkeep.forget id (upkeep.detach id shut)) rfl

theorem dropStream (reason : Reason) (announced : Bool) (error : Error) :
    holds (conn.dropStream id reason announced error) := by
  unfold Connection.dropStream
  split
  · exact ready
  · rename_i stream held
    split
    · have reset := upkeep.shut id ready (rfl : (stream.reset reason).isLive = false)
      apply upkeep.finishStream
      split <;> split
      · exact upkeep.emit (upkeep.write reset rfl) rfl
      · exact upkeep.emit reset rfl
      · exact upkeep.write reset rfl
      · exact reset
    · exact ready

theorem dropAll (ids : List Nat) (reason : Reason) (error : Nat → Error) :
    holds (ids.foldl (fun conn id => conn.dropStream id reason false (error id)) conn) := by
  exact holds_dropAll ids ready fun id ready => upkeep.dropStream ready reason false (error id)

omit ready in
theorem settled (moved : holds { conn with registry := conn.registry.insert id next }) :
    holds (conn.settled id next) :=
  holds_settled moved fun _ => upkeep.finishStream moved none

theorem settledEnd (held : conn.registry.get? id = some stream)
    (moves : stream.advance? .receiveEnd = some next) : holds (conn.settled id next) := by
  refine upkeep.settled (upkeep.finish ready held ?_ rfl moves)
  obtain ⟨moved, -⟩ := Stream.advance?_eq moves
  cases phase : stream.phase <;> rw [phase] at moved <;> first | rfl | cases moved

theorem refuseStream (reason : Reason) : holds (conn.refuseStream id reason) :=
  have refused := upkeep.shut id ready (rfl : (({} : Stream).reset reason).isLive = false)
  upkeep.write (upkeep.forget id refused) rfl

theorem refuseOwn : holds (conn.refuseOwn id) :=
  have refused := upkeep.shut id ready (rfl : (({} : Stream).reset .refusedStream).isLive = false)
  upkeep.finishStream refused _

theorem absorb (error : Error) : holds (conn.absorb error) :=
  holds_absorb ready (fun _ => upkeep.dropStream ready ..) fun _ => upkeep.write ready rfl

theorem teardown (reason : Reason) : holds (conn.teardown reason) :=
  upkeep.setSendWindows (upkeep.dropAll ready _ reason fun _ => .sessionClosed) _

theorem advanceSent {signal : Signal} (ends : signal.isEnd)
    (held : conn.registry.get? id = some stream) (sends : stream.phase.canSend) :
    holds (conn.advanceAnyway id signal) := by
  refine holds_advanceAnyway ready fun held' moves => upkeep.settled ?_
  cases held.symm.trans held'
  exact upkeep.finish ready held (Phase.isActive_of_canSend sends) ends moves

theorem flush (id : Nat) : holds (conn.flush id) := by
  refine holds_flush id ready fun _ sends => ⟨fun ready held _ _ => ?_, fun _ ready => ?_,
    fun ready => ?_, fun {_ _ fields} ready held _ => ?_, fun ready held => ?_⟩
  · exact upkeep.say (upkeep.setSendWindows ready _) held sends rfl
  · exact upkeep.touch id ready (fun _ => rfl) fun _ => rfl
  · exact upkeep.setSendWindows ready _
  all_goals
    have ended := upkeep.touch id ready (f := Stream.endSent) (fun _ => rfl) fun _ => rfl
    -- nothing that is written from here on touches the stream until it moves on
    have holding := get?_modifyStream (f := Stream.endSent) held
  · exact upkeep.advanceSent (upkeep.say (upkeep.compress ended fields) holding sends rfl) rfl
      holding sends
  · exact ⟨upkeep.advanceSent ended rfl holding sends,
      upkeep.advanceSent (upkeep.say ended holding sends rfl) rfl holding sends⟩

theorem resumeIf (condition : Bool) : holds (resumeIf condition conn) :=
  holds_resumeIf ready fun ready _ => upkeep.flush (upkeep.setSendWindows ready _) _

/-! ## Frames -/

theorem debited (windows : Windows) : holds (conn.debited windows) :=
  upkeep.refill (upkeep.setReceiveWindows ready windows) _

theorem read (table : Header.Table) : holds { conn with decoder := table } :=
  upkeep.keep ready rfl rfl rfl rfl rfl

theorem data {octets : Octets} {count : Nat} {endStream : Bool}
    (dealt : DataDealt conn id octets count endStream result after) : holds after := by
  cases dealt with
  | unheld | unwelcome | overdrawn => exact ready
  | @delivered _ windows =>
    have charged := upkeep.setReceiveWindows ready windows
    apply upkeep.refill
    unfold emitIf
    split
    · exact upkeep.emit charged rfl
    · exact charged
  | @finished _ _ windows held _ _ moves =>
    have charged := upkeep.setReceiveWindows ready windows
    exact upkeep.settledEnd (upkeep.emit charged rfl) held moves

theorem dealt {frame : Frame} (dealt : Dealt conn frame result after) (plain : frame.isPlain) :
    holds after := by
  have learned : ∀ changes, holds (conn.learned changes) := fun _ =>
    upkeep.keep (upkeep.write ready (rfl : (Frame.settings true []).isService = true)) rfl rfl
      rfl rfl rfl
  cases dealt with
  | overspent | looped | unplaced | unopened | ackNotDue | zeroCredit | overfilled
  | uncredited | unneeded
  | emptyCredit | overflowed | unoffered | unnamed | unknown => exact ready
  | data _ dealt => exact upkeep.data (upkeep.debited ready _) dealt
  | placed => exact upkeep.reprioritize _ _ ready
  | dropped => exact upkeep.dropStream ready ..
  | unlimited | malformed => exact upkeep.keep ready rfl rfl rfl rfl rfl
  | acknowledged => exact upkeep.emit (upkeep.keep ready rfl rfl rfl rfl rfl) rfl
  | outgrown => exact learned _
  | applied => exact upkeep.emit (upkeep.resumeIf (upkeep.setSendWindows (learned _) _) _) rfl
  | credited => exact upkeep.resumeIf (upkeep.setSendWindows ready _) _
  | served => exact upkeep.flush (upkeep.setSendWindows ready _) _
  | saved => exact upkeep.setSendWindows ready _
  | pinged => exact upkeep.write ready rfl
  | answered | offered | named => exact upkeep.emit ready rfl
  | garbled | headers | pushToServer | pushRefused | garbledPromise | unfounded | promised
  | parted => cases plain

/-! ## Calls -/

theorem called {call : Call} (plain : call.isPlain) : holds (conn.called call) := by
  refine called_of_leads ((perform_served conn call).mono fun result after served => ?_)
  cases served with
  | denied => exact ready
  | looped | crowded | opened | promised | overfull | responded | parted => cases plain
  | queued | trailed =>
    apply upkeep.flush
    exact upkeep.touch _ ready (fun _ => rfl) fun _ => rfl
  | dropped => exact upkeep.dropStream ready ..
  | placed => exact upkeep.write (upkeep.reprioritize _ _ ready) rfl
  | informed held sends => exact upkeep.say (upkeep.compress ready _) held sends rfl
  | announced ends =>
    have told : ∀ exchange parameters,
        holds ({ conn with exchange }.write (.settings false parameters)) := fun _ _ =>
      upkeep.write (upkeep.keep ready rfl rfl rfl rfl rfl) rfl
    obtain ⟨_, -, announcing⟩ := announcing_of_ends ends
    cases announcing with
    | refused => exact ready
    | stuck => exact told _ _
    | limited => exact upkeep.keep (told _ _) rfl rfl rfl rfl rfl
  | pinged | offered | named => exact upkeep.write ready rfl
  | skipped skips =>
    obtain ⟨-, -, rfl⟩ := Registry.skipTo_eq skips
    exact upkeep.setNextLocal ready _
  | grown => exact upkeep.write (upkeep.keep ready rfl rfl rfl rfl rfl) rfl
  | lowered => exact upkeep.keep ready rfl rfl rfl rfl rfl

end Upkeep

/-! ## Farewells -/

/-- Upkeep keeps the property, and so do farewells. -/
structure Endures (holds : Connection → Prop) : Prop extends Upkeep holds where
  /-- Neither does it matter what was said in farewells and whether the session has ended. -/
  part {conn after : Connection} : holds conn → after.registry = conn.registry →
    after.outbound = conn.outbound → after.events = conn.events → holds after
  bid {conn : Connection} (last code : Nat) (debug : Octets) : holds conn →
    holds (conn.write (.goaway last code debug))
  warn {conn : Connection} {event : Event} : holds conn → event.isParting →
    holds (conn.emit event)

namespace Endures

variable (endures : Endures holds) (ready : holds conn) (last : Nat)
  (reason : Reason) (debug : Octets)

include endures ready

theorem sayFarewell : holds (conn.sayFarewell last reason debug) :=
  endures.part (endures.bid last reason.code debug ready) rfl rfl rfl

theorem dropAbove : holds (conn.dropAbove last reason debug) :=
  endures.dropAll (endures.sayFarewell ready _ reason debug) _ .refusedStream
    fun id => .stream id .refusedStream

theorem receiveGoaway : holds (conn.receiveGoaway last reason debug) := by
  have noted : holds { conn with farewell := { conn.farewell with
      received := some (Farewell.least conn.farewell.received last) } } :=
    endures.part ready rfl rfl rfl
  exact endures.dropAll (endures.warn noted rfl) _ .refusedStream fun id =>
    .stream id .refusedStream

theorem fail (error : Error) : holds (conn.fail error) := by
  unfold Connection.fail
  split
  · exact ready
  · have ended := endures.teardown (endures.sayFarewell ready conn.registry.lastRemote
      error.reason (Header.encodeUtf8 error.debugText)) error.reason
    exact endures.part (endures.warn ended rfl) rfl rfl rfl

theorem close : holds conn.close := by
  unfold Connection.close
  split
  · exact ready
  · refine endures.part (endures.teardown ?_ .cancel) rfl rfl rfl
    split
    · exact endures.sayFarewell ready ..
    · exact ready

end Endures

/-- The later state has come from the earlier one by upkeep and farewells. -/
def ByUpkeep (start after : Connection) : Prop :=
  ∀ holds : Connection → Prop, Endures holds → holds start → holds after

namespace ByUpkeep

variable {start after : Connection}

theorem refl (conn : Connection) : ByUpkeep conn conn := fun _ _ ready => ready

theorem endures : Endures (ByUpkeep start) where
  keep byUpkeep registry farewell closed outbound events holds endures ready :=
    endures.keep (byUpkeep holds endures ready) registry farewell closed outbound events
  number next last byUpkeep holds endures ready :=
    endures.number next last (byUpkeep holds endures ready)
  emit byUpkeep plain holds endures ready := endures.emit (byUpkeep holds endures ready) plain
  write byUpkeep service holds endures ready := endures.write (byUpkeep holds endures ready) service
  say byUpkeep held sends message holds endures ready :=
    endures.say (byUpkeep holds endures ready) held sends message
  reprioritize id priority byUpkeep holds endures ready :=
    endures.reprioritize id priority (byUpkeep holds endures ready)
  detach id byUpkeep holds endures ready := endures.detach id (byUpkeep holds endures ready)
  forget id byUpkeep holds endures ready := endures.forget id (byUpkeep holds endures ready)
  shut id byUpkeep ended holds endures ready := endures.shut id (byUpkeep holds endures ready) ended
  finish byUpkeep held active ends moves holds endures ready :=
    endures.finish (byUpkeep holds endures ready) held active ends moves
  touch id _ byUpkeep phase final holds endures ready :=
    endures.touch id (byUpkeep holds endures ready) phase final
  part byUpkeep registry outbound events holds endures ready :=
    endures.part (byUpkeep holds endures ready) registry outbound events
  bid last code debug byUpkeep holds endures ready :=
    endures.bid last code debug (byUpkeep holds endures ready)
  warn byUpkeep parting holds endures ready := endures.warn (byUpkeep holds endures ready) parting

end ByUpkeep

end Connection

end Http2
