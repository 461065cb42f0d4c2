import Http2.Proofs.Credit
import Http2.Proofs.Routines
import Mathlib.Logic.Relation

/-!
# Calm changes

Most of what a connection does spends no credit of its own and leaves the settings of both ends
alone.  `Calm` lists these changes, one by one and as the definitions make them, and `Calms` is a
stretch of them.  Properties of a stretch are proved for each change and then follow along it.
-/

namespace Http2.Connection

open Relation (ReflTransGen)

/-- One calm change.  Resets and farewells that it writes give one of the `reasons`. -/
inductive Calm (reasons : Reason → Prop) : Connection → Connection → Prop
  | emit (conn : Connection) (event : Event) : Calm reasons conn (conn.emit event)
  | tables (conn : Connection) (encoder decoder : Header.Table) :
      Calm reasons conn { conn with encoder, decoder }
  | farewell (conn : Connection) (farewell : Farewell) :
      Calm reasons conn { conn with farewell }
  | target (conn : Connection) {size : Nat} (lower : size ≤ conn.receiveTarget) :
      Calm reasons conn { conn with receiveTarget := size }
  | write (conn : Connection) {frame : Frame} (inert : frame.Inert)
      (given : ∀ reason, frame.reason? = some reason → reasons reason) :
      Calm reasons conn (conn.write frame)
  | take (conn : Connection) {id : Nat} {registry : Registry}
      (takes : conn.registry.Takes id registry) :
      Calm reasons conn { conn with registry }
  | skip (conn : Connection) {id : Nat} {registry : Registry}
      (skips : conn.registry.skipTo id = .ok registry) :
      Calm reasons conn { conn with registry }
  | add (conn : Connection) {id : Nat} {registry : Registry} {stream : Stream}
      (takes : conn.registry.Takes id registry) (live : stream.isLive)
      (empty : ¬ stream.cargo.Waits) (begun : stream.phase ≠ .idle) :
      Calm reasons conn ({ conn with registry }.addStream id stream)
  | refuseOwn (conn : Connection) {id : Nat} {registry : Registry}
      (takes : conn.registry.Takes id registry) :
      Calm reasons conn ({ conn with registry }.refuseOwn id)
  | refuseStream (conn : Connection) {id : Nat} {registry : Registry} {reason : Reason}
      (takes : conn.registry.Takes id registry) (given : reasons reason) :
      Calm reasons conn ({ conn with registry }.refuseStream id reason)
  | touch (conn : Connection) (id : Nat) {f : Stream → Stream}
      (same : ∀ stream, (f stream).cargo = stream.cargo) :
      Calm reasons conn (conn.modifyStream id f)
  | reprioritize (conn : Connection) (id : Nat) (priority : Priority) :
      Calm reasons conn (conn.reprioritize id priority)
  | advance (conn : Connection) {id : Nat} {signal : Signal} {stream next : Stream}
      (held : conn.registry.get? id = some stream)
      (moves : stream.advance? signal = some next) (live : next.isLive) :
      Calm reasons conn { conn with registry := conn.registry.insert id next }
  | finish (conn : Connection) {id : Nat} {signal : Signal} {stream next : Stream}
      (held : conn.registry.get? id = some stream)
      (moves : stream.advance? signal = some next) (closed : next.isLive = false) :
      Calm reasons conn
        ({ conn with registry := conn.registry.insert id next }.finishStream id none)
  | drop (conn : Connection) (id : Nat) {reason : Reason} {announced : Bool} (error : Error)
      (given : announced → reasons reason) :
      Calm reasons conn (conn.dropStream id reason announced error)
  | refill (conn : Connection) {id target : Nat} (fits : id = 0 ∨ target = conn.receiveInitial) :
      Calm reasons conn (conn.refill id target)
  | grow (conn : Connection) {size : Nat} {crossed : Bool} {windows : Windows}
      (larger : conn.receiveTarget < size) (fits : size ≤ maxWindow)
      (credited : conn.receiveWindows.credit 0 (size - conn.receiveTarget) = .ok crossed windows) :
      Calm reasons conn
        ({ conn with receiveWindows := windows, receiveTarget := size }.write
          (.windowUpdate 0 (size - conn.receiveTarget)))

abbrev Calms (reasons : Reason → Prop) : Connection → Connection → Prop :=
  ReflTransGen (Calm reasons)

namespace Calms

variable {reasons : Reason → Prop} {start conn : Connection} {id : Nat}

variable (calms : Calms reasons start conn)

include calms

theorem writeHeaders (fields : List Field) (priority : Option Priority) (endStream : Bool) :
    Calms reasons start (conn.writeHeaders id fields priority endStream) := by
  have compressed :=
    calms.tail (.tables conn (Header.encodeBlock conn.encoder fields).2 conn.decoder)
  exact compressed.tail (.write _ (.of_control rfl) nofun)

theorem reprioritizeIf (priority : Option Priority) :
    Calms reasons start (conn.reprioritizeIf id priority) := by
  cases priority with
  | none => exact calms
  | some priority => exact calms.tail (.reprioritize conn id priority)

theorem sayFarewell {reason : Reason} (given : reasons reason) (last : Nat) (debug : Octets) :
    Calms reasons start (conn.sayFarewell last reason debug) := by
  have written : Calms reasons start (conn.write (.goaway last reason.code debug)) := by
    refine calms.tail (.write conn (.of_control rfl) ?_)
    rintro _ ⟨⟩
    exact given
  exact written.tail (.farewell _ _)

theorem dropAll (ids : List Nat) (reason : Reason) (error : Nat → Error) :
    Calms reasons start
      (ids.foldl (fun conn id => conn.dropStream id reason false (error id)) conn) := by
  exact holds_dropAll ids calms fun id calms => calms.tail (.drop _ id (error id) nofun)

theorem settled {signal : Signal} {stream next : Stream}
    (held : conn.registry.get? id = some stream) (moves : stream.advance? signal = some next) :
    Calms reasons start (conn.settled id next) := by
  unfold Connection.settled
  simp only
  split
  · rename_i live
    exact calms.tail (.advance conn held moves live)
  · rename_i closed
    exact calms.tail (.finish conn held moves (by simpa using closed))

theorem advanceAnyway (id : Nat) (signal : Signal) :
    Calms reasons start (conn.advanceAnyway id signal) :=
  holds_advanceAnyway calms calms.settled

end Calms

end Http2.Connection
