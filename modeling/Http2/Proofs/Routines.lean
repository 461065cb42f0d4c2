import Http2.Proofs.Dealt

/-!
# What routines keep

A connection moves streams on, gives them up, serves those that wait and answers faults in many
places.  Each of these routines is made of a few changes, and a property that the changes keep is
kept by the routine, whatever the property is.
-/

namespace Http2

def Error.faulty? : Error → Option Nat
  | stream id _ | refused id => some id
  | _ => none

theorem Error.faulty?_of_isFatal {error : Error} (fatal : error.isFatal) :
    error.faulty? = none := by
  cases error <;> first | rfl | cases fatal

namespace Connection

variable {holds : Connection → Prop} {conn : Connection} {id : Nat}

theorem holds_settled {next : Stream}
    (moved : holds { conn with registry := conn.registry.insert id next })
    (closed : next.isLive = false →
      holds ({ conn with registry := conn.registry.insert id next }.finishStream id none)) :
    holds (conn.settled id next) := by
  unfold settled
  simp only
  split
  · exact moved
  · rename_i dead
    exact closed (by simpa using dead)

theorem holds_advanceAnyway {signal : Signal} (ready : holds conn)
    (moved : ∀ {stream next}, conn.registry.get? id = some stream →
      stream.advance? signal = some next →
      holds (conn.settled id next)) : holds (conn.advanceAnyway id signal) := by
  have leads : (advance id signal).Leads conn fun _ after => holds after := by
    unfold advance
    rw [Action.leads_bind, Action.leads_get, Action.onward_ok]
    split
    · exact ready
    · rename_i stream held
      split
      · exact ready
      · exact moved held (by assumption)
  unfold advanceAnyway
  split <;> rename_i ran
  · exact leads.of_ok ran
  · exact leads.of_error ran

theorem holds_dropAll {reason : Reason} {error : Nat → Error} (ids : List Nat) (ready : holds conn)
    (drop : ∀ {conn} id, holds conn → holds (conn.dropStream id reason false (error id))) :
    holds (ids.foldl (fun conn id => conn.dropStream id reason false (error id)) conn) := by
  induction ids generalizing conn with
  | nil => exact ready
  | cons id rest ih => exact ih (drop id ready)

variable (conn)

theorem dropStream_eq (id : Nat) (reason : Reason) (announced : Bool) (error : Error) :
    conn.dropStream id reason announced error = conn ∨ ∃ stream outbound events,
      conn.registry.get? id = some stream ∧ stream.isLive ∧
      conn.dropStream id reason announced error =
        { conn with
          registry := conn.registry.insert id (stream.reset reason), outbound,
          events }.finishStream id (some reason) := by
  unfold dropStream
  split
  · exact .inl rfl
  · rename_i stream held
    split
    · rename_i live
      cases announced <;> cases stream.hasOutbound <;> exact .inr ⟨stream, _, _, held, live, rfl⟩
    · exact .inl rfl

/-- Nothing is written, and nothing is changed that is not a stream's own. -/
structure Silent (before after : Connection) : Prop where
  outbound : after.outbound = before.outbound
  exchange : after.exchange = before.exchange
  lastRemote : after.registry.lastRemote = before.registry.lastRemote

theorem dropStream_silent (id : Nat) (reason : Reason) (error : Error) :
    conn.Silent (conn.dropStream id reason false error) := by
  unfold dropStream
  split
  · exact ⟨rfl, rfl, rfl⟩
  · rename_i stream _
    split
    · cases stream.hasOutbound <;> exact ⟨rfl, rfl, rfl⟩
    · exact ⟨rfl, rfl, rfl⟩

private theorem dropAll_silent (ids : List Nat) (reason : Reason) (error : Nat → Error) :
    conn.Silent (ids.foldl (fun conn id => conn.dropStream id reason false (error id)) conn) := by
  refine holds_dropAll ids ⟨rfl, rfl, rfl⟩ fun {middle} id silent => ?_
  have dropped := dropStream_silent middle id reason (error id)
  exact ⟨dropped.outbound.trans silent.outbound, dropped.exchange.trans silent.exchange,
    dropped.lastRemote.trans silent.lastRemote⟩

theorem teardown_silent (reason : Reason) : conn.Silent (conn.teardown reason) :=
  have silent := dropAll_silent conn conn.registry.liveIds reason fun _ => .sessionClosed
  ⟨silent.outbound, silent.exchange, silent.lastRemote⟩

variable {conn}

theorem holds_absorb {error : Error} (ready : holds conn)
    (reset : ∀ {id}, error.faulty? = some id → holds (conn.resetStream id error.reason true))
    (tell : ∀ {id}, error.faulty? = some id →
      holds (conn.write (.rstStream id error.reason.code))) :
    holds (conn.absorb error) := by
  have answer : ∀ {id}, error.faulty? = some id → holds (conn.resetFaulty id error.reason) := by
    intro id faulty
    unfold resetFaulty
    split
    · split
      · exact reset faulty
      · exact tell faulty
    · split
      · exact ready
      · exact tell faulty
  cases error with
  | stream | refused => exact answer rfl
  | _ => exact ready

/-! ## Sending -/

theorem holds_sendQueue (id limit : Nat) (closing : Bool) (queue : Buffer) (ready : holds conn)
    (send : ∀ {after windows octets endStream}, holds after → after.registry = conn.registry →
      after.exchange = conn.exchange → after.sendWindows.charge id octets.length = .ok windows →
      octets.length ≤ limit →
      holds ({ after with sendWindows := windows }.write (.data id octets endStream none))) :
    holds (sendQueue id limit closing queue conn).2 := by
  fun_induction sendQueue id limit closing queue conn with
  | case1 => exact ready
  | case2 => exact ready
  | case3 => exact ready
  | case4 conn piece rest length count spent windows charged left ih =>
    have taken : (piece.take count).length = count := by
      rw [List.length_take]
      omega
    rw [← taken] at charged
    exact ih (send ready rfl rfl charged (by omega)) fun ready same exchange =>
      send ready same exchange

theorem registry_sendQueue (id limit : Nat) (closing : Bool) (queue : Buffer) (conn : Connection) :
    (sendQueue id limit closing queue conn).2.registry = conn.registry :=
  @holds_sendQueue (fun after => after.registry = conn.registry) conn id limit closing queue rfl
    fun same _ _ _ _ => same

/-- What it takes for a property to be kept while a stream is flushed.  The data goes out first,
then what is left of it is put back, and then the stream waits, or sends its trailers or its end. -/
structure Flushing (holds : Connection → Prop) (id : Nat) (stream : Stream) : Prop where
  send {conn : Connection} {windows : Windows} {octets : Octets} {endStream : Bool} : holds conn →
    conn.registry.get? id = some stream → conn.sendWindows.charge id octets.length = .ok windows →
    octets.length ≤ conn.exchange.peer.maxFrameSize →
    holds ({ conn with sendWindows := windows }.write (.data id octets endStream none))
  cut {conn : Connection} (left : Buffer) : holds conn →
    holds (conn.modifyStream id fun stream => { stream with queue := left })
  wait {conn : Connection} : holds conn →
    holds { conn with sendWindows := conn.sendWindows.park id }
  trail {conn : Connection} {left : Buffer} {fields : List Field} : holds conn →
    conn.registry.get? id = some { stream with queue := left } → stream.trailers = some fields →
    holds (((conn.modifyStream id Stream.endSent).writeHeaders id fields none true).advanceAnyway id
      (.sendHeaders true))
  close {conn : Connection} {left : Buffer} : holds conn →
    conn.registry.get? id = some { stream with queue := left } →
    holds ((conn.modifyStream id Stream.endSent).advanceAnyway id .sendEnd) ∧
      holds (((conn.modifyStream id Stream.endSent).write (.data id [] true none)).advanceAnyway id
        .sendEnd)

theorem holds_flush (id : Nat) (ready : holds conn)
    (flushing : ∀ {stream}, conn.registry.get? id = some stream → stream.phase.canSend →
      Flushing holds id stream) : holds (conn.flush id) := by
  unfold flush
  split
  · exact ready
  · rename_i stream held
    split
    · rename_i sends
      have flushing := flushing held sends
      simp only
      have spent : holds _ := holds_sendQueue id conn.exchange.peer.maxFrameSize
        (stream.endQueued && stream.trailers.isNone) stream.queue ready
        fun ready same exchange charged short =>
          flushing.send ready (same ▸ held) charged (exchange ▸ short)
      have same := registry_sendQueue id conn.exchange.peer.maxFrameSize
        (stream.endQueued && stream.trailers.isNone) stream.queue conn
      generalize sendQueue id conn.exchange.peer.maxFrameSize
        (stream.endQueued && stream.trailers.isNone) stream.queue conn = sent at spent same ⊢
      obtain ⟨left, middle⟩ := sent
      have cut := flushing.cut left spent
      have held : middle.registry.get? id = some stream := same ▸ held
      have holding := get?_modifyStream (f := fun stream => { stream with queue := left }) held
      simp only [finishFlush]
      split
      · split
        · exact flushing.trail cut holding (by assumption)
        · split
          · split
            · exact (flushing.close cut holding).2
            · exact (flushing.close cut holding).1
          · exact cut
      · exact flushing.wait cut
    · exact ready

theorem holds_resume (ready : holds conn)
    (serve : ∀ {conn id windows}, holds conn → conn.sendWindows.popParked? = some (id, windows) →
      holds ({ conn with sendWindows := windows }.flush id)) : holds conn.resume := by
  have first : ∀ (count : Nat) {conn : Connection}, holds conn →
      holds (resumeFirst count conn) := by
    intro count
    induction count with
    | zero => exact fun ready => ready
    | succ count ih =>
      intro conn ready
      unfold resumeFirst
      split
      · exact ready
      · split
        · exact ready
        · exact ih (serve ready (by assumption))
  exact first _ ready

theorem holds_resumeIf {condition : Bool} (ready : holds conn)
    (serve : ∀ {conn id windows}, holds conn → conn.sendWindows.popParked? = some (id, windows) →
      holds ({ conn with sendWindows := windows }.flush id)) : holds (resumeIf condition conn) := by
  cases condition with
  | false => exact ready
  | true => exact holds_resume ready serve

end Connection

end Http2
