import Http2.Connection.Call
import Http2.Proofs.Outcome

/-!
# How calls end

A call of the application passes its guards first and is carried out only then.  `Served connection
call result after` lists the ways in which a call can end: that it is denied, or what it has done,
with all that its guards have let through.  `perform_served` says that the list is complete.
-/

namespace Http2

open Action

/-- The call asks for a stream that would depend on itself, were `next` its identifier. -/
def Call.loopsAt (next : Nat) : Call → Bool
  | createStream _ (some priority) _ => priority.hasValidWeight && priority.dependency == next
  | _ => false

def Call.opens : Call → Bool
  | .createStream .. | .pushPromise .. => true
  | _ => false

theorem Registry.allocate_eq_error_iff {registry : Registry} {error : Error} :
    registry.allocate = .error error ↔ error = .idsExhausted ∧
    maxStreamId < registry.nextLocal := by
  unfold allocate
  split <;> simp_all [eq_comm]

namespace Connection

variable {α β : Type} {conn : Connection} {id : Nat} {goal : Except Error Unit → Connection → Prop}

/-! ## Guards -/

theorem ensureOpen_leads {rest : Unit → Action α} {goal : Except Error α → Connection → Prop}
    (fails : conn.closed → goal (.error .sessionClosed) conn)
    (next : conn.closed = false → (rest ()).Leads conn goal) :
    (ensureOpen >>= rest).Leads conn goal := by
  unfold ensureOpen
  simp only [leads_bind, leads_get, onward_ok, leads_require, Bool.not_eq_true']
  exact ⟨fun going => next going, fun closed => fails (by simpa using closed)⟩

private theorem ensureStaying_leads
    (stays : conn.farewell.received = none → conn.farewell.sent = none → goal (.ok ()) conn)
    (leaves : ∀ last, conn.farewell.received.or conn.farewell.sent = some last →
      goal (.error (.goingAway last)) conn) : ensureStaying.Leads conn goal := by
  unfold ensureStaying
  rw [leads_get_bind]
  split
  · rename_i said
    exact leaves _ said
  · rename_i none
    obtain ⟨received, sent⟩ := Option.or_eq_none_iff.mp none
    exact stays received sent

theorem requireStream_leads {goal : Except Error Stream → Connection → Prop} :
    (requireStream id).Leads conn goal ↔
      (∀ stream, conn.registry.get? id = some stream → goal (.ok stream) conn) ∧
      (conn.registry.get? id = none → goal (.error (.unknownStream id)) conn) := by
  unfold requireStream
  rw [leads_get_bind]
  cases conn.registry.get? id with
  | none => simp
  | some stream => simp

theorem requireSender_leads {operation : Operation}
    (fails : ∀ error, (∀ other, error ≠ .refused other) ∧ error ≠ .idsExhausted →
      goal (.error error) conn)
    (succeeds : ∀ stream, conn.registry.get? id = some stream → stream.phase.canSend →
      stream.endQueued = false → goal (.ok ()) conn) : (requireSender id operation).Leads conn
        goal := by
  unfold requireSender
  rw [leads_bind]
  refine requireStream_leads.mpr ⟨fun stream held => ?_, fun _ => fails _ (by simp)⟩
  simp only [onward_ok, leads_require, Bool.and_eq_true, Bool.not_eq_true']
  exact ⟨fun sends => succeeds stream held sends.1 sends.2, fun _ => fails _ (by simp)⟩

private theorem allocate_leads {goal : Except Error Nat → Connection → Prop} :
    allocate.Leads conn goal ↔
    (∀ error, conn.registry.allocate = .error error → goal (.error error) conn) ∧
      ∀ id registry, conn.registry.allocate = .ok (id, registry) →
        goal (.ok id) { conn with registry } := by
  unfold allocate
  simp only [leads_bind, leads_get, onward_ok, leads_ofExcept]
  cases conn.registry.allocate with
  | error error => simp
  | ok result =>
    obtain ⟨id, registry⟩ := result
    simp [Except.map]

/-! ## Streams that move on -/

/-- A stream has moved on, and is done with if that has closed it. -/
def settled (conn : Connection) (id : Nat) (next : Stream) : Connection :=
  let conn := { conn with registry := conn.registry.insert id next }
  if next.isLive then conn else conn.finishStream id none

theorem advance_leads {signal : Signal} {stream next : Stream}
    (held : conn.registry.get? id = some stream) (moves : stream.advance? signal = some next) :
    (advance id signal).Leads conn goal ↔ goal (.ok ()) (conn.settled id next) := by
  unfold advance settled
  simp only [leads_bind, leads_get, onward_ok, held, moves, leads_set]

theorem exists_sendHeaders {stream : Stream}
    (sends : stream.phase.canSend ∨ stream.phase = .reservedLocal) (endStream : Bool) :
    ∃ next, stream.advance? (.sendHeaders endStream) = some next := by
  unfold Stream.advance?
  cases phase : stream.phase <;> cases endStream <;> simp_all [Phase.canSend, Phase.next?]

/-! ## The ways in which a call can end -/

/-- Nothing stands in the way of the call before it takes an identifier. -/
def Reaches (conn : Connection) : Call → Prop
  | .createStream _ priority _ =>
    conn.closed = false ∧ conn.farewell.received.or conn.farewell.sent = none ∧
      priority.all Priority.hasValidWeight = true
  | .pushPromise id _ =>
    conn.closed = false ∧ conn.role = .server ∧ conn.exchange.peer.enablePush ∧
        conn.farewell.received.or conn.farewell.sent = none ∧
        (conn.phase? id).any Phase.canSend = true
  | _ => False

inductive Served (conn : Connection) : Call → Except Error (Option Nat) → Connection → Prop
  | denied {call : Call} {error : Error} (plain : ∀ id, error ≠ .refused id)
      (straight : call.loopsAt conn.registry.nextLocal = false ∨
        error ≠ .invalidPriority conn.registry.nextLocal)
      (spent : error = .idsExhausted ↔ conn.Reaches call ∧ maxStreamId < conn.registry.nextLocal) :
      Served conn call (.error error) conn
  -- new streams
  | looped {fields : List Field} {priority : Option Priority} {endStream : Bool} {id : Nat}
      {registry : Registry} (allocated : conn.registry.allocate = .ok (id, registry))
      (loops : (Call.createStream fields priority endStream).loopsAt id = true)
      (staying : conn.farewell.received = none) (going : conn.closed = false) :
      Served conn (.createStream fields priority endStream) (.error (.invalidPriority id))
        { conn with registry }
  | crowded {fields : List Field} {priority : Option Priority} {endStream : Bool} {id : Nat}
      {registry : Registry} (allocated : conn.registry.allocate = .ok (id, registry))
      (full : { conn with registry }.isFull = true) (staying : conn.farewell.received = none)
      (going : conn.closed = false) :
      Served conn (.createStream fields priority endStream) (.error (.refused id))
        ({ conn with registry }.refuseOwn id)
  | opened {fields : List Field} {priority : Option Priority} {endStream : Bool} {id : Nat}
      {registry : Registry} {stream : Stream}
      (staying : conn.farewell.received = none ∧ conn.farewell.sent = none)
      (allocated : conn.registry.allocate = .ok (id, registry))
      (heavy : ∀ place, priority = some place → place.hasValidWeight)
      (apart : ∀ place, priority = some place → place.dependency ≠ id)
      (room : { conn with registry }.isFull = false)
      (begun : ({} : Stream).advance? (.sendHeaders endStream) = some stream)
      (going : conn.closed = false) :
      Served conn (.createStream fields priority endStream) (.ok (some id))
        ((({ conn with registry }.addStream id { stream with finalSent := true }).reprioritizeIf
          id priority).writeHeaders id fields priority endStream)
  | promised {id promised : Nat} {fields : List Field} {registry : Registry} {stream : Stream}
      (server : conn.role = .server) (pushes : conn.exchange.peer.enablePush)
      (staying : conn.farewell.received = none ∧ conn.farewell.sent = none)
      (held : conn.registry.get? id = some stream) (sends : stream.phase.canSend)
      (allocated : conn.registry.allocate = .ok (promised, registry))
      (going : conn.closed = false) :
      Served conn (.pushPromise id fields) (.ok (some promised))
        ((({ conn with registry }.addPromised promised id
          { phase := .reservedLocal }).compress fields).2.write
            (.pushPromise id promised (({ conn with registry }.addPromised promised id
              { phase := .reservedLocal }).compress fields).1))
  -- sending on a stream
  | queued {id : Nat} {octets : Octets} {endStream : Bool} {stream : Stream}
      (held : conn.registry.get? id = some stream) (sends : stream.phase.canSend)
      (lasts : stream.endQueued = false) (going : conn.closed = false) :
      Served conn (.sendData id octets endStream) (.ok none)
        ((conn.modifyStream id (·.enqueue octets endStream)).flush id)
  | trailed {id : Nat} {fields : List Field} {stream : Stream}
      (held : conn.registry.get? id = some stream) (sends : stream.phase.canSend)
      (lasts : stream.endQueued = false) (going : conn.closed = false) :
      Served conn (.sendTrailers id fields) (.ok none)
        ((conn.modifyStream id (·.enqueueTrailers fields)).flush id)
  | dropped {id : Nat} {reason : Reason} {stream : Stream}
      (held : conn.registry.get? id = some stream) (going : conn.closed = false) :
      Served conn (.reset id reason) (.ok none) (conn.resetStream id reason true)
  | placed {id : Nat} {priority : Priority} {stream : Stream}
      (held : conn.registry.get? id = some stream) (live : stream.isLive)
      (apart : priority.dependency ≠ id) (heavy : priority.hasValidWeight)
      (going : conn.closed = false) :
      Served conn (.updatePriority id priority) (.ok none)
        ((conn.reprioritize id priority).write (.priority id priority))
  | overfull {id : Nat} {fields : List Field} {stream : Stream}
      (held : conn.registry.get? id = some stream) (reserved : stream.phase = .reservedLocal)
      (full : conn.isFull) (going : conn.closed = false) :
      Served conn (.respond id fields false) (.error (.refused id))
        (conn.resetStream id .refusedStream true)
  | responded {id : Nat} {fields : List Field} {endStream : Bool} {stream next : Stream}
      (held : conn.registry.get? id = some stream)
      (sends : stream.phase.canSend ∨ stream.phase = .reservedLocal)
      (early : stream.finalSent = false) (final : isInformational fields = false)
      (room : stream.phase = .reservedLocal → endStream = false → conn.isFull = false)
      (moves : { stream with finalSent := true }.advance? (.sendHeaders endStream) = some next)
      (going : conn.closed = false) :
      Served conn (.respond id fields endStream) (.ok none)
        (((conn.modifyStream id fun stream => { stream with finalSent := true }).writeHeaders
          id fields none endStream).settled id next)
  | informed {id : Nat} {fields : List Field} {stream : Stream}
      (held : conn.registry.get? id = some stream) (sends : stream.phase.canSend)
      (early : stream.finalSent = false) (informational : isInformational fields)
      (going : conn.closed = false) :
      Served conn (.inform id fields) (.ok none) (conn.writeHeaders id fields none false)
  -- the connection
  | announced {changes : List (Setting × Nat)} {now : Nat} {result : Except Error (Option Nat)}
      {after : Connection}
      (ends : (announce changes now).Leads conn fun result' after' =>
        result'.map (fun _ => none) = result ∧ after' = after) (going : conn.closed = false) :
      Served conn (.sendSettings changes now) result after
  | parted {last : Nat} {reason : Reason} {debug : Octets} (going : conn.closed = false) :
      Served conn (.sendGoaway last reason debug) (.ok none) (conn.dropAbove last reason debug)
  | pinged {payload : UInt64} (going : conn.closed = false) :
      Served conn (.sendPing payload) (.ok none) (conn.write (.ping false payload))
  | offered {id : Nat} {origin value : Octets} (server : conn.role = .server)
      (known : id = 0 ∨ ∃ stream, conn.registry.get? id = some stream)
      (going : conn.closed = false) :
      Served conn (.sendAltSvc id origin value) (.ok none) (conn.write (.altSvc id origin value))
  | named {origins : List Octets} (server : conn.role = .server) (going : conn.closed = false) :
      Served conn (.sendOrigin origins) (.ok none) (conn.write (.origin origins))
  | skipped {id : Nat} {registry : Registry} (skips : conn.registry.skipTo id = .ok registry) :
      Served conn (.skipTo id) (.ok none) { conn with registry }
  | grown {size : Nat} {crossed : Bool} {windows : Windows} (fits : size ≤ maxWindow)
      (larger : conn.receiveTarget < size)
      (credited : conn.receiveWindows.credit 0 (size - conn.receiveTarget) =
        .ok crossed windows) (going : conn.closed = false) :
      Served conn (.resizeWindow size) (.ok none)
        ({ conn with receiveWindows := windows, receiveTarget := size }.write
          (.windowUpdate 0 (size - conn.receiveTarget)))
  | lowered {size : Nat} (fits : size ≤ maxWindow) (lower : size ≤ conn.receiveTarget)
      (going : conn.closed = false) :
      Served conn (.resizeWindow size) (.ok none) { conn with receiveTarget := size }

namespace Served

variable {call : Call} {error : Error}

theorem stopped (short : ¬ conn.Reaches call)
    (plain : (∀ id, error ≠ .refused id) ∧ error ≠ .idsExhausted)
    (straight : call.loopsAt conn.registry.nextLocal = false ∨
      error ≠ .invalidPriority conn.registry.nextLocal) :
    Served conn call (.error error) conn :=
  .denied plain.1 straight (by simp [short, plain.2])

theorem barred (other : call.opens = false)
    (plain : (∀ id, error ≠ .refused id) ∧ error ≠ .idsExhausted) :
    Served conn call (.error error) conn := by
  refine stopped ?_ plain (.inl ?_)
  · cases call <;> first | exact id | cases other
  · cases call <;> first | rfl | cases other

theorem createStream (conn : Connection) (fields : List Field) (priority : Option Priority)
    (endStream : Bool) :
    (Connection.createStream fields priority endStream).Leads conn fun result after =>
      Served conn (.createStream fields priority endStream) (result.map some) after := by
  refine ensureOpen_leads (fun closed => .stopped ?_ (by simp) (.inr (by simp))) fun going => ?_
  · exact fun reaches => by cases closed.symm.trans reaches.1
  rw [leads_bind]
  refine ensureStaying_leads (fun received sent => ?_) fun _ said =>
    .stopped ?_ (by simp) (.inr (by simp))
  · simp only [onward_ok, leads_bind, leads_get, leads_require]
    refine ⟨fun heavy => ?_, fun light => .stopped ?_ (by simp) (.inl ?_)⟩
    · refine allocate_leads.mpr ⟨fun error failed => ?_, fun id registry allocated => ?_⟩
      · obtain ⟨rfl, beyond⟩ := Registry.allocate_eq_error_iff.mp failed
        exact .denied (by simp) (.inr (by simp))
          (by simp [Reaches, going, received, sent, heavy, beyond])
      · rw [onward_ok, leads_bind, leads_require]
        refine ⟨fun apart => ?_, fun loops => .looped allocated ?_ received going⟩
        · obtain ⟨stream, begun⟩ : ∃ stream, ({} : Stream).advance? (.sendHeaders endStream) =
            some stream :=
            by cases endStream <;> exact ⟨_, rfl⟩
          unfold openLocal
          simp only [onward_ok, leads_bind, leads_get, leads_ite, leads_set,
            leads_throw, begun]
          refine ⟨fun full => .crowded allocated full received going, fun room => ?_⟩
          refine .opened ⟨received, sent⟩ allocated ?_ ?_ (by simpa using room) begun going
          · rintro place rfl
            simpa using heavy
          · rintro place rfl
            simpa using apart
        · cases priority with
          | none => cases loops
          | some priority => simp_all [Call.loopsAt]
    · exact fun reaches => by cases light.symm.trans reaches.2.2
    · cases priority with
      | none => rfl
      | some priority => simp_all [Call.loopsAt]
  · exact fun reaches => by cases said.symm.trans reaches.2.1

theorem pushPromise (conn : Connection) (id : Nat) (fields : List Field) :
    (Connection.pushPromise id fields).Leads conn fun result after =>
      Served conn (.pushPromise id fields) (result.map some) after := by
  have stopped : ∀ {error : Error}, ¬ conn.Reaches (.pushPromise id fields) →
      (∀ id, error ≠ .refused id) ∧ error ≠ .idsExhausted →
      Served conn (.pushPromise id fields) (.error error) conn :=
      fun short plain => .stopped short plain (.inl rfl)
  refine ensureOpen_leads (fun closed => stopped (by simp [Reaches, closed]) (by simp)) fun going =>
    ?_
  simp only [leads_bind, leads_get, onward_ok, leads_require,
    decide_eq_true_eq, decide_eq_false_iff_not, onward_error]
  refine ⟨fun server => ⟨fun pushes => ?_, fun none => stopped (by simp [Reaches, none]) (by simp)⟩,
    fun client => stopped (by simp [Reaches, client]) (by simp)⟩
  refine ensureStaying_leads (fun received sent => ?_) fun _ said =>
    stopped (by simp [Reaches, said]) (by simp)
  unfold requirePushable phase? Registry.phase?
  simp only [onward_ok, leads_bind, leads_get]
  cases held : conn.registry.get? id with
  | none => exact stopped (by simp [Reaches, phase?, Registry.phase?, held]) (by simp)
  | some stream =>
    simp only [Option.map_some, leads_require, onward_error]
    refine ⟨fun sends => ?_, fun shut => stopped ?_ (by simp)⟩
    · rw [onward_ok, leads_bind]
      refine allocate_leads.mpr ⟨fun error failed => ?_, fun promised registry allocated => ?_⟩
      · obtain ⟨rfl, beyond⟩ := Registry.allocate_eq_error_iff.mp failed
        refine .denied (by simp) (.inl rfl) ?_
        simp [Reaches, phase?, Registry.phase?, going, server, pushes, received, sent,
          held, sends, beyond]
      · exact .promised server pushes ⟨received, sent⟩ held sends allocated going
    · simp [Reaches, phase?, Registry.phase?, held, shut]

theorem respond (conn : Connection) (id : Nat) (fields : List Field) (endStream : Bool) :
    (Connection.respond id fields endStream).Leads conn fun result after =>
      Served conn (.respond id fields endStream) (result.map fun _ => none) after := by
  refine ensureOpen_leads (fun _ => .barred rfl (by simp)) fun going => ?_
  rw [leads_bind]
  refine requireStream_leads.mpr ⟨fun stream held => ?_, fun _ => .barred rfl (by simp)⟩
  rw [onward_ok, leads_bind, leads_require]
  refine ⟨fun fits => ?_, fun _ => .barred rfl (by simp)⟩
  simp only [Bool.and_eq_true, Bool.or_eq_true, beq_iff_eq, Bool.not_eq_true'] at fits
  obtain ⟨⟨sends, early⟩, final⟩ := fits
  obtain ⟨next, moves⟩ : ∃ next, { stream with finalSent := true }.advance?
      (.sendHeaders endStream) = some next := exists_sendHeaders (by exact sends) endStream
  have holds : ((conn.modifyStream id fun stream => { stream with finalSent := true }).writeHeaders
      id fields none endStream).registry.get? id = some { stream with finalSent := true } := by
    show (conn.registry.modify id _).get? id = _
    rw [Registry.get?, Registry.modify, IdMap.get?_modify, if_pos rfl, ← Registry.get?, held]
    rfl
  have sent : (stream.phase = .reservedLocal → endStream = false → conn.isFull = false) →
      (advance id (.sendHeaders endStream)).Leads
        ((conn.modifyStream id fun stream => { stream with finalSent := true }).writeHeaders
          id fields none endStream) fun result after =>
        Served conn (.respond id fields endStream) (result.map fun _ => none) after := fun room =>
    (advance_leads holds moves).mpr (.responded held sends early final room moves going)
  unfold ensureRoom
  simp only [onward_ok, leads_bind, leads_onlyIf, leads_get, leads_ite,
    leads_set, leads_throw, leads_pure, leads_modify, Bool.and_eq_true, beq_iff_eq,
    Bool.not_eq_true', Bool.and_eq_false_iff]
  refine ⟨fun promised => ⟨fun full => ?_, fun room => sent fun _ _ => by simpa using room⟩,
    fun other => ?_⟩
  · obtain ⟨reserved, rfl⟩ := promised
    exact .overfull held reserved full going
  · refine sent fun reserved lasts => ?_
    simp [reserved, lasts] at other

end Served

theorem leads_silently {action : Action Unit}
    {goal : Except Error (Option Nat) → Connection → Prop} :
    (silently action).Leads conn goal ↔
    action.Leads conn fun result => goal (result.map fun _ => none) := by
  have same : Onward (fun _ : Unit => pure none) goal =
      fun result => goal (result.map fun _ => none) := by
    funext result after
    cases result <;> rfl
  rw [silently, leads_bind, same]

theorem silently_leads {action : Action Unit} {goal : Connection → Prop}
    (leads : action.Leads conn fun _ after => goal after) :
    (silently action).Leads conn fun _ after => goal after := leads_silently.mpr leads

theorem Served.silent {call : Call} {rest : Unit → Action Unit} (other : call.opens = false)
    (next : conn.closed = false → (rest ()).Leads conn fun result after =>
      Served conn call (result.map fun _ => none) after) :
    (silently (ensureOpen >>= rest)).Leads conn (Served conn call) :=
  leads_silently.mpr (ensureOpen_leads (fun _ => .barred other (by simp)) next)

theorem perform_served (conn : Connection) (call : Call) :
    (perform call).Leads conn (Served conn call) := by
  cases call with
  | createStream fields priority endStream =>
    rw [perform, leads_map]
    exact Served.createStream conn fields priority endStream
  | sendData id octets endStream =>
    refine Served.silent rfl fun going => ?_
    rw [leads_bind]
    exact requireSender_leads (fun error plain => .barred rfl plain) fun stream held sends lasts =>
      .queued held sends lasts going
  | sendTrailers id fields =>
    refine Served.silent rfl fun going => ?_
    rw [leads_bind]
    exact requireSender_leads (fun error plain => .barred rfl plain) fun stream held sends lasts =>
      .trailed held sends lasts going
  | reset id reason =>
    refine Served.silent rfl fun going => ?_
    rw [leads_bind]
    exact requireStream_leads.mpr ⟨fun stream held => .dropped held going,
      fun _ => .barred rfl (by simp)⟩
  | updatePriority id priority =>
    refine Served.silent rfl fun going => ?_
    rw [leads_bind]
    refine requireStream_leads.mpr ⟨fun stream held => ?_, fun _ => .barred rfl (by simp)⟩
    simp only [onward_ok, leads_bind, leads_require, leads_modify,
      onward_error, Bool.and_eq_true, decide_eq_true_eq]
    exact ⟨fun live => ⟨fun sane => .placed held live sane.1 sane.2 going,
      fun _ => .barred rfl (by simp)⟩, fun _ => .barred rfl (by simp)⟩
  | respond id fields endStream =>
    exact leads_silently.mpr (Served.respond conn id fields endStream)
  | inform id fields =>
    refine Served.silent rfl fun going => ?_
    rw [leads_bind]
    refine requireStream_leads.mpr ⟨fun stream held => ?_, fun _ => .barred rfl (by simp)⟩
    simp only [onward_ok, leads_bind, leads_require, leads_modify,
      onward_error, Bool.and_eq_true, Bool.not_eq_true']
    exact ⟨fun fits => .informed held fits.1.1 fits.1.2 fits.2 going,
      fun _ => .barred rfl (by simp)⟩
  | pushPromise id fields =>
    rw [perform, leads_map]
    exact Served.pushPromise conn id fields
  | sendSettings changes now =>
    refine leads_silently.mpr ?_
    unfold sendSettings ensureOpen
    simp only [leads_bind, leads_get, onward_ok, leads_require,
      Bool.not_eq_true', onward_error]
    refine ⟨fun going => ?_, fun _ => .barred rfl (by simp)⟩
    unfold Leads
    split <;> rename_i ran
    · exact .announced (by simp [Leads, ran]) going
    · exact .announced (by simp [Leads, ran]) going
  | sendGoaway last reason debug =>
    exact Served.silent rfl .parted
  | sendPing payload =>
    exact Served.silent rfl .pinged
  | sendAltSvc id origin value =>
    refine Served.silent rfl fun going => ?_
    simp only [leads_bind, leads_get, onward_ok, leads_require,
      leads_modify, onward_error, decide_eq_true_eq, Bool.or_eq_true, beq_iff_eq,
      Option.isSome_iff_exists]
    exact ⟨fun server => ⟨fun _ => ⟨fun known => .offered server known going,
      fun _ => .barred rfl (by simp)⟩, fun _ => .barred rfl (by simp)⟩,
      fun _ => .barred rfl (by simp)⟩
  | sendOrigin origins =>
    refine Served.silent rfl fun going => ?_
    simp only [leads_bind, leads_get, onward_ok, leads_require,
      leads_modify, onward_error, decide_eq_true_eq]
    exact ⟨fun server => .named server going, fun _ => .barred rfl (by simp)⟩
  | skipTo id =>
    refine leads_silently.mpr ?_
    unfold skipTo
    simp only [leads_bind, leads_get, onward_ok, leads_ofExcept]
    cases skips : conn.registry.skipTo id with
    | error error =>
      unfold Registry.skipTo at skips
      split at skips <;> cases skips
      exact .barred rfl (by simp)
    | ok registry => exact .skipped skips
  | resizeWindow size =>
    refine Served.silent rfl fun going => ?_
    unfold grow
    simp only [leads_bind, leads_require, leads_get, onward_ok,
      leads_onlyIf, leads_modify, onward_error, decide_eq_true_eq]
    refine ⟨fun fits => ⟨fun larger => ?_, fun lower => ?_⟩, fun _ => .barred rfl (by simp)⟩
    · split
      · exact .barred rfl (by simp)
      · rename_i credited
        exact .grown fits larger credited going
    · exact .lowered fits (Nat.not_lt.mp (of_decide_eq_false lower)) going

end Connection

end Http2
