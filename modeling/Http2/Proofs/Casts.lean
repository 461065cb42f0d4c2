import Http2.Proofs.Range
import Http2.Proofs.RoundTrip

/-!
# Window arithmetic in 32 bits

Windows are computed in wide numbers and kept in 32 bits.  `Casts` says what becomes of a computed
number when it is kept, and every function that computes a window has a version here, with `By`
added to its name, that keeps each number by the given casts, step for step.  The main statement is
that a session which keeps numbers in this way does what a session with exact numbers does, provided
only that the casts are exact on the numbers of 31 bits and a sign: nothing else is ever cast, so
nothing depends on how numbers wrap.
-/

namespace Http2

open Connection Action Windows

structure Casts where
  window : Int → Int
  increment : Int → Nat

namespace Casts

def wrapping : Casts := ⟨wrap32, fun value => (value % 4294967296).toNat⟩

def unbounded : Casts := ⟨id, Int.toNat⟩

structure Exact (casts : Casts) : Prop where
  window : ∀ value : Int, -maxWindow ≤ value → value ≤ maxWindow → casts.window value = value
  increment : ∀ value : Int, 0 < value → value ≤ maxWindow → casts.increment value = value.toNat

theorem Exact.less {casts : Casts} (exactly : casts.Exact) {window : Int} {count : Nat}
    (covered : count ≤ window) (high : window ≤ maxWindow) :
    casts.window (window - casts.window count) = window - count := by
  have taken : casts.window count = count := exactly.window count (by omega) (by omega)
  rw [taken]
  exact exactly.window _ (by omega) (by omega)

theorem wrapping_exact : wrapping.Exact := by
  constructor
  · intro value low high
    have bound : (maxWindow : Int) = 2147483647 := rfl
    exact wrap32_eq (by omega) (by omega)
  · intro value low high
    have bound : (maxWindow : Int) = 2147483647 := rfl
    have small : value % 4294967296 = value := Int.emod_eq_of_lt (by omega) (by omega)
    exact congrArg Int.toNat small

theorem unbounded_exact : unbounded.Exact := ⟨fun _ _ _ => rfl, fun _ _ _ => rfl⟩

end Casts

variable {casts : Casts}

/-! ## Windows -/

namespace Windows

section Definitions

variable (casts : Casts) (windows : Windows)

def chargeConnectionBy (count : Nat) : Except WindowError Windows :=
  if windows.connection < count then .error (.exhausted 0 count windows.connection)
  else
    .ok { windows with connection := casts.window (windows.connection - casts.window count) }

def chargeStreamBy (id count : Nat) : Except WindowError Windows :=
  match windows.stream? id with
  | none => .error (.exhausted id count 0)
  | some window =>
    if window < count then .error (.exhausted id count window)
    else
      .ok { windows with
        streams := windows.streams.insert id (casts.window (window - casts.window count)) }

def chargeBy (id count : Nat) : Except WindowError Windows :=
  let window := (windows.stream? id).getD 0
  if windows.connection < count then .error (.exhausted 0 count windows.connection)
  else if window < count then .error (.exhausted id count window)
  else
    .ok { windows with
      connection := casts.window (windows.connection - casts.window count)
      streams := windows.streams.modify id fun window =>
        casts.window (window - casts.window count) }

def creditBy (id count : Nat) : EStateM.Result WindowError Windows Bool :=
  match windows.window? id with
  | none => .ok false windows
  | some window =>
    let updated := window + count
    if (maxWindow : Int) < updated then .error (.overflow id) windows
    else .ok (window ≤ 0 ∧ 0 < updated) (windows.setWindow id (casts.window updated))

def shiftBy (delta : Int) : Except WindowError (List Nat × Windows) :=
  match windows.streams.keysWhere fun _ window => (maxWindow : Int) < window + delta with
  | id :: _ => .error (.overflow id)
  | [] =>
    .ok (windows.streams.keysWhere fun _ window => window ≤ 0 ∧ 0 < window + delta,
      { windows with
        streams := windows.streams.mapWithKey fun _ window => casts.window (window + delta)
        initial := casts.window (max 0 (min (windows.initial + delta) maxWindow)) })

def refillBy (id target : Nat) : Option (Nat × Windows) :=
  let target := min target maxWindow
  match windows.window? id with
  | none => none
  | some window =>
    if (target : Int) < window * 2 then none
    else if (target : Int) ≤ window then none
    else
      some (casts.increment (target - window), windows.setWindow id (casts.window target))

end Definitions

variable {windows : Windows} {id count target : Nat} (exactly : casts.Exact) (sound : windows.Sound)

include exactly sound

private theorem chargeConnectionBy_eq (count : Nat) :
    windows.chargeConnectionBy casts count = windows.chargeConnection count := by
  unfold chargeConnectionBy chargeConnection
  split
  · rfl
  · rw [exactly.less (by omega) sound.connection_high]

private theorem chargeStreamBy_eq (id count : Nat) :
    windows.chargeStreamBy casts id count = windows.chargeStream id count := by
  unfold chargeStreamBy chargeStream
  cases held : windows.stream? id with
  | none => rfl
  | some window =>
    simp only
    split
    · rfl
    · rw [exactly.less (by omega) (sound.stream_high id window held)]

private theorem chargeBy_eq (id count : Nat) :
    windows.chargeBy casts id count = windows.charge id count := by
  unfold chargeBy charge
  simp only
  split
  · rfl
  · split
    · rfl
    · rename_i affordable covered
      have streams : (windows.streams.modify id fun window =>
            casts.window (window - casts.window count)) =
          windows.streams.modify id (· - (count : Int)) := by
        apply IdMap.ext
        intro other
        rw [IdMap.get?_modify, IdMap.get?_modify]
        split
        · rename_i same
          subst same
          cases held : windows.streams.get? other with
          | none => rfl
          | some window =>
            rw [stream?, held, Option.getD_some] at covered
            have high := sound.stream_high other window held
            rw [Option.map_some, Option.map_some, exactly.less (by omega) high]
        · rfl
      rw [exactly.less (by omega) sound.connection_high, streams]

private theorem creditBy_eq (id count : Nat) :
    windows.creditBy casts id count = windows.credit id count := by
  unfold creditBy credit
  cases held : windows.window? id with
  | none => rfl
  | some window =>
    have low : -(maxWindow : Int) ≤ window := by
      unfold window? at held
      split at held
      · cases held
        have := sound.connection_low
        omega
      · have := sound.stream_low id window held
        have := sound.initial_low
        omega
    simp only
    split
    · rfl
    · rw [exactly.window _ (by omega) (by omega)]

/-- Windows are never further below the initial one than `maxWindow`, so they stay in range wherever
the initial one goes. -/
theorem shiftBy_eq {delta : Int} (bound : target ≤ maxWindow)
    (aims : delta = target - windows.initial) :
    windows.shiftBy casts delta = windows.shift delta := by
  unfold shiftBy shift
  cases large : windows.streams.keysWhere fun _ window =>
    decide ((maxWindow : Int) < window + delta) with
  | cons id rest => rfl
  | nil =>
    have streams : (windows.streams.mapWithKey fun _ window => casts.window (window + delta)) =
        windows.streams.mapWithKey fun _ window => wrap32 (window + delta) := by
      apply IdMap.ext
      intro id
      rw [IdMap.get?_mapWithKey, IdMap.get?_mapWithKey]
      cases held : windows.streams.get? id with
      | none => rfl
      | some window =>
        have absent := List.not_mem_nil (a := id)
        rw [← large, IdMap.mem_keysWhere] at absent
        simp only [decide_eq_true_eq, not_exists, not_and, Int.not_lt] at absent
        have high := absent window held
        have low := sound.stream_low id window held
        have largest : (maxWindow : Int) = 2147483647 := rfl
        rw [Option.map_some, Option.map_some, exactly.window _ (by omega) high,
          wrap32_eq (by omega) (by omega)]
    simp only
    rw [streams, exactly.window _ (by omega) (by omega)]

private theorem refillBy_eq (fits : id = 0 ∨ windows.initial = target) :
    windows.refillBy casts id target = windows.refill id target := by
  unfold refillBy refill
  cases held : windows.window? id with
  | none => rfl
  | some window =>
    have reach : (min target maxWindow : Nat) - window ≤ (maxWindow : Int) := by
      unfold window? at held
      split at held
      · cases held
        have := sound.connection_low
        omega
      · rename_i stands
        have := sound.stream_low id window held
        have := fits.resolve_left stands
        omega
    simp only
    split
    · rfl
    · split
      · rfl
      · rw [exactly.increment _ (by omega) reach, exactly.window _ (by omega) (by omega)]

end Windows

/-- The windows are numbers of 31 bits, those of streams with a sign. -/
structure Windows.Narrow (windows : Windows) : Prop where
  connection : 0 ≤ windows.connection ∧ windows.connection ≤ maxWindow
  initial : 0 ≤ windows.initial ∧ windows.initial ≤ maxWindow
  stream : ∀ id window, windows.stream? id = some window → -maxWindow ≤ window ∧ window ≤ maxWindow

theorem Windows.Sound.narrow {windows : Windows} (sound : windows.Sound) : windows.Narrow := by
  refine ⟨⟨sound.connection_low, sound.connection_high⟩, ⟨sound.initial_low, sound.initial_high⟩,
    ?_⟩
  intro id window held
  have low := sound.stream_low id window held
  have initial := sound.initial_low
  exact ⟨by omega, sound.stream_high id window held⟩

/-! ## Actions that agree -/

section Agreement

variable {α β : Type} {conn : Connection}

private theorem Action.run_get_congr {f g : Connection → Action β}
    (next : (f conn).run conn = (g conn).run conn) :
    (get >>= f : Action β).run conn = (get >>= g : Action β).run conn := next

private theorem Action.run_modify_congr {change : Connection → Connection} {f g : PUnit → Action β}
    (next : (f ⟨⟩).run (change conn) = (g ⟨⟩).run (change conn)) :
    (modify change >>= f : Action β).run conn = (modify change >>= g : Action β).run conn := next

private theorem Action.run_require_congr {condition : Bool} {error : Error} {f g : Unit → Action β}
    (next : condition = true → (f ()).run conn = (g ()).run conn) :
    (require condition error >>= f).run conn = (require condition error >>= g).run conn := by
  cases condition with
  | true => exact next rfl
  | false => rfl

private theorem Action.run_bind_congr {first second : Action α} {f g : α → Action β}
    (good : Connection → Prop) (same : first.run conn = second.run conn)
    (leads : second.Leads conn fun result after => ∀ value, result = .ok value → good after)
    (next : ∀ value after, good after → (f value).run after = (g value).run after) :
    (first >>= f).run conn = (second >>= g).run conn := by
  rw [EStateM.run_bind, EStateM.run_bind, same]
  cases ran : second.run conn with
  | ok value after => exact next value after (leads.of_ok ran value rfl)
  | error error after => rfl

end Agreement

namespace Connection

/-! ## Sending -/

section Definitions

variable (casts : Casts)

def sendQueueBy (id limit : Nat) (closing : Bool) (queue : Buffer)
    (conn : Connection) : Buffer × Connection :=
  match queue with
  | ⟨[], _⟩ => (queue, conn)
  | ⟨piece :: rest, length⟩ =>
    let count := min piece.length (min limit (conn.sendWindows.available id))
    if _spent : count = 0 then (queue, conn)
    else
      match conn.sendWindows.chargeBy casts id count with
      | .error _ => (queue, conn)
      | .ok windows =>
        let left := Buffer.cut ⟨piece :: rest, length⟩ count
        sendQueueBy id limit closing left
          ({ conn with sendWindows := windows }.write
            (.data id (piece.take count) (closing && left.length = 0) none))
termination_by totalLength queue.pieces
decreasing_by
  simp only [Buffer.cut, totalLength, List.map_cons, total_cons]
  split
  · simp only [List.map_cons, total_cons, List.length_drop]
    omega
  · omega

def flushBy (conn : Connection) (id : Nat) : Connection :=
  match conn.registry.get? id with
  | none => conn
  | some stream =>
    if stream.phase.canSend then
      let closing := stream.endQueued && stream.trailers.isNone
      let (left, conn) := sendQueueBy casts id conn.exchange.peer.maxFrameSize
        closing stream.queue conn
      finishFlush id stream left conn
    else conn

def resumeFirstBy : (count : Nat) → Connection → Connection
  | 0, conn => conn
  | count + 1, conn =>
    if conn.sendWindows.connection ≤ 0 then conn
    else
      match conn.sendWindows.popParked? with
      | none => conn
      | some (id, windows) =>
        resumeFirstBy count ({ conn with sendWindows := windows }.flushBy casts id)

def resumeBy (conn : Connection) : Connection :=
  resumeFirstBy casts conn.sendWindows.parked.length conn

end Definitions

variable {conn : Connection} {id target : Nat} (exactly : casts.Exact) (inRange : conn.InRange)

include exactly

private theorem sendQueueBy_eq (sound : conn.sendWindows.Sound)
    (id limit : Nat) (closing : Bool) (queue : Buffer) :
    sendQueueBy casts id limit closing queue conn = sendQueue id limit closing queue conn := by
  fun_induction sendQueue id limit closing queue conn with
  | case1 conn => rw [sendQueueBy]
  | case2 conn piece rest length count spent =>
    rw [sendQueueBy]
    exact dif_pos spent
  | case3 conn piece rest length count spent error failed =>
    rw [sendQueueBy, chargeBy_eq exactly sound]
    simp only [count] at spent failed
    simp only [failed, dif_neg spent]
  | case4 conn piece rest length count spent windows charged left ih =>
    rw [sendQueueBy, chargeBy_eq exactly sound]
    have later := ih (sound.charge charged)
    simp only [count] at spent charged
    simp only [charged, dif_neg spent]
    exact later

private theorem flushBy_eq (sound : conn.sendWindows.Sound) (id : Nat) :
    conn.flushBy casts id = conn.flush id := by
  unfold flushBy
  simp only [sendQueueBy_eq exactly sound]
  rfl

include inRange

private theorem resumeFirstBy_eq (count : Nat) :
    resumeFirstBy casts count conn = resumeFirst count conn := by
  induction count generalizing conn with
  | zero => rfl
  | succ count ih =>
    unfold resumeFirstBy resumeFirst
    split
    · rfl
    · cases popped : conn.sendWindows.popParked? with
      | none => rfl
      | some first =>
        obtain ⟨id, windows⟩ := first
        obtain ⟨others, -, rfl⟩ := Windows.popParked?_eq popped
        have waiting := inRange.setSend (inRange.send.setParked others)
        have served := waiting.moves ((flush_flushed _ id).moves : Moves (fun _ => True) _ _)
        simp only
        rw [flushBy_eq exactly waiting.send]
        exact ih served

private theorem resumeBy_eq : conn.resumeBy casts = conn.resume :=
  resumeFirstBy_eq exactly inRange _

/-! ## Receiving -/

section Definitions

variable (casts : Casts)

def refillBy (conn : Connection) (id target : Nat) : Connection :=
  match conn.receiveWindows.refillBy casts id target with
  | none => conn
  | some (increment, windows) =>
    { conn with receiveWindows := windows }.write (.windowUpdate id increment)

def chargeConnectionBy (count : Nat) : Action Unit := do
  let conn ← get
  match conn.receiveWindows.chargeConnectionBy casts count with
  | .error error => throw (.connection (.window error))
  | .ok windows =>
    set ({ conn with receiveWindows := windows }.refillBy casts 0 conn.receiveTarget)

def chargeStreamBy (id count : Nat) : Action Unit := do
  let conn ← get
  match conn.receiveWindows.chargeStreamBy casts id count with
  | .error _ => throw (.stream id .flowControlError)
  | .ok windows => set { conn with receiveWindows := windows }

def receiveDataBy (id : Nat) (octets : Octets) (endStream : Bool) (charged : Nat) :
    Action Unit := do
  chargeConnectionBy casts charged
  let phase ← requirePhase .data id
  Action.require phase.canReceive (dataFault id phase)
  chargeStreamBy casts id charged
  Action.onlyIf (!octets.isEmpty || endStream) (modify (·.emit (.data id octets endStream)))
  if endStream then advance id .receiveEnd
  else modify fun conn => conn.refillBy casts id conn.receiveInitial

def shiftReceiveWindowsBy (initial : Nat) : Action Unit := do
  let conn ← get
  if initial = conn.receiveInitial then pure ()
  else
    match conn.receiveWindows.shiftBy casts ((initial : Int) - conn.receiveInitial) with
    | .error error => throw (.connection (.window error))
    | .ok (_, windows) =>
      set { conn with receiveWindows := windows, receiveInitial := initial }

def syncLimitsBy : Action Unit := do
  let conn ← get
  shiftReceiveWindowsBy casts (conn.receiveLimit .initialWindowSize)
  modify fun conn =>
    { conn with frameLimit := conn.receiveLimit .maxFrameSize }

def announceBy (changes : List (Setting × Nat)) (now : Nat) : Action Unit := do
  let conn ← get
  let exchange ← Action.ofExcept (conn.exchange.announce changes now)
  let parameters := changes.map fun (setting, value) => (setting.wireId, value)
  set ({ conn with exchange }.write (.settings false parameters))
  syncLimitsBy casts

def receiveSettingsAckBy : Action Unit := do
  let conn ← get
  match conn.exchange.acknowledge with
  | none => throw (.protocol .ackNotDue)
  | some (commit, exchange) => do
      set { conn with exchange }
      syncLimitsBy casts
      modify (·.emit (.ownSettings commit.current))

def shiftSendWindowsBy (delta : Int) : Action Unit := do
  let conn ← get
  if delta = 0 then pure ()
  else
    match conn.sendWindows.shiftBy casts delta with
    | .error error => throw (.connection (.window error))
    | .ok (crossed, windows) =>
      let conn := { conn with sendWindows := windows }
      set (if crossed.isEmpty then conn else conn.resumeBy casts)

def receiveSettingsBy (parameters : List (Nat × Nat)) : Action Unit := do
  stageSettings parameters
  modify (·.write (.settings true []))
  let conn ← get
  match conn.exchange.commit with
  | none => pure ()
  | some (commit, exchange) => do
      set { conn with exchange }
      shiftSendWindowsBy casts commit.windowDelta
      modify (·.emit (.peerSettings commit.current))

def receiveConnectionCreditBy (increment : Nat) : Action Unit := do
  Action.require (increment ≠ 0) (.protocol .zeroIncrement)
  let conn ← get
  match conn.sendWindows.creditBy casts 0 increment with
  | .error error _ => throw (.connection (.window error))
  | .ok crossed windows =>
    let conn := { conn with sendWindows := windows }
    set (if crossed then conn.resumeBy casts else conn)

def creditStreamBy (id increment : Nat) : Action Unit := do
  Action.require (increment ≠ 0) (.stream id .protocolError)
  let conn ← get
  match conn.sendWindows.creditBy casts id increment with
  | .error _ _ => throw (.stream id .flowControlError)
  | .ok crossed windows =>
    if crossed && 0 < windows.available id && windows.isParked id then
      set ({ conn with sendWindows := windows.unpark id }.flushBy casts id)
    else set { conn with sendWindows := windows }

def receiveStreamCreditBy (id increment : Nat) : Action Unit := do
  let phase ← requirePhase .windowUpdate id
  Action.onlyIf (!phase.isClosed) (creditStreamBy casts id increment)

def receiveFrameBy (frame : Frame) : Action Unit :=
  match frame with
  | .data id octets endStream _ => receiveDataBy casts id octets endStream frame.chargedLength
  | .settings true _ => receiveSettingsAckBy casts
  | .settings false parameters => receiveSettingsBy casts parameters
  | .windowUpdate id increment =>
    if id = 0 then receiveConnectionCreditBy casts increment
    else receiveStreamCreditBy casts id increment
  | frame => receiveFrame frame

end Definitions

private theorem refillBy_eq (fits : id = 0 ∨ target = conn.receiveInitial) :
    conn.refillBy casts id target = conn.refill id target := by
  have initial : id = 0 ∨ conn.receiveWindows.initial = target := by
    refine fits.imp_right fun same => ?_
    rw [same, inRange.initial]
  unfold refillBy
  rw [Windows.refillBy_eq exactly inRange.receive initial]
  rfl

/-! ### DATA -/

private theorem chargeConnectionBy_run (count : Nat) :
    (chargeConnectionBy casts count).run conn = (chargeConnection count).run conn := by
  unfold chargeConnectionBy chargeConnection
  apply run_get_congr
  cases paid : conn.receiveWindows.chargeConnection count with
  | error error => simp only [chargeConnectionBy_eq exactly inRange.receive, paid]
  | ok windows =>
    obtain ⟨fits, rfl⟩ := chargeConnection_eq paid
    have refilled := refillBy_eq exactly (inRange.drawn fits) (.inl rfl : 0 = 0 ∨
      conn.receiveTarget = _)
    unfold drawn at refilled
    simp only [chargeConnectionBy_eq exactly inRange.receive, paid, refilled]

omit exactly in
private theorem chargeConnection_inRange (count : Nat) :
    (chargeConnection count).Leads conn fun _ after => after.InRange := by
  unfold chargeConnection
  rw [leads_get_bind]
  cases paid : conn.receiveWindows.chargeConnection count with
  | error error => exact inRange
  | ok windows =>
    obtain ⟨fits, rfl⟩ := chargeConnection_eq paid
    exact (inRange.drawn fits).refill (.inl rfl)

private theorem chargeStreamBy_run (id count : Nat) :
    (chargeStreamBy casts id count).run conn = (chargeStream id count).run conn := by
  unfold chargeStreamBy chargeStream
  apply run_get_congr
  cases paid : conn.receiveWindows.chargeStream id count with
  | error | ok => simp only [chargeStreamBy_eq exactly inRange.receive, paid]

omit exactly in
private theorem chargeStream_inRange (id count : Nat) :
    (chargeStream id count).Leads conn fun _ after => after.InRange := by
  unfold chargeStream
  rw [leads_get_bind]
  cases paid : conn.receiveWindows.chargeStream id count with
  | error error => exact inRange
  | ok windows =>
    have sound := inRange.receive.chargeStream paid
    obtain ⟨_, -, -, rfl⟩ := chargeStream_eq paid
    exact inRange.setReceive sound rfl

private theorem receiveDataBy_run (id : Nat) (octets : Octets) (endStream : Bool) (charged : Nat) :
    (receiveDataBy casts id octets endStream charged).run conn =
      (receiveData id octets endStream charged).run conn := by
  unfold receiveDataBy receiveData
  refine run_bind_congr InRange (chargeConnectionBy_run exactly inRange charged)
    ((chargeConnection_inRange inRange charged).mono fun _ _ kept _ _ => kept) ?_
  intro _ drawn inRange
  refine run_bind_congr InRange rfl ?_ fun phase _ inRange => ?_
  · exact requirePhase_leads.mpr ⟨fun _ _ _ _ => inRange, fun _ _ _ => inRange⟩
  refine run_require_congr fun _ => ?_
  refine run_bind_congr InRange (chargeStreamBy_run exactly inRange id charged)
    ((chargeStream_inRange inRange id charged).mono fun _ _ kept _ _ => kept) ?_
  intro _ drawnOn inRange
  refine run_bind_congr InRange rfl ?_ fun _ told inRange => ?_
  · exact (leads_onlyIf _ _).mpr ⟨fun _ _ _ => inRange.emit _, fun _ _ _ => inRange⟩
  split
  · rfl
  · have refilled := refillBy_eq exactly inRange (.inr rfl : id = 0 ∨ _)
    exact congrArg (EStateM.Result.ok ()) refilled

/-! ### SETTINGS -/

private theorem shiftReceiveWindowsBy_run {initial : Nat} (bound : initial ≤ maxWindow) :
    (shiftReceiveWindowsBy casts initial).run conn = (shiftReceiveWindows initial).run conn := by
  have aims : (initial : Int) - conn.receiveInitial =
      initial - conn.receiveWindows.initial := by rw [inRange.initial]
  unfold shiftReceiveWindowsBy shiftReceiveWindows
  apply run_get_congr
  split
  · rfl
  · cases shifted : conn.receiveWindows.shift
      ((initial : Int) - conn.receiveInitial) with
    | error | ok => simp only [shiftBy_eq exactly inRange.receive bound aims, shifted]

private theorem syncLimitsBy_run (exchange : conn.exchange.Sound) :
    (syncLimitsBy casts).run conn = syncLimits.run conn := by
  unfold syncLimitsBy syncLimits
  apply run_get_congr
  refine run_bind_congr (fun _ => True) ?_ ?_ fun _ _ _ => rfl
  · exact shiftReceiveWindowsBy_run exactly inRange (receiveLimit_le exchange)
  · unfold Leads
    split <;> simp

private theorem announceBy_run (sound : conn.exchange.Sound) (changes : List (Setting × Nat))
    (now : Nat) :
    (announceBy casts changes now).run conn = (announce changes now).run conn := by
  unfold announceBy announce
  apply run_get_congr
  cases announced : conn.exchange.announce changes now with
  | error error => rfl
  | ok exchange =>
    refine syncLimitsBy_run exactly ?_ (sound.announce announced)
    exact (inRange.setExchange exchange).write_plain rfl

private theorem receiveSettingsAckBy_run (sound : conn.exchange.Sound) :
    (receiveSettingsAckBy casts).run conn = receiveSettingsAck.run conn := by
  unfold receiveSettingsAckBy receiveSettingsAck
  apply run_get_congr
  cases due : conn.exchange.acknowledge with
  | none => rfl
  | some result =>
    obtain ⟨commit, exchange⟩ := result
    have synced := syncLimitsBy_run exactly (inRange.setExchange exchange) (sound.acknowledge due)
    simp only [EStateM.run_bind, EStateM.run_set, synced]

private theorem shiftSendWindowsBy_run {delta : Int} (bound : target ≤ maxWindow)
    (aims : delta = target - conn.sendWindows.initial) :
    (shiftSendWindowsBy casts delta).run conn = (shiftSendWindows delta).run conn := by
  unfold shiftSendWindowsBy shiftSendWindows
  apply run_get_congr
  split
  · rfl
  · cases shifted : conn.sendWindows.shift delta with
    | error error => simp only [shiftBy_eq exactly inRange.send bound aims, shifted]
    | ok result =>
      obtain ⟨crossed, windows⟩ := result
      rw [aims] at shifted
      have moved := inRange.setSend (Windows.Shifted.of_shift inRange.send bound shifted).sound
      rw [← aims] at shifted
      simp only [shiftBy_eq exactly inRange.send bound aims, shifted, resumeBy_eq exactly moved]

omit exactly inRange in
private theorem stageSettings_leads (unstaged : conn.exchange.staged = none)
    (parameters : List (Nat × Nat)) :
    (stageSettings parameters).Leads conn fun result after => ∀ value, result = .ok value →
      ∃ changes, Exchange.readParameters parameters = .ok changes ∧
        after = { conn with
          exchange := { conn.exchange with staged := some changes } } := by
  unfold stageSettings Exchange.stage
  simp only [leads_bind, leads_get, onward_ok, leads_set, leads_ofExcept]
  cases Exchange.readParameters parameters with
  | error error =>
    rintro _ ⟨⟩
  | ok changes =>
    intro _ _
    exact ⟨changes, rfl, by simp only [unstaged, Option.getD_none, List.nil_append]⟩

private theorem receiveSettingsBy_run (sound : conn.Sound) (parameters : List (Nat × Nat)) :
    (receiveSettingsBy casts parameters).run conn = (receiveSettings parameters).run conn := by
  unfold receiveSettingsBy receiveSettings
  refine run_bind_congr _ rfl (stageSettings_leads sound.exchange.staged parameters) ?_
  rintro _ _ ⟨changes, read, rfl⟩
  apply run_modify_congr
  apply run_get_congr
  -- what has been staged is committed at once
  have valid := sound.exchange.setPeer (Exchange.allowed_of_readParameters read)
  have acknowledged : (conn.write (.settings true [])).InRange := inRange.write_plain rfl
  have committed := acknowledged.setExchange
    { conn.exchange with peer := conn.exchange.peer.apply changes, staged := none }
  have aims : (conn.exchange.peer.apply changes).initialWindowSize -
      (conn.exchange.peer.initialWindowSize : Int) =
        (conn.exchange.peer.apply changes).initialWindowSize - conn.sendWindows.initial := by
    rw [sound.sendInitial]
  have shifted := shiftSendWindowsBy_run exactly committed valid.peer.initialWindowSize_le aims
  simp only [write, Exchange.commit, Commit.windowDelta, EStateM.run_bind,
    EStateM.run_set] at shifted ⊢
  rw [shifted]

/-! ### WINDOW_UPDATE -/

private theorem receiveConnectionCreditBy_run (increment : Nat) :
    (receiveConnectionCreditBy casts increment).run conn =
      (receiveConnectionCredit increment).run conn := by
  unfold receiveConnectionCreditBy receiveConnectionCredit
  refine run_require_congr fun _ => ?_
  apply run_get_congr
  cases credited : conn.sendWindows.credit 0 increment with
  | error error => simp only [creditBy_eq exactly inRange.send, credited]
  | ok result =>
    have risen := inRange.setSend (inRange.send.credit credited)
    simp only [creditBy_eq exactly inRange.send, credited, resumeBy_eq exactly risen]

private theorem creditStreamBy_run (id increment : Nat) :
    (creditStreamBy casts id increment).run conn = (creditStream id increment).run conn := by
  unfold creditStreamBy creditStream
  refine run_require_congr fun _ => ?_
  apply run_get_congr
  cases credited : conn.sendWindows.credit id increment with
  | error error => simp only [creditBy_eq exactly inRange.send, credited]
  | ok crossed windows =>
    have unparked : (windows.unpark id).Sound := (inRange.send.credit credited).setParked _
    have served : { conn with sendWindows := windows.unpark id }.flushBy casts id =
        { conn with sendWindows := windows.unpark id }.flush id :=
      flushBy_eq exactly unparked id
    simp only [creditBy_eq exactly inRange.send, credited, served]

private theorem receiveStreamCreditBy_run (id increment : Nat) :
    (receiveStreamCreditBy casts id increment).run conn =
      (receiveStreamCredit id increment).run conn := by
  unfold receiveStreamCreditBy receiveStreamCredit
  refine run_bind_congr InRange rfl ?_ fun phase conn inRange => ?_
  · exact requirePhase_leads.mpr ⟨fun _ _ _ _ => inRange, fun _ _ _ => inRange⟩
  cases phase.isClosed with
  | true => rfl
  | false => exact creditStreamBy_run exactly inRange id increment

private theorem receiveFrameBy_run (sound : conn.Sound) (frame : Frame) :
    (receiveFrameBy casts frame).run conn = (receiveFrame frame).run conn := by
  cases frame with
  | data id octets endStream padding =>
    exact receiveDataBy_run exactly inRange id octets endStream _
  | settings ack parameters =>
    cases ack with
    | true => exact receiveSettingsAckBy_run exactly inRange sound.exchange
    | false => exact receiveSettingsBy_run exactly inRange sound parameters
  | windowUpdate id increment =>
    unfold receiveFrameBy receiveFrame
    simp only
    split
    · exact receiveConnectionCreditBy_run exactly inRange increment
    · exact receiveStreamCreditBy_run exactly inRange id increment
  | _ => rfl

/-! ## Calls -/

section Definitions

variable (casts : Casts)

def sendDataBy (id : Nat) (octets : Octets) (endStream : Bool) : Action Unit := do
  ensureOpen
  requireSender id .sendData
  modify fun conn =>
    (conn.modifyStream id (·.enqueue octets endStream)).flushBy casts id

def sendTrailersBy (id : Nat) (fields : List Field) : Action Unit := do
  ensureOpen
  requireSender id .sendTrailers
  modify fun conn =>
    (conn.modifyStream id (·.enqueueTrailers fields)).flushBy casts id

def sendSettingsBy (changes : List (Setting × Nat)) (now : Nat) : Action Unit := do
  ensureOpen
  announceBy casts changes now

def growBy (increment : Nat) : Action Unit := do
  let conn ← get
  match conn.receiveWindows.creditBy casts 0 increment with
  | .error error _ => throw (.window error)
  | .ok _ windows =>
    set ({ conn with receiveWindows := windows }.write (.windowUpdate 0 increment))

def resizeWindowBy (size : Nat) : Action Unit := do
  ensureOpen
  Action.require (size ≤ maxWindow) (.invalidSetting 0 size)
  let conn ← get
  Action.onlyIf (conn.receiveTarget < size) (growBy casts (size - conn.receiveTarget))
  modify fun conn => { conn with receiveTarget := size }

def performBy : Call → Action (Option Nat)
  | .sendData id octets endStream => silently (sendDataBy casts id octets endStream)
  | .sendTrailers id fields => silently (sendTrailersBy casts id fields)
  | .sendSettings changes now => silently (sendSettingsBy casts changes now)
  | .resizeWindow size => silently (resizeWindowBy casts size)
  | call => perform call

end Definitions

private theorem growBy_run (increment : Nat) :
    (growBy casts increment).run conn = (grow increment).run conn := by
  unfold growBy grow
  apply run_get_congr
  cases credited : conn.receiveWindows.credit 0 increment with
  | error | ok => simp only [creditBy_eq exactly inRange.receive, credited]

omit exactly inRange in
private theorem run_ensureOpen_congr {f g : Unit → Action Unit}
    (next : conn.closed = false → (f ()).run conn = (g ()).run conn) :
    (ensureOpen >>= f).run conn = (ensureOpen >>= g).run conn := by
  show (require (!conn.closed) .sessionClosed >>= f).run conn =
      (require (!conn.closed) _ >>= g).run conn
  exact run_require_congr fun opened => next (by simpa using opened)

private theorem queueBy_run (id : Nat) (operation : Operation) (f : Stream → Stream) :
    (do
      ensureOpen
      requireSender id operation
      modify fun conn => (conn.modifyStream id f).flushBy casts id :
      Action Unit).run conn =
    (do
      ensureOpen
      requireSender id operation
      modify fun conn => (conn.modifyStream id f).flush id :
      Action Unit).run conn := by
  apply run_ensureOpen_congr
  intro _
  refine run_bind_congr InRange rfl ?_ fun _ conn inRange => ?_
  · exact requireSender_leads (fun _ _ _ _ => inRange) fun _ _ _ _ _ _ => inRange
  · have flushed := flushBy_eq exactly (inRange.setRegistry (conn.registry.modify id f)).send id
    exact congrArg (EStateM.Result.ok ()) flushed

private theorem resizeWindowBy_run (size : Nat) :
    (resizeWindowBy casts size).run conn = (resizeWindow size).run conn := by
  unfold resizeWindowBy resizeWindow
  apply run_ensureOpen_congr
  intro _
  refine run_require_congr fun _ => ?_
  apply run_get_congr
  refine run_bind_congr (fun _ => True) ?_ ?_ fun _ _ _ => rfl
  · cases decide (conn.receiveTarget < size) with
    | true => exact growBy_run exactly inRange _
    | false => rfl
  · unfold Leads
    split <;> simp

omit exactly inRange in
private theorem silently_congr {first second : Action Unit}
    (same : first.run conn = second.run conn) :
    (silently first).run conn = (silently second).run conn := by
  unfold silently
  rw [EStateM.run_bind, EStateM.run_bind, same]

private theorem performBy_run (sound : conn.closed = false → conn.Sound) (call : Call) :
    (performBy casts call).run conn = (perform call).run conn := by
  cases call with
  | sendData id octets endStream | sendTrailers id fields =>
    exact silently_congr (queueBy_run exactly inRange id _ _)
  | sendSettings changes now =>
    refine silently_congr (run_ensureOpen_congr fun opened => ?_)
    exact announceBy_run exactly inRange (sound opened).exchange changes now
  | resizeWindow size => exact silently_congr (resizeWindowBy_run exactly inRange size)
  | _ => rfl

end Connection

/-! ## Sessions -/

namespace Session

section Definitions

variable (casts : Casts)

def setUpBy (config : Config) (now : Nat) : Action Unit := do
  Connection.announceBy casts config.settings now
  Action.onlyIf (defaultWindow < config.connectionWindow)
    (Connection.resizeWindowBy casts config.connectionWindow)

def createBy (role : Role) (config : Config) (now : Nat) : Except Error Session :=
  match config.validate with
  | .error error => .error error
  | .ok () =>
    match (setUpBy casts config now).run (fresh role config) with
    | .error error _ => .error error
    | .ok _ conn =>
      .ok ⟨{ prefaceDue := role == .server, blockLimit := config.blockLimit }, conn⟩

def consumeBy (reader : Reader) (conn : Connection) : Except Error Unit × Session :=
  match _next : { reader with frameLimit := conn.frameLimit }.next with
  | (.error error, after) => (.error error, ⟨after, conn.fail error⟩)
  | (.ok none, after) => (.ok (), ⟨after, conn⟩)
  | (.ok (some frame), after) =>
    match (Connection.receiveFrameBy casts frame).run conn with
    | .ok _ conn => consumeBy after conn
    | .error error conn =>
      if error.isFatal then (.error error, ⟨after, conn.fail error⟩)
      else consumeBy after (conn.absorb error)
termination_by reader.buffer.length
decreasing_by
  all_goals
    have shorter := Reader.next_length _next
    exact shorter

def receiveBy (session : Session) (octets : Octets) : Except Error Unit × Session :=
  if session.connection.closed then (.error .sessionClosed, session)
  else consumeBy casts (session.reader.feed octets) session.connection

def callBy (session : Session) (call : Call) : Except Error (Option Nat) × Session :=
  match (Connection.performBy casts call).run session.connection with
  | .ok answer connection => (.ok answer, { session with connection })
  | .error error connection => (.error error, { session with connection })

end Definitions

private theorem createBy_eq (exactly : casts.Exact) (role : Role) (config : Config) (now : Nat) :
    createBy casts role config now = create role config now := by
  have sound := fresh_sound role config
  have inRange := fresh_inRange role config
  have same : (setUpBy casts config now).run (fresh role config) =
      (setUp config now).run (fresh role config) := by
    unfold setUpBy setUp
    refine run_bind_congr InRange ?_ ?_ fun _ conn inRange => ?_
    · exact announceBy_run exactly inRange sound.exchange config.settings now
    · refine (announce_leads sound config.settings now).mono fun result after led => ?_
      rintro _ rfl
      rcases led with ⟨_, ⟨⟩, _⟩ | ⟨_, _, synced⟩
      have written := inRange.write_plain
        (rfl : (Frame.settings false (wireForm config.settings)).increment? = none)
      exact (written.setExchange _).synced synced
    · cases decide (defaultWindow < config.connectionWindow) with
      | true => exact resizeWindowBy_run exactly inRange _
      | false => rfl
  unfold createBy
  rw [same]
  rfl

private theorem consumeBy_eq (exactly : casts.Exact) {conn : Connection} (sound : conn.Sound)
    (inRange : conn.InRange) (opened : conn.closed = false) (reader : Reader) :
    consumeBy casts reader conn = consume reader conn := by
  fun_induction consume reader conn with
  | case1 reader conn error after next | case2 reader conn after next =>
    unfold consumeBy
    split <;> rename_i next' <;> cases next.symm.trans next'
    rfl
  | case3 reader conn frame after next _ later ran ih =>
    obtain ⟨written, handled⟩ := accept_handled sound ran
    have kept := inRange.receipt sound ((receiveFrame_receipt sound frame).of_ok ran)
    unfold consumeBy
    split <;> rename_i next' <;> cases next.symm.trans next'
    rw [receiveFrameBy_run exactly inRange sound, ran]
    exact ih handled.sound kept (handled.closed.trans opened)
  | case4 reader conn frame after next error later ran fatal =>
    unfold consumeBy
    split <;> rename_i next' <;> cases next.symm.trans next'
    rw [receiveFrameBy_run exactly inRange sound, ran]
    exact if_pos fatal
  | case5 reader conn frame after next error later ran harmless ih =>
    obtain ⟨written, handled⟩ := absorb_handled sound ran (by simpa using harmless)
    have failed := inRange.receipt sound ((receiveFrame_receipt sound frame).of_error ran)
    have absorbed : Calms (fun _ => True) later (later.absorb error) := absorb_calms trivial
    unfold consumeBy
    split <;> rename_i next' <;> cases next.symm.trans next'
    rw [receiveFrameBy_run exactly inRange sound, ran]
    exact (if_neg harmless).trans (ih handled.sound (failed.calms absorbed)
      (handled.closed.trans opened))

variable {session : Session} {log : List Activity}

private theorem receiveBy_eq (run : Run session log) (exactly : casts.Exact) (octets : Octets) :
    session.receiveBy casts octets = session.receive octets := by
  unfold receiveBy receive
  cases opened : session.connection.closed with
  | true => rfl
  | false => exact consumeBy_eq exactly (run.sound opened) run.inRange.1 opened _

private theorem callBy_eq (run : Run session log) (exactly : casts.Exact) (call : Call) :
    session.callBy casts call = session.call call := by
  unfold callBy
  rw [performBy_run exactly run.inRange.1 run.sound call]
  rfl

/-- Windows never wrap: they stay in range, a session does the same whatever becomes of numbers that
are not, and the increments that it writes are those that the peer reads. -/
theorem Run.windows_never_wrap (run : Run session log) :
    session.connection.sendWindows.Narrow ∧ session.connection.receiveWindows.Narrow ∧
    (∀ casts : Casts, casts.Exact →
      (∀ role config now, createBy casts role config now = Session.create role config now) ∧
      (∀ call, session.callBy casts call = session.call call) ∧
      ∀ octets, session.receiveBy casts octets = session.receive octets) ∧
    ∀ id increment, .wrote (.windowUpdate id increment) ∈ log →
      1 ≤ increment ∧ increment ≤ maxWindow ∧ low31 increment = increment := by
  obtain ⟨inRange, increments⟩ := run.inRange
  refine ⟨inRange.send.narrow, inRange.receive.narrow, ?_, ?_⟩
  · intro casts exactly
    exact ⟨createBy_eq exactly, callBy_eq run exactly, receiveBy_eq run exactly⟩
  · intro id increment member
    obtain ⟨low, high⟩ := increments _ member increment rfl
    exact ⟨low, high, low31_eq_self high⟩

/-- A server that has grown its window to the largest, and whose peer has taken back the window in
which it has sent three octets. -/
def lowered : Session :=
  (newServer []).after [.call (.resizeWindow maxWindow),
    .receive (preface ++ [0, 0, 0, 4, 0, 0, 0, 0, 0] ++ [0, 0, 0, 1, 4, 0, 0, 0, 1]),
    .call (.sendData 1 [1, 2, 3] false), .receive [0, 0, 6, 4, 0, 0, 0, 0, 0, 0, 4, 0, 0, 0, 0]]

/-- The peer then raises the initial window to the largest one. -/
theorem Run.windows_never_wrap_lowered :
    let raised : Octets := [0, 0, 6, 4, 0, 0, 0, 0, 0, 0, 4, 0x7f, 0xff, 0xff, 0xff]
    lowered.connection.sendWindows.stream? 1 = some (-3) ∧
    (lowered.receiveBy .wrapping raised).2.connection.sendWindows.stream? 1 = some 2147483644 ∧
    lowered.receiveBy .unbounded raised = lowered.receiveBy .wrapping raised ∧
    ∃ log, Run lowered log ∧ .wrote (.windowUpdate 0 2147418112) ∈ log ∧
    low31 2147418112 = 2147418112 := by
  have created : Session.create .server {} 0 = .ok (newServer []) := rfl
  have run : ∃ log, Run lowered log ∧ .wrote (.windowUpdate 0 2147418112) ∈ log := by
    refine ⟨_, (Run.create created).after _, List.mem_append_right _ (List.mem_append_left _ ?_)⟩
    decide +kernel
  obtain ⟨log, run, member⟩ := run
  obtain ⟨-, -, same, increments⟩ := run.windows_never_wrap
  obtain ⟨-, -, wraps⟩ := same .wrapping Casts.wrapping_exact
  obtain ⟨-, -, exceeds⟩ := same .unbounded Casts.unbounded_exact
  refine ⟨by decide +kernel, ?_, (exceeds _).trans (wraps _).symm, log, run, member,
    (increments 0 _ member).2.2⟩
  rw [wraps]
  decide +kernel

end Session

end Http2
