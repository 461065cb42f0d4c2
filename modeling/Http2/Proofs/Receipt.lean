import Http2.Proofs.Quiet
import Http2.Proofs.Sending

/-!
# What receiving a frame comes to

`Receipt connection frame result after` lists everything that can happen when a sound connection
receives a frame: what it checks, with which result it ends and how it leaves the state.
`receiveFrame_receipt` says that the list is complete.  `Synced` does the same for the changes that
follow a change of our own settings.
-/

namespace Http2.Connection

open Windows

/-! ## Keeping step with our settings -/

/-- The receive windows have moved to the initial window that our settings call for. -/
def Synced (conn after : Connection) : Prop :=
  ∃ windows, conn.receiveWindows.Shifted (conn.receiveLimit .initialWindowSize) windows ∧
    after = { conn with
      receiveWindows := windows
      receiveInitial := conn.receiveLimit .initialWindowSize
      frameLimit := conn.receiveLimit .maxFrameSize }

variable {conn after : Connection} {id count : Nat} {crossed : List Nat} {windows moved : Windows}
  {window : Int} {result : Except Error Unit}

theorem receiveLimit_le (sound : conn.exchange.Sound) :
    conn.receiveLimit .initialWindowSize ≤ maxWindow := by
  have own := sound.own.initialWindowSize_le
  have latest := sound.latest.initialWindowSize_le
  exact Nat.max_le.mpr ⟨own, latest⟩

theorem Slides.synced (exchange : conn.exchange.Sound) (windows : conn.receiveWindows.Sound)
    (initial : conn.receiveWindows.initial = conn.receiveInitial)
    (shifts : Slides conn.receiveWindows
      ((conn.receiveLimit .initialWindowSize : Int) - conn.receiveInitial) crossed moved) :
    Synced conn (conn.limited moved) := by
  refine ⟨moved, ?_, rfl⟩
  rcases shifts with ⟨same, -, rfl⟩ | shifted
  · exact .refl windows (by omega)
  · rw [← initial] at shifted
    exact .of_shift windows (receiveLimit_le exchange) shifted

/-- Windows within the initial one can be shifted to any initial window that is allowed. -/
theorem receiveWindows_shift_ne_error (exchange : conn.exchange.Sound)
    (topped : conn.receiveWindows.Topped)
    (initial : conn.receiveWindows.initial = conn.receiveInitial) (error : WindowError) :
    conn.receiveWindows.shift ((conn.receiveLimit .initialWindowSize : Int) -
      conn.receiveInitial) ≠ .error error := by
  intro failed
  have bound := receiveLimit_le exchange
  have high : conn.receiveWindows.initial +
      ((conn.receiveLimit .initialWindowSize : Int) - conn.receiveInitial) ≤
        maxWindow := by omega
  obtain ⟨crossed, moved, shifted⟩ := shift_of_topped topped high
  cases failed.symm.trans shifted

theorem syncLimits_leads (exchange : conn.exchange.Sound)
    (windows : conn.receiveWindows.Sound) (topped : conn.receiveWindows.Topped)
    (initial : conn.receiveWindows.initial = conn.receiveInitial) :
    syncLimits.Leads conn fun result after => result = .ok () ∧ Synced conn after := by
  refine (syncLimits_limits conn).mono ?_
  rintro _ _ (⟨error, failed, -, -⟩ | ⟨crossed, moved, shifts, rfl, rfl⟩)
  · exact absurd failed (receiveWindows_shift_ne_error exchange topped initial error)
  · exact ⟨rfl, shifts.synced exchange windows initial⟩

theorem Sound.sync (sound : conn.Sound) {exchange : Exchange} (valid : exchange.Sound)
    (peer : exchange.peer = conn.exchange.peer)
    (synced : Synced { conn with exchange } after) : after.Sound := by
  obtain ⟨windows, shifted, rfl⟩ := synced
  exact
    { sound with
      exchange := valid
      receive := shifted.sound
      topped := shifted.topped sound.topped
      sendInitial := sound.sendInitial.trans (by rw [peer])
      receiveInitial := shifted.initial
      limit := rfl
      receiveLive := fun other => by
        rw [shifted.stream, Option.isSome_map]
        exact sound.receiveLive other }

theorem announce_leads (sound : conn.Sound) (changes : List (Setting × Nat)) (now : Nat) :
    (announce changes now).Leads conn fun result after =>
      (∃ error, result = .error error ∧ after = conn) ∨
      result = .ok () ∧ Allowed changes ∧
        Synced { conn.write (.settings false (wireForm changes)) with
          exchange := { conn.exchange with
            outstanding := conn.exchange.outstanding ++ [⟨changes, now⟩] } } after := by
  unfold announce
  simp only [Action.leads_bind, Action.leads_get, Action.onward_ok, Action.leads_ofExcept]
  cases announced : conn.exchange.announce changes now with
  | error error => exact .inl ⟨error, rfl, rfl⟩
  | ok exchange =>
    have valid := sound.exchange.announce announced
    obtain ⟨allowed, rfl⟩ := Exchange.announce_eq announced
    simp only [Action.onward_ok, Action.leads_bind, Action.leads_set]
    refine .mono (syncLimits_leads ?_ ?_ ?_ ?_) ?_
    · exact valid
    · exact sound.receive
    · exact sound.topped
    · exact sound.receiveInitial
    rintro result after ⟨rfl, synced⟩
    exact .inr ⟨rfl, allowed, synced⟩

/-! ## Taking from the receive windows -/

def drawn (conn : Connection) (count : Nat) : Connection :=
  { conn with
    receiveWindows := { conn.receiveWindows with
      connection := conn.receiveWindows.connection - count } }

theorem Sound.drawn (sound : conn.Sound) (fits : count ≤ conn.receiveWindows.connection) :
    (conn.drawn count).Sound := by
  have := sound.receive.connection_high
  exact sound.setReceiveConnection (by omega) (by omega)

def drawnOn (conn : Connection) (id count : Nat) (window : Int) : Connection :=
  { conn.drawn count with
    receiveWindows := { (conn.drawn count).receiveWindows with
      streams := conn.receiveWindows.streams.insert id (window - count) } }

theorem Sound.drawnOn (sound : conn.Sound) (fits : count ≤ conn.receiveWindows.connection)
    (held : conn.receiveWindows.stream? id = some window) (covered : count ≤ window) :
    (conn.drawnOn id count window).Sound := by
  have drawn := sound.drawn fits
  have charged : (conn.drawn count).receiveWindows.chargeStream id count =
      .ok (conn.drawnOn id count window).receiveWindows := by
    unfold Windows.chargeStream
    have found : (conn.drawn count).receiveWindows.stream? id = some window := held
    rw [found]
    exact if_neg (by omega)
  have streams := stream?_chargeStream charged
  refine { drawn with
    receive := drawn.receive.chargeStream charged, topped := ?_, receiveLive := ?_ }
  · intro other value now
    rw [streams] at now
    split at now
    · obtain ⟨before, found, rfl⟩ := Option.map_eq_some_iff.mp now
      have := drawn.topped other before found
      exact Int.le_trans (by omega) this
    · exact drawn.topped other value now
  · intro other
    have live := drawn.receiveLive other
    rw [streams]
    split
    · rw [Option.isSome_map]
      exact live
    · exact live

private theorem streams_refill_connection (conn : Connection) (target : Nat) :
    (conn.refill 0 target).receiveWindows.streams = conn.receiveWindows.streams := by
  unfold refill
  split
  · rfl
  · rename_i increment windows filled
    obtain ⟨-, -, -, -, rfl⟩ := refill_eq filled
    rfl

private theorem refill_connection (conn : Connection) (target : Nat) (streams : IdMap Int) :
    { conn with receiveWindows := { conn.receiveWindows with streams } }.refill 0 target =
      { conn.refill 0 target with
        receiveWindows := { (conn.refill 0 target).receiveWindows with streams } } := by
  unfold refill Windows.refill window? setWindow
  simp only [if_true]
  split
  · rename_i none
    split at none
    · rename_i full
      simp only [if_pos full]
    · rename_i low
      split at none
      · rename_i full
        simp only [if_neg low, if_pos full]
      · cases none
  · rename_i increment windows filled
    split at filled
    · cases filled
    · rename_i low
      split at filled
      · cases filled
      · rename_i short
        cases filled
        simp only [if_neg low, if_neg short]
        rfl

/-- Credit has been entered for a stream with the window, which is served if it waited for that. -/
def creditedOn (conn : Connection) (id increment : Nat) (window : Int) : Connection :=
  let windows := conn.sendWindows.setWindow id (window + increment)
  if window ≤ 0 ∧ 0 < windows.available id ∧ id ∈ windows.parked then
    { conn with sendWindows := windows.unpark id }.flush id
  else { conn with sendWindows := windows }

/-! ## The receipt of a frame -/

inductive Receipt (conn : Connection) : Frame → Except Error Unit → Connection → Prop
  | calm {frame : Frame} {result : Except Error Unit} {after : Connection}
      (control : frame.isControl) (quiet : Quiet conn result after) :
      Receipt conn frame result after
  | overspent {frame : Frame} {error : WindowError} (data : frame.kind? = some .data)
      (excess : conn.receiveWindows.connection < frame.chargedLength) :
      Receipt conn frame (.error (.connection (.window error))) conn
  | refused {frame : Frame} {error : Error} (data : frame.kind? = some .data)
      (fits : frame.chargedLength ≤ conn.receiveWindows.connection)
      (shut : ∀ stream, conn.registry.get? frame.stream = some stream → ¬ stream.phase.canReceive)
      (mild : Mild error.reason)
      (known : error.isFatal = false → error = .stream frame.stream .streamClosed ∧
        (conn.registry.get? frame.stream).isSome) :
      Receipt conn frame (.error error)
        ((conn.drawn frame.chargedLength).refill 0 conn.receiveTarget)
  | overdrawn {frame : Frame} {stream : Stream} {window : Int} (data : frame.kind? = some .data)
      (fits : frame.chargedLength ≤ conn.receiveWindows.connection)
      (held : conn.registry.get? frame.stream = some stream) (receives : stream.phase.canReceive)
      (found : conn.receiveWindows.stream? frame.stream = some window)
      (short : window < frame.chargedLength) :
      Receipt conn frame (.error (.stream frame.stream .flowControlError))
        ((conn.drawn frame.chargedLength).refill 0 conn.receiveTarget)
  | taken {frame : Frame} {result : Except Error Unit} {after : Connection} {window : Int}
      (data : frame.kind? = some .data)
      (fits : frame.chargedLength ≤ conn.receiveWindows.connection)
      (found : conn.receiveWindows.stream? frame.stream = some window)
      (covered : frame.chargedLength ≤ window)
      (quiet : Quiet (conn.drawnOn frame.stream frame.chargedLength window) result after) :
      Receipt conn frame result after
  | ackNotDue {parameters : List (Nat × Nat)} (none : conn.exchange.outstanding = []) :
      Receipt conn (.settings true parameters) (.error (.protocol .ackNotDue)) conn
  | acknowledged {parameters : List (Nat × Nat)} {batch : Batch} {rest : List Batch}
      {middle : Connection} {event : Event} (due : conn.exchange.outstanding = batch :: rest)
      (synced : Synced { conn with
        exchange := { conn.exchange with
          own := conn.exchange.own.apply batch.changes, outstanding := rest } } middle) :
      Receipt conn (.settings true parameters) (.ok ()) (middle.emit event)
  | malformed {parameters : List (Nat × Nat)} {error : Error}
      (fault : Exchange.readParameters parameters = .error error) :
      Receipt conn (.settings false parameters) (.error error) conn
  | outgrown {parameters : List (Nat × Nat)} {changes : List (Setting × Nat)} {error : WindowError}
      {id : Nat} {window : Int} (read : Exchange.readParameters parameters = .ok changes)
      (held : conn.sendWindows.stream? id = some window)
      (large : maxWindow < window + ((conn.exchange.peer.apply changes).initialWindowSize -
          conn.exchange.peer.initialWindowSize)) :
      Receipt conn (.settings false parameters) (.error (.connection (.window error)))
        { conn.write (.settings true []) with
          exchange := { conn.exchange with
            peer := conn.exchange.peer.apply changes } }
  | applied {parameters : List (Nat × Nat)} {changes : List (Setting × Nat)} {windows : Windows}
      {crossed : List Nat} {event : Event} (read : Exchange.readParameters parameters = .ok changes)
      (shifted : conn.sendWindows.Shifted (conn.exchange.peer.apply changes).initialWindowSize
      windows) (risen : ∀ id before now, conn.sendWindows.stream? id = some before →
        windows.stream? id = some now → before ≤ 0 → 0 < now → id ∈ crossed) :
      Receipt conn (.settings false parameters) (.ok ()) ((resumeIf (!crossed.isEmpty)
          { conn.write (.settings true []) with
            exchange := { conn.exchange with
              peer := conn.exchange.peer.apply changes }
            sendWindows := windows }).emit event)
  | zeroCredit :
      Receipt conn (.windowUpdate 0 0) (.error (.protocol .zeroIncrement)) conn
  | creditOverflow {increment : Nat} {error : WindowError}
      (large : maxWindow < conn.sendWindows.connection + increment) :
      Receipt conn (.windowUpdate 0 increment) (.error (.connection (.window error))) conn
  | credited {increment : Nat} (positive : increment ≠ 0)
      (fits : conn.sendWindows.connection + increment ≤ maxWindow) :
      Receipt conn (.windowUpdate 0 increment) (.ok ()) (resumeIf (conn.sendWindows.connection ≤ 0)
          { conn with
            sendWindows := { conn.sendWindows with
              connection := conn.sendWindows.connection + increment } })
  | unwanted {id increment : Nat} {result : Except Error Unit} (stands : id ≠ 0)
      (mild : ∀ error, result = .error error → Mild error.reason ∧
        (error.isFatal = false → increment = 0))
      (closed : result = .ok () → (conn.registry.get? id).isSome ∧ conn.registry.cargo? id = none) :
      Receipt conn (.windowUpdate id increment) result conn
  | streamOverflow {id increment : Nat} {window : Int} (stands : id ≠ 0)
      (held : conn.sendWindows.stream? id = some window) (large : maxWindow < window + increment) :
      Receipt conn (.windowUpdate id increment) (.error (.stream id .flowControlError)) conn
  | streamCredited {id increment : Nat} {window : Int} (stands : id ≠ 0)
      (positive : increment ≠ 0) (held : conn.sendWindows.stream? id = some window)
      (fits : window + increment ≤ maxWindow) :
      Receipt conn (.windowUpdate id increment) (.ok ()) (creditedOn conn id increment window)

/-! ## What is dealt with is on the list -/

private theorem dataFault_known {phase : Phase} (closing : (dataFault id phase).isFatal = false) :
    dataFault id phase = .stream id .streamClosed := by
  unfold dataFault at closing ⊢
  split
  · rfl
  · rename_i other
    rw [if_neg other] at closing
    cases closing

private theorem dataFault_mild (id : Nat) (phase : Phase) : Mild (dataFault id phase).reason := by
  unfold dataFault
  split
  · exact mild_streamClosed
  · exact mild_protocolError

private theorem chargeStream_drawn
    (drawn : ((conn.drawn count).refill 0 conn.receiveTarget).receiveWindows.chargeStream id
      count = .ok windows) :
    ∃ window, conn.receiveWindows.stream? id = some window ∧ (count : Int) ≤ window ∧
      Calms Mild (conn.drawnOn id count window)
        { (conn.drawn count).refill 0 conn.receiveTarget with receiveWindows := windows } := by
  obtain ⟨window, found, covered, rfl⟩ := chargeStream_eq drawn
  rw [stream?, streams_refill_connection] at found
  refine ⟨window, found, covered, ?_⟩
  have calms : Calms Mild (conn.drawnOn id count window)
      ((conn.drawnOn id count window).refill 0 conn.receiveTarget) :=
    .single (.refill _ (.inl rfl))
  have same := refill_connection (conn.drawn count) conn.receiveTarget
    (conn.receiveWindows.streams.insert id (window - count))
  rw [drawnOn, same, ← drawnOn] at calms
  rw [streams_refill_connection]
  exact calms

theorem DataDealt.receipt (sound : conn.Sound) {octets : Octets} {endStream : Bool}
    {padding : Option UInt8}
    (fits : (Frame.data id octets endStream padding).chargedLength ≤ conn.receiveWindows.connection)
    (dealt : DataDealt ((conn.drawn (Frame.data id octets endStream padding).chargedLength).refill 0
      conn.receiveTarget) id octets (Frame.data id octets endStream padding).chargedLength endStream
      result after) : Receipt conn (.data id octets endStream padding) result after := by
  have isData : (Frame.data id octets endStream padding).kind? = some .data := rfl
  cases result with
  | ok =>
    obtain ⟨windows, drawn, more⟩ := dealt.calms
    obtain ⟨window, found, covered, calms⟩ := chargeStream_drawn drawn
    exact .taken isData fits found covered ((quiet_ok _).mpr (calms.trans more))
  | error error =>
    cases dealt with
    | unheld unknown =>
      rw [phase?_eq_none_iff, registry_refill] at unknown
      refine .refused isData fits ?_ (missingStream_mild _ _ _) fun harmless => ?_
      · intro stream held
        cases unknown.symm.trans held
      · rw [missingStream_isFatal] at harmless
        cases harmless
    | @unwelcome _ stream held shut =>
      rw [registry_refill] at held
      have held : conn.registry.get? id = some stream := held
      refine .refused isData fits ?_ (dataFault_mild _ _) fun harmless =>
        ⟨dataFault_known harmless, by simp [Frame.stream, held]⟩
      intro other held'
      obtain rfl : stream = other := Option.some.inj (held.symm.trans held')
      simpa using shut
    | overdrawn held receives short =>
      rw [registry_refill] at held
      obtain ⟨window, found⟩ :=
        sound.receiveWindow_of_live held (Stream.isLive_of_canReceive receives)
      refine .overdrawn isData fits held receives found (chargeStream_fails ?_ short)
      rw [stream?, streams_refill_connection]
      exact found

theorem Slides.shifted (sound : conn.Sound) {parameters : List (Nat × Nat)}
    {changes : List (Setting × Nat)}
    (read : Exchange.readParameters parameters = .ok changes) (shifts : Slides conn.sendWindows
      ((conn.exchange.peer.apply changes).initialWindowSize -
        conn.exchange.peer.initialWindowSize) crossed windows) :
    conn.sendWindows.Shifted (conn.exchange.peer.apply changes).initialWindowSize windows := by
  have valid := sound.exchange.setPeer (Exchange.allowed_of_readParameters read)
  have initial := sound.sendInitial
  rcases shifts with ⟨same, -, rfl⟩ | shifted
  · exact .refl sound.send (by omega)
  · rw [← initial] at shifted
    exact .of_shift sound.send valid.peer.initialWindowSize_le shifted

theorem Slides.mem_crossed {delta : Int} (shifts : Slides windows delta crossed moved)
    {before : Int}
    (held : windows.stream? id = some before) (low : before ≤ 0) (high : 0 < before + delta) :
    id ∈ crossed := by
  rcases shifts with ⟨rfl, -, -⟩ | shifted
  · omega
  · obtain ⟨-, rises, -⟩ := shift_eq shifted
    exact (rises id).mpr ⟨before, held, low, high⟩

private theorem creditedOn_eq {increment : Nat} {crossed : Bool} (stands : id ≠ 0)
    (found : conn.sendWindows.stream? id = some window)
    (entered : conn.sendWindows.credit id increment = .ok crossed windows) :
    conn.creditedOn id increment window =
      if crossed && 0 < windows.available id && windows.isParked id then
        { conn with sendWindows := windows.unpark id }.flush id
      else { conn with sendWindows := windows } := by
  obtain ⟨-, crosses, rfl⟩ := credit_stream_eq stands found entered
  -- a stream with credit has a positive window, so it has crossed if it had none before
  have enough : 0 < (conn.sendWindows.setWindow id (window + increment)).available id →
      0 < window + increment := by
    unfold available
    rw [stream?_setWindow stands, if_pos rfl, Option.getD_some]
    omega
  unfold creditedOn
  simp only [crosses, Bool.and_eq_true, decide_eq_true_eq, isParked, List.contains_iff_mem]
  split
  · rename_i waits
    rw [if_pos ⟨⟨⟨waits.1, enough waits.2.1⟩, waits.2.1⟩, waits.2.2⟩]
  · rename_i rests
    rw [if_neg fun waits => rests ⟨waits.1.1.1, waits.1.2, waits.2⟩]

theorem Dealt.receipt {frame : Frame} (sound : conn.Sound) (dealt : Dealt conn frame result after) :
    Receipt conn frame result after := by
  by_cases control : frame.isControl
  · exact .calm control (dealt.quiet control)
  have unstaged := sound.exchange.staged
  cases dealt with
  | overspent short => exact .overspent rfl (chargeConnection_fails short)
  | data paid dealt =>
    obtain ⟨fits, rfl⟩ := chargeConnection_eq paid
    exact dealt.receipt sound fits
  | ackNotDue none => exact .ackNotDue (Exchange.acknowledge_eq_none none)
  | @unlimited _ _ exchange _ due failed =>
    have valid : { conn with exchange }.exchange.Sound := sound.exchange.acknowledge due
    exact absurd failed (receiveWindows_shift_ne_error valid sound.topped sound.receiveInitial _)
  | @acknowledged _ _ exchange _ _ due shifts =>
    have valid : { conn with exchange }.exchange.Sound := sound.exchange.acknowledge due
    have synced := Slides.synced valid sound.receive sound.receiveInitial shifts
    obtain ⟨batch, rest, outstanding, rfl, -⟩ := Exchange.acknowledge_eq due
    exact .acknowledged outstanding synced
  | malformed fault =>
    rw [← unstaged]
    exact .malformed fault
  | outgrown read failed =>
    rw [unstaged, Option.getD_none, List.nil_append] at failed ⊢
    obtain ⟨id, window, -, held, large⟩ := shift_fails failed
    rw [learned, ← unstaged]
    exact .outgrown read held large
  | applied read shifts =>
    rw [unstaged, Option.getD_none, List.nil_append] at shifts ⊢
    rw [learned, ← unstaged]
    have shifted := shifts.shifted sound read
    refine .applied read shifted fun id before now held held' low high => ?_
    rw [shifted.stream, held, Option.map_some, Option.some.injEq, sound.sendInitial] at held'
    exact shifts.mem_crossed held low (by simp only [Commit.windowDelta]; omega)
  | zeroCredit => exact .zeroCredit
  | overfilled failed => exact .creditOverflow (credit_fails rfl failed)
  | @credited _ crossed _ positive entered =>
    have low := sound.send.connection_low
    obtain ⟨fits, crosses, rfl⟩ := credit_connection_eq entered
    have chosen : crossed = decide (conn.sendWindows.connection ≤ 0) := by
      rw [crosses, decide_eq_decide]
      omega
    rw [chosen]
    exact .credited positive fits
  | uncredited stands =>
    refine .unwanted stands ?_ ?_
    · rintro _ ⟨⟩
      refine ⟨missingStream_mild conn _ _, fun harmless => ?_⟩
      rw [missingStream_isFatal] at harmless
      cases harmless
    · rintro ⟨⟩
  | unneeded stands held dead =>
    refine .unwanted stands ?_ fun _ =>
      ⟨by simp [held], Registry.cargo?_eq_none_of_closed held dead⟩
    rintro _ ⟨⟩
  | emptyCredit stands =>
    refine .unwanted stands ?_ ?_
    · rintro _ ⟨⟩
      exact ⟨mild_protocolError, fun _ => rfl⟩
    · rintro ⟨⟩
  | overflowed stands held live failed =>
    obtain ⟨window, found⟩ := sound.sendWindow_of_live held live
    refine .streamOverflow stands found (credit_fails ?_ failed)
    rw [window?, if_neg stands, found]
  | served stands held live positive entered waits =>
    obtain ⟨window, found⟩ := sound.sendWindow_of_live held live
    have receipt := Receipt.streamCredited stands positive found
      (credit_stream_eq stands found entered).1
    rwa [creditedOn_eq stands found entered, if_pos waits] at receipt
  | saved stands held live positive entered rests =>
    obtain ⟨window, found⟩ := sound.sendWindow_of_live held live
    have receipt := Receipt.streamCredited stands positive found
      (credit_stream_eq stands found entered).1
    rwa [creditedOn_eq stands found entered, if_neg (Bool.eq_false_iff.mp rests)] at receipt
  | _ => exact absurd rfl control

theorem receiveFrame_receipt (sound : conn.Sound) (frame : Frame) :
    (receiveFrame frame).Leads conn (Receipt conn frame) :=
  (receiveFrame_dealt conn frame).mono fun _ _ dealt => dealt.receipt sound

end Http2.Connection
