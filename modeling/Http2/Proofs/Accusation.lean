import Http2.Proofs.Conservation

/-!
# Complaints about flow control

What two sessions send each other fits the windows of the receiver, whatever is in flight.  There is
one exception.  DATA without octets needs no credit, and a sender writes it whatever its windows
are.  A receiver takes it only into a window that is not below zero, and a window falls below zero
when the initial window shrinks.  So the reset that answers an empty DATA frame on such a stream is
the only complaint that a session makes without being asked to.
-/

namespace Http2

namespace Connection

def BelowZero (connection : Connection) (id : Nat) : Prop :=
  ∃ stream window, connection.registry.get? id = some stream ∧ stream.phase.canReceive ∧
    connection.receiveWindows.stream? id = some window ∧ window < 0

variable {conn : Connection} {frame : Frame} {coming : List Frame} {id : Nat}

private theorem empty_of_chargedLength {octets : Octets} {endStream : Bool} {padding : Option UInt8}
    (none : (Frame.data id octets endStream padding).chargedLength = 0) :
    octets = [] ∧ padding = .none := by
  cases padding with
  | none => exact ⟨List.eq_nil_of_length_eq_zero none, rfl⟩
  | some count =>
    simp only [Frame.chargedLength] at none
    omega

theorem Safe.belowZero (safe : conn.Safe (frame :: coming)) (sound : conn.Sound)
    (accuses : conn.Accuses frame) :
    ∃ id endStream, frame = .data id [] endStream none ∧ conn.BelowZero id := by
  cases accuses with
  | @overdrawn _ stream window data held receives found short =>
    have free : frame.chargedLength = 0 := by
      refine Nat.eq_zero_of_not_pos fun charge => ?_
      have fits := safe.covered [] frame coming rfl charge _ (balanceIn_of_window found)
      have known : conn.exchange.own.initialWindowSize ≤ conn.receiveInitial := by
        rw [sound.limit]
        exact Nat.le_max_left _ _
      have initial := sound.receiveInitial
      have now : (conn.exchange.ownAfter (acks [])) = conn.exchange.own := rfl
      rw [chargedOn_nil, now] at fits
      omega
    obtain ⟨octets, endStream, padding, shape⟩ := exists_data data
    rw [shape] at free
    obtain ⟨rfl, rfl⟩ := empty_of_chargedLength free
    refine ⟨frame.stream, endStream, shape, stream, window, held, receives, found, ?_⟩
    rw [shape] at short
    exact short
  | @streamOverflow id increment window stands held large =>
    have room := safe.streamCredit id _ (balanceIn_of_window held)
    have entry : (Frame.windowUpdate id increment).grant id = increment := if_pos rfl
    have high := sound.send.initial_high
    rw [granted_cons, entry] at room
    omega

private theorem queued_refill (conn : Connection) (id target : Nat) :
    ∃ credit, (conn.refill id target).queued = conn.queued ++ credit ∧
      ∀ frame ∈ credit, frame.reason? = none := by
  unfold refill
  split
  · exact ⟨[], (List.append_nil _).symm, nofun⟩
  · refine ⟨_, queued_write _ _, fun frame member => ?_⟩
    cases List.mem_singleton.mp member
    rfl

private theorem queued_resetFaulty {stream : Stream} (held : conn.registry.get? id = some stream)
    (reason : Reason) :
    (conn.resetFaulty id reason).queued = conn.queued ++ [.rstStream id reason.code] := by
  unfold resetFaulty
  rw [held]
  simp only
  split
  · rename_i live
    unfold resetStream dropStream
    rw [held]
    simp only [live, if_true]
    have written := queued_write
      { conn with registry := conn.registry.insert id (stream.reset reason) }
      (.rstStream id reason.code)
    cases stream.hasOutbound <;> exact written
  · exact queued_write conn _

private theorem queued_handle_belowZero (sound : conn.Sound) (below : conn.BelowZero id)
    (endStream : Bool) :
    ∃ credit, (conn.handle (.data id [] endStream none)).queued =
        conn.queued ++ (credit ++ [.rstStream id Reason.flowControlError.code]) ∧
      ∀ frame ∈ credit, frame.reason? = none := by
  obtain ⟨stream, window, held, receives, found, negative⟩ := below
  have leads := receiveFrame_receipt sound (.data id [] endStream none)
  have untaken : ∀ {other : Int}, conn.receiveWindows.stream? id = some other → ¬0 ≤ other := by
    intro other found'
    cases found.symm.trans found'
    omega
  unfold handle
  split
  · rename_i ran
    cases leads.of_ok ran with
    | calm control => cases control
    | taken _ _ found' covered => exact absurd covered (untaken found')
  · rename_i error after ran
    cases leads.of_error ran with
    | calm control => cases control
    | overspent _ excess =>
      exact absurd excess (Int.not_lt.mpr sound.receive.connection_low)
    | refused _ _ shut => exact absurd receives (shut stream held)
    | overdrawn =>
      obtain ⟨credit, queued, silent⟩ :=
        queued_refill (conn.drawn 0) 0 conn.receiveTarget
      have held' : ((conn.drawn 0).refill 0 conn.receiveTarget).registry.get? id =
          some stream := by
        rw [registry_refill]
        exact held
      refine ⟨credit, ?_, silent⟩
      change (resetFaulty _ id .flowControlError).queued = _
      rw [← List.append_assoc]
      exact (queued_resetFaulty held' _).trans (congrArg (· ++ _) queued)
    | taken _ _ found' covered => exact absurd covered (untaken found')

end Connection

namespace Pair

def writes (pair : Pair) (side : Role) (turn : Turn) : List Frame :=
  ((pair.step side turn).connection side).queued.drop (pair.connection side).queued.length

variable {pair : Pair} {side : Role}

theorem writes_deliver {frame : Frame} {rest written : List Frame}
    (next : pair.inbound side = frame :: rest) (opened : (pair.connection side).closed = false)
    (queued : ((pair.connection side).handle frame).queued =
      (pair.connection side).queued ++ written) : pair.writes side .deliver = written := by
  rw [writes, connection_deliver next, Session.connection_handle opened]
  exact (congrArg (List.drop _) queued).trans List.drop_left

/-- On its own account a session complains about flow control in one way only: it resets a stream
whose window is below zero when an empty DATA frame reaches it.  It never closes over it. -/
theorem flowControlError_iff_belowZero (reachable : pair.Reachable) (turn : Turn)
    (unasked : ∀ call, turn = .call call → call.reason? ≠ some .flowControlError) (frame : Frame) :
    frame ∈ pair.writes side turn ∧ frame.reason? = some .flowControlError ↔
      turn = .deliver ∧ ∃ id endStream rest,
        pair.inbound side = .data id [] endStream none :: rest ∧
        (pair.connection side).closed = false ∧ (pair.connection side).BelowZero id ∧
        frame = .rstStream id Reason.flowControlError.code := by
  have sound := reachable.sound
  constructor
  · rintro ⟨member, complains⟩
    have gives := (step_fair sound side turn).given frame member _ complains
    cases turn with
    | call call =>
      rcases gives with refuses | asked
      · cases refuses
      · exact absurd asked (unasked call rfl)
    | close => cases gives
    | tick now => cases gives
    | nextEvent => cases gives
    | takeEvents => cases gives
    | transmit => cases gives
    | deliver =>
      obtain ⟨coming, rest, next, opened, mild | accuses⟩ := gives
      · exact absurd rfl mild
      · obtain ⟨sound, safe⟩ := (sound side).here opened
        rw [inFlight, next, List.cons_append] at safe
        obtain ⟨id, endStream, rfl, below⟩ := safe.belowZero sound accuses
        obtain ⟨credit, queued, silent⟩ := Connection.queued_handle_belowZero sound below endStream
        rw [writes_deliver next opened queued] at member
        refine ⟨rfl, id, endStream, rest, next, opened, below, ?_⟩
        rcases List.mem_append.mp member with member | member
        · rw [silent frame member] at complains
          cases complains
        · exact List.mem_singleton.mp member
  · rintro ⟨rfl, id, endStream, rest, next, opened, below, rfl⟩
    obtain ⟨sound, -⟩ := (sound side).here opened
    obtain ⟨credit, queued, -⟩ := Connection.queued_handle_belowZero sound below endStream
    rw [writes_deliver next opened queued]
    exact ⟨List.mem_append_right _ List.mem_cons_self, rfl⟩

/-- A client has sent three octets on a stream, its server has let the initial window shrink to two,
and the client has ended the stream with an empty frame. -/
def sunk : Pair := (start Session.newClient (Session.newServer [])).play
  [(.client, .call (.createStream [] none false)), (.client, .call (.sendData 1 [1, 2, 3] false)),
    (.client, .transmit), (.server, .deliver), (.server, .deliver), (.server, .deliver),
    (.server, .call (.sendSettings [(.initialWindowSize, 2)] 0)), (.server, .transmit),
    (.client, .deliver), (.client, .deliver), (.client, .deliver),
    (.client, .call (.sendData 1 [] true)), (.client, .transmit),
    (.server, .deliver), (.server, .deliver)]

theorem reachable_sunk : sunk.Reachable := by
  have created : Session.create .server {} 0 = .ok (Session.newServer []) := rfl
  exact (Reachable.start Session.create_newClient created).play _

theorem flowControlError_sunk :
    sunk.inbound .server = [.data 1 [] true none] ∧
    Frame.rstStream 1 3 ∈ sunk.writes .server .deliver := by
  have opened : (sunk.connection .server).closed = false := by decide +kernel
  have inbound : sunk.inbound .server = [.data 1 [] true none] := by decide +kernel
  have receives : ((sunk.connection .server).registry.get? 1).any fun stream =>
      stream.phase.canReceive := by decide +kernel
  have below : ((sunk.connection .server).receiveWindows.stream? 1).any (· < 0) := by
    decide +kernel
  obtain ⟨stream, held, receives⟩ := (Option.any_eq_true _ _).mp receives
  obtain ⟨window, found, below⟩ := (Option.any_eq_true _ _).mp below
  have complaint :=
    (flowControlError_iff_belowZero reachable_sunk .deliver nofun (.rstStream 1 3)).mpr
    ⟨rfl, 1, true, [], inbound, opened,
      ⟨stream, window, held, receives, found, of_decide_eq_true below⟩, rfl⟩
  exact ⟨inbound, complaint.1⟩

/-- So it is not so that two sessions never complain to each other about flow control. -/
theorem not_forall_no_flowControlError :
    ¬∀ pair : Pair, pair.Reachable → ∀ side turn,
      (∀ call, turn = .call call → call.reason? ≠ some .flowControlError) →
      ∀ frame ∈ pair.writes side turn, frame.reason? ≠ some .flowControlError := by
  intro never
  have member : Frame.rstStream 1 3 ∈ sunk.writes .server .deliver := by decide +kernel
  exact never sunk reachable_sunk .server .deliver nofun _ member rfl

end Pair

end Http2
