import Http2.Proofs.Draining

/-!
# Waiting streams take turns

When credit comes in, the waiting streams are served in the order in which they began to wait, each
of them once and for as long as the connection has credit.  A stream that has still not sent
everything goes to the end of the queue, behind those that have not had their turn.
-/

namespace Http2.Connection

open List

def serve (conn : Connection) (id : Nat) : Connection :=
  { conn with sendWindows := conn.sendWindows.unpark id }.flush id

def hungers (conn : Connection) (id : Nat) : Bool :=
  (conn.registry.get? id).any fun stream => stream.phase.canSend && decide (0 < stream.buffered)

variable {conn after : Connection} {id : Nat} {pieces : List Octets} {others waiting : List Nat}
  {frame : Frame} {stream : Stream}

private theorem hungers_eq (conn : Connection) (id : Nat) :
    conn.hungers id = (conn.registry.cargo? id).any fun cargo =>
      cargo.phase.canSend && decide (0 < cargo.queue.length) := by
  unfold hungers Registry.cargo? Registry.held?
  cases held : conn.registry.get? id with
  | none => rfl
  | some stream =>
    rw [Option.any_some, Option.map_some, Option.filter_some]
    split
    · rfl
    · rename_i dead
      have unable : stream.phase.canSend = false := by
        by_contra sends
        exact dead (Stream.isLive_of_canSend (by simpa using sends))
      rw [unable]
      rfl

private theorem stream_of_mem_dataFrames {closing : Bool}
    (member : frame ∈ dataFrames id closing pieces) :
    frame.stream = id := by
  induction pieces with
  | nil => cases member
  | cons piece rest ih =>
    cases rest with
    | nil =>
      rw [mem_singleton.mp member]
      rfl
    | cons =>
      rcases mem_cons.mp member with rfl | later
      · rfl
      · exact ih later

private theorem stream_of_mem_sendings {encoder : Header.Table} {whole : Bool}
    (member : frame ∈ stream.sendings id encoder whole pieces) : frame.stream = id := by
  unfold Stream.sendings at member
  split at member
  · split at member
    · rcases mem_append.mp member with member | member
      · exact stream_of_mem_dataFrames member
      · rw [mem_singleton.mp member]
        rfl
    · split at member
      · split at member
        · rw [mem_singleton.mp member]
          rfl
        · exact stream_of_mem_dataFrames member
      · exact stream_of_mem_dataFrames member
  · exact stream_of_mem_dataFrames member

/-- A turn of the stream that has waited longest: only frames of its own are written, and it waits
again if it has not sent everything. -/
structure TookTurn (conn : Connection) (id : Nat) (others : List Nat)
    (after : Connection) : Prop where
  sound : after.Sound
  exchange : after.exchange = conn.exchange
  outbound : ∃ frames : List Frame, (∀ frame ∈ frames, frame.stream = id) ∧
    after.outbound = conn.outbound ++ frames.map (.frame conn.exchange.peer.maxFrameSize)
  parked : after.sendWindows.parked = others ++ if after.hungers id then [id] else []
  rest : ∀ other, other ≠ id → after.hungers other = conn.hungers other

theorem Drained.hungers {left : Buffer} (drained : conn.Drained id stream pieces left after)
    (exact : stream.queue.Exact) (sends : stream.phase.canSend) :
    after.hungers id = !conn.covers id stream := by
  have queued : left.length = stream.buffered - conn.passing id stream := by
    rw [← drained.exact.length_octets, drained.kept, length_drop, exact.length_octets]
    rfl
  have live : Cargo.isLive ⟨stream.phase, left, stream.trailers, stream.endQueued⟩ = true :=
    Stream.isLive_of_canSend sends
  rw [hungers_eq, drained.cargo, if_pos rfl]
  unfold passing at queued
  cases whole : conn.covers id stream with
  | false =>
    have short := of_decide_eq_false whole
    have some : 0 < left.length := by omega
    simp [Stream.leftover, live, sends, some]
  | true =>
    have enough := of_decide_eq_true whole
    cases stream.endQueued with
    | false =>
      have none : left.length = 0 := by omega
      simp [Stream.leftover, none]
    | true =>
      simp only [Stream.leftover, Bool.and_self, if_true, Option.filter_some]
      split
      · simp
      · rfl

private theorem serve_tookTurn (sound : conn.Sound) (first : conn.sendWindows.parked = id :: others)
    (absent : id ∉ others) : conn.TookTurn id others (conn.serve id) := by
  unfold serve
  generalize shape : { conn with sendWindows := conn.sendWindows.unpark id } = base
  have parked : base.sendWindows.parked = others := by
    rw [← shape]
    simp [Windows.unpark, first]
  have known : base.Sound := by
    rw [← shape]
    exact { sound with send := sound.send.setParked _ }
  obtain ⟨same, exchange, outbound⟩ : base.registry = conn.registry ∧
      base.exchange = conn.exchange ∧ base.outbound = conn.outbound := by
    rw [← shape]
    exact ⟨rfl, rfl, rfl⟩
  have alike : ∀ other, base.hungers other = conn.hungers other := by
    intro other
    rw [Connection.hungers, same]
    rfl
  by_cases able : ∃ stream, base.registry.get? id = some stream ∧ stream.phase.canSend
  · obtain ⟨stream, held, sends⟩ := able
    obtain ⟨pieces, left, drained⟩ := flush_drained known held sends
    have written := drained.outbound
    rw [exchange, outbound] at written
    refine ⟨known.flush id, drained.exchange.trans exchange,
      ⟨_, fun _ member => stream_of_mem_sendings member, written⟩, ?_, ?_⟩
    · rw [drained.hungers (known.registry.exact held) sends, drained.parked, parked, if_neg absent,
        erase_of_not_mem absent]
      cases base.covers id stream with
      | false => rfl
      | true => simp
    · intro other apart
      rw [← alike, hungers_eq, drained.cargo, if_neg apart, hungers_eq]
  · rw [flush_of_unable able]
    have sated : base.hungers id = false := by
      unfold Connection.hungers
      rw [Option.any_eq_false]
      intro stream held
      have unable : stream.phase.canSend = false := by
        by_contra sends
        exact able ⟨stream, held, by simpa using sends⟩
      simp [unable]
    refine ⟨known, exchange, ⟨[], forall_mem_nil _, ?_⟩, ?_, fun other _ => alike other⟩
    · rw [outbound, map_nil, append_nil]
    · rw [sated, parked]
      simp

/-- The first `served` of the waiting streams have been served, and the `rest` have not. -/
structure Shared (conn : Connection) (served rest others : List Nat)
    (after : Connection) : Prop where
  turns : after = served.foldl serve conn
  sound : after.Sound
  exchange : after.exchange = conn.exchange
  outbound : ∃ batches, List.Forall₂ (fun id frames => ∀ frame ∈ frames, Frame.stream frame = id)
    served batches ∧
    after.outbound = conn.outbound ++ batches.flatten.map (.frame conn.exchange.peer.maxFrameSize)
  parked : after.sendWindows.parked = rest ++ others ++ served.filter after.hungers
  unserved : ∀ other, other ∉ served → after.hungers other = conn.hungers other
  spent : rest ≠ [] → after.sendWindows.connection = 0

theorem Shared.cons {served rest : List Nat} (turned : conn.TookTurn id waiting (conn.serve id))
    (shared : (conn.serve id).Shared served rest
      (others ++ if (conn.serve id).hungers id then [id] else []) after) (once : id ∉ served) :
    conn.Shared (id :: served) rest others after := by
  obtain ⟨frames, about, written⟩ := turned.outbound
  obtain ⟨batches, abouts, writtens⟩ := shared.outbound
  have mood := shared.unserved id once
  refine ⟨shared.turns, shared.sound, shared.exchange.trans turned.exchange,
    ⟨frames :: batches, .cons about abouts, ?_⟩, ?_, fun other absent => ?_, shared.spent⟩
  · rw [writtens, written, turned.exchange, flatten_cons, map_append, append_assoc]
  · rw [shared.parked, filter_cons, mood]
    split <;> simp
  · rw [mem_cons, not_or] at absent
    rw [shared.unserved other absent.2, turned.rest other absent.1]

/-- The streams that waited first are served first.  The streams in `others` wait behind them. -/
theorem resumeFirst_shared (sound : conn.Sound)
    (queue : conn.sendWindows.parked = waiting ++ others) (nodup : (waiting ++ others).Nodup) :
    ∃ served rest, waiting = served ++ rest ∧
      conn.Shared served rest others (resumeFirst waiting.length conn) := by
  induction waiting generalizing conn others with
  | nil =>
    refine ⟨[], [], rfl, rfl, sound, rfl, ⟨[], .nil, ?_⟩, ?_, fun _ _ => rfl,
      fun some => absurd rfl some⟩
    · simp [resumeFirst]
    · simp [resumeFirst, queue]
  | cons id waiting ih =>
    rw [length_cons, resumeFirst]
    split
    · rename_i low
      have window : conn.sendWindows.connection = 0 := Int.le_antisymm low sound.send.connection_low
      refine ⟨[], id :: waiting, rfl, rfl, sound, rfl, ⟨[], .nil, ?_⟩, ?_,
        fun _ _ => rfl, fun _ => window⟩
      · simp
      · simp [queue]
    · rw [cons_append] at queue nodup
      obtain ⟨absent, nodup⟩ := nodup_cons.mp nodup
      have popped : conn.sendWindows.popParked? = some (id, conn.sendWindows.unpark id) := by
        unfold Windows.popParked? Windows.unpark
        rw [queue]
        simp
      have turned := serve_tookTurn sound queue absent
      have behind := turned.parked
      rw [append_assoc] at behind
      have still :
          (waiting ++ (others ++ if (conn.serve id).hungers id then [id] else [])).Nodup := by
        rw [← append_assoc]
        split
        · exact Nodup.append nodup (nodup_singleton id) (disjoint_singleton.mpr absent)
        · rwa [append_nil]
      obtain ⟨served, rest, split, shared⟩ := ih turned.sound behind still
      rw [popped]
      refine ⟨id :: served, rest, congrArg (id :: ·) split, shared.cons turned ?_⟩
      intro again
      apply absent
      rw [split]
      simp [again]

/-- Waiting streams are served in the order in which they began to wait, each of them once, until
all have been served or the connection has no credit left.  Those who could send more wait again,
behind all that have not been served. -/
theorem resume_fair (primed : connection.Primed) :
    ∃ served rest batches, connection.sendWindows.parked = served ++ rest ∧ served.Nodup ∧
      connection.resume = served.foldl serve connection ∧
      (rest ≠ [] → connection.resume.sendWindows.connection = 0) ∧
      List.Forall₂ (fun id frames => ∀ frame ∈ frames, Frame.stream frame = id) served batches ∧
      connection.resume.outbound = connection.outbound ++
        batches.flatten.map (.frame connection.exchange.peer.maxFrameSize) ∧
      connection.resume.sendWindows.parked = rest ++ served.filter connection.resume.hungers := by
  obtain ⟨sound, nodup⟩ := primed.sound
  have queue := (List.append_nil connection.sendWindows.parked).symm
  obtain ⟨served, rest, split, shared⟩ := resumeFirst_shared sound queue (by rwa [List.append_nil])
  obtain ⟨batches, about, written⟩ := shared.outbound
  have parked := shared.parked
  rw [List.append_nil] at parked
  rw [split] at nodup
  exact ⟨served, rest, batches, split, nodup.of_append_left, shared.turns, shared.spent,
    about, written, parked⟩

def starving : Session :=
  Session.newClient.after [.receive [0, 0, 6, 4, 0, 0, 0, 0, 0, 0, 4, 0, 0, 0, 0],
    .call (.createStream [] none false), .call (.createStream [] none false),
    .call (.createStream [] none false), .call (.sendData 1 [1, 2, 3] true),
    .call (.sendData 3 [4] true), .call (.sendData 5 [5, 6, 7] false)]

/-- The peer has granted enough for what the second stream has queued, but not for the others. -/
def relieved : Connection :=
  { starving.connection with
    sendWindows := ((starving.connection.sendWindows.setWindow 1 2).setWindow 3 2).setWindow 5 1 }

private theorem relieved_primed : relieved.Primed := by
  have run : starving.Run _ := (Session.Run.create Session.create_newClient).after _
  have rest : starving.connection.Primed := ⟨_, _, run, by decide +kernel, .refl⟩
  have first := rest.nudge
    (@Nudge.credited _ 1 2 true (starving.connection.sendWindows.setWindow 1 2) (by decide +kernel))
  have second := first.nudge
    (@Nudge.credited _ 3 2 true ((starving.connection.sendWindows.setWindow 1 2).setWindow 3 2)
      (by decide +kernel))
  have third := second.nudge (@Nudge.credited _ 5 1 true relieved.sendWindows (by decide +kernel))
  exact third

theorem resume_fair_relieved :
    relieved.Primed ∧ relieved.sendWindows.parked = [1, 3, 5] ∧
      relieved.resume.sendWindows.parked = [1, 5] ∧
      ∃ served rest batches, relieved.sendWindows.parked = served ++ rest ∧ served.Nodup ∧
        relieved.resume = served.foldl serve relieved ∧
        (rest ≠ [] → relieved.resume.sendWindows.connection = 0) ∧
        List.Forall₂ (fun id frames => ∀ frame ∈ frames, Frame.stream frame = id) served batches ∧
        relieved.resume.outbound = relieved.outbound ++
          batches.flatten.map (.frame relieved.exchange.peer.maxFrameSize) ∧
        relieved.resume.sendWindows.parked = rest ++ served.filter relieved.resume.hungers :=
  ⟨relieved_primed, by decide +kernel, by decide +kernel, resume_fair relieved_primed⟩

end Http2.Connection
