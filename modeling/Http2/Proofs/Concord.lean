import Http2.Proofs.Isolation
import Http2.Proofs.Record
import Http2.Proofs.Steady

/-!
# Two ends agree about their streams

Calls and frames keep the streams attuned, as long as they neither end the session nor say farewell.
So in a `Pair` of sessions that say no farewell, each end has its streams where the frames put them
that it has written and heard.  When nothing is in flight, one end has heard all that the other has
written, and the two have the same streams in dual phases.
-/

namespace Http2.Connection

variable {conn after : Connection}

private theorem called_tunes (sound : conn.Sound) {call : Call} (stays : call.isFarewell = false) :
    Tunes [] conn.scene (conn.called call).scene := by
  have deaf : heardIn (conn.gives call) = [] := by
    unfold gives
    cases (perform call).run conn <;> cases call <;> rfl
  exact deaf ▸ (called_plays (fun _ => sound) stays).tunes

private theorem handle_tunes (sound : conn.Sound) (was : conn.closed = false)
    (unsaid : conn.farewell.sent = none) {frame : Frame} (stays : frame.last? = none)
    (going : (conn.handle frame).closed = false) :
    Tunes [frame] conn.scene (conn.handle frame).scene := by
  rcases handle_treated sound was frame with heeds | ⟨-, closes⟩
  · exact heeds.tunes unsaid stays
  · cases going.symm.trans (congrArg Scene.closed closes)

/-! ## One end -/

/-- An end that stands where the frames put it, and that says no farewell. -/
structure InPlace (past heard : List Frame) (connection : Connection) : Prop where
  attuned : connection.scene.Attuned past heard
  unsaid : connection.farewell.sent = none
  staying : lastsIn connection.queued = []

namespace InPlace

variable {past heard hears : List Frame}

variable (inPlace : conn.InPlace past heard)

include inPlace

theorem next {born : List Nat}
    (tunes : Tunes hears conn.scene after.scene) (steady : Steady born conn after) :
    after.InPlace past (heard ++ hears) where
  attuned := tunes past heard inPlace.attuned
  unsaid := by rw [steady.farewell, inPlace.unsaid]
  staying := by
    obtain ⟨written, queued, silent⟩ := steady.queued
    rw [queued, lastsIn_append, inPlace.staying, silent]
    rfl

theorem called (sound : conn.Sound) {call : Call}
    (stays : call.isFarewell = false) : (conn.called call).InPlace past heard := by
  obtain ⟨born, steady, -⟩ := called_makes (fun _ => sound) stays
  simpa using inPlace.next (called_tunes sound stays) steady

theorem handle (sound : conn.Sound)
    (was : conn.closed = false) {frame : Frame} (stays : frame.last? = none)
    (going : (conn.handle frame).closed = false) :
    (conn.handle frame).InPlace past (heard ++ [frame]) := by
  have tunes := handle_tunes sound was inPlace.unsaid stays going
  rcases handle_steady conn stays with ⟨born, steady⟩ | ⟨middle, error, -, failed⟩
  · exact inPlace.next tunes steady
  · rw [failed, closed_fail] at going
    cases going

theorem transmit : { conn with outbound := [] }.InPlace (past ++ conn.queued) heard where
  attuned id := by
    have accords := inPlace.attuned id
    rwa [← List.append_nil (past ++ conn.scene.queued)] at accords
  unsaid := inPlace.unsaid
  staying := rfl

end InPlace

end Http2.Connection

namespace Http2.Session

open Connection (InPlace)

private theorem create_inPlace {role : Role} {config : Config} {now : Nat} {session : Session}
    (created : create role config now = .ok session) : session.connection.InPlace [] [] := by
  have fresh : (fresh role config).InPlace [] [] := by
    refine ⟨fun id => ?_, rfl, by cases role <;> rfl⟩
    have none : (fresh role config).queued = [] := by cases role <;> rfl
    change View.Accords (voiceOf id (fresh role config).queued) {}
      ((fresh role config).registry.view id)
    rw [none]
    rcases fresh_view role config id with unused | gone
    · rw [unused]
      exact ⟨rfl, rfl⟩
    · rw [gone]
      exact .inr rfl
  exact create_induct created fresh fun sound call inPlace =>
    inPlace.called sound (by rcases call with rfl | rfl <;> rfl)

end Http2.Session

namespace Http2

/-! ## Two ends -/

def Turn.isFarewell : Turn → Bool
  | call asked => asked.isFarewell
  | close => true
  | _ => false

namespace Pair

open Session
open Connection (InPlace)

/-- Pairs that have come about without a farewell of either application. -/
inductive Staying : Pair → Prop
  | start {clientConfig serverConfig : Config} {clientNow serverNow : Nat} {client server : Session}
      (first : Session.create .client clientConfig clientNow = .ok client)
      (second : Session.create .server serverConfig serverNow = .ok server) :
      Staying (start client server)
  | turn {pair : Pair} (staying : Staying pair) (side : Role) {turn : Turn}
      (stays : turn.isFarewell = false) :
      Staying (pair.step side turn)

/-- Each end stands where the frames put it that it has written and heard. -/
structure Concord (heard : Role → List Frame) (pair : Pair) : Prop where
  inPlace : ∀ side, InPlace (heard side.peer ++ pair.inbound side.peer) (heard side)
    (pair.connection side)
  passes : ∀ side, lastsIn (pair.inbound side) = []

variable {pair after : Pair} {side : Role} {heard : Role → List Frame}

theorem Staying.reachable (staying : pair.Staying) : pair.Reachable := by
  induction staying with
  | start first second => exact .start first second
  | turn _ side _ ih => exact ih.turn side _

theorem Staying.sound (staying : pair.Staying) (opened : (pair.connection side).closed = false) :
    (pair.connection side).Sound :=
  ((staying.reachable.sound side).here opened).1

theorem Staying.play (staying : pair.Staying) (turns : List (Role × Turn))
    (stays : ∀ turn ∈ turns, turn.2.isFarewell = false) : (pair.play turns).Staying := by
  unfold Pair.play
  induction turns generalizing pair with
  | nil => exact staying
  | cons first rest ih =>
    obtain ⟨now, later⟩ := List.forall_mem_cons.mp stays
    exact ih (staying.turn first.1 now) later

theorem connection_step_peer (pair : Pair) (side : Role) (turn : Turn) :
    (pair.step side turn).connection side.peer = pair.connection side.peer := by
  cases turn with
  | nextEvent =>
    simp only [step]
    split <;> simp
  | deliver =>
    simp only [step]
    split <;> simp [connection, put, side.peer_ne]
  | transmit => simp [step, connection, put, side.peer_ne]
  | _ => simp [step]

theorem opened_before {turn : Turn} (stays : turn.isFarewell = false)
    (opened : ((pair.step side turn).connection side).closed = false) :
    (pair.connection side).closed = false := by
  by_contra was
  have closed : (pair.session side).connection.closed = true := Bool.not_eq_false _ ▸ was
  suffices ends : ((pair.step side turn).connection side).closed = true from by
    cases ends.symm.trans opened
  cases turn with
  | call call =>
    rw [step, connection_put_self, connection_call]
    exact (Connection.called_closed closed call).1
  | close => cases stays
  | tick now => simp [step, tick, deadline?, closed]
  | nextEvent =>
    simp only [step, nextEvent?]
    split
    · exact closed
    · rename_i taken
      split at taken <;> cases taken
      simpa using closed
  | takeEvents | transmit => simpa [step, connection, put, takeEvents, takeOutbound] using closed
  | deliver =>
    cases next : pair.inbound side with
    | nil =>
      simp only [step, next]
      exact closed
    | cons frame rest =>
      rw [connection_deliver next, Session.handle, if_pos closed]
      exact closed

namespace Concord

variable (concord : pair.Concord heard)

include concord

theorem next {hears : List Frame} (still : after.connection side.peer = pair.connection side.peer)
    (behind : after.inbound side.peer = pair.inbound side.peer)
    (ahead : pair.inbound side = hears ++ after.inbound side)
    (inPlace : InPlace (heard side.peer ++ pair.inbound side.peer) (heard side ++ hears)
      (after.connection side)) :
    after.Concord (Function.update heard side (heard side ++ hears)) where
  inPlace other := by
    rcases Role.eq_or_eq_peer other side with rfl | rfl
    · simpa [other.peer_ne, behind] using inPlace
    · simpa [side.peer_ne, ahead, still] using concord.inPlace side.peer
  passes other := by
    rcases Role.eq_or_eq_peer other side with rfl | rfl
    · have silent := concord.passes other
      rw [ahead, lastsIn_append] at silent
      exact (List.append_eq_nil_iff.mp silent).2
    · rw [behind]
      exact concord.passes side.peer

theorem put {session : Session}
    (inPlace : InPlace (heard side.peer ++ pair.inbound side.peer) (heard side)
      session.connection) :
    ∃ heard, (pair.put side session).Concord heard := by
  refine ⟨_, concord.next (connection_put_peer ..) rfl (List.nil_append _).symm ?_⟩
  rwa [connection_put_self, List.append_nil]

theorem transmit (side : Role) : (pair.step side .transmit).Concord heard where
  inPlace other := by
    rcases Role.eq_or_eq_peer other side with rfl | rfl
    · have sent := (concord.inPlace other).transmit
      simpa [Pair.step, connection, Pair.put, takeOutbound, inFlight] using sent
    · rw [connection_step_peer]
      simpa [Pair.step, Pair.put, side.peer_ne, side.peer_ne.symm] using concord.inPlace side.peer
  passes other := by
    rcases Role.eq_or_eq_peer other side with rfl | rfl
    · simpa [Pair.step, Pair.put, other.peer_ne, other.peer_ne.symm] using concord.passes other
    · have silent : lastsIn (pair.inFlight side.peer) = [] := by
        rw [inFlight, lastsIn_append, concord.passes, Role.peer_peer,
          (concord.inPlace side).staying]
        rfl
      simpa [Pair.step, Pair.put] using silent

theorem deliver (sound : (pair.connection side).Sound) (was : (pair.connection side).closed = false)
    (opened : ((pair.step side .deliver).connection side).closed = false) :
    ∃ heard, (pair.step side .deliver).Concord heard := by
  cases next : pair.inbound side with
  | nil =>
    simp only [Pair.step, next]
    exact ⟨heard, concord⟩
  | cons frame rest =>
    have handled := connection_deliver next
    rw [connection_handle was] at handled
    have stays : frame.last? = none := by
      have silent := concord.passes side
      rw [next, lastsIn, List.filterMap_eq_nil_iff] at silent
      exact silent frame (List.mem_cons_self ..)
    rw [handled] at opened
    have inPlace := (concord.inPlace side).handle sound was stays opened
    refine ⟨_, concord.next (connection_step_peer ..) ?_ ?_ (handled ▸ inPlace)⟩
    · simp [Pair.step, next, side.peer_ne]
    · simp [Pair.step, next]

theorem step {turn : Turn} (sound : (pair.connection side).Sound)
    (was : (pair.connection side).closed = false)
    (stays : turn.isFarewell = false)
    (opened : ((pair.step side turn).connection side).closed = false) :
    ∃ heard, (pair.step side turn).Concord heard := by
  have here := concord.inPlace side
  cases turn with
  | call call =>
    refine concord.put ?_
    rw [connection_call]
    exact here.called sound stays
  | close => cases stays
  | tick now =>
    refine concord.put ?_
    rw [Pair.step, connection_put_self] at opened
    rcases connection_tick _ now with same | ⟨-, same⟩ <;> rw [same] at opened ⊢
    · exact here
    · cases opened.symm.trans (Connection.closed_fail ..)
  | nextEvent =>
    simp only [Pair.step, nextEvent?]
    split
    · exact ⟨heard, concord⟩
    · rename_i taken
      split at taken <;> cases taken
      exact concord.put ⟨here.attuned, here.unsaid, here.staying⟩
  | takeEvents => exact concord.put ⟨here.attuned, here.unsaid, here.staying⟩
  | transmit => exact ⟨heard, concord.transmit side⟩
  | deliver => exact concord.deliver sound was opened

end Concord

theorem Staying.concord (staying : pair.Staying)
    (opened : ∀ side, (pair.connection side).closed = false) :
    ∃ heard, pair.Concord heard := by
  induction staying with
  | start first second =>
    refine ⟨fun _ => [], fun side => ?_, fun _ => rfl⟩
    cases side with
    | client => exact create_inPlace first
    | server => exact create_inPlace second
  | @turn pair staying side turn stays ih =>
    have was : ∀ other, (pair.connection other).closed = false := by
      intro other
      rcases Role.eq_or_eq_peer other side with rfl | rfl
      · exact opened_before stays (opened other)
      · rw [← connection_step_peer pair side turn]
        exact opened side.peer
    obtain ⟨heard, concord⟩ := ih was
    exact concord.step (staying.sound (was side)) (was side) stays (opened side)

/-- When the wire is quiet, a live stream of one end is live at the other, in the dual phase. -/
theorem Concord.answers (concord : pair.Concord heard) (quiet : ∀ side, pair.inFlight side = [])
    {id : Nat} {near : Stream} (held : (pair.connection side).registry.get? id = some near)
    (live : near.isLive) :
    near.phase ≠ .idle ∧ ∃ far, (pair.connection side.peer).registry.get? id = some far ∧
      far.isLive = true ∧ far.phase = near.phase.dual := by
  -- what one end has written is what the other has heard
  have stands : ∀ side, ((pair.connection side).registry.view id).Accords
      (voiceOf id (heard side.peer)) (voiceOf id (heard side)) := fun side => by
    have all : ((pair.connection side).registry.view id).Accords
        (voiceOf id ((heard side.peer ++ pair.inbound side.peer) ++ (pair.connection side).queued))
        (voiceOf id (heard side)) := (concord.inPlace side).attuned id
    have none := quiet side.peer
    rw [inFlight, Role.peer_peer] at none
    rwa [List.append_assoc, none, List.append_nil] at all
  have here := stands side
  have there := stands side.peer
  rw [Role.peer_peer] at there
  rw [Registry.view_of_get? held live] at here
  obtain ⟨other, view, dual⟩ := View.Accords.dual here live there
  refine ⟨here.2, ?_⟩
  rcases Registry.view_cases (pair.connection side.peer).registry id with
    ⟨far, held, live, same⟩ | ⟨-, same⟩
  · cases same.symm.trans view
    exact ⟨far, held, live, dual⟩
  · rw [same] at view
    split at view <;> cases view

/-- Without a farewell, and with nothing in flight, two open sessions have the same live streams,
each in the dual phase of the other. -/
theorem streams_agree (staying : pair.Staying)
    (opened : ∀ side, (pair.connection side).closed = false)
    (quiet : ∀ side, pair.inFlight side = []) (side : Role) (id : Nat) :
    (id ∈ (pair.connection side).registry.liveIds ↔
      id ∈ (pair.connection side.peer).registry.liveIds) ∧
      ∀ near far, (pair.connection side).registry.get? id = some near →
        (pair.connection side.peer).registry.get? id = some far → near.isLive = true →
        near.phase ≠ .idle ∧ far.phase = near.phase.dual := by
  obtain ⟨heard, concord⟩ := staying.concord opened
  have carried : ∀ side, id ∈ (pair.connection side).registry.liveIds →
      id ∈ (pair.connection side.peer).registry.liveIds := fun side live => by
    obtain ⟨near, held, live⟩ := Registry.isLive_iff.mp (Registry.mem_liveIds_iff.mp live)
    obtain ⟨-, far, there, live, -⟩ := concord.answers quiet held live
    exact Registry.mem_liveIds_iff.mpr (Registry.isLive_iff.mpr ⟨far, there, live⟩)
  refine ⟨⟨carried side, fun live => ?_⟩, fun near far held there live => ?_⟩
  · have back := carried side.peer live
    rwa [Role.peer_peer] at back
  · obtain ⟨begun, other, found, -, dual⟩ := concord.answers quiet held live
    obtain rfl := Option.some.inj (there.symm.trans found)
    exact ⟨begun, dual⟩

/-- The client has asked three times.  The server has promised one more stream, and both have reset
the last of the three at once. -/
def resting : Pair := (start Session.newClient (Session.newServer [])).play
  [(.client, .call (.createStream [] none false)), (.client, .call (.createStream [] none true)),
    (.client, .call (.createStream [] none false)), (.client, .transmit), (.server, .transmit),
    (.client, .deliver), (.server, .deliver), (.server, .deliver), (.server, .deliver),
    (.server, .deliver), (.server, .call (.pushPromise 1 [])), (.server, .call (.reset 5 .cancel)),
    (.client, .call (.reset 5 .cancel)), (.server, .transmit), (.client, .transmit),
    (.client, .deliver),
    (.client, .deliver), (.client, .deliver), (.server, .deliver), (.server, .deliver)]

theorem streams_agree_resting :
    (resting.connection .client).phase? 1 = some .opened ∧
    (resting.connection .client).phase? 2 = some .reservedRemote ∧
    (resting.connection .client).phase? 3 = some .halfClosedLocal ∧
    (resting.connection .client).phase? 5 = some .closed ∧
    ∀ id, (id ∈ (resting.connection .client).registry.liveIds ↔
        id ∈ (resting.connection .server).registry.liveIds) ∧
      ∀ near far, (resting.connection .client).registry.get? id = some near →
        (resting.connection .server).registry.get? id = some far → near.isLive = true →
        near.phase ≠ .idle ∧ far.phase = near.phase.dual := by
  have created : Session.create .server { settings := [] } 0 = .ok (Session.newServer []) := rfl
  have staying : resting.Staying :=
    (Staying.start Session.create_newClient created).play _ (by decide +kernel)
  have opened : ∀ side, (resting.connection side).closed = false := by
    rintro (_ | _) <;> decide +kernel
  have quiet : ∀ side, resting.inFlight side = [] := by
    rintro (_ | _) <;> decide +kernel
  exact ⟨by decide +kernel, by decide +kernel, by decide +kernel, by decide +kernel,
    streams_agree staying opened quiet .client⟩

end Pair

end Http2
