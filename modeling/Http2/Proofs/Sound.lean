import Http2.Proofs.Calm

/-!
# Sound connections

What is true of a connection from its beginning to its end.  Above all the streams with windows are
just the live ones, and the initial windows on both sides are those of the settings.
-/

namespace Http2.Connection

open Registry Windows

structure Sound (conn : Connection) : Prop where
  registry : conn.registry.Sound
  exchange : conn.exchange.Sound
  send : conn.sendWindows.Sound
  receive : conn.receiveWindows.Sound
  topped : conn.receiveWindows.Topped
  sendInitial : conn.sendWindows.initial = conn.exchange.peer.initialWindowSize
  receiveInitial : conn.receiveWindows.initial = conn.receiveInitial
  limit : conn.receiveInitial = conn.receiveLimit .initialWindowSize
  target : conn.receiveTarget ≤ maxWindow
  sendLive : ∀ id, (conn.sendWindows.stream? id).isSome = (conn.registry.cargo? id).isSome
  receiveLive :
    ∀ id, (conn.receiveWindows.stream? id).isSome = (conn.registry.cargo? id).isSome

namespace Sound

variable {conn after : Connection} {id : Nat} {registry : Registry}
  {stream : Stream} {reason : Reason} {reasons : Reason → Prop}

variable (sound : conn.Sound)

include sound

theorem congr (registry : after.registry = conn.registry)
    (exchange : after.exchange = conn.exchange) (send : after.sendWindows = conn.sendWindows)
    (receive : after.receiveWindows = conn.receiveWindows)
    (initial : after.receiveInitial = conn.receiveInitial)
    (target : after.receiveTarget = conn.receiveTarget) :
    after.Sound := by
  obtain ⟨_, _, _, _, _, _, _, _, _, _, _⟩ := sound
  constructor <;> simp_all [receiveLimit]

theorem setRegistry (new : registry.Sound)
    (same : ∀ id, (registry.cargo? id).isSome = (conn.registry.cargo? id).isSome) :
    { conn with registry }.Sound :=
  { sound with
    registry := new
    sendLive := fun id => (sound.sendLive id).trans (same id).symm
    receiveLive := fun id => (sound.receiveLive id).trans (same id).symm }

theorem sendWindow_none_of_idle (idle : conn.registry.isIdle id) :
    conn.sendWindows.stream? id = none := by
  have live := sound.sendLive id
  rw [cargo?_eq_none_of_missing (sound.registry.fresh id idle)] at live
  simpa using live

theorem receiveWindow_none_of_idle (idle : conn.registry.isIdle id) :
    conn.receiveWindows.stream? id = none := by
  have live := sound.receiveLive id
  rw [cargo?_eq_none_of_missing (sound.registry.fresh id idle)] at live
  simpa using live

theorem sendWindow_of_live (held : conn.registry.get? id = some stream) (live : stream.isLive) :
    ∃ window, conn.sendWindows.stream? id = some window := by
  rw [← Option.isSome_iff_exists, sound.sendLive, cargo?_of_get? held live]
  rfl

theorem receiveWindow_of_live (held : conn.registry.get? id = some stream) (live : stream.isLive) :
    ∃ window, conn.receiveWindows.stream? id = some window := by
  rw [← Option.isSome_iff_exists, sound.receiveLive, cargo?_of_get? held live]
  rfl

/-! ## Streams -/

theorem take (takes : conn.registry.Takes id registry) : { conn with registry }.Sound :=
  sound.setRegistry (takes.sound sound.registry) fun other => by rw [takes.cargo?]

theorem add (takes : conn.registry.Takes id registry) (live : stream.isLive)
    (empty : ¬ stream.cargo.Waits) :
    ({ conn with registry }.addStream id stream).Sound := by
  have taken := takes.sound sound.registry
  have idle := takes.idle_before sound.registry.nextLocal
  have unlisted : id ∉ registry.closed := by
    have closed : registry.closed = conn.registry.closed := by rw [takes.same]
    rw [closed]
    exact sound.registry.unlisted id idle
  have cargo : stream.cargo.Sound := by
    refine ⟨?_, fun _ => empty, fun trailers => absurd (.inr (.inl trailers)) empty⟩
    rw [show stream.cargo.queue = {} from Decidable.not_not.mp fun some => empty (.inl some)]
    exact Buffer.exact_empty
  have opened : ∀ windows : Windows,
      (∀ id, (windows.stream? id).isSome = (conn.registry.cargo? id).isSome) → ∀ other,
      ((windows.openStream id).stream? other).isSome =
        ((registry.insert id stream).cargo? other).isSome := by
    intro windows before other
    rw [stream?_openStream, cargo?_insert]
    split
    · simp [live]
    · rw [before other, takes.cargo?]
  refine
    { sound with
      registry :=
        taken.insert (takes.ne_zero sound.registry) (takes.used_after sound.registry.nextLocal)
        cargo fun _ => unlisted
      send := sound.send.openStream id
      receive := sound.receive.openStream id
      topped := ?_
      sendInitial := ?_
      receiveInitial := ?_
      sendLive := opened _ sound.sendLive
      receiveLive := opened _ sound.receiveLive }
  · intro other window held
    simp only [addStream, stream?_openStream, initial_openStream] at held ⊢
    split at held
    · rw [sound.receiveWindow_none_of_idle idle] at held
      cases held
      exact Int.le_refl _
    · exact sound.topped other window held
  · simpa [addStream] using sound.sendInitial
  · simpa [addStream] using sound.receiveInitial

theorem finish (stream : Stream) (reason : Option Reason) (stands : id ≠ 0)
    (used : conn.registry.isIdle id = false) (fits : stream.cargo.Sound)
    (closed : stream.isLive = false) :
    ({ conn with
      registry := conn.registry.insert id stream }.finishStream id reason).Sound := by
  have finished : ∀ windows : Windows,
      (∀ id, (windows.stream? id).isSome = (conn.registry.cargo? id).isSome) → ∀ other,
      ((windows.closeStream id).stream? other).isSome =
        ((((conn.registry.insert id stream).detachChildren id).markClosed id).2.cargo?
          other).isSome := by
    intro windows before other
    rw [stream?_closeStream, sound.registry.cargo?_finish closed]
    split
    · rfl
    · exact before other
  exact
    { sound with
      registry := sound.registry.finish stands used fits closed
      send := sound.send.closeStream id
      receive := sound.receive.closeStream id
      topped := by
        intro other window held
        simp only [finishStream, emit, stream?_closeStream] at held
        split at held
        · cases held
        · exact sound.topped other window held
      sendLive := finished _ sound.sendLive
      receiveLive := finished _ sound.receiveLive }

theorem refuseStream (takes : conn.registry.Takes id registry) :
    ({ conn with registry }.refuseStream id reason).Sound := by
  have refused : (({} : Stream).reset reason).isLive = false := rfl
  have fits := ({} : Stream).reset_sound reason
  refine (sound.setRegistry (takes.sound_refuse sound.registry fits refused) fun other => ?_).congr
    rfl
    rfl rfl rfl rfl rfl
  rw [takes.cargo?_refuse sound.registry fits refused]

theorem advance {signal : Signal} {next : Stream} (held : conn.registry.get? id = some stream)
    (moves : stream.advance? signal = some next) (live : next.isLive) :
    { conn with registry := conn.registry.insert id next }.Sound := by
  have present := cargo?_of_get? held (Stream.isLive_of_advance? moves live)
  refine sound.setRegistry (sound.registry.insert (sound.registry.ne_zero held)
    (sound.registry.used held)
    ((sound.registry.cargo held).advance moves) fun _ => sound.registry.unlisted_of_live present)
    fun other => ?_
  rw [cargo?_insert]
  split
  · rename_i same
    rw [← same, present]
    simp [live]
  · rfl

theorem drop {announced : Bool} {error : Error} :
    (conn.dropStream id reason announced error).Sound := by
  rcases dropStream_eq conn id reason announced error with same | ⟨stream, _, _, held, -, same⟩ <;>
    rw [same]
  · exact sound
  · exact (sound.finish (stream.reset reason) (some reason) (sound.registry.ne_zero held)
      (sound.registry.used held) (stream.reset_sound reason) rfl).congr rfl rfl rfl rfl rfl rfl

/-! ## Credit for the peer -/

theorem setReceiveConnection {window : Int} (low : 0 ≤ window) (high : window ≤ maxWindow) :
    { conn with
      receiveWindows := { conn.receiveWindows with connection := window } }.Sound :=
  { sound with receive := sound.receive.setConnection low high }

theorem refill {target : Nat} (fits : id = 0 ∨ target = conn.receiveInitial) :
    (conn.refill id target).Sound := by
  unfold Connection.refill
  split
  · exact sound
  · rename_i increment windows refilled
    obtain ⟨window, held, short, -, rfl⟩ := refill_eq refilled
    suffices filled : { conn with
        receiveWindows := conn.receiveWindows.setWindow id
          (min target maxWindow : Nat) }.Sound from filled.congr rfl rfl rfl rfl rfl rfl
    by_cases stands : id = 0
    · simp only [setWindow, if_pos stands]
      exact sound.setReceiveConnection (by omega) (by omega)
    · obtain rfl : target = conn.receiveInitial := fits.resolve_left stands
      rw [window?, if_neg stands] at held
      have initial := sound.receiveInitial
      have high := sound.receive.initial_high
      have full : (min conn.receiveInitial maxWindow : Nat) = conn.receiveWindows.initial := by
        omega
      have streams : ∀ other, (conn.receiveWindows.setWindow id
          (min conn.receiveInitial maxWindow : Nat)).stream? other =
            if id = other then some ((min conn.receiveInitial maxWindow : Nat) : Int)
            else conn.receiveWindows.stream? other := stream?_setWindow stands
      refine
        { sound with
          receive := sound.receive.setWindow stands held (by omega) (by omega)
          topped := ?_
          receiveInitial := by simpa [setWindow, stands] using initial
          receiveLive := fun other => ?_ }
      · intro other value set
        have same :
            (conn.receiveWindows.setWindow id (min conn.receiveInitial maxWindow : Nat)).initial =
              conn.receiveWindows.initial := by
          simp [setWindow, stands]
        simp only [streams] at set
        rw [same]
        split at set
        · cases set
          exact Int.le_of_eq full
        · exact sound.topped other value set
      · rw [streams]
        split
        · rename_i same
          rw [← same, ← sound.receiveLive, held]
          rfl
        · exact sound.receiveLive other

theorem calm (calm : Calm reasons conn after) : after.Sound := by
  cases calm with
  | emit | tables | farewell | write => exact sound.congr rfl rfl rfl rfl rfl rfl
  | target lower => exact { sound with target := Nat.le_trans lower sound.target }
  | take takes => exact sound.take takes
  | skip skips =>
    refine sound.setRegistry (sound.registry.skipTo skips) fun other => ?_
    obtain ⟨-, -, rfl⟩ := skipTo_eq skips
    rfl
  | add takes live empty => exact sound.add takes live empty
  | refuseOwn takes =>
    exact (sound.take takes).finish _ _ (takes.ne_zero sound.registry)
      (takes.used_after sound.registry.nextLocal) (Stream.reset_sound ..) rfl
  | refuseStream takes => exact sound.refuseStream takes
  | touch id same =>
    refine sound.setRegistry
      (sound.registry.of_held fun other => held?_modify _ id other _ same) fun other => ?_
    simp only [cargo?, held?_modify _ id other _ same]
  | reprioritize id priority =>
    refine sound.setRegistry (sound.registry.reprioritize priority) fun other => ?_
    simp only [cargo?, held?_reprioritize]
  | advance held moves live => exact sound.advance held moves live
  | finish held moves closed =>
    exact sound.finish _ none (sound.registry.ne_zero held) (sound.registry.used held)
      ((sound.registry.cargo held).advance moves) closed
  | drop => exact sound.drop
  | refill fits => exact sound.refill fits
  | grow larger fits credited =>
    obtain ⟨bound, -, rfl⟩ := credit_connection_eq credited
    have := sound.receive.connection_low
    exact { sound.setReceiveConnection (by omega) bound with target := fits }

end Sound

end Http2.Connection
