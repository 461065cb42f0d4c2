import Http2.Proofs.Run

/-!
# No stalled sender

A stream that could send and has something to send waits in the queue of parked streams, with octets
to send and no credit for them.  Credit comes in through two windows, so a stream may have credit
for a while and still wait to be served: `Parked exempt hungry` allows this for the first `hungry`
streams of the queue, and leaves out the stream that is being served.  Handing out credit takes
`hungry` down to zero.
-/

namespace Http2

open Registry Windows List

namespace Connection

structure Pending (conn : Connection) (id : Nat) (cargo : Cargo) : Prop where
  held : conn.registry.cargo? id = some cargo
  sends : cargo.phase.canSend
  waits : cargo.Waits

structure Parked (exempt : Option Nat) (hungry : Nat) (conn : Connection) : Prop where
  nodup : conn.sendWindows.parked.Nodup
  live : ∀ id ∈ conn.sendWindows.parked, (conn.registry.cargo? id).isSome
  pending : ∀ id cargo, conn.Pending id cargo → exempt ≠ some id →
    id ∈ conn.sendWindows.parked ∧ cargo.queue ≠ {} ∧
      (conn.sendWindows.available id = 0 ∨ id ∈ conn.sendWindows.parked.take hungry)

theorem Pending.modified {conn : Connection} {id : Nat} {f : Stream → Stream} {cargo : Cargo}
    (now : (conn.modifyStream id f).Pending id cargo) :
    ∃ stream, conn.registry.get? id = some stream ∧ (f stream).cargo = cargo := by
  obtain ⟨stream, held, -, rfl⟩ := cargo?_eq_some_iff.mp now.held
  rw [modifyStream, get?_modify, if_pos rfl] at held
  obtain ⟨before, found, rfl⟩ := Option.map_eq_some_iff.mp held
  exact ⟨before, found, rfl⟩

variable {reasons : Reason → Prop} {conn middle after : Connection} {exempt : Option Nat}
  {hungry id : Nat}

private theorem mem_take_erase {parked : List Nat} {other : Nat}
    (member : other ∈ parked.take hungry) (differ : other ≠ id) :
    other ∈ (parked.erase id).take hungry := by
  induction parked generalizing hungry with
  | nil => simp at member
  | cons first rest ih =>
    cases hungry with
    | zero => simp at member
    | succ hungry =>
      rw [take_succ_cons] at member
      by_cases same : first = id
      · rw [same, erase_cons_head]
        have later := mem_of_ne_of_mem (same ▸ differ) member
        exact take_subset_take_left rest (Nat.le_succ hungry) later
      · rw [erase_cons_tail (by simpa using same), take_succ_cons]
        rcases mem_cons.mp member with rfl | member
        · exact mem_cons_self
        · exact mem_cons_of_mem first (ih member)

namespace Parked

variable {stream : Stream}

theorem keep (parked : Parked exempt hungry conn)
    (same : after.sendWindows.parked = conn.sendWindows.parked)
    (live : ∀ id, (conn.registry.cargo? id).isSome → (after.registry.cargo? id).isSome)
    (pending : ∀ id cargo, after.Pending id cargo → exempt ≠ some id →
      ∃ before, conn.Pending id before ∧ before.queue = cargo.queue ∧
        (conn.sendWindows.available id = 0 → after.sendWindows.available id = 0)) :
    Parked exempt hungry after := by
  refine ⟨?_, ?_, ?_⟩
  · rw [same]
    exact parked.nodup
  · intro id member
    rw [same] at member
    exact live id (parked.live id member)
  · intro id cargo now free
    obtain ⟨before, was, queue, dry⟩ := pending id cargo now free
    obtain ⟨member, full, starved⟩ := parked.pending id before was free
    rw [same, ← queue]
    exact ⟨member, full, starved.imp_left dry⟩

theorem congr (parked : Parked exempt hungry conn)
    (cargo : ∀ id, after.registry.cargo? id = conn.registry.cargo? id)
    (windows : after.sendWindows = conn.sendWindows) : Parked exempt hungry after := by
  refine parked.keep (by rw [windows]) (fun id live => by rwa [cargo]) ?_
  intro id load now _
  refine ⟨load, ⟨(cargo id).symm.trans now.held, now.sends, now.waits⟩, rfl, ?_⟩
  rw [windows]
  exact fun dry => dry

theorem settle (parked : Parked (some id) hungry conn) (idle : ∀ cargo, ¬ conn.Pending id cargo) :
    Parked none hungry conn := by
  refine ⟨parked.nodup, parked.live, fun other load now _ => parked.pending other load now ?_⟩
  rintro ⟨⟩
  exact idle load now

section

variable (parked : Parked none hungry conn) (sound : conn.Sound)

include parked

theorem leave (erased : after.sendWindows.parked = conn.sendWindows.parked.erase id)
    (cargo : ∀ other, other ≠ id → after.registry.cargo? other = conn.registry.cargo? other)
    (available : ∀ other, other ≠ id → after.sendWindows.available other =
      conn.sendWindows.available other) :
    Parked (some id) hungry after := by
  refine ⟨?_, ?_, ?_⟩
  · rw [erased]
    exact parked.nodup.erase id
  · intro other member
    rw [erased, parked.nodup.mem_erase_iff] at member
    rw [cargo other member.1]
    exact parked.live other member.2
  · intro other load now free
    have apart : other ≠ id := by
      rintro rfl
      exact free rfl
    have was : conn.Pending other load :=
      ⟨(cargo other apart).symm.trans now.held, now.sends, now.waits⟩
    obtain ⟨member, full, starved⟩ := parked.pending other load was nofun
    rw [erased, available other apart]
    refine ⟨(mem_erase_of_ne apart).mpr member, full, ?_⟩
    exact starved.imp_right fun early => mem_take_erase early apart

theorem add {registry : Registry} (takes : conn.registry.Takes id registry)
    (live : stream.isLive) (empty : ¬ stream.cargo.Waits) :
    Parked none hungry ({ conn with registry }.addStream id stream) := by
  have cargo : ∀ other, (registry.insert id stream).cargo? other =
      if id = other then some stream.cargo else conn.registry.cargo? other := by
    intro other
    rw [cargo?_insert_live _ _ _ live, takes.cargo?]
  refine parked.keep (parked_openStream _ _) ?_ ?_
  · intro other was
    rw [addStream, cargo]
    split
    · rfl
    · exact was
  · intro other load now _
    have held := now.held
    rw [addStream, cargo] at held
    split at held
    · cases held
      exact absurd now.waits empty
    · rename_i differ
      refine ⟨load, ⟨held, now.sends, now.waits⟩, rfl, ?_⟩
      unfold available
      simp only [addStream, connection_openStream, stream?_openStream, if_neg differ]
      exact fun dry => dry

theorem except (id : Nat) : Parked (some id) hungry conn :=
  ⟨parked.nodup, parked.live, fun other load now _ => parked.pending other load now nofun⟩

include sound

theorem finish {reason : Option Reason} (closed : stream.isLive = false) :
    Parked none hungry
      ({ conn with
        registry := conn.registry.insert id stream }.finishStream id reason) := by
  have cargo := @Registry.Sound.cargo?_finish _ id _ sound.registry closed
  refine (parked.leave rfl (fun other apart => ?_) (fun other apart => ?_)).settle ?_
  · exact (cargo other).trans (if_neg (Ne.symm apart))
  · have window : (conn.sendWindows.closeStream id).stream? other =
      conn.sendWindows.stream? other := by
      rw [stream?_closeStream, if_neg (Ne.symm apart)]
    unfold available
    simp only [finishStream, emit, window]
    rfl
  · intro load now
    have gone := (cargo id).symm.trans now.held
    simp at gone

theorem dropStream {reason : Reason} {announced : Bool} {error : Error} :
    Parked none hungry (conn.dropStream id reason announced error) := by
  rcases dropStream_eq conn id reason announced error with same | ⟨stream, _, _, held, -, same⟩ <;>
    rw [same]
  · exact parked
  · have gone := @finish conn hungry id (stream.reset reason) parked sound (some reason) rfl
    exact gone.congr (fun _ => rfl) rfl

theorem advance {signal : Signal} {next : Stream}
    (held : conn.registry.get? id = some stream) (moves : stream.advance? signal = some next)
    (live : next.isLive) :
    Parked none hungry
      { conn with registry := conn.registry.insert id next } := by
  have lived := Stream.isLive_of_advance? moves live
  obtain ⟨phase, moved, rfl⟩ := Option.map_eq_some_iff.mp moves
  have present := cargo?_of_get? held lived
  refine parked.keep rfl ?_ ?_
  · intro other was
    rw [cargo?_insert_live _ _ _ live]
    split
    · rfl
    · exact was
  · intro other load now _
    have found := now.held
    rw [cargo?_insert_live _ _ _ live] at found
    split at found
    · rename_i same
      cases same
      cases found
      have waits : stream.cargo.Waits := now.waits
      have sends : stream.phase.canSend := by
        refine (Phase.canSend_of_next? moved now.sends).resolve_right fun early => ?_
        exact (sound.registry.cargo held).early early waits
      exact ⟨stream.cargo, ⟨present, sends, waits⟩, rfl, fun dry => dry⟩
    · exact ⟨load, ⟨found, now.sends, now.waits⟩, rfl, fun dry => dry⟩

theorem calm (calm : Calm reasons conn after) : Parked none hungry after := by
  cases calm with
  | emit | tables | farewell | target | write | grow => exact parked.congr (fun _ => rfl) rfl
  | take takes => exact parked.congr takes.cargo? rfl
  | skip skips =>
    obtain ⟨-, -, rfl⟩ := skipTo_eq skips
    exact parked.congr (fun _ => rfl) rfl
  | add takes live empty => exact parked.add takes live empty
  | @refuseOwn id registry takes =>
    have taken : Parked none hungry { conn with registry } :=
      parked.congr takes.cargo? rfl
    exact taken.finish (sound.take takes) rfl
  | refuseStream takes =>
    exact parked.congr (takes.cargo?_refuse sound.registry (Stream.reset_sound ..) rfl) rfl
  | touch id same =>
    refine parked.congr (fun other => ?_) rfl
    simp only [modifyStream, cargo?, held?_modify _ id other _ same]
  | reprioritize id priority =>
    refine parked.congr (fun other => ?_) rfl
    simp only [Connection.reprioritize, cargo?, held?_reprioritize]
  | advance held moves live => exact parked.advance sound held moves live
  | finish held moves closed =>
    exact parked.finish sound closed
  | drop => exact parked.dropStream sound
  | refill =>
    refine parked.congr (fun _ => by rw [registry_refill]) ?_
    unfold Connection.refill
    split <;> rfl

theorem calms (calms : Calms reasons conn after) : Parked none hungry after := by
  induction calms with
  | refl => exact parked
  | tail before last ih => exact ih.calm (sound.calms before) last

end

/-! ## Serving a stream -/

section

variable (parked : Parked (some id) hungry conn)

include parked

theorem requeue {f : Stream → Stream}
    (phase : ∀ stream, conn.registry.get? id = some stream → (f stream).phase = stream.phase) :
    Parked (some id) hungry (conn.modifyStream id f) := by
  refine parked.keep rfl ?_ ?_
  · intro other live
    rwa [modifyStream, isSome_cargo?_modify phase]
  · intro other load now free
    have held := now.held
    rw [modifyStream, cargo?_modify phase, if_neg] at held
    · exact ⟨load, ⟨held, now.sends, now.waits⟩, rfl, fun dry => dry⟩
    · rintro rfl
      exact free rfl

theorem spend (registry : after.registry = conn.registry)
    (same : after.sendWindows.parked = conn.sendWindows.parked)
    (total : after.sendWindows.connection ≤ conn.sendWindows.connection)
    (others : ∀ other, other ≠ id → after.sendWindows.stream? other =
      conn.sendWindows.stream? other) :
    Parked (some id) hungry after := by
  refine parked.keep same (fun other live => by rwa [registry]) ?_
  intro other load now free
  refine ⟨load, ⟨registry ▸ now.held, now.sends, now.waits⟩, rfl, ?_⟩
  have apart : other ≠ id := by
    rintro rfl
    exact free rfl
  unfold available
  rw [others other apart]
  omega

theorem park (live : (conn.registry.cargo? id).isSome)
    (full : ∀ cargo, conn.Pending id cargo → cargo.queue ≠ {})
    (dry : conn.sendWindows.available id = 0) :
    Parked none hungry
      { conn with sendWindows := conn.sendWindows.park id } := by
  have available : ∀ other, (conn.sendWindows.park id).available other =
      conn.sendWindows.available other := by
    intro other
    unfold Windows.available
    rw [connection_park, stream?_park]
  have places := parked_park conn.sendWindows id
  have mono : ∀ other, other ∈ conn.sendWindows.parked →
      other ∈ (conn.sendWindows.park id).parked := by
    intro other member
    rw [places]
    split
    · exact member
    · exact mem_append_left _ member
  have here : id ∈ (conn.sendWindows.park id).parked := by
    rw [places]
    split
    · assumption
    · exact mem_append_right _ mem_cons_self
  have first : ∀ other, other ∈ conn.sendWindows.parked.take hungry →
      other ∈ (conn.sendWindows.park id).parked.take hungry := by
    intro other member
    rw [places]
    split
    · exact member
    · rw [take_append]
      exact mem_append_left _ member
  refine ⟨?_, ?_, ?_⟩
  · simp only [places]
    split
    · exact parked.nodup
    · rename_i absent
      refine nodup_append.mpr ⟨parked.nodup, by simp, ?_⟩
      intro other member last same
      cases mem_singleton.mp same
      rintro rfl
      exact absent member
  · intro other member
    simp only [places] at member
    split at member
    · exact parked.live other member
    · rcases mem_append.mp member with member | member
      · exact parked.live other member
      · cases mem_singleton.mp member
        exact live
  · intro other load now _
    have was : conn.Pending other load := ⟨now.held, now.sends, now.waits⟩
    simp only [available]
    by_cases same : other = id
    · subst same
      exact ⟨here, full load was, .inl dry⟩
    · obtain ⟨member, full, starved⟩ := parked.pending other load was (by simpa using Ne.symm same)
      exact ⟨mono other member, full, starved.imp_right (first other)⟩

theorem flushed (sound : conn.Sound)
    (flushed : Flushed reasons conn id after) : Parked none hungry after := by
  have registry : ∀ {limit closing queue left middle},
      sendQueue id limit closing queue conn = (left, middle) →
      middle.registry = conn.registry := by
    intro limit closing queue left middle sent
    have same := registry_sendQueue id limit closing queue conn
    rwa [sent] at same
  -- the state once the queue of the stream has been sent as far as possible
  have sent : ∀ {limit closing queue left middle}, sendQueue id limit closing queue conn =
      (left, middle) →
      Parked (some id) hungry (middle.modifyStream id fun stream => { stream with
        queue := left }) := by
    intro limit closing queue left middle sent
    have places := parked_sendQueue id limit closing queue conn
    obtain ⟨total, others⟩ := windows_sendQueue id limit closing queue conn
    rw [sent] at places total others
    exact (parked.spend (registry sent) places total others).requeue fun _ _ => rfl
  have empty : ∀ {stream limit closing left middle}, conn.registry.get? id = some stream →
      sendQueue id limit closing stream.queue conn = (left, middle) → left.length = 0 →
      left = {} := by
    intro stream limit closing left middle held sent
    have exact := exact_sendQueue id limit closing conn (sound.registry.exact held)
    rw [sent] at exact
    exact exact.length_eq_zero_iff.mp
  cases flushed with
  | passed silent =>
    refine parked.settle fun cargo now => ?_
    obtain ⟨stream, held, -, rfl⟩ := cargo?_eq_some_iff.mp now.held
    have sends := now.sends
    simp only [Stream.cargo, silent stream held] at sends
    cases sends
  | @blocked stream closing left middle held sends done rest =>
    have limit : 0 < conn.exchange.peer.maxFrameSize := sound.exchange.peer.maxFrameSize_pos
    have live := Stream.isLive_of_canSend sends
    have dry := available_sendQueue id _ closing conn (sound.registry.exact held) limit
    have alive : (middle.registry.cargo? id).isSome := by
      rw [registry done, cargo?_of_get? held live]
      rfl
    rw [done] at dry
    refine (sent done).park ?_ ?_ (dry rest)
    · have same : ((middle.registry.modify id fun stream =>
          { stream with queue := left }).cargo? id).isSome =
            (middle.registry.cargo? id).isSome := by
        rw [isSome_cargo?_modify]
        exact fun _ _ => rfl
      exact same.trans alive
    · intro cargo now
      obtain ⟨_, -, rfl⟩ := now.modified
      exact fun empty => rest (congrArg Buffer.length empty)
  | @emptied stream closing left middle held sends done spent lasts =>
    obtain rfl := empty held done spent
    refine (sent done).settle fun cargo now => ?_
    obtain ⟨other, found, rfl⟩ := now.modified
    rw [registry done] at found
    obtain rfl : stream = other := Option.some.inj (held.symm.trans found)
    have waits := now.waits
    simp [Cargo.Waits, Stream.cargo, lasts] at waits
  | @ended stream closing left middle after held sends done spent calms =>
    obtain rfl := empty held done spent
    have moved : Moves reasons conn
        ((middle.modifyStream id fun stream => { stream with queue := {} }).modifyStream id
          Stream.endSent) := (moves_of_sent held sends done).tail (.endSent _ id)
    have requeued : Parked (some id) hungry
        ((middle.modifyStream id fun stream => { stream with queue := {} }).modifyStream id
          Stream.endSent) := (sent done).requeue fun _ _ => rfl
    refine Parked.calms (requeued.settle fun cargo now => ?_) (sound.moves moved) calms
    obtain ⟨other, found, rfl⟩ := now.modified
    rw [modifyStream, get?_modify, if_pos rfl] at found
    obtain ⟨before, -, rfl⟩ := Option.map_eq_some_iff.mp found
    have waits := now.waits
    simp [Cargo.Waits, Stream.cargo, Stream.endSent] at waits

theorem flush (sound : conn.Sound) :
    Parked none hungry (conn.flush id) ∧ (conn.flush id).Sound := by
  have flushed : Flushed (fun _ => True) conn id (conn.flush id) :=
    flush_flushed conn id
  exact ⟨parked.flushed sound flushed, sound.moves flushed.moves⟩

end

/-! ## Handing out credit -/

theorem starve (parked : Parked exempt hungry conn)
    (empty : conn.sendWindows.connection ≤ 0) : Parked exempt 0 conn := by
  refine ⟨parked.nodup, parked.live, fun id load now free => ?_⟩
  obtain ⟨member, full, -⟩ := parked.pending id load now free
  refine ⟨member, full, .inl ?_⟩
  unfold available
  omega

theorem pop (parked : Parked none (hungry + 1) conn) {others : List Nat}
    (first : conn.sendWindows.parked = id :: others) :
    Parked (some id) hungry
      { conn with sendWindows := { conn.sendWindows with parked := others } } := by
  have nodup := parked.nodup
  rw [first, nodup_cons] at nodup
  refine ⟨nodup.2, fun other member => ?_, fun other load now free => ?_⟩
  · exact parked.live other (first ▸ mem_cons_of_mem id member)
  · have apart : other ≠ id := by
      rintro rfl
      exact free rfl
    obtain ⟨member, full, starved⟩ :=
      parked.pending other load ⟨now.held, now.sends, now.waits⟩ nofun
    rw [first, take_succ_cons] at starved
    rw [first] at member
    refine ⟨mem_of_ne_of_mem apart member, full, ?_⟩
    exact starved.imp_right fun early => mem_of_ne_of_mem apart early

theorem resumeFirst (parked : Parked none hungry conn) (sound : conn.Sound) :
    Parked none 0 (resumeFirst hungry conn) := by
  induction hungry generalizing conn with
  | zero => exact parked
  | succ count ih =>
    unfold Connection.resumeFirst
    split
    · rename_i empty
      exact parked.starve empty
    · split
      · rename_i popped
        have empty : conn.sendWindows.parked = [] := by
          unfold popParked? at popped
          split at popped
          · assumption
          · cases popped
        refine ⟨parked.nodup, parked.live, fun id load now free => ?_⟩
        obtain ⟨member, -, -⟩ := parked.pending id load now free
        simp [empty] at member
      · rename_i id windows popped
        obtain ⟨others, first, rfl⟩ := popParked?_eq popped
        have taken : Move (fun _ => True) conn
            { conn with sendWindows := { conn.sendWindows with parked := others } } :=
          .wait conn others
        obtain ⟨parked, sound⟩ := (parked.pop first).flush (sound.move taken)
        exact ih parked sound

theorem resume {before : Connection} (parked : Parked none 0 before) (sound : conn.Sound)
    (registry : conn.registry = before.registry)
    (same : conn.sendWindows.parked = before.sendWindows.parked) : Parked none 0 conn.resume := by
  refine resumeFirst ⟨?_, ?_, ?_⟩ sound
  · rw [same]
    exact parked.nodup
  · rw [same, registry]
    exact parked.live
  · intro id load now free
    rw [take_length, same]
    obtain ⟨member, full, -⟩ :=
      parked.pending id load ⟨registry ▸ now.held, now.sends, now.waits⟩ free
    exact ⟨member, full, .inr member⟩

end Parked

/-! ## Frames and calls -/

section Steps

variable {frame : Frame} (parked : Parked none 0 conn) (sound : conn.Sound)

include parked sound

theorem Parked.credited {increment : Nat}
    (fits : conn.sendWindows.connection + increment ≤ maxWindow) :
    Parked none 0 (resumeIf (conn.sendWindows.connection ≤ 0)
        { conn with
          sendWindows := { conn.sendWindows with
            connection := conn.sendWindows.connection + increment } }) := by
  have entered := (entered_connectionCredit sound fits).sound
  unfold resumeIf
  split
  · exact parked.resume entered rfl rfl
  · rename_i positive
    simp only [decide_eq_true_eq] at positive
    refine parked.keep rfl (fun _ live => live) fun id load now _ => ?_
    refine ⟨load, ⟨now.held, now.sends, now.waits⟩, rfl, fun dry => ?_⟩
    have window : ({ conn.sendWindows with
        connection := conn.sendWindows.connection + increment } : Windows).stream? id =
        conn.sendWindows.stream? id := rfl
    unfold available at dry ⊢
    rw [window]
    simp only
    omega

theorem Parked.streamCredited {increment : Nat} {window : Int} (stands : id ≠ 0)
    (held : conn.sendWindows.stream? id = some window) (fits : window + increment ≤ maxWindow) :
    Parked none 0 (creditedOn conn id increment window) := by
  have entered := (entered_streamCredit sound stands held fits).sound
  have total : (conn.sendWindows.setWindow id (window + increment)).connection =
      conn.sendWindows.connection := by
    simp [setWindow, stands]
  have places : (conn.sendWindows.setWindow id (window + increment)).parked =
      conn.sendWindows.parked := by
    simp [setWindow, stands]
  have elsewhere : ∀ other, other ≠ id →
      (conn.sendWindows.setWindow id (window + increment)).available other =
        conn.sendWindows.available other := by
    intro other apart
    unfold available
    rw [total, stream?_setWindow stands, if_neg (Ne.symm apart)]
  unfold creditedOn
  simp only
  split
  · have taken : Move (fun _ => True) { conn with
          sendWindows := conn.sendWindows.setWindow id (window + increment) }
        { conn with sendWindows :=
          (conn.sendWindows.setWindow id (window + increment)).unpark id } := .wait _ _
    have waiting : Parked (some id) 0 { conn with sendWindows :=
        (conn.sendWindows.setWindow id (window + increment)).unpark id } :=
      parked.leave (congrArg (List.erase · id) places) (fun _ _ => rfl) elsewhere
    exact (waiting.flush (entered.move taken)).1
  · rename_i stays
    refine parked.keep places (fun _ live => live) fun other load now _ => ?_
    have was : conn.Pending other load := ⟨now.held, now.sends, now.waits⟩
    refine ⟨load, was, rfl, fun dry => ?_⟩
    by_cases same : other = id
    · subst same
      -- a stream that waits would have been served, had the credit been enough
      obtain ⟨member, -, -⟩ := parked.pending other load was (Option.some_ne_none _).symm
      refine Nat.eq_zero_of_not_pos fun wet => stays ⟨?_, wet, places ▸ member⟩
      unfold available at dry wet
      rw [held] at dry
      rw [total] at wet
      simp only [Option.getD_some] at dry
      omega
    · exact (elsewhere other same).trans dry

theorem Parked.applied {parameters : List (Nat × Nat)} {changes : List (Setting × Nat)}
    {windows : Windows} {crossed : List Nat} {event : Event}
    (read : Exchange.readParameters parameters = .ok changes)
    (shifted : conn.sendWindows.Shifted (conn.exchange.peer.apply changes).initialWindowSize
    windows) (risen : ∀ id before now, conn.sendWindows.stream? id = some before →
      windows.stream? id = some now → before ≤ 0 → 0 < now → id ∈ crossed) :
    Parked none 0 ((resumeIf (!crossed.isEmpty)
        { conn.write (.settings true []) with
          exchange := { conn.exchange with
            peer := conn.exchange.peer.apply changes }
          sendWindows := windows }).emit event) := by
  have entered := (entered_settings sound read shifted).sound
  suffices served : Parked none 0 (resumeIf (!crossed.isEmpty)
      { conn.write (.settings true []) with
        exchange := { conn.exchange with peer := conn.exchange.peer.apply changes }
        sendWindows := windows }) from served.congr (fun _ => rfl) rfl
  cases crossed with
  | cons first rest => exact parked.resume entered rfl shifted.parked
  | nil =>
    refine parked.keep shifted.parked (fun _ live => live) fun id load now _ => ?_
    refine ⟨load, ⟨now.held, now.sends, now.waits⟩, rfl, fun dry => ?_⟩
    have moved := shifted.stream id
    change windows.available id = 0
    unfold available at dry ⊢
    rw [shifted.connection]
    cases before : conn.sendWindows.stream? id with
    | none =>
      rw [before, Option.map_none] at moved
      simp only [moved, Option.getD_none]
      omega
    | some window =>
      rw [before, Option.map_some] at moved
      have same := risen id window _ before moved
      rw [before, Option.getD_some] at dry
      rw [moved, Option.getD_some]
      refine Nat.eq_zero_of_not_pos fun wet => ?_
      exact absurd (same (by omega) (by omega)) not_mem_nil

theorem Receipt.parked_accepted (receipt : Receipt conn frame (.ok ()) after) :
    Parked none 0 after := by
  cases receipt with
  | calm control quiet => exact parked.calms sound quiet.1
  | @taken _ _ _ window data fits found covered quiet =>
    have drawn : Parked none 0 (conn.drawnOn frame.stream frame.chargedLength window) :=
      parked.congr (fun _ => rfl) rfl
    exact drawn.calms (sound.drawnOn fits found covered) quiet.1
  | acknowledged due synced =>
    obtain ⟨windows, -, rfl⟩ := synced
    exact parked.congr (fun _ => rfl) rfl
  | applied read shifted risen => exact parked.applied sound read shifted risen
  | credited positive fits => exact parked.credited sound fits
  | unwanted => exact parked
  | streamCredited stands positive held fits =>
    exact parked.streamCredited sound stands held fits

theorem Receipt.parked_absorbed {error : Error}
    (receipt : Receipt conn frame (.error error) after) (harmless : error.isFatal = false) :
    Parked none 0 (after.absorb error) := by
  have absorb : ∀ {start after : Connection}, Parked none 0 start → start.Sound →
      Calms Mild start after → Parked none 0 (after.absorb error) := by
    intro start after parked sound calms
    have reset : Calms (fun _ => True) after (after.absorb error) := absorb_calms trivial
    exact (parked.calms sound calms).calms (sound.calms calms) reset
  have drawn : ∀ count, Parked none 0 (conn.drawn count) :=
    fun count => parked.congr (fun _ => rfl) rfl
  cases receipt with
  | calm control quiet => exact absorb parked sound quiet.1
  | refused data fits shut mild known | overdrawn data fits held receives found short =>
    exact absorb (drawn _) (sound.drawn fits) (.single (.refill _ (.inl rfl)))
  | @taken _ _ _ window data fits found covered quiet =>
    have drawn : Parked none 0 (conn.drawnOn frame.stream frame.chargedLength window) :=
      parked.congr (fun _ => rfl) rfl
    exact absorb drawn (sound.drawnOn fits found covered) quiet.1
  | malformed fault =>
    rw [readParameters_isFatal fault] at harmless
    cases harmless
  | unwanted => exact absorb parked sound .refl
  | streamOverflow => exact absorb parked sound .refl
  | overspent | ackNotDue | outgrown | zeroCredit | creditOverflow => cases harmless

theorem Performed.keeps_parked {call : Call} (performed : Performed conn call after) :
    Parked none 0 after := by
  cases performed with
  | calm calms => exact parked.calms sound calms
  | announced allowed synced =>
    obtain ⟨windows, -, rfl⟩ := synced
    exact parked.congr (fun _ => rfl) rfl
  | @queued call id stream f held sends phase cargo =>
    have requeued := (parked.except id).requeue fun stream _ => phase stream
    refine (requeued.flush (sound.requeue fun other held' => ?_)).1
    obtain rfl := Option.some.inj (held.symm.trans held')
    exact ⟨phase _, cargo⟩

theorem Step.keeps_parked {log : List Activity} (opened : conn.closed = false)
    (step : Step conn log after) : after.closed = false → Parked none 0 after := by
  intro lasts
  have finished : ∀ {reason middle written}, Ended reason middle written after →
      Parked none 0 after := by
    intro reason middle written ended
    rw [ended.closed] at lasts
    cases lasts
  cases step with
  | call call => exact (called_of_leads (perform_performed sound call)).keeps_parked parked sound
  | @accept frame _ _ ran =>
    exact ((receiveFrame_receipt sound frame).of_ok ran).parked_accepted parked sound
  | @absorb frame error _ _ ran harmless =>
    exact ((receiveFrame_receipt sound frame).of_error ran).parked_absorbed parked sound harmless
  | collapse _ ran fatal =>
    obtain ⟨_, _, _, ended⟩ := collapse_ended sound opened ran fatal
    exact finished ended
  | fail error =>
    obtain ⟨_, ended⟩ := fail_ended opened error
    exact finished ended
  | close =>
    obtain ⟨_, ended⟩ := close_ended opened
    exact finished ended
  | handOver | tell events => exact parked.congr (fun _ => rfl) rfl

end Steps

end Connection

namespace Session

open Connection (Steps Parked)

theorem Run.parked {session : Session} {log : List Activity} (run : Run session log)
    (opened : session.connection.closed = false) : Parked none 0 session.connection := by
  obtain ⟨role, config, steps⟩ := run.steps
  have begins : Parked none 0 (fresh role config) :=
    ⟨nodup_nil, nofun, fun id cargo now _ => nomatch now.held⟩
  exact Steps.preserves (fun _ conn => conn.closed = false → Parked none 0 conn)
    (fresh_sound role config) (fun _ => begins)
    (fun sound opened held step => step.keeps_parked (held opened) sound opened)
    (fun _ closed opened => by simp [closed] at opened) steps opened

/-- No stream that could send is left waiting: one with anything to send is parked, has octets to
send and no credit for them.  Parked streams are live, and each waits in one place. -/
theorem parked_of_waiting {session : Session} {log : List Activity} (run : Run session log)
    (opened : session.connection.closed = false) :
    session.connection.sendWindows.parked.Nodup ∧
    (∀ id ∈ session.connection.sendWindows.parked,
      ∃ stream, session.connection.registry.get? id = some stream ∧ stream.isLive) ∧
    ∀ id stream, session.connection.registry.get? id = some stream → stream.phase.canSend →
      0 < stream.buffered ∨ stream.trailers.isSome ∨ stream.endQueued →
      id ∈ session.connection.sendWindows.parked ∧ 0 < stream.buffered ∧
        session.connection.sendWindows.available id = 0 := by
  have parked := run.parked opened
  have sound := run.sound opened
  refine ⟨parked.nodup, fun id member => ?_, fun id stream held sends waits => ?_⟩
  · obtain ⟨cargo, live⟩ := Option.isSome_iff_exists.mp (parked.live id member)
    obtain ⟨stream, held, alive, -⟩ := Registry.cargo?_eq_some_iff.mp live
    exact ⟨stream, held, alive⟩
  · have live := Stream.isLive_of_canSend sends
    have present := Registry.cargo?_of_get? held live
    have some : stream.cargo.Waits := by
      refine waits.imp_left fun octets empty => ?_
      rw [Stream.buffered, show stream.queue = {} from empty] at octets
      cases octets
    obtain ⟨member, full, starved⟩ := parked.pending id _ ⟨present, sends, some⟩ nofun
    refine ⟨member, ?_, starved.resolve_right List.not_mem_nil⟩
    exact Nat.pos_of_ne_zero fun none =>
      full ((sound.registry.exact held).length_eq_zero_iff.mp none)

/-- Three octets and the end of the stream against a window of two. -/
theorem parked_of_waiting_blocked :
    ∃ session log, Run session log ∧ session.connection.closed = false ∧
      ∃ stream, session.connection.registry.get? 1 = some stream ∧ stream.phase.canSend ∧
        stream.endQueued ∧ 1 ∈ session.connection.sendWindows.parked ∧ 0 < stream.buffered ∧
        session.connection.sendWindows.available 1 = 0 := by
  have run := (Run.create create_newClient).after [.call (.createStream [] none false),
    .receive [0, 0, 6, 4, 0, 0, 0, 0, 0, 0, 4, 0, 0, 0, 2], .call (.sendData 1 [1, 2, 3] true)]
  have parked := parked_of_waiting run (by decide +kernel)
  refine ⟨_, _, run, by decide +kernel, _, Option.get_mem (by decide +kernel), by decide +kernel,
    by decide +kernel, parked.2.2 1 _ (Option.get_mem _) ?_ ?_⟩
  · decide +kernel
  · decide +kernel

end Session

end Http2
