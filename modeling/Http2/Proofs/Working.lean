import Http2.Proofs.Standing

/-!
# What a connection does of itself

Giving up streams, sending what waits on them, and ending the session are acts that need no input.
So is what the application asks for, but for the octets that it hands over.  As long as nothing is
given up without a word, the streams stay attuned.
-/

namespace Http2.Connection

open Registry Scene Http2.Stream List

variable {conn after : Connection} {id : Nat} {stream next : Stream} {queue left : Buffer}
  {signal : Signal}

/-! ## Giving up streams -/

@[simp] theorem filter_isInput_dropping (id : Nat) (stream : Stream) (reason : Reason)
    (announced : Bool) (error : Error) :
    (dropping id stream reason announced error).filter Mark.isInput = [] := by
  unfold dropping
  cases announced <;> cases stream.hasOutbound <;> rfl

@[simp] theorem filter_isInput_closing (id : Nat) (stream : Stream) :
    (closing id stream).filter Mark.isInput = [] := by
  unfold closing
  cases stream.isLive <;> rfl

theorem dropStream_of_dead {reason : Reason} {announced : Bool} {error : Error}
    (dead : ∀ stream, conn.registry.get? id = some stream → stream.isLive = false) :
    conn.dropStream id reason announced error = conn := by
  unfold dropStream
  split
  · rfl
  · rename_i stream held
    rw [if_neg (by simp [dead stream held])]

section

variable (sound : conn.registry.Sound)

include sound

theorem scene_dropStream (held : conn.registry.get? id = some stream)
    (live : stream.isLive) (reason : Reason) (announced : Bool) (error : Error) :
    (conn.dropStream id reason announced error).scene =
      (conn.scene.noteAll (dropping id stream reason announced error)).setView id .gone := by
  have closed : (stream.reset reason).isLive = false := rfl
  have ended : (conn.registry.insert id (stream.reset reason)).cargo? id = none := by
    rw [cargo?_insert_closed _ _ _ closed, if_pos rfl]
  have reset := scene_insert conn (stream.reset reason) (sound.used held)
  have finish : ∀ after : Connection, after.registry = conn.registry.insert id
      (stream.reset reason) →
      (after.finishStream id (some reason)).scene =
        after.scene.note (.told (.streamClosed id (some reason))) := by
    intro after same
    exact scene_finishStream (same ▸ sound.closed_insert closed) (same ▸ ended) (some reason)
  unfold dropStream dropping
  simp only [held, live, if_true]
  cases announced <;> cases stream.hasOutbound <;>
    simp only [Bool.false_eq_true, if_false, if_true] <;> rw [finish _ rfl] <;>
    simp only [scene_emit, scene_write, reset, setView_note] <;> rfl

theorem dropStream_works (id : Nat) (reason : Reason) (announced : Bool) (error : Error) :
    Works conn.scene (conn.dropStream id reason announced error).scene := by
  rcases view_cases conn.registry id with ⟨stream, held, live, now⟩ | ⟨dead, -⟩
  · rw [scene_dropStream sound held live]
    exact .of_act now (.drop reason announced error)
      (filter_isInput_dropping id stream.bare reason announced error)
  · rw [dropStream_of_dead dead]
    exact .refl _

theorem dropLive_tunes {hears : List Frame}
    (held : conn.registry.get? id = some stream) (live : stream.isLive) (reason : Reason)
    (announced : Bool) (error : Error) (keeps : ∀ frame ∈ hears, frame.keepsTo id)
    (closes : announced = true ∨ ∀ voice : Voice, (voice.hearAll id hears).reset = true) :
    Tunes hears conn.scene (conn.dropStream id reason announced error).scene := by
  rw [scene_dropStream sound held live]
  refine .act_alone _ (view_scene held live) ?_ fun said heard _ => .of_reset ?_
  · rw [saidIn_dropping]
    cases announced <;> simpa using keeps
  · rw [saidIn_dropping]
    rcases closes with rfl | closes
    · exact .inl (by simp)
    · exact .inr (closes heard)

theorem dropStream_plays (id : Nat) (reason : Reason) (error : Error) :
    Plays [] conn.scene (conn.dropStream id reason true error).scene := by
  refine ⟨dropStream_works sound id reason true error, ?_⟩
  rcases view_cases conn.registry id with ⟨stream, held, live, -⟩ | ⟨dead, -⟩
  · exact dropLive_tunes sound held live reason true error (by simp) (.inl rfl)
  · rw [dropStream_of_dead dead]
    exact .refl _

theorem registry_dropStream_sound (id : Nat) (reason : Reason) (announced : Bool) (error : Error) :
    (conn.dropStream id reason announced error).registry.Sound := by
  rcases dropStream_eq conn id reason announced error with same | ⟨stream, _, _, held, -, same⟩ <;>
    rw [same]
  · exact sound
  · exact sound.finish (sound.ne_zero held) (sound.used held)
      (stream.reset_sound reason) (rfl : (stream.reset reason).isLive = false)

theorem dropAll_works (ids : List Nat) (reason : Reason) (error : Nat → Error) :
    Works conn.scene
      (ids.foldl (fun conn id => conn.dropStream id reason false (error id)) conn).scene := by
  refine And.right (@holds_dropAll (fun after => after.registry.Sound ∧
    Works conn.scene after.scene) conn reason error ids ⟨sound, .refl _⟩ fun id so => ?_)
  exact ⟨registry_dropStream_sound so.1 id reason false (error id),
    so.2.trans (dropStream_works so.1 id reason false (error id))⟩

/-! ## The end of the session -/

omit sound in
theorem write_plays (conn : Connection) {frame : Frame} (aside : frame.isAside) :
    Plays [] conn.scene (conn.write frame).scene :=
  scene_write conn frame ▸ Plays.say aside

omit sound in
theorem sayFarewell_works (conn : Connection) (last : Nat) (reason : Reason) (debug : Octets) :
    Works conn.scene (conn.sayFarewell last reason debug).scene :=
  (write_plays conn (show (Frame.goaway last reason.code debug).isAside = true from rfl)).does

private theorem teardown_works (reason : Reason) : Works conn.scene (conn.teardown reason).scene :=
  dropAll_works sound conn.registry.liveIds reason fun _ => .sessionClosed

theorem fail_works (opened : conn.closed = false) (error : Error) :
    ∃ scene, Works conn.scene scene ∧ (conn.fail error).scene = { scene with closed := true } := by
  unfold fail
  rw [opened]
  simp only [Bool.false_eq_true, if_false]
  have told := sayFarewell_works conn conn.registry.lastRemote error.reason
    (Header.encodeUtf8 error.debugText)
  exact ⟨_, (told.trans (@teardown_works (conn.sayFarewell _ _ _) sound error.reason)).trans
    (.tell rfl), rfl⟩

theorem close_works (opened : conn.closed = false) :
    ∃ scene, Works conn.scene scene ∧ conn.close.scene = { scene with closed := true } := by
  unfold close
  rw [opened]
  simp only [Bool.false_eq_true, if_false]
  split
  · have told := sayFarewell_works conn conn.registry.lastRemote .noError []
    exact ⟨_, told.trans (@teardown_works (conn.sayFarewell _ _ _) sound .cancel), rfl⟩
  · exact ⟨_, teardown_works sound .cancel, rfl⟩

end

/-! ## Sending what waits -/

def withQueue (conn : Connection) (id : Nat) (stream : Stream) (queue : Buffer) : Scene :=
  conn.scene.setView id (.live { stream with queue })

/-- How sending a queue can go.  If the stream ends with it, the last frame says so and is left to
the act that ends the stream. -/
inductive Sent (id : Nat) (stream : Stream) (closing : Bool) (queue : Buffer)
    (conn : Connection) (left : Buffer) (after : Connection) : Prop
  | parts (plays : Plays [] (conn.withQueue id stream queue) (after.withQueue id stream left))
      (goesOn : closing = true → left = {} → queue = {})
  | whole {waiting : Buffer} {before : Connection} (ends : closing) (empty : left = {})
      (some : queue ≠ {}) (exact : waiting.Exact)
      (plays : Plays [] (conn.withQueue id stream queue) (before.withQueue id stream waiting))
      (said : after.scene = before.scene.note (.said (.data id waiting.octets true)))

/-- What an act makes of a stream that waits does not depend on how it waited. -/
theorem plays_withQueue {marks : List Mark} {next : View}
    (act : Act id (.live { stream with queue }) marks next) (plain : ∀ mark ∈ marks, mark.isPlain)
    (output : marks.filter Mark.isInput = []) :
    Plays [] (conn.withQueue id stream queue) ((conn.scene.noteAll marks).setView id next) := by
  have plays : Plays [] (conn.withQueue id stream queue) _ :=
    .of_act (view_setView_self ..) act plain output
  rw [withQueue, setView_noteAll, setView_setView] at plays
  exact plays

private theorem dispatch_plays (sends : stream.phase.canSend) {octets : Octets}
    (first : queue.Splits octets left) :
    Plays [] (conn.withQueue id stream queue)
      ((conn.write (.data id octets false none)).withQueue id stream left) := by
  rw [withQueue.eq_1 (conn.write _), scene_writeData]
  have act : Act id (.live { stream with queue }) _ (.live { stream with queue := left }) :=
    .dispatch sends (by exact first)
  exact plays_withQueue act (by simp [Mark.isPlain]) rfl

private theorem sendQueue_sent (limit : Nat) (closing : Bool) (sends : stream.phase.canSend)
    (exact : queue.Exact) (conn : Connection) :
    Sent id stream closing queue conn (sendQueue id limit closing queue conn).1
      (sendQueue id limit closing queue conn).2 := by
  fun_induction sendQueue id limit closing queue conn with
  | case1 | case2 | case3 => exact .parts (.refl _) fun _ empty => empty
  | case4 conn piece rest length count spent windows charged left ih =>
    have first : Buffer.Splits ⟨piece :: rest, length⟩ (piece.take count) left :=
      exact.splits_cut (by omega)
    have later : left.Exact := exact.cut (by omega)
    cases last : closing && decide (left.length = 0) with
    | true =>
      have ends := (Bool.and_eq_true_iff.mp last).1
      have empty : left = {} := by
        rw [← later.length_eq_zero_iff]
        simpa using (Bool.and_eq_true_iff.mp last).2
      have whole : piece.take count = Buffer.octets ⟨piece :: rest, length⟩ := by
        rw [first.octets, empty, Buffer.octets_empty, append_nil]
      rw [empty, sendQueue, whole]
      exact .whole ends rfl (by simp) exact (.refl _)
        (scene_writeData { conn with sendWindows := windows } _ true)
    | false =>
      rw [last] at ih
      have sent : Plays [] ({ conn with sendWindows := windows }.withQueue id stream
          ⟨piece :: rest, length⟩) _ := dispatch_plays sends first
      cases ih later with
      | parts plays goesOn =>
        refine .parts (sent.trans plays) fun ends empty => ?_
        simp [goesOn ends empty, ends] at last
      | whole ends empty some exact plays said =>
        exact .whole ends empty (by simp) exact (sent.trans plays) said

private theorem scene_setQueue (held : conn.registry.get? id = some stream)
    (used : conn.registry.isIdle id = false) (live : stream.isLive) (left : Buffer) :
    (conn.modifyStream id fun stream => { stream with queue := left }).scene =
      conn.withQueue id stream.bare left := by
  rw [scene_modifyStream held used, View.of, if_pos (by exact live)]
  rfl

theorem advance?_bare (moves : stream.advance? signal = some next) :
    stream.bare.advance? signal = some next.bare := by
  obtain ⟨phase, moved, rfl⟩ := Option.map_eq_some_iff.mp moves
  exact Option.map_eq_some_iff.mpr ⟨phase, moved, rfl⟩

private theorem scene_advanceAnyway (sound : conn.registry.Sound)
    (held : conn.registry.get? id = some stream) (moves : stream.advance? signal = some next) :
    (conn.advanceAnyway id signal).scene =
      (conn.scene.noteAll (closing id next)).setView id (.of next.bare) := by
  rw [advanceAnyway_eq held moves, scene_settled sound held]

private theorem scene_ended (sound : conn.Sound) (held : conn.registry.get? id = some stream)
    (moves : stream.endSent.advance? signal = some next) (after : Connection)
    (same : after.registry = (conn.modifyStream id endSent).registry) :
    (after.advanceAnyway id signal).scene =
      (after.scene.noteAll (closing id next)).setView id (.of next.bare) := by
  have ended := sound.move (.endSent conn id : Move Mild _ _)
  exact scene_advanceAnyway (same ▸ ended.registry) (same ▸ get?_modifyStream held) moves

theorem isLive_of_responds (sends : stream.phase.canSend ∨ stream.phase = .reservedLocal) :
    stream.isLive = true := by
  rcases sends with sends | reserved
  · exact isLive_of_canSend sends
  · rw [Stream.isLive, reserved]
    rfl

theorem exists_sendEnd (sends : stream.phase.canSend) :
    ∃ next, stream.advance? .sendEnd = some next := by
  unfold Stream.advance?
  cases phase : stream.phase <;> simp_all [Phase.canSend, Phase.next?]

private theorem trail_plays (sound : conn.Sound) {fields : List Field}
    (held : conn.registry.get? id = some stream)
    (sends : stream.phase.canSend) (waits : stream.trailers = some fields)
    (empty : stream.queue = {}) :
    Plays [] conn.scene
      (((conn.modifyStream id endSent).writeHeaders id fields none true).advanceAnyway id
        (.sendHeaders true)).scene := by
  obtain ⟨next, moves⟩ : ∃ next, stream.endSent.advance? (.sendHeaders true) = some next :=
    exists_sendHeaders (.inl (by exact sends)) true
  have act : Act id (.live stream.bare) _ _ :=
    .trail sends waits empty (advance?_bare moves)
  rw [scene_ended sound held moves (writeHeaders _ id fields none true) rfl, scene_writeHeaders,
    scene_modifyStream held (sound.registry.used held), setView_note, setView_noteAll,
    setView_setView]
  exact .of_act (view_scene held (isLive_of_canSend sends)) act
    (forall_mem_cons.mpr ⟨rfl, isPlain_closing id _⟩) (filter_isInput_closing id next.bare)

private theorem conclude_plays (sound : conn.Sound) {before : Connection} {waiting : Buffer}
    (exact : waiting.Exact)
    (held : conn.registry.get? id = some stream) (sends : stream.phase.canSend)
    (ends : stream.endQueued)
    (empty : stream.queue = {}) (same : after.registry = (conn.modifyStream id endSent).registry)
    (said : after.scene = (before.scene.note (.said (.data id waiting.octets true))).setView id
      (.of stream.endSent.bare)) :
    Plays [] (before.withQueue id stream.bare waiting) (after.advanceAnyway id .sendEnd).scene := by
  obtain ⟨next, moves⟩ : ∃ next, stream.endSent.advance? .sendEnd = some next :=
    exists_sendEnd sends
  have act : Act id (.live { stream.bare with queue := waiting })
      (.said (.data id waiting.octets true) :: closing id next.bare) (.of next.bare) := by
    refine .conclude sends ends exact.splits ?_
    have emptied : { ({ stream.bare with queue := waiting } : Stream).endSent with queue := {} } =
        stream.endSent.bare := by
      rw [← empty]
      rfl
    rw [emptied]
    exact advance?_bare moves
  rw [scene_ended sound held moves after same, said, setView_noteAll, setView_setView]
  exact plays_withQueue act (forall_mem_cons.mpr ⟨rfl, isPlain_closing id _⟩)
    (filter_isInput_closing id next.bare)

theorem Sent.plays_of_left {closing : Bool} (sent : Sent id stream closing queue conn left after)
    (more : closing = true → left ≠ {}) :
    Plays [] (conn.withQueue id stream queue) (after.withQueue id stream left) := by
  cases sent with
  | parts plays => exact plays
  | whole ends empty => exact absurd empty (more ends)

/-- Data that ends the stream ends with its last frame, an empty one if there was no data. -/
theorem Sent.plays_of_end {middle : Connection}
    (sent : Sent id stream.bare true queue conn {} middle)
    (exact : queue.Exact) (sound : after.Sound)
    (held : after.registry.get? id = some { stream with queue := {} })
    (sends : stream.phase.canSend) (ends : stream.endQueued)
    (put : after.scene = middle.withQueue id stream.bare {}) :
    Plays [] (conn.withQueue id stream.bare queue)
      ((if queue.length = 0 then (after.modifyStream id endSent).write (.data id [] true none)
        else after.modifyStream id endSent).advanceAnyway id .sendEnd).scene := by
  have shown := scene_modifyStream (f := endSent) held (sound.registry.used held)
  rw [put, withQueue, setView_setView] at shown
  cases sent with
  | parts plays goesOn =>
    obtain rfl := goesOn rfl rfl
    have said : ((after.modifyStream id endSent).write (.data id [] true none)).scene =
        (middle.scene.note (.said (.data id ({} : Buffer).octets true))).setView id
          (.of ({ stream with queue := {} } : Stream).endSent.bare) := by
      rw [scene_writeData, shown, setView_note]
      rfl
    have concluded := conclude_plays sound exact held sends ends rfl (by rfl) said
    exact plays.trans concluded
  | @whole waiting before _ _ some rest plays said =>
    rw [if_neg (by rwa [exact.length_eq_zero_iff])]
    have concluded := conclude_plays sound rest held sends ends rfl rfl (said ▸ shown)
    exact plays.trans concluded

theorem flush_plays (sound : conn.Sound) (id : Nat) :
    Plays [] conn.scene (conn.flush id).scene := by
  unfold flush
  split
  · exact .refl _
  · rename_i stream held
    split
    · rename_i sends
      have live := isLive_of_canSend sends
      have now := view_scene held live
      have exact := sound.registry.exact held
      have start : conn.withQueue id stream.bare stream.queue = conn.scene :=
        setView_self now
      simp only
      generalize closes : (stream.endQueued && stream.trailers.isNone) = closing
      have how : Sent id stream.bare closing stream.queue conn _ _ :=
        sendQueue_sent conn.exchange.peer.maxFrameSize closing (by exact sends) exact conn
      have same := registry_sendQueue id conn.exchange.peer.maxFrameSize closing stream.queue conn
      generalize sent : sendQueue id conn.exchange.peer.maxFrameSize closing stream.queue
        conn = result at how same ⊢
      obtain ⟨left, middle⟩ := result
      -- what is left of the queue is put back
      have cut : (middle.modifyStream id fun stream => { stream with queue := left }).Sound :=
        sound.moves (moves_of_sent held sends sent : Moves Mild _ _)
      have held' : middle.registry.get? id = some stream := same ▸ held
      have holds := get?_modifyStream (f := fun stream => { stream with queue := left }) held'
      have put := scene_setQueue held' (same ▸ sound.registry.used held) live left
      rw [← start]
      have remaining := cut.registry.exact holds
      simp only [finishFlush]
      by_cases empty : left.length = 0
      · obtain rfl := remaining.length_eq_zero_iff.mp empty
        simp only [if_true]
        cases waits : stream.trailers with
        | some fields =>
          have plays := how.plays_of_left fun ends => by simp [waits, ends] at closes
          exact (put ▸ plays).trans (trail_plays cut holds sends waits rfl)
        | none =>
          simp only
          split
          · rename_i ends
            obtain rfl : closing := by simpa [waits, ends] using closes.symm
            exact how.plays_of_end exact cut holds sends ends put
          · rename_i lasts
            exact put ▸ how.plays_of_left fun ends => by simp [lasts, ends] at closes
      · rw [if_neg empty]
        exact put ▸ how.plays_of_left fun _ none => empty (congrArg Buffer.length none)
    · exact .refl _

theorem resumeIf_plays (sound : conn.Sound) (condition : Bool) :
    Plays [] conn.scene (resumeIf condition conn).scene := by
  refine And.right (@holds_resumeIf (fun after => after.Sound ∧ Plays [] conn.scene after.scene)
    conn condition ⟨sound, .refl _⟩ fun {conn id windows} so popped => ?_)
  obtain ⟨others, -, rfl⟩ := Windows.popParked?_eq popped
  have served := so.1.move (.wait conn others : Move Mild _ _)
  exact ⟨served.moves ((flush_flushed _ id).moves : Moves Mild _ _),
    so.2.trans (flush_plays served id)⟩

theorem creditedOn_plays (sound : conn.Sound) {increment : Nat} {window : Int}
    (stands : id ≠ 0) (held : conn.sendWindows.stream? id = some window)
    (fits : window + increment ≤ maxWindow) :
    Plays [] conn.scene (creditedOn conn id increment window).scene := by
  have credited := (entered_streamCredit sound stands held fits).sound
  unfold creditedOn
  simp only
  split
  · have served : { conn with sendWindows :=
        (conn.sendWindows.setWindow id (window + increment)).unpark id }.Sound :=
      { credited with send := credited.send.setParked _ }
    exact flush_plays served id
  · exact .refl _

/-! ## Taking identifiers -/

section Takes

variable {registry : Registry} {marks input : List Mark} {view : View} (sound : conn.Sound)
  (takes : conn.registry.Takes id registry) {ours : Bool}

include sound takes

theorem take_does (whose : conn.registry.isLocal id = ours) (act : Act id (.unused ours) marks view)
    (taken : marks.filter Mark.isInput = input) :
    Does input conn.scene (({ conn with registry }.scene.noteAll marks).setView id view) := by
  have idle := takes.idle_before sound.registry.nextLocal
  have now : conn.scene.view id = .unused ours := by
    rw [← whose]
    exact view_eq_unused (cargo?_eq_none_of_missing (sound.registry.fresh id idle)) idle
  exact ⟨marks, .single (.of_views now act fun other _ => takes.view other), taken⟩

theorem take_tunes {hears : List Frame} (marks : List Mark)
    (keeps : ∀ frame ∈ saidIn marks ++ hears, frame.keepsTo id)
    (own : view.Accords (voiceOf id (saidIn marks)) (voiceOf id hears)) :
    Tunes hears conn.scene (({ conn with registry }.scene.noteAll marks).setView id view) := by
  have idle := takes.idle_before sound.registry.nextLocal
  have now : conn.scene.view id = .unused (conn.registry.isLocal id) :=
    view_eq_unused (cargo?_eq_none_of_missing (sound.registry.fresh id idle)) idle
  refine .act marks now keeps ?_ fun other _ => takes.view other
  rintro said heard ⟨rfl, rfl⟩
  exact own

theorem take_plays (whose : conn.registry.isLocal id = ours)
    (act : Act id (.unused ours) marks view) (taken : marks.filter Mark.isInput = input)
    (keeps : ∀ frame ∈ saidIn marks ++ heardIn marks, frame.keepsTo id)
    (own : view.Accords (voiceOf id (saidIn marks)) (voiceOf id (heardIn marks))) :
    Plays input conn.scene (({ conn with registry }.scene.noteAll marks).setView id view) := by
  refine ⟨take_does sound takes whose act taken, ?_⟩
  rw [← taken, heardIn_filter]
  exact take_tunes sound takes marks keeps own

end Takes

theorem view_taken {registry : Registry} (sound : conn.Sound)
    (takes : conn.registry.Takes id registry) : registry.view id = .gone := by
  refine view_eq_gone ?_ (takes.used_after sound.registry.nextLocal)
  rw [takes.cargo?]
  exact cargo?_eq_none_of_missing
    (sound.registry.fresh id (takes.idle_before sound.registry.nextLocal))

theorem scene_addStream (stream : Stream) (used : conn.registry.isIdle id = false) :
    (conn.addStream id stream).scene = conn.scene.setView id (.of stream.bare) :=
  scene_insert conn stream used

end Http2.Connection
