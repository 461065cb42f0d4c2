import Http2.Proofs.Working

/-!
# What a frame of the peer leads to

A frame is read with the table for its direction, and then heard in acts that need no other input.
This holds as well if it meets with an error of one stream, which is reset.  A frame that ends the
session is not heard at all: what is still done then needs no input.  As long as no end says
farewell, the streams stay attuned.
-/

namespace Http2

open Registry Scene Http2.Stream

def Frame.last? : Frame → Option Nat
  | goaway last .. => some last
  | _ => none

theorem Item.of_read {frame : Frame} {item : Item} {table after : Header.Table}
    (reads : read table frame = (.ok item, after)) :
    item.outline.last? = frame.last? ∧
      ∀ id voice, Voice.hear id voice frame = Voice.hear id voice item.outline := by
  cases frame with
  | headers _ _ block | pushPromise _ _ block =>
    rw [read] at reads
    cases decoded : (Header.decodeBlock table block).1 <;> simp only [decoded] at reads <;>
      cases reads
    exact ⟨rfl, fun _ _ => rfl⟩
  | _ =>
    cases reads
    exact ⟨rfl, fun _ _ => rfl⟩

namespace Connection

structure HearsItem (item : Item) (start after : Connection) : Prop where
  does : Does [.heard item] start.scene after.scene
  tunes : start.farewell.sent = none → item.outline.last? = none →
    Tunes [item.outline] start.scene after.scene

def Hears (item : Item) (start : Connection) : Except Error Unit → Connection → Prop
  | .ok _, after => HearsItem item start after
  | .error error, after =>
    (error.isFatal = true → Works start.scene after.scene) ∧
      (error.isFatal = false → HearsItem item start (after.absorb error))

variable {conn after middle : Connection} {frame : Frame} {item : Item} {id : Nat} {error : Error}
  {result : Except Error Unit} {view next : View} {notes : List Mark} {stream : Stream}
  {scene : Scene} {endStream : Bool} {registry : Registry} {table : Header.Table}

private theorem hearsItem_of_plays (plays : Plays [.heard item] conn.scene after.scene) :
    HearsItem item conn after :=
  ⟨plays.does, fun _ _ => plays.tunes⟩

private theorem hears_fatal (fatal : error.isFatal) (works : Works conn.scene after.scene) :
    Hears item conn (.error error) after := by
  refine ⟨fun _ => works, fun harmless => ?_⟩
  rw [fatal] at harmless
  cases harmless

private theorem hears_harmless (harmless : error.isFatal = false)
    (plays : Plays [.heard item] conn.scene (after.absorb error).scene) :
    Hears item conn (.error error) after := by
  refine ⟨fun fatal => ?_, fun _ => hearsItem_of_plays plays⟩
  rw [harmless] at fatal
  cases fatal

theorem Hears.before (hears : Hears item middle result after)
    (plays : Plays [] conn.scene middle.scene) (same : middle.farewell = conn.farewell) :
    Hears item conn result after := by
  have widen : ∀ {after}, HearsItem item middle after → HearsItem item conn after := fun later =>
    ⟨Works.does plays.does later.does, fun unsaid stays => plays.tunes.before
      (later.tunes (same ▸ unsaid) stays)⟩
  cases result with
  | ok => exact widen hears
  | error error =>
    exact ⟨fun fatal => Works.trans plays.does (hears.1 fatal),
      fun harmless => widen (hears.2 harmless)⟩

private theorem hear_does (now : scene.view id = view)
    (act : Act id view (.heard item :: notes) next) (silent : notes.filter Mark.isInput = []) :
    Does [.heard item] scene ((scene.noteAll notes).setView id next) := by
  have does := Does.of_act now act (congrArg (Mark.heard item :: ·) silent)
  rwa [noteAll_cons] at does

private theorem hear_plays (now : scene.view id = .live stream)
    (act : Act id (.live stream) (.heard item :: notes) next)
    (plain : ∀ mark ∈ .heard item :: notes, mark.isPlain)
    (silent : notes.filter Mark.isInput = []) :
    Plays [.heard item] scene ((scene.noteAll notes).setView id next) := by
  have plays := Plays.of_act now act plain (congrArg (Mark.heard item :: ·) silent)
  rwa [noteAll_cons] at plays

/-! ## Resetting the stream at fault -/

private theorem disown_tunes {hears : List Frame} (gone : conn.scene.view id = .gone) (code : Nat)
    (keeps : ∀ frame ∈ hears, frame.keepsTo id) :
    Tunes hears conn.scene (conn.write (.rstStream id code)).scene := by
  refine .change id (queued_write conn _) (fun _ _ => .inl rfl) (by simpa using keeps)
    fun said heard _ => ?_
  change View.Accords _ _ (conn.scene.view id)
  rw [gone]
  exact .of_reset (.inl (by simp))

private theorem resetFaulty_plays (sound : conn.registry.Sound) (id : Nat) (reason : Reason) :
    Plays [] conn.scene (conn.resetFaulty id reason).scene := by
  have disowned : conn.scene.view id = .gone →
      Plays [] conn.scene (conn.write (.rstStream id reason.code)).scene := by
    intro gone
    refine ⟨?_, disown_tunes gone reason.code (by simp)⟩
    rw [scene_write]
    exact .of_still gone (.disown reason.code) rfl
  unfold resetFaulty
  split
  · rename_i stream held
    split
    · exact dropStream_plays sound id reason _
    · rename_i dead
      exact disowned (view_eq_gone
        (cargo?_eq_none_of_closed held (by simpa using dead)) (sound.used held))
  · rename_i missing
    split
    · exact .refl _
    · rename_i used
      refine disowned (view_eq_gone (cargo?_eq_none_of_missing ?_) (by simpa using used))
      rw [held?, missing]
      rfl

private theorem absorb_plays (sound : conn.registry.Sound) (error : Error) :
    Plays [] conn.scene (conn.absorb error).scene := by
  cases error with
  | stream id reason => exact resetFaulty_plays sound id reason
  | refused id => exact resetFaulty_plays sound id .refusedStream
  | _ => exact .refl _

private theorem view_scene_cases (sound : conn.registry.Sound)
    (held : conn.registry.get? id = some stream) :
    stream.isLive = true ∧ conn.scene.view id = .live stream.bare ∨
      stream.isLive = false ∧ conn.scene.view id = .gone := by
  cases live : stream.isLive with
  | true => exact .inl ⟨rfl, view_scene held live⟩
  | false =>
    exact .inr ⟨rfl, view_eq_gone (cargo?_eq_none_of_closed held live) (sound.used held)⟩

/-! ## DATA -/

private theorem refill_plays (conn : Connection) (target : Nat)
    (known : id = 0 ∨ ∃ stream, conn.registry.get? id = some stream ∧ stream.isLive) :
    Plays [] conn.scene (conn.refill id target).scene := by
  unfold refill
  split
  · exact .refl _
  · rename_i increment windows _
    rcases known with rfl | ⟨stream, held, live⟩
    · exact write_plays { conn with receiveWindows := windows } rfl
    · rw [scene_write]
      have act : Act id (.live stream.bare) [.said (.other (.windowUpdate id increment))]
          (.live stream.bare) := .speak (by simp [Frame.concerns])
      exact .of_still (view_scene held live) act (by simp [Mark.isPlain]) rfl

private theorem faulty_plays (sound : conn.registry.Sound)
    (held : conn.registry.get? id = some stream) (about : item.isOn id) (reason : Reason) :
    Plays [.heard item] conn.scene (conn.resetFaulty id reason).scene := by
  have keeps : ∀ frame ∈ heardIn [.heard item], frame.keepsTo id := by
    cases item <;> first | cases about | simpa [Frame.keepsTo, Frame.subject?] using eq_of_beq about
  rcases view_scene_cases sound held with ⟨live, now⟩ | ⟨dead, gone⟩
  · rw [resetFaulty, held]
    simp only [live, if_true]
    refine ⟨?_, dropLive_tunes sound held live reason true _ keeps (.inl rfl)⟩
    rw [resetStream, scene_dropStream sound held live]
    exact hear_does now (.refuse about reason true _)
      (filter_isInput_dropping id stream.bare reason true _)
  · have ignored : Does [.heard item] conn.scene conn.scene :=
      .of_still gone (.ignore about) rfl
    refine ⟨ignored.works (resetFaulty_plays sound id reason).does, ?_⟩
    rw [resetFaulty, held]
    simp only [dead, Bool.false_eq_true, if_false]
    exact disown_tunes gone reason.code keeps

private theorem settled_plays {current next : Stream} (sound : middle.registry.Sound)
    (held : middle.registry.get? id = some current)
    (shown : middle.scene = (conn.scene.noteAll notes).setView id view)
    (now : conn.scene.view id = .live stream)
    (act : Act id (.live stream) (.heard item :: (notes ++ closing id next.bare)) (.of next.bare))
    (plain : ∀ mark ∈ .heard item :: notes, mark.isPlain)
    (silent : notes.filter Mark.isInput = []) :
    Plays [.heard item] conn.scene (middle.settled id next).scene := by
  rw [scene_settled sound held, shown, setView_noteAll, setView_setView, ← noteAll_append]
  refine hear_plays now act (fun mark member => ?_) ?_
  · rcases List.mem_append.mp (List.cons_append .. ▸ member) with early | late
    · exact plain mark early
    · exact isPlain_closing id _ mark late
  · rw [List.filter_append, silent, filter_isInput_closing]
    rfl

private theorem scene_emitIf (conn : Connection) (condition : Bool) (event : Event) :
    (conn.emitIf condition event).scene =
      conn.scene.noteAll (if condition then [.told event] else []) := by
  cases condition <;> rfl

theorem DataDealt.hears {octets : Octets} {count : Nat}
    (dealt : DataDealt conn id octets count endStream result after) (sound : conn.registry.Sound) :
    Hears (.data id octets endStream) conn result after := by
  have about : (Item.data id octets endStream).isOn id := by simp [Item.isOn]
  cases dealt with
  | unheld => exact hears_fatal (missingStream_isFatal ..) (.refl _)
  | unwelcome held =>
    unfold dataFault
    split
    · exact hears_harmless rfl (faulty_plays sound held about .streamClosed)
    · exact hears_fatal rfl (.refl _)
  | overdrawn held => exact hears_harmless rfl (faulty_plays sound held about .flowControlError)
  | @delivered stream windows held receives =>
    have live := isLive_of_canReceive receives
    have now := view_scene held live
    have shown := scene_emitIf { conn with receiveWindows := windows } (!octets.isEmpty)
      (.data id octets false)
    have holds : ({ conn with receiveWindows := windows }.emitIf (!octets.isEmpty)
        (.data id octets false)).registry.get? id = some stream := by
      unfold emitIf
      split <;> exact held
    have act : Act id (.live stream.bare) (.heard (.data id octets false) ::
        (_ ++ closing id stream.bare)) (.of stream.bare) := .receiveData receives rfl
    have ended : closing id stream.bare = [] := if_pos live
    have stays : View.of stream.bare = .live stream.bare := if_pos live
    rw [ended, stays, List.append_nil, Bool.or_false] at act
    have heard := hear_plays now act (by split <;> simp [Mark.isPlain]) (by split <;> rfl)
    rw [setView_noteAll_self now, ← show _ = conn.scene.noteAll _ from shown] at heard
    exact hearsItem_of_plays (heard.trans (refill_plays _ _ (.inr ⟨stream, holds, live⟩)))
  | @finished stream next windows held receives _ moves =>
    have now := view_scene held (isLive_of_canReceive receives)
    have act : Act id (.live stream.bare) (.heard (.data id octets true) ::
        (_ ++ closing id next.bare)) (.of next.bare) := .receiveData receives (advance?_bare moves)
    rw [Bool.or_true] at act
    have shown := (setView_noteAll_self now [.told (.data id octets true)]).symm
    exact hearsItem_of_plays (settled_plays sound held shown now act (by simp [Mark.isPlain]) rfl)

/-! ## HEADERS -/

private theorem take_hears (sound : conn.Sound)
    (accepted : conn.registry.acceptRemote id = .ok registry)
    (act : Act id (.unused false) (.heard item :: notes) view)
    (silent : notes.filter Mark.isInput = [])
    (keeps : ∀ frame ∈ saidIn notes ++ heardIn (.heard item :: notes), frame.keepsTo id)
    (own : view.Accords (voiceOf id (saidIn notes)) (voiceOf id (heardIn (.heard item :: notes)))) :
    Plays [.heard item] conn.scene
      (({ conn with registry }.scene.noteAll notes).setView id view) := by
  have theirs := isLocal_of_acceptRemote accepted
  have plays :=
    take_plays sound (.theirs accepted) theirs act (congrArg (Mark.heard item :: ·) silent)
      keeps own
  rwa [noteAll_cons] at plays

private theorem scene_refuseStream (sound : conn.registry.Sound)
    (used : conn.registry.isIdle id = false) (reason : Reason) :
    (conn.refuseStream id reason).scene =
      (conn.scene.note (.said (.other (.rstStream id reason.code)))).setView id .gone := by
  have refused : (({} : Stream).reset reason).isLive = false := rfl
  have ended : (conn.registry.insert id (({} : Stream).reset reason)).cargo? id = none := by
    rw [cargo?_insert_closed _ _ _ refused, if_pos rfl]
  have views : ((conn.registry.insert id (({} : Stream).reset reason)).markClosed id).2.view =
      (conn.registry.insert id (({} : Stream).reset reason)).view :=
    funext (view_markClosed (sound.closed_insert refused) ended)
  have marked := @scene_setRegistry
    { conn with registry := conn.registry.insert id (({} : Stream).reset reason) } _ views
  rw [refuseStream, scene_write, marked, scene_insert conn _ used]
  exact setView_note ..

private theorem scene_deliverHeaders (sound : conn.registry.Sound)
    (held : conn.registry.get? id = some stream) (fields : List Field) (endStream : Bool) :
    (conn.deliverHeaders id fields endStream).scene =
      (conn.scene.noteAll [.told (.headers id fields endStream)]).setView id
        (.of ({ stream with finalReceived := !isInformational fields } : Stream).bare) := by
  rw [deliverHeaders, scene_emit, scene_modifyStream held (sound.used held)]
  exact setView_note ..

theorem HeadersDealt.hears {fields : List Field} {priority : Option Priority}
    (dealt : HeadersDealt conn id fields priority endStream result after) (sound : conn.Sound) :
    Hears (.headers id fields priority endStream) conn result after := by
  have about : (Item.headers id fields priority endStream).isOn id := by simp [Item.isOn]
  cases dealt with
  | misplaced fault => exact hears_fatal fault.isFatal (.refl _)
  | declined held => exact hears_harmless rfl (faulty_plays sound.registry held about _)
  | passed _ taken beyond =>
    have passed : Does [.heard (.headers id fields priority endStream)] _ _ :=
      take_does sound (.theirs taken) (isLocal_of_acceptRemote taken) .passOver rfl
    rw [noteAll_cons, noteAll_nil, note, setView_self (view_taken sound (.theirs taken))] at passed
    exact ⟨passed, fun unsaid _ => by simp [unsaid] at beyond⟩
  | @turnedAway _ registry reason _ taken =>
    have takes : conn.registry.Takes id registry := .theirs taken
    refine hearsItem_of_plays ?_
    rw [scene_refuseStream (takes.sound sound.registry)
      (takes.used_after sound.registry.nextLocal)]
    exact take_hears sound taken (.refuseRemote reason.code) rfl (by simp [Frame.outline])
      (.of_reset (.inl (by simp [voiceOf, Frame.outline])))
  | @accepted _ registry stream _ taken _ _ begun =>
    have takes : conn.registry.Takes id registry := .theirs taken
    have bare : View.of ({ stream with finalReceived := !isInformational fields } : Stream).bare =
        .live { stream with finalReceived := !isInformational fields } := by
      cases endStream <;> cases begun <;> rfl
    refine hearsItem_of_plays ?_
    rw [scene_emit, scene_emit, scene_reprioritizeIf,
      scene_addStream _ (takes.used_after sound.registry.nextLocal), bare, setView_note,
      setView_note]
    refine take_hears sound taken (.openRemote begun) rfl (by simp) ?_
    rw [voiceOf, voiceOf, heardIn_heard, Voice.hearAll_cons, Item.outline, Voice.hear_headers]
    cases endStream <;> cases begun <;> exact ⟨rfl, by simp⟩
  | @started _ stream next held _ reserved moves =>
    have live : stream.isLive := by
      rw [Stream.isLive, reserved]
      rfl
    exact hearsItem_of_plays
      (settled_plays (sound.calms (deliverHeaders_calms .refl fields endStream)).registry
      (get?_deliverHeaders held fields endStream)
      (scene_deliverHeaders sound.registry held fields endStream) (view_scene held live)
      (.receiveFirst reserved (advance?_bare moves)) (by simp [Mark.isPlain]) rfl)
  | @continued stream held _ receives early =>
    have live := isLive_of_canReceive receives
    have act : Act id (.live stream.bare) (.heard (.headers id fields priority false) :: _) _ :=
      .receiveHeaders receives early rfl
    rw [closing, if_pos (by exact live)] at act
    refine hearsItem_of_plays ?_
    rw [scene_reprioritizeIf, scene_deliverHeaders sound.registry held]
    exact hear_plays (view_scene held live) act (by simp [Mark.isPlain]) rfl
  | @concluded stream current next held _ receives early holds same moves =>
    have now := view_scene held (isLive_of_canReceive receives)
    have shown := scene_deliverHeaders sound.registry held fields true
    rw [← scene_reprioritizeIf _ id priority] at shown
    have ends : ({ stream with finalReceived := !isInformational fields } : Stream).bare.advance?
        .receiveEnd = some next.bare := same ▸ advance?_bare moves
    have calms :
        Calms Mild conn ((conn.deliverHeaders id fields true).reprioritizeIf id priority) :=
      (deliverHeaders_calms .refl fields true).reprioritizeIf priority
    exact hearsItem_of_plays (settled_plays (sound.calms calms).registry holds shown now
      (.receiveHeaders receives early ends) (by simp [Mark.isPlain]) rfl)
  | @trailed stream current next held _ receives late holds same moves =>
    have now := view_scene held (isLive_of_canReceive receives)
    have shown := (setView_noteAll_self now [.told (.trailers id fields)]).symm
    have told : Calms Mild conn (conn.emit (.trailers id fields)) := .single (.emit _ _)
    have ends : stream.bare.advance? .receiveEnd = some next.bare := same ▸ advance?_bare moves
    exact hearsItem_of_plays (settled_plays (sound.calms (told.reprioritizeIf priority)).registry
      holds ((scene_reprioritizeIf ..).trans shown) now (.receiveTrailers receives late ends)
      (by simp [Mark.isPlain]) rfl)

/-! ## Reading -/

def Heeds (conn : Connection) (frame : Frame) (after : Connection) : Prop :=
  ∃ item table, Item.read conn.decoder frame = (.ok item, table) ∧
    HearsItem item { conn with decoder := table } after

theorem Heeds.tunes (heeds : Heeds conn frame after) (unsaid : conn.farewell.sent = none)
    (stays : frame.last? = none) : Tunes [frame] conn.scene after.scene := by
  obtain ⟨item, table, reads, hearsItem⟩ := heeds
  obtain ⟨last, hear⟩ := Item.of_read reads
  have tunes := hearsItem.tunes unsaid (last.trans stays)
  exact Tunes.congr (fun past heard attuned => tunes past heard attuned) hear

def Heeded (conn : Connection) (frame : Frame) : Except Error Unit → Connection → Prop
  | .ok _, after => Heeds conn frame after
  | .error error, after =>
    (error.isFatal = true → ∃ table, Works { conn.scene with decoder := table } after.scene) ∧
      (error.isFatal = false → Heeds conn frame (after.absorb error))

theorem Hears.heeded (hears : Hears item { conn with decoder := table } result after)
    (read : Item.read conn.decoder frame = (.ok item, table)) : Heeded conn frame result after := by
  cases result with
  | ok => exact ⟨item, table, read, hears⟩
  | error error =>
    exact ⟨fun fatal => ⟨table, hears.1 fatal⟩, fun harmless => ⟨item, table,
      read, hears.2 harmless⟩⟩

private theorem heeded_fatal (fatal : error.isFatal)
    (works : Works { conn.scene with decoder := table } after.scene) :
    Heeded conn frame (.error error) after := by
  refine ⟨fun _ => ⟨table, works⟩, fun harmless => ?_⟩
  rw [fatal] at harmless
  cases harmless

/-! ## PUSH_PROMISE -/

/-- The promise is heard on the parent before the stream is reserved. -/
theorem promise_plays {promised : Nat} (sound : conn.Sound)
    (accepted : conn.registry.acceptRemote promised = .ok registry)
    (held : conn.registry.get? id = some stream)
    (receives : stream.phase.canReceive) (request : List Field) :
    Plays [.heard (.promise id promised request)] conn.scene
      (({ conn with registry }.addPromised promised id { phase := .reservedRemote }).emit
        (.streamCreated promised (some ⟨id, request⟩))).scene := by
  have now := view_scene held (isLive_of_canReceive receives)
  have act : Act id (.live stream.bare) [.heard (.promise id promised request)]
      (.live stream.bare) := .hearPromise receives
  have heard : Does [.heard (.promise id promised request)] conn.scene conn.scene :=
    .of_still now act rfl
  have takes : conn.registry.Takes promised registry := .theirs accepted
  have reserved := take_does sound takes (isLocal_of_acceptRemote accepted)
    (.reserveRemote ⟨id, request⟩) rfl
  rw [scene_emit, addPromised, scene_addStream _ (takes.used_after sound.registry.nextLocal),
    setView_note]
  refine ⟨heard.works reserved, take_tunes sound takes
    [.told (.streamCreated promised (some ⟨id, request⟩))] (by simp) ?_⟩
  rw [voiceOf, voiceOf, heardIn_heard, Voice.hearAll_cons, Item.outline, Voice.hear_pushPromise]
  exact ⟨rfl, by simp [Stream.bare]⟩

/-! ## Frames without streams or with nothing to tell -/

private theorem hear_aside (scene : Scene) (frame : Frame) :
    Does [.heard (.other frame)] scene scene :=
  ⟨[.heard (.other frame)], .single (.of_aside (by simp [Mark.isAside])), rfl⟩

private theorem hears_of_plays (mute : frame.subject? = none)
    (plays : Plays [] conn.scene after.scene) (sound : after.registry.Sound) :
    Hears (.other frame) conn result after := by
  have heard : Plays [.heard (.other frame)] conn.scene conn.scene :=
    ⟨hear_aside _ frame, .mute rfl (List.append_nil _).symm
      (by simpa [Frame.subject?_outline] using mute)⟩
  cases result with
  | ok => exact hearsItem_of_plays (heard.trans plays)
  | error error =>
    exact ⟨fun _ => plays.does, fun _ => hearsItem_of_plays
      (heard.trans (plays.trans (absorb_plays sound error)))⟩

variable (sound : conn.Sound)

include sound

private theorem resetStream_hearsItem {code : Nat}
    (known : (conn.phase? id).isSome = true ∨ conn.registry.isIdle id = false) :
    HearsItem (.other (.rstStream id code)) conn (conn.resetStream id ⟨code⟩ false) := by
  refine ⟨(hear_aside ..).works (dropStream_works sound.registry ..), fun _ _ => ?_⟩
  have heard : ∀ voice : Voice, (voice.hearAll id [.rstStream id code]).reset = true :=
    fun voice => by simp
  rcases view_cases conn.registry id with ⟨stream, held, live, -⟩ | ⟨dead, view⟩
  · exact dropLive_tunes sound.registry held live ⟨code⟩ false _ (by simp [Frame.outline])
      (.inr heard)
  · have used : conn.registry.isIdle id = false := by
      cases held : conn.registry.get? id with
      | none => simpa [phase?, Registry.phase?, held] using known
      | some stream => exact sound.registry.used held
    rw [resetStream, dropStream_of_dead dead]
    -- a stream that is already gone
    refine .change id (List.append_nil _).symm (fun _ _ => .inl rfl) (by simp [Frame.outline])
      fun said voice _ => ?_
    rw [show conn.scene.view id = .gone from view.trans (if_neg (by simp [used]))]
    exact .of_reset (.inr (heard voice))

theorem Receipt.registry_sound (receipt : Receipt conn frame result after) :
    after.registry.Sound := by
  cases result with
  | ok =>
    obtain ⟨_, handled⟩ := receipt.accepted sound
    exact handled.sound.registry
  | error error =>
    cases receipt with
    | calm control quiet => exact (sound.calms quiet.1).registry
    | taken data fits found covered quiet =>
      exact ((sound.drawnOn fits found covered).calms quiet.1).registry
    | refused | overdrawn =>
      rw [registry_refill]
      exact sound.registry
    | _ => exact sound.registry

private theorem receiveGoaway_works (last : Nat) (reason : Reason) (debug : Octets) :
    Works conn.scene (conn.receiveGoaway last reason debug).scene := by
  unfold receiveGoaway
  generalize Farewell.least conn.farewell.received last = last
  have told : Works conn.scene ({ conn with
      farewell := { conn.farewell with received := some last } }.emit
        (.goaway last reason debug)).scene := .tell rfl
  refine told.trans (dropAll_works ?_ _ .refusedStream fun id => .stream id .refusedStream)
  exact sound.registry

theorem Receipt.credit_plays {increment : Nat}
    (receipt : Receipt conn (.windowUpdate id increment) result after) :
    Plays [] conn.scene after.scene := by
  cases receipt with
  | calm control => cases control
  | overspent data | refused data | overdrawn data | taken data => cases data
  | zeroCredit | creditOverflow | unwanted | streamOverflow => exact .refl _
  | credited positive fits => exact resumeIf_plays (entered_connectionCredit sound fits).sound _
  | streamCredited stands positive held fits => exact creditedOn_plays sound stands held fits

/-! ## All frames -/

theorem Dealt.heeded (dealt : Dealt conn frame result after) : Heeded conn frame result after := by
  have receipt := dealt.receipt sound
  -- what is left once DATA and header blocks are set apart
  have plain : Item.read conn.decoder frame = (.ok (.other frame), conn.decoder) →
      frame.subject? = none →
      Plays [] conn.scene after.scene → Heeded conn frame result after := fun read mute plays =>
    (hears_of_plays mute plays (receipt.registry_sound sound)).heeded read
  have read : ∀ table, { conn with decoder := table }.Sound := fun table =>
    sound.congr rfl rfl rfl rfl rfl rfl
  cases dealt with
  | overspent | pushToServer | pushRefused | unopened => exact heeded_fatal rfl (.refl conn.scene)
  | @data _ _ _ _ windows _ _ _ dealt =>
    have plays : Plays [] conn.scene (conn.debited windows).scene :=
      refill_plays { conn with receiveWindows := windows } conn.receiveTarget (.inl rfl)
    have known : (conn.debited windows).registry.Sound := by
      rw [debited, registry_refill]
      exact sound.registry
    have same : (conn.debited windows).farewell = conn.farewell := by
      unfold debited refill
      split <;> rfl
    exact ((dealt.hears known).before plays same).heeded rfl
  | garbled | garbledPromise => exact heeded_fatal rfl (.refl _)
  | headers decoded dealt =>
    refine (dealt.hears (read _)).heeded ?_
    simp only [Item.read, decoded]
    rfl
  | unfounded _ fault => exact heeded_fatal fault.isFatal (.refl _)
  | @promised id promised _ request table _ _ _ _ decoded held receives taken =>
    refine ⟨.promise id promised request, table, ?_,
      hearsItem_of_plays (promise_plays (read table) taken held receives request)⟩
    simp only [Item.read, decoded]
    rfl
  | looped | unplaced | unoffered | unnamed | unknown => exact plain rfl rfl (.refl _)
  | placed =>
    refine plain rfl rfl ?_
    rw [scene_reprioritize]
    exact .refl _
  | dropped known => exact ⟨_, _, rfl, resetStream_hearsItem sound known⟩
  | ackNotDue | unlimited | malformed => exact plain rfl rfl (.refl _)
  | acknowledged => exact plain rfl rfl (.tell rfl)
  | outgrown | pinged => exact plain rfl rfl (write_plays conn rfl)
  | applied read shifts =>
    have unstaged := sound.exchange.staged
    simp only [unstaged, Option.getD_none, List.nil_append] at shifts plain ⊢
    have entered := (entered_settings sound read (shifts.shifted sound read)).sound
    have written : Plays [] conn.scene (conn.write (.settings true [])).scene :=
      write_plays conn rfl
    refine plain rfl rfl ?_
    rw [scene_emit, learned, ← unstaged]
    exact written.trans ((resumeIf_plays entered _).trans (.tell rfl))
  | zeroCredit | overfilled | credited | uncredited | unneeded | emptyCredit | overflowed | served
  | saved =>
    exact plain rfl rfl (receipt.credit_plays sound)
  | answered | offered | named => exact plain rfl rfl (.tell rfl)
  | parted =>
    exact ⟨_, _, rfl, (hear_aside ..).works (receiveGoaway_works sound ..),
      fun _ stays => by cases stays⟩

private theorem receiveFrame_heeded (frame : Frame) :
    (receiveFrame frame).Leads conn (Heeded conn frame) :=
  (receiveFrame_dealt conn frame).mono fun _ _ dealt => dealt.heeded sound

inductive Treated (conn : Connection) (frame : Frame) (after : Connection) : Prop
  | heard (heeds : Heeds conn frame after)
  | ended {table : Header.Table} {scene : Scene}
      (works : Works { conn.scene with decoder := table } scene)
      (closes : after.scene = { scene with closed := true })

theorem handle_treated (opened : conn.closed = false)
    (frame : Frame) : Treated conn frame (conn.handle frame) := by
  have leads := (receiveFrame_heeded sound frame).and (receiveFrame_receipt sound frame)
  unfold handle
  split
  · rename_i ran
    exact .heard (leads.of_ok ran).1
  · rename_i error middle ran
    obtain ⟨heeded, receipt⟩ := leads.of_error ran
    cases fatal : error.isFatal with
    | false => exact .heard (heeded.2 fatal)
    | true =>
      obtain ⟨table, works⟩ := heeded.1 fatal
      obtain ⟨_, broken⟩ := receipt.broken sound fatal
      obtain ⟨scene, fails, closes⟩ :=
        fail_works (receipt.registry_sound sound) (broken.closed.trans opened) error
      exact .ended (works.trans fails) closes

end Connection

end Http2
