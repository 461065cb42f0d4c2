import Http2.Proofs.Working

/-!
# What the application asks for

Every call is carried out in acts that need no input, but for data, whose octets are taken from the
application just before anything else is done with them, and for final headers.  A call that fails
takes nothing.  Unless it is a farewell, the streams stay attuned.
-/

namespace Http2

open Registry Scene

def Call.isFarewell : Call → Bool
  | sendGoaway .. => true
  | _ => false

def Call.input : Call → List Mark
  | sendData id octets _ => [.took id octets]
  | respond id _ endStream => [.answered id endStream]
  | _ => []

private theorem Call.isPlain_input (call : Call) : ∀ mark ∈ call.input, mark.isPlain := by
  cases call <;> simp [input, Mark.isPlain]

namespace Connection

/-- The action has taken the input if it succeeded, and nothing if it failed. -/
def Obeys {α : Type} (R : List Mark → Scene → Scene → Prop) (input : List Mark)
    (start : Connection) :
    Except Error α → Connection → Prop
  | .ok _, after => R input start.scene after.scene
  | .error _, after => R [] start.scene after.scene

/-- What a call gives the connection to work on, if it succeeds. -/
def gives (connection : Connection) (call : Call) : List Mark :=
  match (perform call).run connection with
  | .ok _ _ => call.input
  | .error _ _ => []

variable {conn after : Connection} {id : Nat} {registry : Registry} {stream : Stream} {call : Call}
  {endStream : Bool} {input : List Mark} {result : Except Error (Option Nat)}

/-! ## New streams -/

theorem scene_writePromise (conn : Connection) (promised : Nat) (fields : List Field) :
    ((conn.compress fields).2.write (.pushPromise id promised (conn.compress fields).1)).scene =
      conn.scene.note (.said (.promise id promised fields)) := by
  simp only [scene, Scene.note, Item.write, compress, queued_write]
  rfl

theorem scene_refuseOwn (sound : conn.registry.Sound) (used : conn.registry.isIdle id = false) :
    (conn.refuseOwn id).scene =
      (conn.scene.note (.told (.streamClosed id (some .refusedStream)))).setView id .gone := by
  have refused : (({} : Stream).reset .refusedStream).isLive = false := rfl
  rw [refuseOwn, scene_finishStream (sound.closed_insert refused)
    (by rw [Registry.cargo?_insert_closed _ _ _ refused, if_pos rfl]), scene_insert _ _ used]
  exact setView_note ..

private theorem begin_plays (sound : conn.Sound)
    (allocated : conn.registry.allocate = .ok (id, registry))
    (begun : ({} : Stream).advance? (.sendHeaders endStream) = some stream) (fields : List Field)
    (priority : Option Priority) :
    Plays [] conn.scene ((({ conn with registry }.addStream id
      { stream with finalSent := true }).reprioritizeIf id priority).writeHeaders id fields priority
        endStream).scene := by
  have takes : conn.registry.Takes id registry := .ours allocated
  have bare : View.of ({ stream with finalSent := true } : Stream).bare =
      .live { stream with finalSent := true } := by
    cases endStream <;> cases begun <;> rfl
  rw [scene_writeHeaders, scene_reprioritizeIf,
    scene_addStream _ (takes.used_after sound.registry.nextLocal), bare, setView_note]
  refine take_plays sound takes (isLocal_of_allocate sound.registry allocated)
    (.openLocal begun) rfl (by simp) ?_
  rw [voiceOf, saidIn_said, Voice.hearAll_cons, Item.outline, Voice.hear_headers]
  cases endStream <;> cases begun <;> exact ⟨rfl, by simp⟩

private theorem refuseOwn_plays (sound : conn.Sound)
    (allocated : conn.registry.allocate = .ok (id, registry)) :
    Plays [] conn.scene ({ conn with registry }.refuseOwn id).scene := by
  have takes : conn.registry.Takes id registry := .ours allocated
  rw [scene_refuseOwn (takes.sound sound.registry)
    (takes.used_after sound.registry.nextLocal)]
  exact take_plays sound takes (isLocal_of_allocate sound.registry allocated)
    .refuseOwn rfl (by simp) (.inr rfl)

private theorem reserveLocal_plays {promised : Nat} (sound : conn.Sound)
    (allocated : conn.registry.allocate = .ok (promised, registry))
    (held : conn.registry.get? id = some stream)
    (sends : stream.phase.canSend) (request : List Field) :
    Plays [] conn.scene ((({ conn with registry }.addPromised promised id
          { phase := .reservedLocal }).compress request).2.write
        (.pushPromise id promised (({ conn with registry }.addPromised promised id
          { phase := .reservedLocal }).compress request).1)).scene := by
  have takes : conn.registry.Takes promised registry := .ours allocated
  have idle := takes.idle_before sound.registry.nextLocal
  have reserved := take_does sound takes (isLocal_of_allocate sound.registry allocated)
    .reserveLocal rfl
  have differ : promised ≠ id := by
    rintro rfl
    rw [sound.registry.used held] at idle
    cases idle
  have parent : registry.view id = .live stream.bare := by
    refine view_of_get? ?_ (Stream.isLive_of_canSend sends)
    rw [takes.same]
    exact held
  have now : ({ conn with registry }.scene.setView promised
      (.live { phase := .reservedLocal })).view id = .live stream.bare := by
    rw [Scene.setView]
    simp only [if_neg differ]
    exact parent
  have act : Act id (.live stream.bare) [.said (.promise id promised request)]
      (.live stream.bare) :=
    .promise sends
  have promises : Works _ _ := .of_still now act rfl
  rw [scene_writePromise, addPromised, scene_addStream _
    (takes.used_after sound.registry.nextLocal)]
  refine ⟨reserved.trans promises, ?_⟩
  rw [setView_note]
  refine take_tunes sound takes [.said (.promise id promised request)] (by simp) ?_
  rw [voiceOf, saidIn_said, Voice.hearAll_cons, Item.outline, Voice.hear_pushPromise]
  exact .of_stream rfl (by simp [Stream.bare])

/-! ## Sending on a stream -/

private theorem noteAll_of_input {scene : Scene} (taken : input.filter Mark.isInput = input) :
    scene.noteAll input = scene := by
  induction input with
  | nil => rfl
  | cons mark rest ih =>
    obtain ⟨first, others⟩ := List.forall_mem_cons.mp (List.filter_eq_self.mp taken)
    rw [noteAll_cons]
    cases mark with
    | took | answered | heard => exact ih (List.filter_eq_self.mpr others)
    | said | told => cases first

private theorem queue_plays {f : Stream → Stream} (sound : conn.Sound)
    (held : conn.registry.get? id = some stream)
    (sends : stream.phase.canSend) (act : Act id (.live stream.bare) input (.live (f stream.bare)))
    (plain : ∀ mark ∈ input, mark.isPlain) (taken : input.filter Mark.isInput = input)
    (bare : (f stream).bare = f stream.bare) (phase : (f stream).phase = stream.phase)
    (cargo : stream.cargo.Sound → (f stream).cargo.Sound) :
    Plays input conn.scene ((conn.modifyStream id f).flush id).scene := by
  have live := Stream.isLive_of_canSend sends
  have queued : (conn.modifyStream id f).Sound := by
    refine sound.requeue fun other held' => ?_
    obtain rfl := Option.some.inj (held.symm.trans held')
    exact ⟨phase, cargo⟩
  have shown : (conn.modifyStream id f).scene = conn.scene.setView id (.live (f stream.bare)) := by
    rw [scene_modifyStream held (sound.registry.used held), View.of, Stream.isLive_bare,
      if_pos (by simpa [Stream.isLive, phase] using live), bare]
  have takes : Plays input conn.scene _ := .of_act (view_scene held live) act plain taken
  have same : (conn.scene.noteAll input).setView id (.live (f stream.bare)) =
      (conn.modifyStream id f).scene := by
    rw [shown, noteAll_of_input taken]
  exact (same ▸ takes).trans (flush_plays queued id)

private theorem respond_plays (sound : conn.Sound) {next : Stream} {fields : List Field}
    (held : conn.registry.get? id = some stream)
    (sends : stream.phase.canSend ∨ stream.phase = .reservedLocal)
    (early : stream.finalSent = false) (final : isInformational fields = false)
    (moves : { stream with finalSent := true }.advance? (.sendHeaders endStream) = some next) :
    Plays [.answered id endStream] conn.scene
      (((conn.modifyStream id fun stream => { stream with finalSent := true }).writeHeaders
        id fields none endStream).settled id next).scene := by
  have noted := sound.calm (.touch conn id fun _ => rfl : Calm Mild conn
    (conn.modifyStream id fun stream => { stream with finalSent := true }))
  have holds : ((conn.modifyStream id fun stream => { stream with finalSent := true }).writeHeaders
      id fields none endStream).registry.get? id = some { stream with finalSent := true } :=
    get?_modifyStream held
  have act : Act id (.live stream.bare)
      (.answered id endStream :: .said (.headers id fields none endStream) :: closing id next.bare)
      (.of next.bare) := .respond sends early final (advance?_bare moves)
  rw [scene_settled (by exact noted.registry) holds, scene_writeHeaders,
    scene_modifyStream held (sound.registry.used held), setView_note, setView_noteAll,
    setView_setView]
  have taken := congrArg (Mark.answered id endStream :: ·) (filter_isInput_closing id next.bare)
  exact .of_act (view_scene held (isLive_of_responds sends)) act
    (List.forall_mem_cons.mpr ⟨rfl, List.forall_mem_cons.mpr ⟨rfl, isPlain_closing id _⟩⟩) taken

/-! ## The connection -/

private theorem dropAbove_works (sound : conn.Sound) (last : Nat)
    (reason : Reason) (debug : Octets) :
    Works conn.scene (conn.dropAbove last reason debug).scene := by
  have told := sayFarewell_works conn (Farewell.least conn.farewell.sent last) reason debug
  refine told.trans (dropAll_works ?_ _ .refusedStream fun id => .stream id .refusedStream)
  exact sound.registry

/-! ## All calls -/

private theorem called_of_obeys {R : List Mark → Scene → Scene → Prop}
    (obeys : ∀ result after, Served conn call result after → Obeys R call.input conn result after) :
    R (conn.gives call) conn.scene (conn.called call).scene := by
  have leads := (perform_served conn call).mono obeys
  unfold gives called
  cases ran : (perform call).run conn with
  | ok answer after => exact leads.of_ok ran
  | error error after => exact leads.of_error ran

variable (sound : conn.closed = false → conn.Sound)

include sound

theorem Served.plays (served : Served conn call result after)
    (stays : call.isFarewell = false) : Obeys Plays call.input conn result after := by
  cases served with
  | denied => exact Plays.refl _
  | looped allocated => exact Plays.of_stays (Registry.Takes.ours allocated).view
  | crowded allocated _ _ going => exact refuseOwn_plays (sound going) allocated
  | opened _ allocated _ _ _ begun going => exact begin_plays (sound going) allocated begun ..
  | promised _ _ _ held sends allocated going =>
    exact reserveLocal_plays (sound going) allocated held sends _
  | queued held sends lasts going =>
    exact queue_plays (sound going) held sends (.enqueue sends lasts) (Call.isPlain_input _)
      rfl rfl rfl (enqueue_sound _ _ sends)
  | trailed held sends lasts going =>
    exact queue_plays (sound going) held sends (.enqueueTrailers sends lasts) (Call.isPlain_input _)
      rfl rfl rfl (enqueueTrailers_sound _ sends)
  | dropped _ going | overfull _ _ _ going => exact dropStream_plays (sound going).registry ..
  | @placed id priority stream held live =>
    have act : Act id (.live stream.bare) [.said (.other (.priority id priority))]
        (.live stream.bare) := .speak (by simp [Frame.concerns])
    show Plays [] _ _
    rw [scene_write, scene_reprioritize]
    exact .of_still (view_scene held live) act (by simp [Mark.isPlain]) rfl
  | responded held sends early final _ moves going =>
    exact respond_plays (sound going) held sends early final moves
  | @informed id fields stream held sends early informational =>
    have act : Act id (.live stream.bare) [.said (.headers id fields none false)]
        (.live stream.bare) := .inform sends early informational
    show Plays [] _ _
    rw [scene_writeHeaders]
    exact .of_still (view_scene held (Stream.isLive_of_canSend sends)) act
      (by simp [Mark.isPlain]) rfl
  | @announced changes now _ _ ends going =>
    refine (ends.and (announce_leads (sound going) changes now)).elim ?_
    rintro _ _ ⟨⟨rfl, rfl⟩, ⟨error, rfl, rfl⟩ | ⟨rfl, -, windows, -, rfl⟩⟩
    · exact Plays.refl _
    · exact write_plays conn (show (Frame.settings false (wireForm changes)).isAside =
        true from rfl)
  | parted => cases stays
  | pinged | offered | named => exact write_plays conn rfl
  | skipped skips => exact Plays.of_stays (skipTo_view skips)
  | @grown _ _ windows => exact write_plays { conn with receiveWindows := windows } rfl
  | lowered => exact Plays.refl _

theorem Served.obeys (served : Served conn call result after) :
    Obeys Does call.input conn result after := by
  cases stays : call.isFarewell with
  | false =>
    have plays := served.plays sound stays
    cases result <;> exact plays.does
  | true =>
    cases served with
    | denied => exact Works.refl _
    | parted going => exact dropAbove_works (sound going) ..
    | _ => cases stays

theorem called_does (call : Call) : Does (conn.gives call) conn.scene (conn.called call).scene :=
  called_of_obeys fun _ _ served => served.obeys sound

theorem called_plays (stays : call.isFarewell = false) :
    Plays (conn.gives call) conn.scene (conn.called call).scene :=
  called_of_obeys fun _ _ served => served.plays sound stays

end Connection

end Http2
