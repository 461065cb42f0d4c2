import Http2.Proofs.Conduct

/-!
# Where a stream stands

The phase of a stream follows from what the two ends have said about it: which of them has sent
headers on it or promised it, which has ended it, and whether one has reset it.  The `Voice` of an
end is its part in this, and `standing` is the phase that two voices come to.  Seen from the other
end it is the dual phase.

A scene is `Attuned` to the frames that were written and heard if every stream stands where these
frames put it: a live one in that very phase, and one that is gone only if the frames have closed it
or never opened it.  `Tunes` is said of changes that keep a scene attuned, and `Plays` of acts that
do.
-/

namespace Http2

open List

variable {phase : Phase} {frame : Frame} {id : Nat}

/-! ## Outlines -/

def Frame.outline : Frame → Frame
  | headers id place _ endStream => headers id place [] endStream
  | pushPromise id promised _ => pushPromise id promised []
  | frame => frame

@[simp] def Item.outline : Item → Frame
  | data id octets endStream => .data id octets endStream none
  | headers id _ priority endStream => .headers id priority [] endStream
  | promise id promised _ => .pushPromise id promised []
  | other frame => frame.outline

theorem Item.outline_write (item : Item) (table : Header.Table) :
    (item.write table).1.outline = item.outline := by
  cases item <;> rfl

def Mark.frame? : Mark → Option Frame
  | said item => some item.outline
  | _ => none

def saidIn (marks : List Mark) : List Frame := marks.filterMap Mark.frame?

def Mark.hears? : Mark → Option Frame
  | heard item => some item.outline
  | _ => none

def heardIn (marks : List Mark) : List Frame := marks.filterMap Mark.hears?

theorem saidIn_append (first second : List Mark) :
    saidIn (first ++ second) = saidIn first ++ saidIn second := filterMap_append

theorem heardIn_filter (marks : List Mark) :
    heardIn (marks.filter Mark.isInput) = heardIn marks := by
  rw [heardIn, heardIn, filterMap_filter]
  congr 1
  funext mark
  cases mark <;> rfl

section Cons

variable (rest : List Mark) (item : Item) (event : Event) (stream : Nat) (octets : Octets)
  (endStream : Bool)

@[simp] theorem saidIn_nil : saidIn [] = [] := rfl

@[simp] theorem saidIn_took : saidIn (.took stream octets :: rest) = saidIn rest := rfl

@[simp] theorem saidIn_answered : saidIn (.answered stream endStream :: rest) = saidIn rest := rfl

@[simp] theorem saidIn_said : saidIn (.said item :: rest) = item.outline :: saidIn rest := rfl

@[simp] theorem saidIn_heard : saidIn (.heard item :: rest) = saidIn rest := rfl

@[simp] theorem saidIn_told : saidIn (.told event :: rest) = saidIn rest := rfl

@[simp] theorem heardIn_nil : heardIn [] = [] := rfl

@[simp] theorem heardIn_took : heardIn (.took stream octets :: rest) = heardIn rest := rfl

@[simp] theorem heardIn_answered :
    heardIn (.answered stream endStream :: rest) = heardIn rest := rfl

@[simp] theorem heardIn_said : heardIn (.said item :: rest) = heardIn rest := rfl

@[simp] theorem heardIn_told : heardIn (.told event :: rest) = heardIn rest := rfl

@[simp] theorem heardIn_heard : heardIn (.heard item :: rest) = item.outline :: heardIn rest := rfl

end Cons

@[simp] theorem saidIn_closing (id : Nat) (stream : Stream) : saidIn (closing id stream) = [] := by
  unfold closing
  split <;> rfl

@[simp] theorem heardIn_closing (id : Nat) (stream : Stream) :
    heardIn (closing id stream) = [] := by
  unfold closing
  split <;> rfl

theorem saidIn_dropping (id : Nat) (stream : Stream) (reason : Reason) (announced : Bool)
    (error : Error) :
    saidIn (dropping id stream reason announced error) =
      if announced then [.rstStream id reason.code] else [] := by
  unfold dropping
  cases announced <;> cases stream.hasOutbound <;> rfl

theorem Scene.said_noteAll (scene : Scene) (marks : List Mark) :
    ∃ said, (scene.noteAll marks).queued = scene.queued ++ said ∧
    said.map Frame.outline = saidIn marks := by
  induction marks generalizing scene with
  | nil => exact ⟨[], by simp⟩
  | cons mark rest ih =>
    obtain ⟨said, queued, outlines⟩ := ih (scene.note mark)
    rw [noteAll_cons, queued]
    cases mark with
    | said item =>
      refine ⟨_ :: said, append_assoc _ [_] said, ?_⟩
      rw [map_cons, Item.outline_write, outlines, saidIn_said]
    | took | answered | heard | told => exact ⟨said, rfl, outlines⟩

theorem SceneActs.said {scene after : Scene} {marks : List Mark}
    (sceneActs : SceneActs scene marks after) :
    ∃ said, after.queued = scene.queued ++ said ∧ said.map Frame.outline = saidIn marks := by
  induction sceneActs with
  | refl => exact ⟨[], by simp⟩
  | @tail _ more scene _ _ sceneAct ih =>
    obtain ⟨first, queued, outlines⟩ := ih
    obtain ⟨-, -, -, rest⟩ := sceneAct
    obtain ⟨said, queued', outlines'⟩ := scene.said_noteAll more
    refine ⟨first ++ said, ?_, by rw [map_append, saidIn_append, outlines, outlines']⟩
    rw [rest, ← append_assoc, ← queued]
    exact queued'

def Phase.dual : Phase → Phase
  | reservedLocal => reservedRemote
  | reservedRemote => reservedLocal
  | halfClosedLocal => halfClosedRemote
  | halfClosedRemote => halfClosedLocal
  | phase => phase

@[simp] theorem Phase.dual_eq_closed : phase.dual = .closed ↔ phase = .closed := by
  cases phase <;> simp [dual]

@[simp] theorem Phase.dual_eq_idle : phase.dual = .idle ↔ phase = .idle := by
  cases phase <;> simp [dual]

/-! ## Voices -/

structure Voice where
  opened : Bool := false
  promised : Bool := false
  ended : Bool := false
  reset : Bool := false
  deriving DecidableEq, Repr

instance Voice.decidableForall {p : Voice → Prop} [DecidablePred p] :
    Decidable (∀ voice, p voice) :=
  decidable_of_iff (∀ opened promised ended reset, p ⟨opened, promised, ended, reset⟩)
    ⟨fun all _ => all _ _ _ _, fun all _ _ _ _ => all _⟩

/-- The stream whose standing a frame may change. -/
def Frame.subject? : Frame → Option Nat
  | data id .. | headers id .. | rstStream id _ => some id
  | pushPromise _ promised _ => some promised
  | _ => none

def Frame.keepsTo (id : Nat) (frame : Frame) : Bool := frame.subject?.all (· == id)

theorem Frame.subject?_outline (frame : Frame) : frame.outline.subject? = frame.subject? := by
  cases frame <;> rfl

private theorem Frame.keepsTo_of_subject? (about : frame.subject? = some id) :
    frame.keepsTo id := by
  simp [keepsTo, about]

section KeepsTo

variable (id stream code : Nat) (priority : Option Priority) (octets : Octets) (endStream : Bool)
  (padding : Option UInt8)

@[simp] theorem Frame.keepsTo_headers : (headers id priority octets endStream).keepsTo id = true :=
  keepsTo_of_subject? rfl

@[simp] theorem Frame.keepsTo_data : (data id octets endStream padding).keepsTo id = true :=
  keepsTo_of_subject? rfl

@[simp] theorem Frame.keepsTo_rstStream : (rstStream id code).keepsTo id = true :=
  keepsTo_of_subject? rfl

@[simp] theorem Frame.keepsTo_pushPromise : (pushPromise stream id octets).keepsTo id = true :=
  keepsTo_of_subject? rfl

end KeepsTo

private theorem Frame.subject?_ne {other : Nat} (keeps : frame.keepsTo id) (differ : other ≠ id) :
    frame.subject? ≠ some other := by
  intro about
  rw [keepsTo, about] at keeps
  exact differ (by simpa using keeps)

namespace Voice

def add (voice : Voice) : Frame → Voice
  | .headers _ _ _ endStream => { voice with opened := true, ended := voice.ended || endStream }
  | .data _ _ endStream _ => { voice with ended := voice.ended || endStream }
  | .rstStream .. => { voice with reset := true }
  | .pushPromise .. => { voice with promised := true }
  | _ => voice

def hear (id : Nat) (voice : Voice) (frame : Frame) : Voice :=
  if frame.subject? = some id then voice.add frame else voice

def hearAll (id : Nat) (voice : Voice) (frames : List Frame) : Voice := frames.foldl (hear id) voice

variable (voice : Voice)

@[simp] theorem hearAll_nil : hearAll id voice [] = voice := rfl

@[simp] theorem hearAll_cons (frame : Frame) (frames : List Frame) :
    hearAll id voice (frame :: frames) = hearAll id (hear id voice frame) frames := rfl

theorem hearAll_append (first second : List Frame) :
    hearAll id voice (first ++ second) = hearAll id (hearAll id voice first) second :=
  foldl_append

section Hear

variable (octets : Octets) (endStream : Bool)

@[simp] theorem hear_data (padding : Option UInt8) :
    hear id voice (.data id octets endStream padding) =
      { voice with ended := voice.ended || endStream } :=
  if_pos rfl

@[simp] theorem hear_headers (priority : Option Priority) :
    hear id voice (.headers id priority octets endStream) =
      { voice with opened := true, ended := voice.ended || endStream } :=
  if_pos rfl

@[simp] theorem hear_rstStream (code : Nat) :
    hear id voice (.rstStream id code) = { voice with reset := true } :=
  if_pos rfl

@[simp] theorem hear_pushPromise (parent : Nat) :
    hear id voice (.pushPromise parent id octets) = { voice with promised := true } :=
  if_pos rfl

end Hear

theorem hearAll_of_others {frames : List Frame}
    (others : ∀ frame ∈ frames, frame.subject? ≠ some id) :
    hearAll id voice frames = voice := by
  induction frames with
  | nil => rfl
  | cons frame frames ih =>
    obtain ⟨first, others⟩ := forall_mem_cons.mp others
    rw [hearAll_cons, hear, if_neg first, ih others]

theorem hear_outline (frame : Frame) : hear id voice frame.outline = hear id voice frame := by
  cases frame <;> rfl

theorem hearAll_outline (frames : List Frame) :
    hearAll id voice (frames.map Frame.outline) = hearAll id voice frames := by
  induction frames generalizing voice with
  | nil => rfl
  | cons frame frames ih => rw [map_cons, hearAll_cons, hearAll_cons, hear_outline, ih]

end Voice

def voiceOf (id : Nat) (frames : List Frame) : Voice := Voice.hearAll id {} frames

private theorem voiceOf_append (id : Nat) (first second : List Frame) :
    voiceOf id (first ++ second) = (voiceOf id first).hearAll id second :=
  Voice.hearAll_append ..

/-! ## Standings -/

/-- The phase of a stream after what we have said and heard about it.  A promise closes the stream
on the side of the end that it is made to. -/
def standing (said heard : Voice) : Phase :=
  let left := said.ended || heard.promised
  let right := heard.ended || said.promised
  if said.reset || heard.reset || (left && right) then .closed
  else if !(said.opened || heard.opened || said.promised || heard.promised) then .idle
  else if said.promised && !said.opened then .reservedLocal
  else if heard.promised && !heard.opened then .reservedRemote
  else if left then .halfClosedLocal
  else if right then .halfClosedRemote
  else .opened

private theorem standing_dual (said heard : Voice) :
    standing heard said = (standing said heard).dual := by
  revert said heard
  decide +kernel

section Steps

variable {said heard : Voice} (stands : phase = standing said heard) (endStream : Bool)

include stands

private theorem next?_sendHeaders (sends : phase.canSend ∨ phase = .reservedLocal) :
    phase.next? (.sendHeaders endStream) =
      some (standing { said with opened := true, ended := said.ended || endStream } heard) := by
  subst stands
  revert said heard endStream
  decide +kernel

omit endStream in
private theorem next?_sendEnd (sends : phase.canSend) :
    phase.next? .sendEnd = some (standing { said with ended := true } heard) := by
  subst stands
  revert said heard
  decide +kernel

omit endStream in
private theorem next?_receiveEnd (receives : phase.canReceive) :
    phase.next? .receiveEnd = some (standing said { heard with ended := true }) := by
  subst stands
  revert said heard
  decide +kernel

private theorem next?_receiveHeaders (reserved : phase = .reservedRemote) :
    phase.next? (.receiveHeaders endStream) =
      some (standing said { heard with opened := true, ended := heard.ended || endStream }) := by
  subst stands
  revert said heard endStream
  decide +kernel

omit endStream in
private theorem standing_sayMore (sends : phase.canSend) :
    standing { said with opened := true } heard = phase := by
  subst stands
  revert said heard
  decide +kernel

omit endStream in
private theorem standing_hearMore (receives : phase.canReceive) :
    standing said { heard with opened := true } = phase := by
  subst stands
  revert said heard
  decide +kernel

end Steps

private theorem standing_of_reset {said heard : Voice} (reset : said.reset ∨ heard.reset) :
    standing said heard = .closed := by
  rcases reset with reset | reset <;> simp [standing, reset]

/-! ## Views -/

/-- The stream stands where the voices put it. -/
def View.Accords (said heard : Voice) : View → Prop
  | .unused _ => said = {} ∧ heard = {}
  | .gone => standing said heard = .closed ∨ standing said heard = .idle
  | .live stream => stream.phase = standing said heard ∧ stream.phase ≠ .idle

namespace View.Accords

variable {said heard : Voice} {stream next : Stream} {view : View}

theorem of_stream (stands : stream.phase = standing said heard) (begun : stream.phase ≠ .idle) :
    (View.of stream).Accords said heard := by
  unfold View.of
  split
  · exact ⟨stands, begun⟩
  · rename_i dead
    left
    rw [← stands]
    simpa [Stream.isLive, Phase.isClosed] using dead

theorem of_advance {signal : Signal} (moves : stream.advance? signal = some next)
    (follows : stream.phase.next? signal = some (standing said heard)) :
    (View.of next).Accords said heard := by
  obtain ⟨phase, moved, rfl⟩ := Option.map_eq_some_iff.mp moves
  obtain rfl := Option.some.inj (moved.symm.trans follows)
  exact of_stream rfl (Phase.next?_ne_idle moved)

theorem of_reset (reset : said.reset ∨ heard.reset) : View.gone.Accords said heard :=
  .inl (standing_of_reset reset)

theorem stays {after : View} (accords : view.Accords said heard) (stays : view.Stays after) :
    after.Accords said heard := by
  rcases stays with rfl | ⟨⟨ours, rfl⟩, rfl⟩
  · exact accords
  · obtain ⟨rfl, rfl⟩ := accords
    exact .inr rfl

/-- Two ends that have heard all of one another have the same live streams, in dual phases. -/
theorem dual {far : View} (near : (View.live stream).Accords said heard) (live : stream.isLive)
    (there : far.Accords heard said) :
    ∃ other, far = .live other ∧ other.phase = stream.phase.dual := by
  obtain ⟨stands, begun⟩ := near
  have lasts : stream.phase ≠ .closed := by simpa [Stream.isLive, Phase.isClosed] using live
  cases far with
  | unused ours =>
    obtain ⟨rfl, rfl⟩ := there
    exact absurd stands begun
  | gone =>
    have ended : standing heard said = .closed ∨ standing heard said = .idle := there
    rw [standing_dual said heard, ← stands, Phase.dual_eq_closed, Phase.dual_eq_idle] at ended
    exact (ended.elim lasts begun).elim
  | live other => exact ⟨other, rfl, by rw [there.1, standing_dual said heard, ← stands]⟩

end View.Accords

open View.Accords

/-! ## Scenes -/

/-- Every stream stands where the frames put it that were written, `past` and those that still wait
to be sent, and that were heard. -/
def Scene.Attuned (past heard : List Frame) (scene : Scene) : Prop :=
  ∀ id, (scene.view id).Accords (voiceOf id (past ++ scene.queued)) (voiceOf id heard)

/-- The scene stays attuned as the frames are heard. -/
def Tunes (hears : List Frame) (scene after : Scene) : Prop :=
  ∀ past heard, scene.Attuned past heard → after.Attuned past (heard ++ hears)

namespace Tunes

variable {hears said : List Frame} {start scene after : Scene} {view next : View}
  {views : Nat → View}

theorem refl (scene : Scene) : Tunes [] scene scene := fun past heard attuned => by
  rwa [append_nil]

theorem trans (first : Tunes hears start scene) (second : Tunes [] scene after) :
    Tunes hears start after := fun past heard attuned => by
  have later := second past _ (first past heard attuned)
  rwa [append_nil] at later

theorem before (first : Tunes [] start scene) (second : Tunes hears scene after) :
    Tunes hears start after := fun past heard attuned => by
  have early := first past heard attuned
  rw [append_nil] at early
  exact second past heard early

theorem change (id : Nat) (queued : after.queued = scene.queued ++ said)
    (others : ∀ other, other ≠ id → (scene.view other).Stays (after.view other))
    (keeps : ∀ frame ∈ said ++ hears, frame.keepsTo id)
    (own : ∀ voice voice', (scene.view id).Accords voice voice' →
      (after.view id).Accords (voice.hearAll id said) (voice'.hearAll id hears)) :
    Tunes hears scene after := by
  intro past heard attuned other
  rw [queued, ← append_assoc, voiceOf_append, voiceOf_append _ heard]
  by_cases here : other = id
  · subst here
    exact own _ _ (attuned other)
  · have silent : ∀ frame ∈ said ++ hears, frame.subject? ≠ some other :=
      fun frame member => Frame.subject?_ne (keeps frame member) here
    rw [Voice.hearAll_of_others _ fun frame member => silent frame (mem_append_left _ member),
      Voice.hearAll_of_others _ fun frame member => silent frame (mem_append_right _ member)]
    exact (attuned other).stays (others other here)

section

variable (marks : List Mark) (now : scene.view id = view)
  (keeps : ∀ frame ∈ saidIn marks ++ hears, frame.keepsTo id)
  (own : ∀ said heard, view.Accords said heard →
    next.Accords (said.hearAll id (saidIn marks)) (heard.hearAll id hears))

include now keeps own

theorem act (others : ∀ other, other ≠ id → (scene.view other).Stays (views other)) :
    Tunes hears scene (({ scene with view := views }.noteAll marks).setView id next) := by
  obtain ⟨written, queued, outline⟩ := scene.said_noteAll marks
  rw [Scene.noteAll_withView]
  refine change id queued (fun other differ => ?_) ?_ fun said heard accords => ?_
  · rw [Scene.setView]
    simp only [if_neg (Ne.symm differ)]
    exact others other differ
  · intro frame member
    rcases mem_append.mp member with said | heard
    · rw [Frame.keepsTo, ← Frame.subject?_outline]
      refine keeps _ (mem_append_left _ ?_)
      rw [← outline]
      exact mem_map_of_mem said
    · exact keeps frame (mem_append_right _ heard)
  · rw [Scene.view_setView_self, ← Voice.hearAll_outline, outline]
    exact own said heard (now ▸ accords)

theorem act_alone : Tunes hears scene ((scene.noteAll marks).setView id next) :=
  act marks now keeps own fun _ _ => .inl rfl

end

theorem mute (view : after.view = scene.view) (queued : after.queued = scene.queued ++ said)
    (mute : ∀ frame ∈ said ++ hears, frame.subject? = none) : Tunes hears scene after := by
  have silent : ∀ frame ∈ said ++ hears, frame.subject? ≠ some 0 := fun frame member => by
    simp [mute frame member]
  refine change 0 queued (fun other _ => .inl (congrFun view other)) (fun frame member => ?_)
    fun voice voice' accords => ?_
  · rw [Frame.keepsTo, mute frame member]
    rfl
  · rw [view, Voice.hearAll_of_others _ fun frame member => silent frame (mem_append_left _ member),
      Voice.hearAll_of_others _ fun frame member => silent frame (mem_append_right _ member)]
    exact accords

theorem of_stays (stays : ∀ id, (scene.view id).Stays (views id)) :
    Tunes [] scene { scene with view := views } := fun past heard attuned id => by
  rw [append_nil]
  exact (attuned id).stays (stays id)

theorem same (view : after.view = scene.view) (queued : after.queued = scene.queued) :
    Tunes [] scene after :=
  mute view (queued.trans (append_nil _).symm) (by simp)

theorem congr {other : Frame} (tunes : Tunes [other] scene after)
    (same : ∀ id voice, Voice.hear id voice frame = Voice.hear id voice other) :
    Tunes [frame] scene after := fun past heard attuned id => by
  have accords := tunes past heard attuned id
  rw [voiceOf_append _ heard] at accords ⊢
  rwa [Voice.hearAll_cons, same]

end Tunes

/-! ## Acts -/

/-- The mark is no promise and tells of no stream that was given up.  Both can change a stream
without a frame on it. -/
def Mark.isPlain : Mark → Bool
  | said (.promise ..) | heard (.promise ..) => false
  | heard (.other frame) => frame.subject?.isNone
  | told (.streamClosed _ reason) => reason.isNone
  | _ => true

section Acts

variable {stream next : Stream} {view : View} {marks : List Mark} {said heard : Voice}

theorem Mark.mute_of_aside {mark : Mark} (aside : mark.isAside) (plain : mark.isPlain) :
    ∀ frame, mark.frame? = some frame ∨ mark.hears? = some frame → frame.subject? = none := by
  rintro frame (same | same)
  · cases mark <;> cases same
    rename_i item
    cases item with
    | other frame => cases frame <;> first | rfl | cases aside
    | _ => cases aside
  · cases mark <;> cases same
    rename_i item
    cases item with
    | other frame => exact (frame.subject?_outline).trans (Option.isNone_iff_eq_none.mp plain)
    | _ => cases aside

theorem isPlain_closing (id : Nat) (stream : Stream) :
    ∀ mark ∈ closing id stream, mark.isPlain := by
  unfold closing
  split <;> simp [Mark.isPlain]

theorem View.Accords.of_endIf {ended : Bool} (moves : stream.endIf? ended .receiveEnd = some next)
    (receives : stream.phase.canReceive) (stands : stream.phase = standing said heard)
    (begun : stream.phase ≠ .idle) :
    (View.of next).Accords said { heard with ended := heard.ended || ended } := by
  cases ended with
  | false =>
    obtain rfl := Option.some.inj moves
    exact .of_stream (by simpa using stands) begun
  | true => exact .of_advance moves (by simpa using next?_receiveEnd stands receives)

theorem Act.accords (act : Act id (.live stream) marks view)
    (plain : ∀ mark ∈ marks, mark.isPlain) :
    (∀ frame ∈ saidIn marks ++ heardIn marks, frame.keepsTo id) ∧
      ∀ said heard, (View.live stream).Accords said heard →
        view.Accords (said.hearAll id (saidIn marks)) (heard.hearAll id (heardIn marks)) := by
  have given : ∀ {reason announced error}, ¬∀ mark ∈ dropping id stream reason announced error,
      mark.isPlain = true := fun all => by
    cases all _ (mem_append_right _ (mem_singleton_self _))
  cases act with
  | aside aside =>
    have mute : ∀ frame ∈ saidIn marks ++ heardIn marks, frame.subject? = none := by
      intro frame member
      rcases mem_append.mp member with member | member <;>
        obtain ⟨mark, member, same⟩ := mem_filterMap.mp member
      · exact Mark.mute_of_aside (aside mark member) (plain mark member) frame (.inl same)
      · exact Mark.mute_of_aside (aside mark member) (plain mark member) frame (.inr same)
    refine ⟨fun frame member => by simp [Frame.keepsTo, mute frame member],
      fun said heard accords => ?_⟩
    rwa
      [Voice.hearAll_of_others _
        fun frame member => by simp [mute frame (mem_append_left _ member)],
      Voice.hearAll_of_others _ fun frame member => by
      simp [mute frame (mem_append_right _ member)]]
  | enqueue | enqueueTrailers => exact ⟨by simp, fun said heard accords => accords⟩
  | dispatch =>
    refine ⟨by simp, fun said heard accords => ⟨?_, accords.2⟩⟩
    simpa using accords.1
  | conclude sends _ _ moves =>
    refine ⟨by simp, fun said heard accords => ?_⟩
    simpa using of_advance moves (next?_sendEnd accords.1 sends)
  | trail sends _ _ moves =>
    refine ⟨by simp, fun said heard accords => ?_⟩
    simpa using of_advance moves (next?_sendHeaders accords.1 true (.inl sends))
  | inform sends =>
    refine ⟨by simp, fun said heard accords => ⟨?_, accords.2⟩⟩
    simpa using (standing_sayMore accords.1 sends).symm
  | respond sends _ _ moves =>
    refine ⟨by simp, fun said heard accords => ?_⟩
    simpa using of_advance moves (next?_sendHeaders accords.1 _ sends)
  | @speak stream frame about =>
    have mute : frame.subject? = none := by cases frame <;> first | rfl | cases about
    refine ⟨by simp [Frame.keepsTo, Frame.subject?_outline, mute], fun said heard accords => ?_⟩
    simpa [Voice.hear, Frame.subject?_outline, mute] using accords
  | promise | hearPromise => simp [Mark.isPlain] at plain
  | drop => exact absurd plain given
  | refuse => exact absurd (forall_mem_cons.mp plain).2 given
  | @receiveData _ _ octets endStream receives moves =>
    clear plain
    generalize (!octets.isEmpty || endStream) = shown
    refine ⟨by cases shown <;> simp, fun said heard accords => ?_⟩
    have ended := of_endIf moves receives accords.1 accords.2
    cases shown <;> simpa using ended
  | receiveFirst reserved moves =>
    refine ⟨by simp, fun said heard accords => ?_⟩
    simpa using of_advance moves (next?_receiveHeaders accords.1 _ reserved)
  | receiveHeaders receives early moves =>
    refine ⟨by simp, fun said heard accords => ?_⟩
    simpa using of_endIf moves receives (standing_hearMore accords.1 receives).symm accords.2
  | receiveTrailers receives late moves =>
    refine ⟨by simp, fun said heard accords => ?_⟩
    have ended : stream.endIf? true .receiveEnd = _ := moves
    simpa using of_endIf ended receives (standing_hearMore accords.1 receives).symm accords.2

end Acts

structure Plays (input : List Mark) (scene after : Scene) : Prop where
  does : Does input scene after
  tunes : Tunes (heardIn input) scene after

namespace Plays

variable {start scene after : Scene} {input marks : List Mark} {stream : Stream} {next : View}

theorem refl (scene : Scene) : Plays [] scene scene := ⟨Works.refl scene, .refl scene⟩

theorem trans (first : Plays input start scene) (second : Plays [] scene after) :
    Plays input start after :=
  ⟨first.does.works second.does, first.tunes.trans second.tunes⟩

theorem of_act (now : scene.view id = .live stream) (act : Act id (.live stream) marks next)
    (plain : ∀ mark ∈ marks, mark.isPlain) (takes : marks.filter Mark.isInput = input) :
    Plays input scene ((scene.noteAll marks).setView id next) := by
  obtain ⟨keeps, own⟩ := act.accords plain
  refine ⟨.of_act now act takes, ?_⟩
  rw [← takes, heardIn_filter]
  exact .act_alone marks now keeps own

theorem of_still (now : scene.view id = .live stream)
    (act : Act id (.live stream) marks (.live stream))
    (plain : ∀ mark ∈ marks, mark.isPlain) (takes : marks.filter Mark.isInput = input) :
    Plays input scene (scene.noteAll marks) := by
  have plays := of_act now act plain takes
  rwa [Scene.setView_noteAll_self now] at plays

theorem of_stays {views : Nat → View} (stays : ∀ id, (scene.view id).Stays (views id)) :
    Plays [] scene { scene with view := views } := ⟨Works.of_stays stays, .of_stays stays⟩

theorem tell {event : Event} (aside : event.isAside) : Plays [] scene (scene.note (.told event)) :=
  ⟨Works.tell aside, .same rfl rfl⟩

theorem say (aside : frame.isAside) : Plays [] scene (scene.note (.said (.other frame))) := by
  have mute : frame.subject? = none := by cases frame <;> first | rfl | cases aside
  exact ⟨Works.say aside, .mute rfl rfl (by simpa [Item.write] using mute)⟩

end Plays

end Http2
