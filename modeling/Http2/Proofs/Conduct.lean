import Http2.Proofs.Run

/-!
# The conduct of a connection

Seen from outside, a connection is a set of streams, the frames it has written and what it has told
the application: its `Scene`.  `Act` lists everything that a connection can do on one stream, as a
change of the stream together with the marks that it leaves: octets taken from the application, what
is said to the peer, what is heard from it and what the application is told.  A `SceneAct` is an act
on one of the streams of a scene, and `SceneActs` are a stretch of them.  What holds of every act on
a stream holds along everything that a connection does.
-/

namespace Http2

open Registry

/-! ## What is said and heard -/

/-- The content of a frame, with header blocks as the fields that they stand for. -/
inductive Item where
  | data (stream : Nat) (octets : Octets) (endStream : Bool)
  | headers (stream : Nat) (fields : List Field) (priority : Option Priority) (endStream : Bool)
  | promise (stream promised : Nat) (fields : List Field)
  | other (frame : Frame)
  deriving DecidableEq, Repr

namespace Item

def write (table : Header.Table) : Item → Frame × Header.Table
  | data id octets endStream => (.data id octets endStream none, table)
  | headers id fields priority endStream =>
    let (block, table) := Header.encodeBlock table fields
    (.headers id priority block endStream, table)
  | promise id promised fields =>
    let (block, table) := Header.encodeBlock table fields
    (.pushPromise id promised block, table)
  | other frame => (frame, table)

def read (table : Header.Table) : Frame → Except Header.Failure Item × Header.Table
  | .data id octets endStream _ => (.ok (.data id octets endStream), table)
  | .headers id priority block endStream =>
    let (result, table) := Header.decodeBlock table block
    (result.map (.headers id · priority endStream), table)
  | .pushPromise id promised block =>
    let (result, table) := Header.decodeBlock table block
    (result.map (.promise id promised ·), table)
  | frame => (.ok (.other frame), table)

end Item

def Item.isOn (id : Nat) : Item → Bool
  | data stream .. | headers stream .. => stream == id
  | _ => false

/-- A trace of what a connection has done. -/
inductive Mark where
  | took (stream : Nat) (octets : Octets)
  | answered (stream : Nat) (endStream : Bool)
  | said (item : Item)
  | heard (item : Item)
  | told (event : Event)
  deriving DecidableEq, Repr

/-! ## Acts on a stream -/

/-- What shows of a stream: only which end may open it, nothing any more, or the stream itself. -/
inductive View where
  | unused (ours : Bool)
  | gone
  | live (stream : Stream)
  deriving DecidableEq, Repr

def View.of (stream : Stream) : View := if stream.isLive then .live stream else .gone

/-- Frames about the connection.  Alternative services are named for an origin. -/
def Frame.isAside : Frame → Bool
  | settings .. | ping .. | goaway .. | origin _ | altSvc .. => true
  | windowUpdate id _ => id == 0
  | _ => false

def Frame.concerns (id : Nat) : Frame → Bool
  | windowUpdate stream _ | priority stream _ => stream == id
  | _ => false

def Event.isAside : Event → Bool
  | ownSettings _ | peerSettings _ | goaway .. | pingAck _ | altSvc .. | origin _
  | sessionError _ => true
  | _ => false

def Mark.isAside : Mark → Bool
  | said (.other frame) => frame.isAside
  | heard (.other _) => true
  | told event => event.isAside
  | _ => false

def closing (id : Nat) (stream : Stream) : List Mark :=
  if stream.isLive then [] else [.told (.streamClosed id none)]

def dropping (id : Nat) (stream : Stream) (reason : Reason) (announced : Bool) (error : Error) :
    List Mark :=
  (if announced then [.said (.other (.rstStream id reason.code))] else []) ++
    (if stream.hasOutbound then [.told (.sendCancelled id stream.buffered error)] else []) ++
      [.told (.streamClosed id (some reason))]

def Stream.endIf? (stream : Stream) (ended : Bool) (signal : Signal) : Option Stream :=
  if ended then stream.advance? signal else some stream

inductive Act (id : Nat) : View → List Mark → View → Prop
  | aside {view : View} {marks : List Mark} (aside : ∀ mark ∈ marks, mark.isAside) :
      Act id view marks view
  | pass {ours : Bool} : Act id (.unused ours) [] .gone
  -- streams of ours
  | openLocal {fields : List Field} {priority : Option Priority}
      {endStream : Bool} {stream : Stream}
      (opens : ({} : Stream).advance? (.sendHeaders endStream) = some stream) :
      Act id (.unused true) [.said (.headers id fields priority endStream)]
        (.live { stream with finalSent := true })
  | refuseOwn : Act id (.unused true) [.told (.streamClosed id (some .refusedStream))] .gone
  | reserveLocal : Act id (.unused true) [] (.live { phase := .reservedLocal })
  -- sending
  | enqueue {stream : Stream} {octets : Octets} {endStream : Bool} (sends : stream.phase.canSend)
      (lasts : stream.endQueued = false) :
      Act id (.live stream) [.took id octets] (.live (stream.enqueue octets endStream))
  | enqueueTrailers {stream : Stream} {fields : List Field} (sends : stream.phase.canSend)
      (lasts : stream.endQueued = false) :
      Act id (.live stream) [] (.live (stream.enqueueTrailers fields))
  | dispatch {stream : Stream} {octets : Octets} {left : Buffer}
      (sends : stream.phase.canSend) (first : stream.queue.Splits octets left) :
      Act id (.live stream) [.said (.data id octets false)] (.live { stream with queue := left })
  | conclude {stream next : Stream} {last : Octets} (sends : stream.phase.canSend)
      (ends : stream.endQueued) (rest : stream.queue.Splits last {})
      (moves : { stream.endSent with queue := {} }.advance? .sendEnd = some next) :
      Act id (.live stream) (.said (.data id last true) :: closing id next) (.of next)
  | trail {stream next : Stream} {fields : List Field} (sends : stream.phase.canSend)
      (waits : stream.trailers = some fields) (empty : stream.queue = {})
      (moves : stream.endSent.advance? (.sendHeaders true) = some next) :
      Act id (.live stream) (.said (.headers id fields none true) :: closing id next) (.of next)
  | inform {stream : Stream} {fields : List Field} (sends : stream.phase.canSend)
      (early : stream.finalSent = false) (informational : isInformational fields) :
      Act id (.live stream) [.said (.headers id fields none false)] (.live stream)
  | respond {stream next : Stream} {fields : List Field} {endStream : Bool}
      (sends : stream.phase.canSend ∨ stream.phase = .reservedLocal)
      (early : stream.finalSent = false) (final : isInformational fields = false)
      (moves : { stream with finalSent := true }.advance? (.sendHeaders endStream) = some next) :
      Act id (.live stream)
        (.answered id endStream :: .said (.headers id fields none endStream) :: closing id next)
        (.of next)
  | promise {stream : Stream} {promised : Nat} {fields : List Field}
      (sends : stream.phase.canSend) :
      Act id (.live stream) [.said (.promise id promised fields)] (.live stream)
  | speak {stream : Stream} {frame : Frame} (about : frame.concerns id) :
      Act id (.live stream) [.said (.other frame)] (.live stream)
  -- giving up
  | drop {stream : Stream} (reason : Reason) (announced : Bool) (error : Error) :
      Act id (.live stream) (dropping id stream reason announced error) .gone
  | disown (code : Nat) : Act id .gone [.said (.other (.rstStream id code))] .gone
  -- streams of the peer
  | openRemote {fields : List Field} {priority : Option Priority} {endStream : Bool}
      {stream : Stream} (opens : ({} : Stream).advance? (.receiveHeaders endStream) = some stream) :
      Act id (.unused false)
        [.heard (.headers id fields priority endStream), .told (.streamCreated id none),
          .told (.headers id fields endStream)]
        (.live { stream with finalReceived := !isInformational fields })
  | refuseRemote {fields : List Field} {priority : Option Priority}
      {endStream : Bool} (code : Nat) :
      Act id (.unused false)
        [.heard (.headers id fields priority endStream), .said (.other (.rstStream id code))] .gone
  | passOver {fields : List Field} {priority : Option Priority} {endStream : Bool} :
      Act id (.unused false) [.heard (.headers id fields priority endStream)] .gone
  | hearPromise {stream : Stream} {promised : Nat} {fields : List Field}
      (receives : stream.phase.canReceive) :
      Act id (.live stream) [.heard (.promise id promised fields)] (.live stream)
  | reserveRemote (promise : Promise) :
      Act id (.unused false) [.told (.streamCreated id (some promise))]
        (.live { phase := .reservedRemote })
  -- receiving
  | receiveData {stream next : Stream} {octets : Octets} {endStream : Bool}
      (receives : stream.phase.canReceive)
      (moves : stream.endIf? endStream .receiveEnd = some next) :
      Act id (.live stream) (.heard (.data id octets endStream) ::
          (if !octets.isEmpty || endStream then [.told (.data id octets endStream)] else []) ++
            closing id next)
        (.of next)
  | refuse {stream : Stream} {item : Item} (about : item.isOn id) (reason : Reason)
      (announced : Bool) (error : Error) :
      Act id (.live stream) (.heard item :: dropping id stream reason announced error) .gone
  | ignore {item : Item} (about : item.isOn id) : Act id .gone [.heard item] .gone
  | receiveFirst {stream next : Stream} {fields : List Field} {priority : Option Priority}
      {endStream : Bool} (reserved : stream.phase = .reservedRemote)
      (moves : { stream with finalReceived := !isInformational fields }.advance?
        (.receiveHeaders endStream) = some next) :
      Act id (.live stream)
        (.heard (.headers id fields priority endStream) :: .told (.headers id fields endStream) ::
          closing id next)
        (.of next)
  | receiveHeaders {stream next : Stream} {fields : List Field} {priority : Option Priority}
      {endStream : Bool} (receives : stream.phase.canReceive) (early : stream.finalReceived = false)
      (moves : { stream with finalReceived := !isInformational fields }.endIf? endStream
        .receiveEnd = some next) :
      Act id (.live stream)
        (.heard (.headers id fields priority endStream) :: .told (.headers id fields endStream) ::
          closing id next)
        (.of next)
  | receiveTrailers {stream next : Stream} {fields : List Field} {priority : Option Priority}
      (receives : stream.phase.canReceive) (late : stream.finalReceived)
      (moves : stream.advance? .receiveEnd = some next) :
      Act id (.live stream) (.heard (.headers id fields priority true) ::
        .told (.trailers id fields) ::
          closing id next)
        (.of next)

/-! ## Scenes -/

structure Scene where
  view : Nat → View
  queued : List Frame
  encoder : Header.Table
  decoder : Header.Table
  events : List Event
  closed : Bool

namespace Scene

def setView (scene : Scene) (id : Nat) (view : View) : Scene :=
  { scene with view := fun other => if id = other then view else scene.view other }

def note (scene : Scene) : Mark → Scene
  | .said item =>
    { scene with
      queued := scene.queued ++ [(item.write scene.encoder).1]
      encoder := (item.write scene.encoder).2 }
  | .told event => { scene with events := scene.events ++ [event] }
  | .took .. | .answered .. | .heard _ => scene

def noteAll (scene : Scene) (marks : List Mark) : Scene := marks.foldl note scene

end Scene

/-- The stream has not changed, or its identifier has been passed over. -/
def View.Stays (view after : View) : Prop :=
  after = view ∨ (∃ ours, view = .unused ours) ∧ after = .gone

inductive SceneAct (scene : Scene) (marks : List Mark) (after : Scene) : Prop
  | intro (id : Nat) (act : Act id (scene.view id) marks (after.view id))
      (others : ∀ other, other ≠ id → (scene.view other).Stays (after.view other))
      (rest : after = { scene.noteAll marks with view := after.view })

inductive SceneActs (start : Scene) : List Mark → Scene → Prop
  | refl : SceneActs start [] start
  | tail {marks more : List Mark} {scene after : Scene} (sceneActs : SceneActs start marks scene)
      (sceneAct : SceneAct scene more after) : SceneActs start (marks ++ more) after

section Scenes

variable {start scene after : Scene} {marks more input : List Mark} {id : Nat} {view next : View}

theorem SceneActs.single (sceneAct : SceneAct scene marks after) : SceneActs scene marks after :=
  SceneActs.refl.tail sceneAct

theorem SceneActs.trans (first : SceneActs start marks scene)
    (second : SceneActs scene more after) :
    SceneActs start (marks ++ more) after := by
  induction second with
  | refl =>
    rw [List.append_nil]
    exact first
  | tail _ sceneAct ih =>
    rw [← List.append_assoc]
    exact ih.tail sceneAct

namespace Scene

variable (scene id view)

@[simp] theorem view_note (mark : Mark) : (scene.note mark).view = scene.view := by
  cases mark <;> rfl

@[simp] theorem view_noteAll (marks : List Mark) : (scene.noteAll marks).view = scene.view := by
  induction marks generalizing scene with
  | nil => rfl
  | cons mark rest ih =>
    rw [noteAll, List.foldl_cons]
    exact (ih _).trans (view_note scene mark)

@[simp] theorem noteAll_nil : scene.noteAll [] = scene := rfl

@[simp] theorem noteAll_cons (mark : Mark) (rest : List Mark) :
    scene.noteAll (mark :: rest) = (scene.note mark).noteAll rest := rfl

theorem noteAll_append (first second : List Mark) :
    scene.noteAll (first ++ second) = (scene.noteAll first).noteAll second := List.foldl_append

theorem noteAll_withView (view : Nat → View) (marks : List Mark) :
    { scene with view }.noteAll marks = { scene.noteAll marks with view } := by
  induction marks generalizing scene with
  | nil => rfl
  | cons mark rest ih =>
    rw [noteAll_cons, noteAll_cons, ← ih]
    cases mark <;> rfl

theorem setView_noteAll (marks : List Mark) :
    (scene.setView id view).noteAll marks = (scene.noteAll marks).setView id view := by
  rw [setView, noteAll_withView, setView, view_noteAll]

theorem setView_note (mark : Mark) :
    (scene.setView id view).note mark = (scene.note mark).setView id view :=
  setView_noteAll scene id view [mark]

@[simp] theorem view_setView_self : (scene.setView id view).view id = view := if_pos rfl

@[simp] theorem setView_setView (first second : View) :
    (scene.setView id first).setView id second = scene.setView id second := by
  simp only [setView]
  congr 1
  funext other
  split <;> rfl

variable {scene id view}

theorem setView_self (same : scene.view id = view) : scene.setView id view = scene := by
  have views : (fun other => if id = other then view else scene.view other) = scene.view := by
    funext other
    split
    · rename_i here
      rw [← here, same]
    · rfl
  rw [setView, views]

theorem setView_noteAll_self (same : scene.view id = view) (marks : List Mark) :
    (scene.noteAll marks).setView id view = scene.noteAll marks :=
  setView_self (by rw [view_noteAll, same])

end Scene

theorem SceneAct.of_views {views : Nat → View} (now : scene.view id = view)
    (act : Act id view marks next)
    (others : ∀ other, other ≠ id → (scene.view other).Stays (views other)) :
    SceneAct scene marks (({ scene with view := views }.noteAll marks).setView id next) := by
  rw [Scene.noteAll_withView]
  refine .intro id ?_ (fun other differ => ?_) rfl
  · rw [now, Scene.view_setView_self]
    exact act
  · rw [Scene.setView]
    simp only [if_neg (Ne.symm differ)]
    exact others other differ

theorem SceneAct.of_act (now : scene.view id = view) (act : Act id view marks next) :
    SceneAct scene marks ((scene.noteAll marks).setView id next) :=
  .of_views now act fun _ _ => .inl rfl

theorem SceneAct.of_aside (aside : ∀ mark ∈ marks, mark.isAside) :
    SceneAct scene marks (scene.noteAll marks) :=
  .intro 0 (by rw [Scene.view_noteAll]; exact .aside aside)
    (fun _ _ => .inl (by rw [Scene.view_noteAll])) rfl

/-! ## Work -/

def Mark.isInput : Mark → Bool
  | took .. | answered .. | heard _ => true
  | _ => false

def Does (input : List Mark) (scene after : Scene) : Prop :=
  ∃ marks, SceneActs scene marks after ∧ marks.filter Mark.isInput = input

abbrev Works : Scene → Scene → Prop := Does []

theorem Does.trans {late : List Mark} (first : Does input start scene)
    (second : Does late scene after) :
    Does (input ++ late) start after := by
  obtain ⟨marks, sceneActs, rfl⟩ := first
  obtain ⟨more, sceneActs', rfl⟩ := second
  exact ⟨marks ++ more, sceneActs.trans sceneActs', List.filter_append _ _⟩

theorem Does.of_act (now : scene.view id = view) (act : Act id view marks next)
    (takes : marks.filter Mark.isInput = input) :
    Does input scene ((scene.noteAll marks).setView id next) :=
  ⟨marks, .single (.of_act now act), takes⟩

theorem Does.of_still (now : scene.view id = view) (act : Act id view marks view)
    (takes : marks.filter Mark.isInput = input) : Does input scene (scene.noteAll marks) := by
  have does := of_act now act takes
  rwa [Scene.setView_noteAll_self now] at does

theorem Does.works (first : Does input start scene) (second : Works scene after) :
    Does input start after := by
  simpa using first.trans second

namespace Works

theorem refl (scene : Scene) : Works scene scene := ⟨[], .refl, rfl⟩

theorem trans (first : Works start scene) (second : Works scene after) : Works start after :=
  Does.works first second

theorem of_stays {views : Nat → View} (stays : ∀ id, (scene.view id).Stays (views id)) :
    Works scene { scene with view := views } := by
  refine ⟨[], .single (.intro 0 ?_ (fun other _ => stays other) rfl), rfl⟩
  rcases stays 0 with same | ⟨⟨ours, unused⟩, gone⟩
  · simp only [same]
    exact .aside (by simp)
  · simp only [unused, gone]
    exact .pass

theorem does (first : Works start scene) (second : Does input scene after) :
    Does input start after := Does.trans first second

theorem tell {event : Event} (aside : event.isAside) : Works scene (scene.note (.told event)) :=
  ⟨[.told event], .single (.of_aside (by simpa [Mark.isAside] using aside)), rfl⟩

theorem say {frame : Frame} (aside : frame.isAside) :
    Works scene (scene.note (.said (.other frame))) :=
  ⟨[.said (.other frame)], .single (.of_aside (by simpa [Mark.isAside] using aside)), rfl⟩

end Works

end Scenes

/-! ## The scene of a connection -/

namespace Registry

def live? (registry : Registry) (id : Nat) : Option Stream :=
  (registry.bare? id).filter Stream.isLive

def view (registry : Registry) (id : Nat) : View :=
  match registry.live? id with
  | some stream => .live stream
  | none => if registry.isIdle id then .unused (registry.isLocal id) else .gone

variable {registry after : Registry} {id : Nat} {stream : Stream}

private theorem live?_of_get? (held : registry.get? id = some stream) (live : stream.isLive) :
    registry.live? id = some stream.bare := by
  simp [live?, bare?, held, Option.filter_some, live]

private theorem live?_eq_none_iff : registry.live? id = none ↔ registry.cargo? id = none := by
  unfold live? bare? cargo? held?
  cases registry.get? id with
  | none => simp
  | some stream => cases live : stream.isLive <;> simp [Option.filter_some, live]

theorem view_of_get? (held : registry.get? id = some stream) (live : stream.isLive) :
    registry.view id = .live stream.bare := by
  rw [view, live?_of_get? held live]

theorem view_eq_gone (none : registry.cargo? id = none) (used : registry.isIdle id = false) :
    registry.view id = .gone := by
  rw [view, live?_eq_none_iff.mpr none, used]
  rfl

theorem view_eq_unused (none : registry.cargo? id = none) (idle : registry.isIdle id) :
    registry.view id = .unused (registry.isLocal id) := by
  rw [view, live?_eq_none_iff.mpr none, idle]
  rfl

theorem view_cases (registry : Registry) (id : Nat) :
    (∃ stream, registry.get? id = some stream ∧ stream.isLive ∧
      registry.view id = .live stream.bare) ∨
    (∀ stream, registry.get? id = some stream → stream.isLive = false) ∧
      registry.view id = if registry.isIdle id then .unused (registry.isLocal id) else .gone := by
  by_cases live : ∃ stream, registry.get? id = some stream ∧ stream.isLive
  · obtain ⟨stream, held, live⟩ := live
    exact .inl ⟨stream, held, live, view_of_get? held live⟩
  · have ended : ∀ stream, registry.get? id = some stream → stream.isLive = false :=
      fun stream held => Bool.eq_false_iff.mpr fun alive => live ⟨stream, held, alive⟩
    have none : registry.live? id = none := by
      cases held : registry.get? id with
      | none => simp [live?, bare?, held]
      | some stream => simp [live?, bare?, held, Option.filter_some, ended stream held]
    refine .inr ⟨ended, ?_⟩
    rw [view, none]

private theorem view_congr (live : after.live? id = registry.live? id)
    (idle : after.isIdle id = registry.isIdle id) (role : after.role = registry.role) :
    after.view id = registry.view id := by
  rw [view, view, live, idle, isLocal, isLocal, role]

private theorem view_of_bare? (same : after.bare? id = registry.bare? id)
    (idle : after.isIdle id = registry.isIdle id) (role : after.role = registry.role) :
    after.view id = registry.view id :=
  view_congr (by rw [live?, live?, same]) idle role

private theorem view_insert (registry : Registry) (used : registry.isIdle id = false)
    (other : Nat) :
    (registry.insert id stream).view other =
      if id = other then .of stream.bare else registry.view other := by
  have idle : (registry.insert id stream).isIdle other = registry.isIdle other := rfl
  split
  · rename_i here
    subst here
    rw [view, live?, bare?, get?_insert, if_pos rfl, idle, used, View.of]
    cases live : stream.isLive <;> simp [Option.filter_some, live]
  · rename_i differ
    exact view_of_bare? (by rw [bare?, bare?, get?_insert, if_neg differ]) idle rfl

private theorem view_modify {f : Stream → Stream} (held : registry.get? id = some stream)
    (used : registry.isIdle id = false) (other : Nat) :
    (registry.modify id f).view other =
      if id = other then .of (f stream).bare else registry.view other := by
  have idle : (registry.modify id f).isIdle other = registry.isIdle other := rfl
  split
  · rename_i here
    subst here
    rw [view, live?, bare?, get?_modify, if_pos rfl, held, idle, used, View.of]
    cases live : (f stream).isLive <;> simp [Option.filter_some, live]
  · rename_i differ
    exact view_of_bare? (by rw [bare?, bare?, get?_modify, if_neg (Ne.symm differ)]) idle rfl

private theorem view_reprioritize (registry : Registry) (id other : Nat) (priority : Priority) :
    (registry.reprioritize id priority).view other = registry.view other := by
  refine view_of_bare? (bare?_reprioritize registry id other priority) ?_ ?_
  · rw [reprioritize_eq]
    rfl
  · rw [reprioritize_eq]

private theorem view_detachChildren (registry : Registry) (id other : Nat) :
    (registry.detachChildren id).view other = registry.view other :=
  view_of_bare? (bare?_detachChildren registry id other) rfl rfl

theorem view_markClosed (closed : ∀ other ∈ registry.closed, registry.cargo? other = none)
    (ended : registry.cargo? id = none) (other : Nat) :
    (registry.markClosed id).2.view other = registry.view other := by
  have idle : (registry.markClosed id).2.isIdle other = registry.isIdle other := rfl
  rcases get?_markClosed registry id other with same | ⟨missing, member⟩
  · exact view_of_bare? (by rw [bare?, bare?, same]) idle rfl
  · have dead : registry.cargo? other = none := by
      rcases member with member | rfl
      · exact closed other member
      · exact ended
    refine view_congr ?_ idle rfl
    rw [live?_eq_none_iff.mpr dead, live?, bare?, missing]
    rfl

private theorem view_stays (live : after.live? id = registry.live? id)
    (mono : after.isIdle id → registry.isIdle id) (role : after.role = registry.role) :
    (registry.view id).Stays (after.view id) := by
  unfold Registry.view isLocal
  rw [live, role]
  cases registry.live? id with
  | some stream => exact .inl rfl
  | none =>
    simp only
    cases idle : after.isIdle id with
    | true =>
      rw [mono idle]
      exact .inl rfl
    | false =>
      cases registry.isIdle id with
      | true => exact .inr ⟨⟨_, rfl⟩, rfl⟩
      | false => exact .inl rfl

theorem isLocal_of_allocate (sound : registry.Sound)
    (allocated : registry.allocate = .ok (id, after)) :
    registry.isLocal id = true := by
  rw [(allocate_eq allocated).1]
  exact sound.nextLocal

theorem isLocal_of_acceptRemote (accepted : registry.acceptRemote id = .ok after) :
    registry.isLocal id = false :=
  not_initiates_of_peer (acceptRemote_eq accepted).1

theorem Takes.view (takes : registry.Takes id after) (other : Nat) :
    (registry.view other).Stays (after.view other) := by
  refine view_stays ?_ takes.idle_mono ?_
  · rw [takes.same]
    rfl
  · rw [takes.same]

theorem skipTo_view (skips : registry.skipTo id = .ok after) (other : Nat) :
    (registry.view other).Stays (after.view other) := by
  have mono := @skipTo_idle_mono _ _ _ other skips
  obtain ⟨-, -, rfl⟩ := skipTo_eq skips
  exact view_stays rfl mono rfl

end Registry

namespace Connection

def scene (conn : Connection) : Scene where
  view := conn.registry.view
  queued := conn.queued
  encoder := conn.encoder
  decoder := conn.decoder
  events := conn.events
  closed := conn.closed

variable {conn : Connection} {id : Nat} {stream : Stream}

theorem view_scene (held : conn.registry.get? id = some stream) (live : stream.isLive) :
    conn.scene.view id = .live stream.bare :=
  view_of_get? held live

theorem scene_setRegistry {registry : Registry} (same : registry.view = conn.registry.view) :
    { conn with registry }.scene = conn.scene := by
  simp only [scene]
  rw [same]
  rfl

variable (conn)

theorem scene_emit (event : Event) : (conn.emit event).scene = conn.scene.note (.told event) := rfl

theorem scene_write (frame : Frame) :
    (conn.write frame).scene = conn.scene.note (.said (.other frame)) := by
  simp only [scene, Scene.note, Item.write, queued_write]
  rfl

theorem scene_writeData (octets : Octets) (endStream : Bool) :
    (conn.write (.data id octets endStream none)).scene =
      conn.scene.note (.said (.data id octets endStream)) := by
  simp only [scene, Scene.note, Item.write, queued_write]
  rfl

theorem scene_writeHeaders (fields : List Field) (priority : Option Priority) (endStream : Bool) :
    (conn.writeHeaders id fields priority endStream).scene =
      conn.scene.note (.said (.headers id fields priority endStream)) := by
  simp only [scene, Scene.note, Item.write, writeHeaders, compress, queued_write]
  rfl

theorem scene_insert (stream : Stream) (used : conn.registry.isIdle id = false) :
    { conn with registry := conn.registry.insert id stream }.scene =
      conn.scene.setView id (.of stream.bare) := by
  have views : (conn.registry.insert id stream).view = _ :=
    funext (view_insert conn.registry used)
  simp only [scene, Scene.setView]
  rw [views]
  rfl

theorem scene_reprioritize (id : Nat) (priority : Priority) :
    (conn.reprioritize id priority).scene = conn.scene :=
  scene_setRegistry (funext fun other =>
    view_reprioritize conn.registry id other priority)

theorem scene_reprioritizeIf (id : Nat) (priority : Option Priority) :
    (conn.reprioritizeIf id priority).scene = conn.scene := by
  cases priority with
  | none => rfl
  | some priority => exact scene_reprioritize conn id priority

variable {conn}

theorem scene_modifyStream {f : Stream → Stream} (held : conn.registry.get? id = some stream)
    (used : conn.registry.isIdle id = false) :
    (conn.modifyStream id f).scene = conn.scene.setView id (.of (f stream).bare) := by
  have views := funext (view_modify (f := f) held used)
  simp only [scene, Scene.setView, modifyStream]
  rw [views]
  rfl

theorem scene_finishStream
    (closed : ∀ other ∈ conn.registry.closed, conn.registry.cargo? other = none)
    (ended : conn.registry.cargo? id = none) (reason : Option Reason) :
    (conn.finishStream id reason).scene = conn.scene.note (.told (.streamClosed id reason)) := by
  have same : ∀ other, (conn.registry.detachChildren id).cargo? other =
      conn.registry.cargo? other := by
    intro other
    rw [cargo?, held?_detachChildren, ← cargo?]
  have views : ((conn.registry.detachChildren id).markClosed id).2.view = conn.registry.view := by
    funext other
    rw [view_markClosed (fun other member => (same other).trans (closed other member))
      ((same id).trans ended), view_detachChildren]
  simp only [scene, finishStream, emit, Scene.note]
  rw [views]
  rfl

theorem advanceAnyway_eq {signal : Signal} {next : Stream}
    (held : conn.registry.get? id = some stream) (moves : stream.advance? signal = some next) :
    conn.advanceAnyway id signal = conn.settled id next := by
  have leads : (advance id signal).Leads conn
      fun result after => result = .ok () ∧ after = conn.settled id next :=
    (advance_leads held moves).mpr ⟨rfl, rfl⟩
  unfold advanceAnyway
  split
  · rename_i ran
    exact (leads.of_ok ran).2
  · rename_i ran
    exact (leads.of_error ran).2

theorem scene_settled (sound : conn.registry.Sound) (held : conn.registry.get? id = some stream)
    (next : Stream) :
    (conn.settled id next).scene =
      (conn.scene.noteAll (closing id next)).setView id (.of next.bare) := by
  have used := sound.used held
  unfold settled closing
  simp only
  split
  · exact scene_insert conn next used
  · rename_i closed
    have closed : next.isLive = false := by simpa using closed
    rw [scene_finishStream (sound.closed_insert closed)
      (by rw [cargo?_insert_closed _ _ _ closed, if_pos rfl]), scene_insert _ next used]
    exact Scene.setView_note ..

end Connection

end Http2
