import Http2.Proofs.Delivery
import Http2.Proofs.SendLedger

/-!
# The life of a stream

What is done on a connection is cut up by streams.  The `Life` of a stream is the sequence of acts
on it alone, with the marks that these leave.  Every act in a scene is an act of one life and leaves
the others as they are, so that a property of all acts is a property of all lives, and along a run
the lives of all streams go on side by side.
-/

namespace Http2

open Connection List

/-! ## Marks that are about a stream -/

namespace Frame

def isAbout (id : Nat) : Frame → Bool
  | data stream .. | headers stream .. | pushPromise stream .. | rstStream stream _ |
    priority stream _ => stream == id
  | windowUpdate stream _ => stream == id && stream != 0
  | _ => false

end Frame

def Event.isAbout (id : Nat) : Event → Bool
  | streamCreated stream _ | headers stream .. | data stream .. | trailers stream _ |
    streamClosed stream _ | sendCancelled stream .. => stream == id
  | _ => false

/-- The mark belongs to the life of a stream.  Of what is heard only messages do. -/
def Mark.isOn (id : Nat) : Mark → Bool
  | took stream _ | answered stream _ => stream == id
  | said item => item.outline.isAbout id
  | heard (.other _) => false
  | heard item => item.outline.isAbout id
  | told event => event.isAbout id

def Mark.isGiven : Mark → Bool
  | took .. | answered .. => true
  | _ => false

def toldIn (marks : List Mark) : List Event := marks.filterMap Mark.told?

theorem toldIn_append (first second : List Mark) :
    toldIn (first ++ second) = toldIn first ++ toldIn second := filterMap_append

@[simp] theorem toldIn_heard (item : Item) (rest : List Mark) :
    toldIn (.heard item :: rest) = toldIn rest := rfl

@[simp] theorem toldIn_told (event : Event) (rest : List Mark) :
    toldIn (.told event :: rest) = event :: toldIn rest := rfl

theorem saidIn_filter (id : Nat) (marks : List Mark) :
    saidIn (marks.filter (Mark.isOn id)) = (saidIn marks).filter (Frame.isAbout id) := by
  rw [saidIn, saidIn, filterMap_filter, filter_filterMap]
  congr 1
  funext mark
  cases mark with
  | said item => rfl
  | took | answered | heard | told => exact ite_self none

theorem toldIn_filter (id : Nat) (marks : List Mark) :
    toldIn (marks.filter (Mark.isOn id)) = (toldIn marks).filter (Event.isAbout id) := by
  rw [toldIn, toldIn, filterMap_filter, filter_filterMap]
  congr 1
  funext mark
  cases mark with
  | told event => rfl
  | took | answered | said | heard => exact ite_self none

section Marks

variable {id other : Nat} {view next : View} {marks : List Mark} {mark : Mark} {stream : Stream}

private theorem Frame.isAbout_of_isAside {frame : Frame} (aside : frame.isAside) :
    frame.outline.isAbout id = false := by
  cases frame with
  | windowUpdate stream increment =>
    obtain rfl : stream = 0 := by simpa [Frame.isAside] using aside
    simp [outline, isAbout]
  | settings | ping | goaway | origin | altSvc => rfl
  | _ => cases aside

theorem Mark.isOn_of_isAside (aside : mark.isAside) : mark.isOn id = false := by
  cases mark with
  | took | answered => cases aside
  | said item =>
    cases item with
    | other frame => exact Frame.isAbout_of_isAside aside
    | _ => cases aside
  | heard item =>
    cases item with
    | other frame => rfl
    | _ => cases aside
  | told event => cases event <;> first | rfl | cases aside

theorem Mark.isOn_heard {item : Item} (about : item.isOn id) :
    (heard item).isOn other = (id == other) := by
  cases item <;> first | cases about | skip
  all_goals
    obtain rfl := eq_of_beq about
    rfl

theorem eq_nil_of_aside (aside : ∀ mark ∈ marks, mark.isAside)
    (own : ∀ mark ∈ marks, mark.isOn id) : marks = [] := by
  refine eq_nil_iff_forall_not_mem.mpr fun mark member => ?_
  have none : mark.isOn id = false := Mark.isOn_of_isAside (aside mark member)
  exact Bool.false_ne_true (none.symm.trans (own mark member))

private theorem isOn_closing (member : mark ∈ closing id stream) :
    mark.isOn other = (id == other) := by
  unfold closing at member
  split at member
  · cases member
  · obtain rfl := mem_singleton.mp member
    rfl

private theorem isOn_dropping {reason : Reason} {announced : Bool} {error : Error}
    (member : mark ∈ dropping id stream reason announced error) :
    mark.isOn other = (id == other) := by
  simp only [dropping, mem_append, mem_singleton, mem_ite_nil_right] at member
  rcases member with (⟨-, rfl⟩ | ⟨-, rfl⟩) | rfl <;> rfl

/-- The marks of an act are on its own stream, unless it leaves that as it was and is about none. -/
theorem Act.isOn (act : Act id view marks next) :
    (∀ mark ∈ marks, ∀ other, mark.isOn other = (id == other)) ∨
      next = view ∧ ∀ mark ∈ marks, ∀ other, mark.isOn other = false := by
  cases act with
  | aside aside =>
    exact .inr ⟨rfl, fun mark member other => Mark.isOn_of_isAside (aside mark member)⟩
  | @speak stream frame about =>
    cases frame with
    | windowUpdate where' increment =>
      obtain rfl : where' = id := by simpa [Frame.concerns] using about
      by_cases root : where' = 0
      · subst root
        exact .inr ⟨rfl, by simp [Mark.isOn, Frame.outline, Frame.isAbout]⟩
      · exact .inl (by simp [Mark.isOn, Frame.outline, Frame.isAbout, root])
    | priority where' place =>
      obtain rfl : where' = id := by simpa [Frame.concerns] using about
      exact .inl (by simp [Mark.isOn, Frame.outline, Frame.isAbout])
    | _ => cases about
  | drop => exact .inl fun mark member other => isOn_dropping member
  | refuse about =>
    refine .inl fun mark member other => ?_
    rcases mem_cons.mp member with rfl | member
    · exact Mark.isOn_heard about
    · exact isOn_dropping member
  | ignore about =>
    refine .inl fun mark member other => ?_
    obtain rfl := mem_singleton.mp member
    exact Mark.isOn_heard about
  | receiveData =>
    refine .inl fun mark member other => ?_
    simp only [mem_cons, mem_append, mem_ite_nil_right, not_mem_nil, or_false] at member
    rcases member with (rfl | ⟨-, rfl⟩) | member
    · rfl
    · rfl
    · exact isOn_closing member
  | conclude | trail =>
    exact .inl (forall_mem_cons.mpr ⟨fun _ => rfl, fun _ member _ => isOn_closing member⟩)
  | respond | receiveFirst | receiveHeaders | receiveTrailers =>
    exact .inl (forall_mem_cons.mpr ⟨fun _ => rfl, forall_mem_cons.mpr
      ⟨fun _ => rfl, fun _ member _ => isOn_closing member⟩⟩)
  | pass | reserveLocal | enqueueTrailers => exact .inl (forall_mem_nil _)
  | openLocal | refuseOwn | enqueue | dispatch | inform | promise | disown
  | passOver | hearPromise |
    reserveRemote => exact .inl (forall_mem_singleton.mpr fun _ => rfl)
  | refuseRemote =>
    exact .inl (forall_mem_cons.mpr ⟨fun _ => rfl, forall_mem_singleton.mpr fun _ => rfl⟩)
  | openRemote =>
    exact .inl (forall_mem_cons.mpr ⟨fun _ => rfl, forall_mem_cons.mpr
      ⟨fun _ => rfl, forall_mem_singleton.mpr fun _ => rfl⟩⟩)

end Marks

/-! ## Lives -/

/-- What has been done on a stream, and how that has changed it. -/
inductive Life (id : Nat) (start : View) : List Mark → View → Prop
  | refl : Life id start [] start
  | tail {marks more : List Mark} {view next : View} (life : Life id start marks view)
      (act : Act id view more next) (own : ∀ mark ∈ more, mark.isOn id) :
      Life id start (marks ++ more) next

section Lives

variable {id : Nat} {start view next : View} {marks more : List Mark} {scene after : Scene}

theorem Life.trans (first : Life id start marks view) (second : Life id view more next) :
    Life id start (marks ++ more) next := by
  induction second with
  | refl =>
    rw [append_nil]
    exact first
  | tail _ act own ih =>
    rw [← append_assoc]
    exact ih.tail act own

theorem Life.stays (life : Life id start marks view) (stays : view.Stays next) :
    Life id start marks next := by
  rcases stays with rfl | ⟨⟨ours, rfl⟩, rfl⟩
  · exact life
  · have passed := life.tail .pass (by simp)
    rwa [append_nil] at passed

theorem SceneAct.life (sceneAct : SceneAct scene more after)
    (life : Life id start marks (scene.view id)) :
    Life id start (marks ++ more.filter (Mark.isOn id)) (after.view id) := by
  obtain ⟨acting, act, others, -⟩ := sceneAct
  by_cases here : id = acting
  · subst here
    rcases act.isOn with own | ⟨same, none⟩
    · have own : ∀ mark ∈ more, mark.isOn id :=
        fun mark member => (own mark member id).trans (beq_self_eq_true id)
      rw [filter_eq_self.mpr own]
      exact life.tail act own
    · rw [filter_eq_nil_iff.mpr fun mark member => by simp [none mark member], append_nil, same]
      exact life
  · have none : ∀ mark ∈ more, mark.isOn id = false := by
      intro mark member
      rcases act.isOn with own | ⟨-, none⟩
      · rw [own mark member]
        exact beq_false_of_ne (Ne.symm here)
      · exact none mark member id
    rw [filter_eq_nil_iff.mpr fun mark member => by simp [none mark member], append_nil]
    exact life.stays (others id here)

/-- The acts in a scene are those of the lives of all streams. -/
theorem SceneActs.life (sceneActs : SceneActs scene marks after) (id : Nat) :
    Life id (scene.view id) (marks.filter (Mark.isOn id)) (after.view id) := by
  induction sceneActs with
  | refl => exact .refl
  | tail _ sceneAct ih =>
    rw [filter_append]
    exact sceneAct.life ih

end Lives

/-! ## Streams that are given up -/

def View.dropped : View → View
  | live _ => gone
  | view => view

namespace Registry

variable {registry after : Registry} {id : Nat}

/-- The identifier has been used, and no stream lives under it any more. -/
def HasClosed (registry : Registry) (id : Nat) : Prop :=
  registry.isIdle id = false ∧ ∀ stream, registry.get? id = some stream → stream.isLive = false

theorem hasClosed_iff_view : registry.HasClosed id ↔ registry.view id = .gone := by
  rcases view_cases registry id with ⟨stream, held, live, view⟩ | ⟨ended, view⟩
  · rw [view]
    refine ⟨fun closed => ?_, fun impossible => by cases impossible⟩
    cases live.symm.trans (closed.2 stream held)
  · rw [view, HasClosed]
    cases registry.isIdle id with
    | false => simpa using ended
    | true => simp

theorem not_live_of_not_mem (unlisted : id ∉ registry.liveIds) :
    (registry.view id).dropped = registry.view id := by
  rcases view_cases registry id with ⟨stream, held, live, -⟩ | ⟨-, view⟩
  · exact absurd (IdMap.mem_keysWhere.mpr ⟨stream, held, live⟩) unlisted
  · rw [view]
    cases registry.isIdle id <;> rfl

theorem dropped_of_used (used : registry.isIdle id = false) :
    (registry.view id).dropped = .gone := by
  rcases view_cases registry id with ⟨stream, -, -, view⟩ | ⟨-, view⟩
  · rw [view]
    rfl
  · rw [view, used]
    rfl

end Registry

namespace Connection

variable {conn : Connection} {id : Nat}

theorem view_dropStream (sound : conn.registry.Sound) (id other : Nat) (reason : Reason)
    (announced : Bool) (error : Error) :
    (conn.dropStream id reason announced error).registry.view other =
      if id = other then (conn.registry.view other).dropped
      else conn.registry.view other := by
  rcases Registry.view_cases conn.registry id with ⟨stream, held, live, view⟩ | ⟨ended, view⟩
  · have scene := congrArg Scene.view (scene_dropStream sound held live reason announced error)
    have here := congrFun scene other
    rw [Scene.setView] at here
    simp only [Scene.view_noteAll] at here
    refine here.trans ?_
    split
    · rename_i same
      subst same
      rw [view]
      rfl
    · rfl
  · rw [dropStream_of_dead ended]
    split
    · rename_i same
      subst same
      rw [view]
      cases conn.registry.isIdle id <;> rfl
    · rfl

theorem view_dropAll (sound : conn.registry.Sound) (ids : List Nat) (reason : Reason)
    (error : Nat → Error) (other : Nat) :
    (ids.foldl (fun conn id => conn.dropStream id reason false (error id)) conn).registry.view
      other =
      if other ∈ ids then (conn.registry.view other).dropped
      else conn.registry.view other := by
  induction ids generalizing conn with
  | nil => rfl
  | cons id rest ih =>
    have first := view_dropStream sound id other reason false (error id)
    rw [foldl_cons, ih (registry_dropStream_sound sound id reason false (error id)), first]
    by_cases here : id = other
    · subst here
      cases conn.registry.view id <;> simp [View.dropped]
    · simp [here, Ne.symm here]

theorem view_teardown (sound : conn.registry.Sound) (reason : Reason) (id : Nat) :
    (conn.teardown reason).registry.view id = (conn.registry.view id).dropped := by
  refine (view_dropAll sound _ reason (fun _ => .sessionClosed) id).trans ?_
  split
  · rfl
  · rename_i unlisted
    exact (Registry.not_live_of_not_mem unlisted).symm

/-! ## Streams that are opened -/

private theorem view_addStream {stream : Stream} (used : conn.registry.isIdle id = false)
    (live : stream.isLive) : (conn.addStream id stream).scene.view id = .live stream.bare := by
  rw [scene_addStream stream used, Scene.view_setView_self, View.of]
  exact if_pos live

theorem Served.live {call : Call} {result : Except Error (Option Nat)}
    {after : Connection} {new : Nat}
    (served : Served conn call result after) (sound : conn.closed = false → conn.Sound)
    (gives : result = .ok (some new)) : ∃ stream, after.registry.view new = .live stream := by
  cases served with
  | @opened fields priority endStream id registry stream _ allocated _ _ _ begun going =>
    obtain rfl : id = new := by simpa using gives
    have used := (Registry.Takes.ours allocated).used_after (sound going).registry.nextLocal
    have live : ({ stream with finalSent := true } : Stream).isLive = true := by
      cases endStream <;> cases begun <;> rfl
    have view := @view_addStream { conn with registry } id _ used live
    rw [← scene_reprioritizeIf _ id priority, ← Scene.view_note _
      (.said (.headers id fields priority endStream)), ← scene_writeHeaders] at view
    exact ⟨_, view⟩
  | @promised parent id request registry _ _ _ _ _ _ allocated going =>
    obtain rfl : id = new := by simpa using gives
    have used := (Registry.Takes.ours allocated).used_after (sound going).registry.nextLocal
    have view := @view_addStream { conn with registry } id
      { phase := .reservedLocal, priority := ⟨parent, Priority.defaultWeight, false⟩ } used rfl
    rw [← Scene.view_note _ (.said (.promise parent id request)), ← scene_writePromise] at view
    exact ⟨_, view⟩
  | announced ends =>
    refine ends.elim ?_
    rintro result _ ⟨same, -⟩
    subst same
    cases result <;> cases gives
  | _ => cases gives

theorem hasClosed_refuseOwn {registry : Registry} (sound : conn.Sound)
    (allocated : conn.registry.allocate = .ok (id, registry)) :
    ({ conn with registry }.refuseOwn id).registry.HasClosed id := by
  have takes : conn.registry.Takes id registry := .ours allocated
  rw [Registry.hasClosed_iff_view]
  have scene := @scene_refuseOwn { conn with registry } id (takes.sound sound.registry)
    (takes.used_after sound.registry.nextLocal)
  exact (congrFun (congrArg Scene.view scene) id).trans (Scene.view_setView_self ..)

end Connection

/-! ## The lives of all streams of a connection -/

namespace Connection

/-- What a connection has come to by the marks that the lives of its streams have left, with what
the application has given for it. -/
structure Lived (conn : Connection) (given marks : List Mark) (after : Connection) : Prop where
  life : ∀ id, Life id (conn.registry.view id) (marks.filter (Mark.isOn id))
    (after.registry.view id)
  queued : ∃ frames, after.queued = conn.queued ++ frames ∧ frames.map Frame.outline = saidIn marks
  events : after.events = conn.events ++ toldIn marks
  given : marks.filter Mark.isGiven = given

variable {start conn middle after : Connection} {given given' marks more : List Mark}
  {log : List Activity} {frame : Frame}

namespace Lived

variable {table : Header.Table} {scene : Scene} {closed : Bool}

theorem of_sceneActs (sceneActs : SceneActs { conn.scene with decoder := table } marks scene)
    (same : after.scene = { scene with closed }) :
    Lived conn (marks.filter Mark.isGiven) marks after where
  life id := by
    have view : after.registry.view = scene.view := congrArg Scene.view same
    rw [view]
    exact sceneActs.life id
  queued := by
    obtain ⟨frames, queued, said⟩ := sceneActs.said
    exact ⟨frames, (congrArg Scene.queued same).trans queued, said⟩
  events := (congrArg Scene.events same).trans sceneActs.shows.events
  given := rfl

theorem of_does {input : List Mark} (does : Does input { conn.scene with decoder := table } scene)
    (same : after.scene = { scene with closed }) :
    ∃ marks, Lived conn (input.filter Mark.isGiven) marks after := by
  obtain ⟨marks, sceneActs, rfl⟩ := does
  have given : (marks.filter Mark.isInput).filter Mark.isGiven = marks.filter Mark.isGiven := by
    rw [filter_filter]
    congr 1
    funext mark
    cases mark <;> rfl
  rw [given]
  exact ⟨marks, .of_sceneActs sceneActs same⟩

theorem refl (conn : Connection) : Lived conn [] [] conn :=
  of_sceneActs .refl rfl

theorem trans (first : Lived conn given marks middle) (second : Lived middle given' more after) :
    Lived conn (given ++ given') (marks ++ more) after where
  life id := by
    rw [filter_append]
    exact (first.life id).trans (second.life id)
  queued := by
    obtain ⟨frames, queued, said⟩ := first.queued
    obtain ⟨frames', queued', said'⟩ := second.queued
    refine ⟨frames ++ frames', by rw [queued', queued, append_assoc], ?_⟩
    rw [map_append, saidIn_append, said, said']
  events := by rw [second.events, first.events, toldIn_append, append_assoc]
  given := by rw [filter_append, first.given, second.given]

end Lived

private theorem filter_isGiven_gives (conn : Connection) (call : Call) :
    (conn.gives call).filter Mark.isGiven = conn.gives call := by
  unfold gives
  cases (perform call).run conn <;> cases call <;> rfl

theorem handle_lived (sound : conn.Sound) (opened : conn.closed = false) (frame : Frame) :
    ∃ marks, Lived conn [] marks (conn.handle frame) := by
  cases handle_treated sound opened frame with
  | heard heeds =>
    obtain ⟨item, table, -, hearsItem⟩ := heeds
    have does : Does [.heard item] { conn.scene with decoder := table } _ := hearsItem.does
    exact Lived.of_does does rfl
  | ended works closes => exact Lived.of_does works closes

theorem closed_fail (conn : Connection) (error : Error) : (conn.fail error).closed = true := by
  unfold fail
  split
  · assumption
  · rfl

variable (sound : conn.closed = false → conn.Sound)

include sound

theorem called_lived (call : Call) :
    ∃ marks, Lived conn (conn.gives call) marks (conn.called call) := by
  have lived := Lived.of_does (called_does sound call) rfl
  rwa [filter_isGiven_gives] at lived

private theorem fail_lived (error : Error) : ∃ marks, Lived conn [] marks (conn.fail error) := by
  cases opened : conn.closed with
  | false =>
    obtain ⟨scene, works, closes⟩ := fail_works (sound opened).registry opened error
    exact Lived.of_does works closes
  | true =>
    rw [fail, opened]
    exact ⟨[], .refl conn⟩

theorem close_lived : ∃ marks, Lived conn [] marks conn.close := by
  cases opened : conn.closed with
  | false =>
    obtain ⟨scene, works, closes⟩ := close_works (sound opened).registry opened
    exact Lived.of_does works closes
  | true =>
    rw [close, opened]
    exact ⟨[], .refl conn⟩

omit sound

/-! ## Along a run -/

theorem Lived.written (lived : Lived conn given marks after) :
    (writtenIn (conn.wroteSince after)).map Frame.outline = saidIn marks := by
  obtain ⟨frames, queued, said⟩ := lived.queued
  rw [wroteSince_eq queued, writtenIn_wrote, said]

/-- What the lives of the streams have shown on the wire. -/
structure Shown (start : Connection) (log : List Activity) (marks : List Mark)
    (conn : Connection) : Prop where
  life : ∀ id, Life id (start.registry.view id) (marks.filter (Mark.isOn id))
    (conn.registry.view id)
  written : (writtenIn log).map Frame.outline = saidIn marks

theorem Shown.trans {log' : List Activity} (first : Shown conn log marks middle)
    (second : Shown middle log' more after) : Shown conn (log ++ log') (marks ++ more) after where
  life id := by
    rw [filter_append]
    exact (first.life id).trans (second.life id)
  written := by
    rw [writtenIn_append, map_append, saidIn_append, first.written, second.written]

theorem Lived.shown (lived : Lived conn given marks after) :
    Shown conn (conn.wroteSince after) marks after :=
  ⟨lived.life, lived.written⟩

theorem Step.shown (step : Step conn log after) (sound : conn.closed = false → conn.Sound) :
    ∃ marks, Shown conn log marks after := by
  have unmoved : ∀ {after : Connection}, after.registry = conn.registry →
      Shown conn [] [] after := by
    intro after same
    refine ⟨fun id => ?_, rfl⟩
    rw [same]
    exact .refl
  have handled : ∀ {frame : Frame}, conn.closed = false → conn.handle frame = after →
      ∃ marks, Shown conn (conn.wroteSince after) marks after := by
    intro frame opened same
    obtain ⟨marks, lived⟩ := handle_lived (sound opened) opened frame
    rw [same] at lived
    exact ⟨marks, lived.shown⟩
  cases step with
  | call call =>
    obtain ⟨marks, lived⟩ := called_lived sound call
    exact ⟨marks, lived.shown⟩
  | accept opened ran =>
    obtain ⟨marks, shown⟩ := handled opened (handle_of_ok ran)
    exact ⟨marks, shown.life, shown.written⟩
  | absorb opened ran harmless =>
    exact handled opened (by rw [handle_of_error ran, harmless]; rfl)
  | collapse opened ran fatal => exact handled opened (by rw [handle_of_error ran, fatal]; rfl)
  | fail error =>
    obtain ⟨marks, lived⟩ := fail_lived sound error
    exact ⟨marks, lived.shown⟩
  | close =>
    obtain ⟨marks, lived⟩ := close_lived sound
    exact ⟨marks, lived.shown⟩
  | handOver => exact ⟨[], unmoved rfl⟩
  | tell events => exact ⟨[], unmoved rfl⟩

theorem Steps.opened (steps : Steps start log conn) (opened : conn.closed = false) :
    start.closed = false := by
  induction steps with
  | refl => exact opened
  | tail _ step ih => exact ih (step.opened opened)

theorem Steps.shown (steps : Steps start log conn) (sound : start.closed = false → start.Sound) :
    ∃ marks, Shown start log marks conn := by
  induction steps with
  | refl => exact ⟨[], fun _ => .refl, rfl⟩
  | tail steps step ih =>
    obtain ⟨marks, shown⟩ := ih
    obtain ⟨more, shown'⟩ := step.shown fun opened =>
      steps.sound (sound (steps.opened opened)) opened
    exact ⟨_, shown.trans shown'⟩

end Connection

/-! ## Octets that are consumed -/

inductive Motion where
  | call (call : Call)
  | frame (frame : Frame)
  | fail (error : Error)
  | close
  | handOver
  | tell (count : Nat)
  deriving DecidableEq, Repr

namespace Session

/-- What happens while `consume` runs: the frames that it handles, and the error at which it stops
if the octets are no frame. -/
def consumeMotions (reader : Reader) (conn : Connection) : List Motion :=
  match _next : { reader with frameLimit := conn.frameLimit }.next with
  | (.error error, _) => [.fail error]
  | (.ok none, _) => []
  | (.ok (some frame), after) =>
    match (Connection.receiveFrame frame).run conn with
    | .ok _ later => .frame frame :: consumeMotions after later
    | .error error later =>
      if error.isFatal then [.frame frame]
      else .frame frame :: consumeMotions after (later.absorb error)
termination_by reader.buffer.length
decreasing_by
  all_goals
    have shorter := Reader.next_length _next
    exact shorter

/-- How octets are consumed: frame by frame, up to one that is not complete, one that ends the
session or octets that are no frame. -/
inductive Consumed : Reader → Connection → List Motion → Except Error Unit → Session → Prop
  | fails {reader after : Reader} {conn : Connection} {error : Error} (sound : conn.Sound)
      (opened : conn.closed = false)
      (next : { reader with frameLimit := conn.frameLimit }.next = (.error error, after)) :
      Consumed reader conn [.fail error] (.error error) ⟨after, conn.fail error⟩
  | stops {reader after : Reader} {conn : Connection} (sound : conn.Sound)
      (opened : conn.closed = false)
      (next : { reader with frameLimit := conn.frameLimit }.next = (.ok none, after)) :
      Consumed reader conn [] (.ok ()) ⟨after, conn⟩
  | ends {reader after : Reader} {conn later : Connection} {frame : Frame} {error : Error}
      (sound : conn.Sound) (opened : conn.closed = false)
      (next : { reader with frameLimit := conn.frameLimit }.next = (.ok (some frame), after))
      (ran : (Connection.receiveFrame frame).run conn = .error error later)
      (fatal : error.isFatal) :
      Consumed reader conn [.frame frame] (.error error) ⟨after, conn.handle frame⟩
  | goes {reader after : Reader} {conn : Connection} {frame : Frame} {motions : List Motion}
      {result : Except Error Unit} {session : Session} (sound : conn.Sound)
      (opened : conn.closed = false)
      (next : { reader with frameLimit := conn.frameLimit }.next = (.ok (some frame), after))
      (rest : Consumed after (conn.handle frame) motions result session) :
      Consumed reader conn (.frame frame :: motions) result session

theorem consumed {conn : Connection} (sound : conn.Sound) (opened : conn.closed = false)
    (reader : Reader) :
    Consumed reader conn (consumeMotions reader conn) (consume reader conn).1
      (consume reader conn).2 := by
  fun_induction consume reader conn with
  | case1 reader conn error after next =>
    unfold consumeMotions
    split <;> rename_i next' <;> cases next.symm.trans next'
    exact .fails sound opened next
  | case2 reader conn after next =>
    unfold consumeMotions
    split <;> rename_i next' <;> cases next.symm.trans next'
    exact .stops sound opened next
  | case3 reader conn frame after next _ later ran ih =>
    obtain ⟨_, handled⟩ := accept_handled sound ran
    have rest := ih handled.sound (handled.closed.trans opened)
    unfold consumeMotions
    split <;> rename_i next' <;> cases next.symm.trans next'
    simp only [ran]
    rw [← handle_of_ok ran] at rest ⊢
    exact .goes sound opened next rest
  | case4 reader conn frame after next error later ran fatal =>
    have ended := handle_of_error ran
    rw [if_pos fatal] at ended
    unfold consumeMotions
    split <;> rename_i next' <;> cases next.symm.trans next'
    simp only [ran, fatal, if_true, ← ended]
    exact .ends sound opened next ran fatal
  | case5 reader conn frame after next error later ran harmless ih =>
    obtain ⟨_, handled⟩ := absorb_handled sound ran (by simpa using harmless)
    have rest := ih handled.sound (handled.closed.trans opened)
    have absorbed := handle_of_error ran
    rw [if_neg harmless] at absorbed
    unfold consumeMotions
    split <;> rename_i next' <;> cases next.symm.trans next'
    simp only [ran, harmless, Bool.false_eq_true, if_false]
    rw [← absorbed] at rest ⊢
    exact .goes sound opened next rest

namespace Consumed

variable {reader : Reader} {conn : Connection} {motions : List Motion} {result : Except Error Unit}
  {session : Session}

theorem isOk (consumed : Consumed reader conn motions result session) :
    result.isOk = !session.connection.closed := by
  induction consumed with
  | fails => simp [Except.isOk, Except.toBool, closed_fail]
  | stops _ opened => simp [Except.isOk, Except.toBool, opened]
  | ends _ _ _ ran fatal =>
    simp [Except.isOk, Except.toBool, handle_of_error ran, fatal, closed_fail]
  | goes _ _ _ _ ih => exact ih

end Consumed

/-- What goes on with every frame and through a failure, and so through all octets and with time. -/
structure FrameWise (relates : Connection → Connection → Prop) : Prop where
  refl (conn : Connection) : relates conn conn
  trans {conn middle after : Connection} : relates conn middle → relates middle after →
    relates conn after
  handle {conn : Connection} (sound : conn.Sound) (opened : conn.closed = false) (frame : Frame) :
    relates conn (conn.handle frame)
  fail {conn : Connection} (sound : conn.closed = false → conn.Sound) (error : Error) :
    relates conn (conn.fail error)

namespace FrameWise

variable {relates : Connection → Connection → Prop} {session : Session}

theorem consumed (frameWise : FrameWise relates) {reader : Reader} {conn : Connection}
    {motions : List Motion}
    {result : Except Error Unit} (consumed : Consumed reader conn motions result session) :
    relates conn session.connection := by
  induction consumed with
  | fails sound => exact frameWise.fail (fun _ => sound) _
  | stops => exact frameWise.refl _
  | ends sound opened => exact frameWise.handle sound opened _
  | goes sound opened _ _ ih => exact frameWise.trans (frameWise.handle sound opened _) ih

theorem receive (frameWise : FrameWise relates)
    (sound : session.connection.closed = false → session.connection.Sound) (octets : Octets) :
    relates session.connection (session.receive octets).2.connection := by
  unfold Session.receive
  split
  · exact frameWise.refl _
  · rename_i still
    have opened : session.connection.closed = false := by simpa using still
    exact frameWise.consumed (Session.consumed (sound opened) opened _)

theorem tick (frameWise : FrameWise relates)
    (sound : session.connection.closed = false → session.connection.Sound) (now : Nat) :
    relates session.connection (session.tick now).2.connection := by
  rcases session.connection_tick now with same | ⟨-, same⟩ <;> rw [same]
  · exact frameWise.refl _
  · exact frameWise.fail sound _

end FrameWise

theorem lived_frameWise : FrameWise fun conn after => ∃ marks, Lived conn [] marks after where
  refl conn := ⟨[], .refl conn⟩
  trans first second := by
    obtain ⟨_, first⟩ := first
    obtain ⟨_, second⟩ := second
    exact ⟨_, first.trans second⟩
  handle := handle_lived
  fail := fail_lived

variable {session : Session}

theorem call_of_leads {call : Call} {goal : Except Error (Option Nat) → Connection → Prop}
    (leads : (perform call).Leads session.connection goal) :
    goal (session.call call).1 (session.call call).2.connection := by
  unfold Session.call
  split
  · rename_i ran
    exact leads.of_ok ran
  · rename_i ran
    exact leads.of_error ran

end Session

end Http2
