import Http2.Proofs.Calling
import Http2.Proofs.Compression
import Http2.Proofs.Conservation
import Http2.Proofs.Heeding
import Http2.Proofs.Message

/-!
# Delivery

A `Story` is a pair of sessions together with what their applications have seen of them: the octets
that each end has accepted and the events that it has handed over.  Whatever the two ends do, and
however the data is cut, held back or given up on the way, what an end emits for a stream is what
the other end has accepted for it, octet for octet and from the first.

Each end has a history of marks that keeps the messages of its streams.  The histories are tied by
the frames in flight: what one end has said is what the other has heard, followed by what the frames
in flight say to a reader that has come so far.  This is where the coder comes in: by
`Header.decodeBlock_encodeBlock`, what is encoded with a table is decoded with the same table.
-/

namespace Http2

open Session Connection List

variable {scene after : Scene}

/-! ## Items on the wire -/

namespace Item

def writeAll (table : Header.Table) : List Item → List Frame × Header.Table
  | [] => ([], table)
  | item :: rest =>
    let (frame, table) := item.write table
    let (frames, table) := writeAll table rest
    (frame :: frames, table)

theorem writeAll_append (table : Header.Table) (first second : List Item) :
    writeAll table (first ++ second) =
      ((writeAll table first).1 ++ (writeAll (writeAll table first).2 second).1,
        (writeAll (writeAll table first).2 second).2) := by
  induction first generalizing table with
  | nil => rfl
  | cons item rest ih => simp only [cons_append, writeAll, ih]

theorem read_write {item : Item} (proper : item.isProper) (table : Header.Table) :
    read table (item.write table).1 = (.ok item, (item.write table).2) ∨
      ∃ failure after, read table (item.write table).1 = (.error failure, after) := by
  cases item with
  | data => exact .inl rfl
  | headers _ fields | promise _ _ fields =>
    rcases Header.decodeBlock_encodeBlock table fields with same | ⟨failure, after, failed⟩
    · left
      simp only [read, write, same]
      rfl
    · right
      simp only [read, write, failed]
      exact ⟨failure, after, rfl⟩
  | other frame => cases frame <;> first | exact .inl rfl | cases proper

end Item

def Frame.dataOn (id : Nat) : Frame → Octets
  | data stream octets _ _ => if stream = id then octets else []
  | _ => []

theorem Item.dataOn_writeAll {items : List Item} (proper : ∀ item ∈ items, item.isProper)
    (id : Nat) (table : Header.Table) :
    (writeAll table items).1.flatMap (Frame.dataOn id) = items.flatMap (Item.dataOn id) := by
  induction items generalizing table with
  | nil => rfl
  | cons item rest ih =>
    obtain ⟨first, others⟩ := forall_mem_cons.mp proper
    simp only [writeAll, flatMap_cons, ih others]
    congr 1
    cases item with
    | data | headers | promise => rfl
    | other frame => cases frame <;> first | rfl | cases first

/-! ## What is done and what shows of it -/

/-- What the marks add to the output. -/
structure Scene.Shows (scene : Scene) (marks : List Mark) (after : Scene) : Prop where
  queued : after.queued = scene.queued ++
    (Item.writeAll scene.encoder (marks.filterMap Mark.said?)).1
  encoder : after.encoder = (Item.writeAll scene.encoder (marks.filterMap Mark.said?)).2
  events : after.events = scene.events ++ marks.filterMap Mark.told?
  decoder : after.decoder = scene.decoder
  closed : after.closed = scene.closed

namespace Scene.Shows

variable {middle : Scene} {marks more : List Mark}

theorem trans (first : scene.Shows marks middle) (second : middle.Shows more after) :
    scene.Shows (marks ++ more) after where
  queued := by
    rw [second.queued, first.queued, first.encoder, filterMap_append, Item.writeAll_append,
      append_assoc]
  encoder := by rw [second.encoder, first.encoder, filterMap_append, Item.writeAll_append]
  events := by rw [second.events, first.events, filterMap_append, append_assoc]
  decoder := second.decoder.trans first.decoder
  closed := second.closed.trans first.closed

theorem note (scene : Scene) (mark : Mark) : scene.Shows [mark] (scene.note mark) := by
  cases mark <;> constructor <;>
    simp [Scene.note, filterMap_cons, Mark.said?, Mark.told?, Item.writeAll]

theorem noteAll (scene : Scene) (marks : List Mark) : scene.Shows marks (scene.noteAll marks) := by
  induction marks generalizing scene with
  | nil => exact ⟨by simp [Item.writeAll], rfl, by simp, rfl, rfl⟩
  | cons mark rest ih => exact (note scene mark).trans (ih _)

theorem withView (shows : scene.Shows marks after) (view : Nat → View) :
    scene.Shows marks { after with view } :=
  ⟨shows.queued, shows.encoder, shows.events, shows.decoder, shows.closed⟩

end Scene.Shows

theorem SceneActs.shows {marks : List Mark} (sceneActs : SceneActs scene marks after) :
    scene.Shows marks after := by
  induction sceneActs with
  | refl => exact .noteAll scene []
  | tail _ sceneAct ih =>
    obtain ⟨-, -, -, rest⟩ := sceneAct
    rw [rest]
    exact ih.trans ((Scene.Shows.noteAll ..).withView _)

private theorem filterMap_isInput {α : Type} {f : Mark → Option α}
    (only : ∀ mark, mark.isInput = false → f mark = none) (marks : List Mark) :
    marks.filterMap f = (marks.filter Mark.isInput).filterMap f := by
  rw [filterMap_filter]
  congr 1
  funext mark
  cases input : mark.isInput with
  | true => rfl
  | false => exact only mark input

theorem Does.exists_sceneActs {input : List Mark} (does : Does input scene after) :
    ∃ marks, SceneActs scene marks after ∧ marks.filterMap Mark.took? = input.filterMap Mark.took? ∧
      marks.filterMap Mark.heard? = input.filterMap Mark.heard? := by
  obtain ⟨marks, sceneActs, rfl⟩ := does
  refine ⟨marks, sceneActs, filterMap_isInput (fun mark output => ?_) marks,
    filterMap_isInput (fun mark output => ?_) marks⟩
  · cases mark <;> first | rfl | cases output
  · cases mark <;> first | rfl | cases output

namespace Connection

/-- What a connection has come to by acts that leave the marks, reading with the table. -/
structure Yields (connection : Connection) (table : Header.Table) (marks : List Mark)
    (after : Connection) : Prop where
  kept : ∀ past, Kept connection.scene.view past → Kept after.scene.view (past ++ marks)
  queued : after.queued =
    connection.queued ++ (Item.writeAll connection.encoder (marks.filterMap Mark.said?)).1
  encoder : after.encoder = (Item.writeAll connection.encoder (marks.filterMap Mark.said?)).2
  events : after.events = connection.events ++ marks.filterMap Mark.told?
  listens : after.closed = false → connection.closed = false ∧ after.decoder = table

variable {conn after : Connection} {table : Header.Table} {marks : List Mark}

theorem Yields.of_sceneActs (sceneActs : SceneActs { conn.scene with decoder := table } marks scene)
    (same : after.scene = scene) : Yields conn table marks after := by
  subst same
  have shows := sceneActs.shows
  exact ⟨fun past kept => sceneActs.kept kept, shows.queued, shows.encoder, shows.events,
    fun opened => ⟨shows.closed.symm.trans opened, shows.decoder⟩⟩

theorem Yields.of_closing (sceneActs : SceneActs { conn.scene with decoder := table } marks scene)
    (same : after.scene = { scene with closed := true }) : Yields conn table marks after := by
  have shows := sceneActs.shows
  refine ⟨fun past kept => ?_, ?_, ?_, ?_, fun opened => ?_⟩
  · rw [same]
    exact sceneActs.kept kept
  · exact (congrArg Scene.queued same).trans shows.queued
  · exact (congrArg Scene.encoder same).trans shows.encoder
  · exact (congrArg Scene.events same).trans shows.events
  · cases opened.symm.trans (congrArg Scene.closed same)

end Connection

/-! ## Between the ends -/

/-- What one end has said and the other has heard, and the frames that tell the rest to a receiver
that is still there. -/
structure Conveys (said heard : List Item) (encoder : Header.Table) (flight : List Frame)
    (receiver : Connection) : Prop where
  proper : ∀ item ∈ said, item.isProper
  first : heard <+: said
  flying : receiver.closed = false → ∃ flying, said = heard ++ flying ∧
    Item.writeAll receiver.decoder flying = (flight, encoder)

namespace Conveys

variable {said heard : List Item} {encoder : Header.Table} {flight : List Frame}
  {receiver after : Connection}

theorem hear {frame : Frame} {item : Item} {table : Header.Table}
    (conveys : Conveys said heard encoder (frame :: flight) receiver)
    (opened : receiver.closed = false)
    (reads : Item.read receiver.decoder frame = (.ok item, table))
    (decoder : after.decoder = table) :
    Conveys said (heard ++ [item]) encoder flight after := by
  obtain ⟨flying, split, written⟩ := conveys.flying opened
  cases flying with
  | nil => cases written
  | cons next rest =>
    simp only [Item.writeAll, Prod.mk.injEq, List.cons.injEq] at written
    obtain ⟨⟨rfl, frames⟩, last⟩ := written
    have proper := conveys.proper next (by simp [split])
    -- both ends have come to the same table, so the frame is read as the item it was made from
    rcases Item.read_write proper receiver.decoder with same | ⟨failure, late, failed⟩
    · obtain ⟨rfl, rfl⟩ : next = item ∧ _ = table := by simpa using same.symm.trans reads
      have split : said = heard ++ [next] ++ rest := by simp [split]
      refine ⟨conveys.proper, ⟨rest, split.symm⟩, fun _ => ⟨rest, split, ?_⟩⟩
      rw [decoder, ← frames, ← last]
    · cases failed.symm.trans reads

variable (conveys : Conveys said heard encoder flight receiver)

include conveys

theorem say {more : List Item} (proper : ∀ item ∈ more, item.isProper) :
    Conveys (said ++ more) heard (Item.writeAll encoder more).2
      (flight ++ (Item.writeAll encoder more).1) receiver where
  proper item member := by
    rcases mem_append.mp member with old | new
    · exact conveys.proper item old
    · exact proper item new
  first := conveys.first.trans (prefix_append ..)
  flying opened := by
    obtain ⟨flying, split, written⟩ := conveys.flying opened
    refine ⟨flying ++ more, by rw [split, append_assoc], ?_⟩
    rw [Item.writeAll_append, written]

theorem later
    (listens : after.closed = false → receiver.closed = false ∧ after.decoder = receiver.decoder) :
    Conveys said heard encoder flight after where
  proper := conveys.proper
  first := conveys.first
  flying opened := by
    obtain ⟨still, same⟩ := listens opened
    rw [same]
    exact conveys.flying still

theorem shut (closed : after.closed) (frames : List Frame) :
    Conveys said heard encoder frames after :=
  ⟨conveys.proper, conveys.first, fun opened => by cases closed.symm.trans opened⟩

end Conveys

/-! ## Turns -/

def Session.accepts (session : Session) (call : Call) : List (Nat × Octets) :=
  match call, (session.call call).1 with
  | .sendData id octets _, .ok _ => [(id, octets)]
  | _, _ => []

theorem Session.took_gives (session : Session) (call : Call) :
    (session.connection.gives call).filterMap Mark.took? = session.accepts call := by
  unfold accepts Session.call gives
  cases (perform call).run session.connection <;> cases call <;> rfl

private theorem Session.heard_gives (session : Session) (call : Call) :
    (session.connection.gives call).filterMap Mark.heard? = [] := by
  unfold gives
  cases (perform call).run session.connection <;> cases call <;> rfl

inductive Connection.SameOrClosed (connection after : Connection) : Prop
  | same (same : after = connection)
  | closing {scene : Scene} (works : Works connection.scene scene)
      (same : after.scene = { scene with closed := true })

/-- A frame has been heard, unless it could not be read or the session had closed. -/
structure Connection.HearsFrame (connection : Connection) (frame : Frame) (table : Header.Table)
    (marks : List Mark) (after : Connection) : Prop where
  yields : connection.Yields table marks after
  took : marks.filterMap Mark.took? = []
  conveys : ∀ {said heard : List Item} {encoder : Header.Table} {flight : List Frame},
    Conveys said heard encoder (frame :: flight) connection →
      Conveys said (heard ++ marks.filterMap Mark.heard?) encoder flight after

section Sessions

variable {session : Session} (sound : session.connection.closed = false → session.connection.Sound)

include sound

private theorem Session.close_sameOrClosed :
    session.connection.SameOrClosed session.close.connection := by
  cases opened : session.connection.closed with
  | true => exact .same (if_pos opened)
  | false =>
    obtain ⟨scene, works, same⟩ := close_works (sound opened).registry opened
    exact .closing works same

private theorem Session.tick_sameOrClosed (now : Nat) :
    session.connection.SameOrClosed (session.tick now).2.connection := by
  rcases session.connection_tick now with same | ⟨opened, failed⟩
  · exact .same same
  · rw [failed]
    obtain ⟨scene, works, same⟩ := fail_works (sound opened).registry opened _
    exact .closing works same

private theorem Session.handle_hearsFrame (frame : Frame) :
    ∃ table marks,
      session.connection.HearsFrame frame table marks (session.handle frame).connection := by
  cases opened : session.connection.closed with
  | true =>
    have same : session.handle frame = session := if_pos opened
    rw [same]
    refine ⟨session.connection.decoder, [], .of_sceneActs .refl rfl, rfl, fun conveys => ?_⟩
    rw [filterMap_nil, append_nil]
    exact conveys.shut opened _
  | false =>
    rw [connection_handle opened]
    cases handle_treated (sound opened) opened frame with
    | heard heeds =>
      obtain ⟨item, table, reads, ⟨does, -⟩⟩ := heeds
      obtain ⟨marks, sceneActs, took, heard⟩ := does.exists_sceneActs
      refine ⟨table, marks, .of_sceneActs sceneActs rfl, took, fun conveys => ?_⟩
      rw [heard]
      exact conveys.hear opened reads sceneActs.shows.decoder
    | ended works closes =>
      obtain ⟨marks, sceneActs, took, heard⟩ := works.exists_sceneActs
      refine ⟨_, marks, .of_closing sceneActs closes, took, fun conveys => ?_⟩
      rw [heard, filterMap_nil, append_nil]
      exact conveys.shut (congrArg Scene.closed closes) _

end Sessions

namespace Pair

def accepts (pair : Pair) (side : Role) : Turn → List (Nat × Octets)
  | .call call => (pair.session side).accepts call
  | _ => []

def hands (pair : Pair) (side : Role) : Turn → List Event
  | .nextEvent => ((pair.session side).nextEvent?.map Prod.fst).toList
  | .takeEvents => (pair.session side).takeEvents.1
  | _ => []

structure Turned (pair : Pair) (side : Role) (turn : Turn) (marks : List Mark) : Prop where
  kept : ∀ past, Kept (pair.connection side).scene.view past →
    Kept ((pair.step side turn).connection side).scene.view (past ++ marks)
  accepts : marks.filterMap Mark.took? = pair.accepts side turn
  emits : (pair.connection side).events ++ marks.filterMap Mark.told? =
    pair.hands side turn ++ ((pair.step side turn).connection side).events
  outgoing : (pair.step side turn).inFlight side.peer = pair.inFlight side.peer ++
    (Item.writeAll (pair.connection side).encoder (marks.filterMap Mark.said?)).1
  encoder : ((pair.step side turn).connection side).encoder =
    (Item.writeAll (pair.connection side).encoder (marks.filterMap Mark.said?)).2
  incoming : ∀ said heard, Conveys said heard (pair.connection side.peer).encoder
      (pair.inFlight side) (pair.connection side) →
    Conveys said (heard ++ marks.filterMap Mark.heard?) (pair.connection side.peer).encoder
      ((pair.step side turn).inFlight side) ((pair.step side turn).connection side)
  still : (pair.step side turn).connection side.peer = pair.connection side.peer

namespace Turned

variable {pair : Pair} {side : Role} {turn : Turn} {marks : List Mark} {session : Session}

theorem of_yields {table : Header.Table}
    (yields : (pair.connection side).Yields table marks ((pair.step side turn).connection side))
    (still : (pair.step side turn).connection side.peer = pair.connection side.peer)
    (behind : (pair.step side turn).inbound side.peer = pair.inbound side.peer)
    (accepts : marks.filterMap Mark.took? = pair.accepts side turn)
    (hands : pair.hands side turn = [])
    (incoming : ∀ said heard, Conveys said heard (pair.connection side.peer).encoder
        (pair.inFlight side) (pair.connection side) →
      Conveys said (heard ++ marks.filterMap Mark.heard?) (pair.connection side.peer).encoder
        ((pair.step side turn).inFlight side) ((pair.step side turn).connection side)) :
    Turned pair side turn marks where
  kept := yields.kept
  accepts := accepts
  emits := by rw [hands, yields.events, nil_append]
  outgoing := by rw [inFlight, inFlight, behind, Role.peer_peer, yields.queued, append_assoc]
  encoder := yields.encoder
  incoming := incoming
  still := still

section

variable (steps : pair.step side turn = pair.put side session)

include steps

theorem of_put
    (yields : (pair.connection side).Yields (pair.connection side).decoder marks session.connection)
    (accepts : marks.filterMap Mark.took? = pair.accepts side turn)
    (hands : pair.hands side turn = [])
    (deaf : marks.filterMap Mark.heard? = []) : Turned pair side turn marks := by
  refine of_yields (?_ : Connection.Yields _ (pair.connection side).decoder _ _) ?_ ?_ accepts hands
    fun said heard conveys => ?_
  · rwa [steps, connection_put_self]
  · rw [steps, connection_put_peer]
  · rw [steps]
    rfl
  · rw [steps, deaf, append_nil, inFlight_put_self, connection_put_self]
    exact conveys.later yields.listens

theorem of_does {input : List Mark}
    (does : Does input (pair.connection side).scene session.connection.scene)
    (accepts : input.filterMap Mark.took? = pair.accepts side turn)
    (hands : pair.hands side turn = [])
    (deaf : input.filterMap Mark.heard? = []) : ∃ marks, Turned pair side turn marks := by
  obtain ⟨marks, sceneActs, took, heard⟩ := does.exists_sceneActs
  exact ⟨marks, of_put steps (.of_sceneActs sceneActs rfl) (took.trans accepts)
    hands (heard.trans deaf)⟩

theorem of_sameOrClosed
    (ends : (pair.connection side).SameOrClosed session.connection)
    (accepts : pair.accepts side turn = [])
    (hands : pair.hands side turn = []) : ∃ marks, Turned pair side turn marks := by
  cases ends with
  | same same =>
    have works : Works (pair.connection side).scene session.connection.scene := by
      rw [same]
      exact .refl _
    exact of_does steps works accepts.symm hands rfl
  | closing works same =>
    obtain ⟨marks, sceneActs, took, heard⟩ := works.exists_sceneActs
    exact ⟨marks, of_put steps (.of_closing sceneActs same) (took.trans accepts.symm) hands heard⟩

end

theorem nothing (steps : pair.step side turn = pair) (accepts : pair.accepts side turn = [])
    (hands : pair.hands side turn = []) : ∃ marks, Turned pair side turn marks := by
  have same : pair.put side (pair.session side) = pair := by
    rw [Pair.put, Function.update_eq_self]
  exact of_sameOrClosed (steps.trans same.symm) (.same rfl) accepts hands

theorem hand {rest : List Event}
    (steps : pair.step side turn = pair.put side { pair.session side with
      connection := { pair.connection side with events := rest } })
    (accepts : pair.accepts side turn = [])
    (hands : (pair.connection side).events = pair.hands side turn ++ rest) :
    Turned pair side turn [] where
  kept past kept := by
    rw [steps, connection_put_self, append_nil]
    exact kept
  accepts := accepts.symm
  emits := by
    rw [steps, connection_put_self, filterMap_nil, append_nil]
    exact hands
  outgoing := by
    rw [steps, inFlight, inFlight, Role.peer_peer, connection_put_self]
    exact (append_nil _).symm
  encoder := by
    rw [steps, connection_put_self]
    rfl
  incoming said heard conveys := by
    rw [steps, inFlight_put_self, connection_put_self, filterMap_nil, append_nil]
    exact conveys.later fun opened => ⟨opened, rfl⟩
  still := by rw [steps, connection_put_peer]

theorem transmit (pair : Pair) (side : Role) : Turned pair side .transmit [] := by
  have here : (pair.step side .transmit).connection side =
      { pair.connection side with outbound := [] } := by
    simp [step, connection, Pair.put, takeOutbound]
  have ahead : (pair.step side .transmit).inFlight side = pair.inFlight side := by
    simp [step, inFlight, connection, Pair.put, side.peer_ne, side.peer_ne.symm]
  refine ⟨fun past kept => ?_, rfl, ?_, ?_, ?_, fun said heard conveys => ?_, ?_⟩
  · rw [here, append_nil]
    exact kept
  · rw [here]
    exact append_nil _
  · rw [inFlight, Role.peer_peer, here]
    simp [step, Connection.queued, Item.writeAll]
  · rw [here]
    rfl
  · rw [ahead, here, filterMap_nil, append_nil]
    exact conveys.later fun opened => ⟨opened, rfl⟩
  · simp [step, connection, Pair.put, side.peer_ne]

theorem deliver (sound : pair.Sound) : ∃ marks, Turned pair side .deliver marks := by
  cases next : pair.inbound side with
  | nil => exact nothing (by simp only [step, next]) rfl rfl
  | cons frame rest =>
    have still : (pair.step side .deliver).connection side.peer = pair.connection side.peer := by
      simp [step, next, connection, Pair.put, side.peer_ne]
    have behind : (pair.step side .deliver).inbound side.peer = pair.inbound side.peer := by
      simp [step, next, Pair.put, side.peer_ne]
    have before : pair.inFlight side = frame :: (pair.step side .deliver).inFlight side := by
      rw [inFlight, inFlight, still]
      simp [step, next]
    obtain ⟨table, marks, hears⟩ :=
      handle_hearsFrame (fun opened => ((sound side).here opened).1) frame
    rw [← connection_deliver next] at hears
    refine ⟨marks, of_yields hears.yields still behind hears.took rfl fun said heard conveys => ?_⟩
    rw [before] at conveys
    exact hears.conveys conveys

end Turned

theorem step_turned {pair : Pair} (sound : pair.Sound) (side : Role) (turn : Turn) :
    ∃ marks, Turned pair side turn marks := by
  have sound' opened := ((sound side).here opened).1
  cases turn with
  | call call =>
    have does := called_does sound' call
    rw [connection, ← connection_call] at does
    exact Turned.of_does rfl does (took_gives _ call) rfl (heard_gives _ call)
  | close => exact Turned.of_sameOrClosed rfl (close_sameOrClosed sound') rfl rfl
  | tick now => exact Turned.of_sameOrClosed rfl (tick_sameOrClosed sound' now) rfl rfl
  | nextEvent =>
    cases waiting : (pair.connection side).events with
    | nil =>
      have none : (pair.session side).nextEvent? = none := by
        unfold nextEvent?
        rw [← connection, waiting]
      exact Turned.nothing (by simp only [step, none]) rfl (by simp [hands, none])
    | cons event rest =>
      have next : (pair.session side).nextEvent? = some (event, { pair.session side with
          connection := { pair.connection side with events := rest } }) := by
        unfold nextEvent?
        rw [← connection, waiting]
      have steps : pair.step side .nextEvent = pair.put side { pair.session side with
          connection := { pair.connection side with events := rest } } := by
        simp only [step, next]
      exact ⟨[], .hand steps rfl (by simp [waiting, hands, next])⟩
  | takeEvents => exact ⟨[], .hand rfl rfl (by simp [hands, Session.takeEvents, connection])⟩
  | transmit => exact ⟨[], .transmit pair side⟩
  | deliver => exact Turned.deliver sound

end Pair

/-! ## Stories -/

structure Story where
  pair : Pair
  accepted : Role → List (Nat × Octets)
  handed : Role → List Event

namespace Story

variable {role : Role} {config : Config} {now : Nat} {session : Session}

def step (story : Story) (side : Role) (turn : Turn) : Story where
  pair := story.pair.step side turn
  accepted :=
    Function.update story.accepted side (story.accepted side ++ story.pair.accepts side turn)
  handed := Function.update story.handed side (story.handed side ++ story.pair.hands side turn)

def start (client server : Session) : Story := ⟨.start client server, fun _ => [], fun _ => []⟩

inductive Reachable : Story → Prop
  | start {clientConfig serverConfig : Config} {clientNow serverNow : Nat} {client server : Session}
      (first : Session.create .client clientConfig clientNow = .ok client)
      (second : Session.create .server serverConfig serverNow = .ok server) :
      Reachable (start client server)
  | turn {story : Story} (reachable : Reachable story) (side : Role) (turn : Turn) :
      Reachable (story.step side turn)

def play (story : Story) (turns : List (Role × Turn)) : Story :=
  turns.foldl (fun story (side, turn) => story.step side turn) story

theorem Reachable.play {story : Story} (reachable : story.Reachable) (turns : List (Role × Turn)) :
    (story.play turns).Reachable := by
  unfold Story.play
  induction turns generalizing story with
  | nil => exact reachable
  | cons first rest ih => exact ih (reachable.turn first.1 first.2)

def emitted (story : Story) (side : Role) : List Event :=
  story.handed side ++ (story.pair.connection side).events

def received (story : Story) (side : Role) (id : Nat) : Octets :=
  (story.emitted side).flatMap (Event.dataOn id)

def sent (story : Story) (side : Role) (id : Nat) : Octets := octetsOn id (story.accepted side)

theorem Reachable.pair {story : Story} (reachable : story.Reachable) : story.pair.Reachable := by
  induction reachable with
  | start first second => exact .start first second
  | turn _ side turn ih => exact ih.turn side turn

/-! ## What every turn keeps -/

/-- A history of one end, in which its application recognizes what it has seen. -/
structure Recounts (story : Story) (side : Role) (marks : List Mark) : Prop where
  kept : Kept (story.pair.connection side).scene.view marks
  accepted : marks.filterMap Mark.took? = story.accepted side
  emitted : marks.filterMap Mark.told? = story.emitted side

def Sound (story : Story) : Prop :=
  ∃ marks : Role → List Mark, ∀ side, story.Recounts side (marks side) ∧
    Conveys ((marks side.peer).filterMap Mark.said?) ((marks side).filterMap Mark.heard?)
      (story.pair.connection side.peer).encoder (story.pair.inFlight side)
      (story.pair.connection side)

variable {story : Story} {side : Role} {turn : Turn} {past marks : List Mark}

theorem Recounts.turned (recounts : story.Recounts side past)
    (turned : story.pair.Turned side turn marks) :
    (story.step side turn).Recounts side (past ++ marks) where
  kept := turned.kept past recounts.kept
  accepted := by
    rw [filterMap_append, recounts.accepted, turned.accepts]
    simp [step]
  emitted := by
    rw [filterMap_append, recounts.emitted, Story.emitted, append_assoc, turned.emits]
    simp [step, Story.emitted]

theorem Recounts.still (recounts : story.Recounts side.peer past)
    (turned : story.pair.Turned side turn marks) :
    (story.step side turn).Recounts side.peer past where
  kept := by
    rw [step, turned.still]
    exact recounts.kept
  accepted := by
    rw [recounts.accepted]
    simp [step, side.peer_ne]
  emitted := by
    rw [recounts.emitted, Story.emitted, Story.emitted, step, turned.still]
    simp [side.peer_ne]

theorem Sound.step (sound : story.Sound) (turned : story.pair.Turned side turn marks) :
    (story.step side turn).Sound := by
  obtain ⟨past, sound⟩ := sound
  obtain ⟨recounts, incoming⟩ := sound side
  obtain ⟨recounts', outgoing⟩ := sound side.peer
  rw [Role.peer_peer] at outgoing
  have pair : (story.step side turn).pair = story.pair.step side turn := rfl
  refine ⟨Function.update past side (past side ++ marks), fun other => ?_⟩
  -- on the way in the end has heard more, on the way out it has said more; the peer has not moved
  rcases Role.eq_or_eq_peer other side with here | there
  · subst here
    rw [Function.update_self, Function.update_of_ne other.peer_ne]
    refine ⟨recounts.turned turned, ?_⟩
    rw [filterMap_append, pair, turned.still]
    exact turned.incoming _ _ incoming
  · subst there
    rw [Role.peer_peer, Function.update_self, Function.update_of_ne side.peer_ne]
    refine ⟨recounts'.still turned, ?_⟩
    rw [filterMap_append, pair, turned.still, turned.outgoing, turned.encoder]
    refine outgoing.say fun item member => (turned.kept _ recounts.kept).proper item ?_
    rw [filterMap_append]
    exact mem_append_right _ member

/-! ## From the start -/

theorem fresh_kept (role : Role) (config : Config) : Kept (fresh role config).scene.view [] := by
  refine .start fun id => ?_
  cases idle : (fresh role config).registry.isIdle id with
  | true => exact .inl ⟨_, Registry.view_eq_unused rfl idle⟩
  | false => exact .inr (Registry.view_eq_gone rfl idle)

theorem called_works {conn : Connection} (sound : conn.Sound) (call : Call)
    (none : call.input = []) : Works conn.scene (conn.called call).scene := by
  have does := called_does (fun _ => sound) call
  have nothing : conn.gives call = [] := by
    unfold gives
    split
    · exact none
    · rfl
  rwa [nothing] at does

theorem created_works (created : create role config now = .ok session) :
    Works (fresh role config).scene session.connection.scene := by
  refine create_induct (motive := fun conn => Works _ conn.scene) created (.refl _)
    fun sound call works => ?_
  exact works.trans (called_works sound _ (by rcases call with rfl | rfl <;> rfl))

/-- An end that has written its first frames and heard nothing yet. -/
structure HasStarted (connection : Connection) (marks : List Mark) : Prop where
  kept : Kept connection.scene.view marks
  took : marks.filterMap Mark.took? = []
  heard : marks.filterMap Mark.heard? = []
  told : marks.filterMap Mark.told? = connection.events
  said : Item.writeAll .new (marks.filterMap Mark.said?) = (connection.queued, connection.encoder)
  decoder : connection.decoder = .new

theorem created_hasStarted (created : create role config now = .ok session) :
    ∃ marks, HasStarted session.connection marks := by
  obtain ⟨marks, sceneActs, took, heard⟩ := (created_works created).exists_sceneActs
  have shows := sceneActs.shows
  have queued : (fresh role config).queued = [] := by
    cases role <;> rfl
  refine ⟨marks, sceneActs.kept (fresh_kept role config), took, heard, shows.events.symm, ?_,
    shows.decoder⟩
  refine Prod.ext ?_ shows.encoder.symm
  have written : session.connection.queued = (fresh role config).queued ++ _ := shows.queued
  rw [written, queued]
  rfl

theorem HasStarted.conveys {near far : Connection} {marks' : List Mark}
    (begun : HasStarted near marks) (begun' : HasStarted far marks') :
    Conveys (marks'.filterMap Mark.said?) (marks.filterMap Mark.heard?) far.encoder
      far.queued near := by
  rw [begun.heard]
  refine ⟨begun'.kept.proper, nil_prefix, fun _ => ⟨_, rfl, ?_⟩⟩
  rw [begun.decoder, begun'.said]

theorem start_sound {clientConfig serverConfig : Config} {clientNow serverNow : Nat}
    {client server : Session} (first : create .client clientConfig clientNow = .ok client)
    (second : create .server serverConfig serverNow = .ok server) :
    (start client server).Sound := by
  obtain ⟨marks, begun⟩ := created_hasStarted first
  obtain ⟨marks', begun'⟩ := created_hasStarted second
  refine ⟨fun side => if side = .client then marks else marks', fun side => ?_⟩
  cases side with
  | client => exact ⟨⟨begun.kept, begun.took, begun.told⟩, begun.conveys begun'⟩
  | server => exact ⟨⟨begun'.kept, begun'.took, begun'.told⟩, begun'.conveys begun⟩

theorem Reachable.sound (reachable : story.Reachable) : story.Sound := by
  induction reachable with
  | start first second => exact start_sound first second
  | turn reachable side turn ih =>
    obtain ⟨marks, turned⟩ := Pair.step_turned reachable.pair.sound side turn
    exact ih.step turned

/-! ## Delivery in order -/

structure Tallies (story : Story) (side : Role) (id : Nat) (near far : Tally) : Prop where
  receives : Receives ((story.pair.connection side).scene.view id) near
  sends : Sends ((story.pair.connection side.peer).scene.view id) far
  told : near.told = ⟨story.received side id, (story.emitted side).any (Event.endsData id)⟩
  taken : far.taken = story.sent side.peer id
  grows : near.heard.Grows far.said
  flying : (story.pair.connection side).closed = false →
    far.said.data = near.heard.data ++ (story.pair.inFlight side).flatMap (Frame.dataOn id)

theorem Sound.tallies (sound : story.Sound) (side : Role) (id : Nat) :
    ∃ near far, story.Tallies side id near far := by
  obtain ⟨marks, sound⟩ := sound
  obtain ⟨here, conveys⟩ := sound side
  obtain ⟨there, -⟩ := sound side.peer
  refine ⟨_, _, here.kept.receives id, there.kept.sends id, ?_, ?_, ?_, fun opened => ?_⟩
  · rw [Tally.addAll_eq, here.emitted, News.foldl_add]
    simp [received]
  · rw [Tally.addAll_eq, there.accepted]
    simp [sent]
  · obtain ⟨rest, split⟩ := conveys.first
    rw [Tally.addAll_eq, Tally.addAll_eq, ← split, foldl_append]
    exact Talk.grows_foldl ..
  · obtain ⟨flying, split, written⟩ := conveys.flying opened
    have proper : ∀ item ∈ flying, item.isProper :=
      fun item member => conveys.proper item (by simp [split, member])
    have data := Item.dataOn_writeAll proper id (story.pair.connection side).decoder
    rw [written] at data
    rw [Tally.addAll_eq, Tally.addAll_eq, split, foldl_append, Talk.data_foldl, data]

/-- What an end emits for a stream is the first part of what the other end has accepted for it, and
all of it once the end of the message has been emitted.  While the stream is open to the receiver
and live at the sender, what is missing is in flight or in the queue of the sender, in this order.

That the ends agree on the messages rests on the law of the coder, `Header.decodeBlock_encodeBlock`:
a reader with the writer's table reads a block as the fields that were written, or fails. -/
theorem delivered_in_order (reachable : story.Reachable) (side : Role) (id : Nat) :
    story.received side id <+: story.sent side.peer id ∧
    ((∃ event ∈ story.emitted side, event.endsData id = true) →
      story.received side id = story.sent side.peer id) ∧
    ∀ receiver sender, (story.pair.connection side).closed = false →
      (story.pair.connection side).registry.get? id = some receiver → receiver.phase.canReceive →
      (story.pair.connection side.peer).registry.get? id = some sender → sender.isLive →
      story.sent side.peer id = story.received side id ++
        (story.pair.inFlight side).flatMap (Frame.dataOn id) ++ sender.queue.octets := by
  obtain ⟨near, far, tallies⟩ := reachable.sound.tallies side id
  obtain ⟨first, whole⟩ := tallies.receives.behind
  obtain ⟨ordered, complete⟩ := tallies.sends.halted
  rw [tallies.told] at first whole
  refine ⟨?_, fun ends => ?_, fun receiver sender opened held receives held' live => ?_⟩
  · rw [← tallies.taken]
    exact first.trans (tallies.grows.data.trans ordered)
  · rw [← tallies.taken]
    exact complete _ (tallies.grows.ended _ (whole (List.any_eq_true.mpr ends)))
  · have hearing := tallies.receives
    rw [Connection.view_scene held (Stream.isLive_of_canReceive receives)] at hearing
    have sending := tallies.sends
    rw [Connection.view_scene held' live] at sending
    obtain ⟨all, -⟩ := hearing.heard (Phase.hears_of_canReceive receives)
    rw [tallies.told] at all
    rw [← tallies.taken, ← sending.all, tallies.flying opened, ← all]
    rfl

/-- The first stream outgrows a window of four octets, waits, goes on with the credit that comes
back and ends.  On the second some octets have arrived, some are in flight and one waits. -/
def resumed : Story := (start Session.newClient (Session.newServer [(.initialWindowSize, 4)])).play
  [(.server, .transmit), (.client, .deliver), (.client, .call (.createStream [] none false)),
    (.client, .call (.sendData 1 [1, 2, 3, 4, 5] false)),
    (.client, .call (.sendData 1 [6, 7] true)),
    (.client, .transmit), (.server, .deliver), (.server, .deliver), (.server, .deliver),
    (.server, .deliver), (.server, .transmit), (.client, .deliver), (.client, .deliver),
    (.client, .transmit), (.server, .deliver), (.server, .deliver), (.server, .takeEvents),
    (.client, .call (.createStream [] none false)), (.client, .call (.sendData 3 [8, 9] false)),
    (.client, .transmit), (.server, .deliver), (.server, .deliver),
    (.client, .call (.sendData 3 [10, 11, 12] false))]

theorem reachable_resumed : resumed.Reachable := by
  have created : create .server { settings := [(.initialWindowSize, 4)] } 0 =
      .ok (newServer [(.initialWindowSize, 4)]) := rfl
  exact (Reachable.start create_newClient created).play _

theorem delivered_in_order_resumed :
    resumed.received .server 1 = resumed.sent .client 1 ∧
    resumed.sent .client 1 = [1, 2, 3, 4, 5, 6, 7] ∧
    resumed.received .server 3 = [8, 9] ∧
    (resumed.pair.inFlight .server).flatMap (Frame.dataOn 3) = [10, 11] ∧
    ∃ sender, (resumed.pair.connection .client).registry.get? 3 = some sender ∧
      resumed.sent .client 3 = resumed.received .server 3 ++
        (resumed.pair.inFlight .server).flatMap (Frame.dataOn 3) ++ sender.queue.octets := by
  have ends : ∃ event ∈ resumed.emitted .server, event.endsData 1 = true := by decide +kernel
  have opened : (resumed.pair.connection .server).closed = false := by decide +kernel
  have receives : ((resumed.pair.connection .server).registry.get? 3).any
      (·.phase.canReceive) = true := by decide +kernel
  have live : ((resumed.pair.connection .client).registry.get? 3).any Stream.isLive = true := by
    decide +kernel
  obtain ⟨receiver, held, receives⟩ := (Option.any_eq_true _ _).mp receives
  obtain ⟨sender, held', live⟩ := (Option.any_eq_true _ _).mp live
  exact ⟨(delivered_in_order reachable_resumed .server 1).2.1 ends, by decide +kernel,
    by decide +kernel, by decide +kernel, sender, held',
    (delivered_in_order reachable_resumed .server 3).2.2 receiver sender opened held
    receives held' live⟩

end Story

end Http2
