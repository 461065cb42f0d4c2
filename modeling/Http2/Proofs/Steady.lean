import Http2.Proofs.Upkeep

/-!
# What goes on between farewells

The ends say farewell by GOAWAY frames, and what they have named so is kept in `farewell`.  `Steady
born before after` says of two states that no farewell lies between them: the farewells are the
same, no GOAWAY frame has been written, no violation has been told, and no stream has come to life
but those in `born`.

Upkeep is steady, and so are the changes by which streams are opened and headers sent and delivered,
so that all calls and frames are, but for those that are farewells themselves.
-/

namespace Http2

open Registry List

def lastsIn (frames : List Frame) : List Nat := frames.filterMap Frame.last?

theorem lastsIn_append (first second : List Frame) :
    lastsIn (first ++ second) = lastsIn first ++ lastsIn second := filterMap_append

def Event.isFailure : Event → Bool
  | sessionError _ => true
  | _ => false

namespace Registry

variable {registry : Registry} {id other : Nat}

def IsLive (registry : Registry) (id : Nat) : Prop := (registry.cargo? id).isSome = true

theorem isLive_iff : registry.IsLive id ↔
    ∃ stream, registry.get? id = some stream ∧ stream.isLive := by
  rw [IsLive, Option.isSome_iff_exists]
  constructor
  · rintro ⟨cargo, live⟩
    obtain ⟨stream, held, live, -⟩ := cargo?_eq_some_iff.mp live
    exact ⟨stream, held, live⟩
  · rintro ⟨stream, held, live⟩
    exact ⟨_, cargo?_of_get? held live⟩

theorem isLive_iff_view : registry.IsLive id ↔ ∃ stream, registry.view id = .live stream := by
  rw [isLive_iff]
  rcases view_cases registry id with ⟨stream, held, live, view⟩ | ⟨ended, view⟩
  · exact ⟨fun _ => ⟨_, view⟩, fun _ => ⟨stream, held, live⟩⟩
  · constructor
    · rintro ⟨stream, held, live⟩
      cases (ended stream held).symm.trans live
    · rintro ⟨stream, live⟩
      rw [view] at live
      split at live <;> cases live

theorem mem_liveIds_iff : id ∈ registry.liveIds ↔ registry.IsLive id := by
  rw [isLive_iff]
  exact IdMap.mem_keysWhere

private theorem isLive_of_held? {after : Registry}
    (same : ∀ id, after.held? id = registry.held? id) :
    after.IsLive id ↔ registry.IsLive id := by
  unfold IsLive cargo?
  rw [same]

theorem IsLive.of_insert {stream : Stream} (live : (registry.insert id stream).IsLive other) :
    other = id ∧ stream.isLive ∨ registry.IsLive other := by
  unfold IsLive at live
  rw [cargo?_insert] at live
  split at live
  · rename_i same
    refine .inl ⟨same.symm, Bool.of_not_eq_false fun closed => ?_⟩
    simp [Option.filter_some, closed] at live
  · exact .inr live

theorem IsLive.of_markClosed (live : (registry.markClosed id).2.IsLive other) :
    registry.IsLive other := by
  unfold IsLive cargo? at live ⊢
  rcases held?_markClosed registry id other with same | ⟨gone, -⟩
  · rwa [← same]
  · rw [gone] at live
    cases live

end Registry

namespace Connection

structure Steady (born : List Nat) (before after : Connection) : Prop where
  farewell : after.farewell = before.farewell
  role : after.registry.role = before.registry.role
  closed : after.closed = before.closed
  queued : ∃ written, after.queued = before.queued ++ written ∧ lastsIn written = []
  events : ∃ told, after.events = before.events ++ told ∧ told.any Event.isFailure = false
  live : ∀ id, after.registry.IsLive id → before.registry.IsLive id ∨ id ∈ born

namespace Steady

variable {born : List Nat} {start conn after : Connection} {id : Nat}

theorem refl (conn : Connection) : Steady [] conn conn where
  farewell := rfl
  role := rfl
  closed := rfl
  queued := ⟨[], (append_nil _).symm, rfl⟩
  events := ⟨[], (append_nil _).symm, rfl⟩
  live _ := .inl

section Changes

variable (steady : Steady born start conn)

include steady

theorem keep (registry : after.registry = conn.registry)
    (farewell : after.farewell = conn.farewell) (closed : after.closed = conn.closed)
    (outbound : after.outbound = conn.outbound) (events : after.events = conn.events) :
    Steady born start after where
  farewell := farewell.trans steady.farewell
  role := (congrArg Registry.role registry).trans steady.role
  closed := closed.trans steady.closed
  queued := by
    rw [Connection.queued, outbound]
    exact steady.queued
  events := by
    rw [events]
    exact steady.events
  live id live := steady.live id (registry ▸ live)

theorem setRegistry {registry : Registry}
    (live : ∀ id, registry.IsLive id → conn.registry.IsLive id)
    (role : registry.role = conn.registry.role) :
    Steady born start { conn with registry } :=
  { steady with
    role := role.trans steady.role
    live := fun id now => steady.live id (live id now) }

theorem emit (event : Event) (mild : event.isFailure = false) :
    Steady born start (conn.emit event) := by
  obtain ⟨told, events, none⟩ := steady.events
  refine { steady with events := ⟨told ++ [event], ?_, ?_⟩ }
  · exact (congrArg (· ++ [event]) events).trans (append_assoc ..)
  · rw [any_append, none, any_cons, mild]
    rfl

theorem write (frame : Frame) (stays : frame.last? = none) :
    Steady born start (conn.write frame) := by
  obtain ⟨written, queued, none⟩ := steady.queued
  refine { steady with queued := ⟨written ++ [frame], ?_, ?_⟩ }
  · rw [queued_write, queued, append_assoc]
  · rw [lastsIn_append, none, lastsIn, filterMap_cons_none stays]
    rfl

theorem writeHeaders (fields : List Field) (priority : Option Priority) (endStream : Bool) :
    Steady born start (conn.writeHeaders id fields priority endStream) := by
  have compressed : Steady born start (conn.compress fields).2 := steady.keep rfl rfl rfl rfl rfl
  exact compressed.write _ rfl

theorem modifyStream (id : Nat) {f : Stream → Stream}
    (phase : ∀ stream, (f stream).phase = stream.phase) :
    Steady born start (conn.modifyStream id f) := by
  refine steady.setRegistry (fun other live => ?_) rfl
  rwa [IsLive, isSome_cargo?_modify fun stream _ => phase stream] at live

theorem addStream (stream : Stream) : Steady (id :: born) start (conn.addStream id stream) :=
  { steady with
    live := fun other live => by
      rcases IsLive.of_insert live with ⟨here, -⟩ | before
      · exact .inr (mem_cons.mpr (.inl here))
      · exact (steady.live other before).imp_right (mem_cons_of_mem id) }

theorem addPromised (promised id : Nat) (stream : Stream) :
    Steady (promised :: born) start (conn.addPromised promised id stream) :=
  steady.addStream _

theorem insertNext {signal : Signal} {stream next : Stream}
    (held : conn.registry.get? id = some stream) (moves : stream.advance? signal = some next) :
    Steady born start { conn with registry := conn.registry.insert id next } := by
  refine steady.setRegistry (fun other live => ?_) rfl
  rcases live.of_insert with ⟨rfl, alive⟩ | before
  · refine isLive_iff.mpr ⟨stream, held, Bool.of_not_eq_false fun closed => ?_⟩
    obtain ⟨phase, follows, rfl⟩ := Option.map_eq_some_iff.mp moves
    have ended : stream.phase = .closed := by simpa [Stream.isLive, Phase.isClosed] using closed
    rw [ended] at follows
    rw [Stream.isLive, Phase.next?_closed follows] at alive
    cases alive
  · exact before

end Changes

theorem upkeep : Upkeep (Steady born start) where
  keep steady := steady.keep
  number next last steady := steady.setRegistry (fun _ live => live) rfl
  emit {_ event} steady plain := steady.emit event (by cases event <;> first | rfl | cases plain)
  write {_ frame} steady service :=
  steady.write frame (by cases frame <;> first | rfl | cases service)
  say {_ frame _ _} steady _ _ message :=
  steady.write frame (by cases frame <;> first | rfl | cases message)
  reprioritize id priority steady := by
    refine steady.setRegistry (fun other live => ?_) ?_
    · exact (isLive_of_held? fun other =>
        held?_reprioritize _ id other priority).mp live
    · rw [reprioritize_eq]
  detach id steady := steady.setRegistry (fun other live =>
    (isLive_of_held? fun other => held?_detachChildren _ id other).mp live) rfl
  forget id steady := steady.setRegistry (fun other live => live.of_markClosed) rfl
  shut id steady ended := by
    refine steady.setRegistry (fun other live => ?_) rfl
    rcases live.of_insert with ⟨-, alive⟩ | before
    · cases ended.symm.trans alive
    · exact before
  finish steady held _ _ moves := steady.insertNext held moves
  touch id _ steady phase _ := steady.modifyStream id phase

theorem settled {stream next : Stream} {signal : Signal} (steady : Steady born start conn)
    (held : conn.registry.get? id = some stream) (moves : stream.advance? signal = some next) :
    Steady born start (conn.settled id next) :=
  upkeep.settled (steady.insertNext held moves)

end Steady

open Steady (upkeep)

/-! ## Frames -/

/-- A stream of the peer that a frame may bring to life: one that it opens within the bounds of our
farewell, or one that it promises to a client, whatever our farewell was. -/
inductive Opens (conn : Connection) : Frame → Nat → Prop
  | headers {id : Nat} {priority : Option Priority} {block : Octets} {endStream : Bool}
      (theirs : conn.registry.role.peer.initiates id)
      (within : conn.farewell.sent.any (· < id) = false) :
      Opens conn (.headers id priority block endStream) id
  | promise {id promised : Nat} {block : Octets}
      (theirs : conn.registry.role.peer.initiates promised)
      (client : conn.registry.role = .client) :
      Opens conn (.pushPromise id promised block) promised

/-- What a frame does that is no farewell.  A frame that is turned down brings nothing to life. -/
def Brings (start : Connection) (frame : Frame) : Except Error Unit → Connection → Prop
  | .ok _, after => ∃ born, Steady born start after ∧ ∀ id ∈ born, start.Opens frame id
  | .error _, after => Steady [] start after

variable {α β : Type} {born : List Nat} {start conn after : Connection} {id : Nat} {frame : Frame}
  {result : Except Error Unit}

theorem Steady.brings (steady : Steady [] start conn) (frame : Frame)
    (result : Except Error Unit) : Brings start frame result conn := by
  cases result with
  | ok => exact ⟨[], steady, by simp⟩
  | error => exact steady

private theorem deliverHeaders_steady (steady : Steady born start conn) (fields : List Field)
    (endStream : Bool) :
    Steady born start (conn.deliverHeaders id fields endStream) :=
  have noted := steady.modifyStream id (f := fun stream =>
    { stream with finalReceived := !isInformational fields }) fun _ => rfl
  noted.emit _ rfl

theorem HeadersDealt.brings {fields : List Field} {priority : Option Priority} {endStream : Bool}
    (dealt : HeadersDealt conn id fields priority endStream result after)
    (steady : Steady [] start conn) (block : Octets) :
    Brings start (.headers id priority block endStream) result after := by
  cases dealt with
  | misplaced | declined => exact steady
  | passed _ taken =>
    obtain ⟨-, -, rfl⟩ := acceptRemote_eq taken
    exact Steady.brings (upkeep.setLastRemote steady id) _ (.ok ())
  | turnedAway _ taken =>
    obtain ⟨-, -, rfl⟩ := acceptRemote_eq taken
    have taken := upkeep.setLastRemote steady id
    exact Steady.brings (upkeep.refuseStream taken _) _ (.ok ())
  | accepted _ taken within =>
    obtain ⟨theirs, -, rfl⟩ := acceptRemote_eq taken
    have taken := upkeep.setLastRemote steady id
    refine ⟨[id], Steady.emit (Steady.emit (upkeep.reprioritizeIf (taken.addStream _) id priority)
      _ rfl) _ rfl, fun other member => ?_⟩
    obtain rfl := mem_singleton.mp member
    exact .headers (by rwa [← steady.role]) (by rwa [← steady.farewell])
  | started held _ _ moves =>
    refine Steady.brings (Steady.settled ?_ (get?_deliverHeaders held fields endStream) moves) _
      (.ok ())
    exact deliverHeaders_steady steady fields endStream
  | continued =>
    have told : Steady [] start (conn.deliverHeaders id fields false) :=
      deliverHeaders_steady steady fields false
    exact Steady.brings (upkeep.reprioritizeIf told id priority) _ (.ok ())
  | concluded _ _ _ _ holds _ moves =>
    have told : Steady [] start (conn.deliverHeaders id fields true) :=
      deliverHeaders_steady steady fields true
    exact Steady.brings (Steady.settled (upkeep.reprioritizeIf told id priority) holds moves) _
      (.ok ())
  | trailed _ _ _ _ holds _ moves =>
    have told := steady.emit (.trailers id fields) rfl
    exact Steady.brings (Steady.settled (upkeep.reprioritizeIf told id priority) holds moves) _
      (.ok ())

theorem Dealt.brings (dealt : Dealt conn frame result after) (stays : frame.last? = none) :
    Brings conn frame result after := by
  have here := Steady.refl conn
  by_cases plain : frame.isPlain
  · exact Steady.brings (upkeep.dealt here dealt plain) frame result
  cases dealt with
  | garbled | garbledPromise | unfounded => exact upkeep.read here _
  | pushToServer | pushRefused => exact here
  | headers _ dealt => exact dealt.brings (upkeep.read here _) _
  | @promised _ promised _ _ table _ _ client _ _ _ _ taken =>
    obtain ⟨theirs, -, rfl⟩ := acceptRemote_eq taken
    have taken := upkeep.setLastRemote (upkeep.read here table) promised
    refine ⟨[promised], (taken.addPromised ..).emit _ rfl, fun other member => ?_⟩
    obtain rfl := mem_singleton.mp member
    exact .promise theirs client
  | parted => cases stays
  | _ => exact absurd rfl plain

theorem receiveFrame_brings (conn : Connection) (stays : frame.last? = none) :
    (receiveFrame frame).Leads conn (Brings conn frame) :=
  (receiveFrame_dealt conn frame).mono fun _ _ dealt => dealt.brings stays

theorem handle_steady (conn : Connection) (stays : frame.last? = none) :
    (∃ born, Steady born conn (conn.handle frame)) ∨
      ∃ middle error, Steady [] conn middle ∧ conn.handle frame = middle.fail error := by
  have brings := receiveFrame_brings conn stays
  cases ran : (receiveFrame frame).run conn with
  | ok _ after =>
    obtain ⟨born, steady, -⟩ := brings.of_ok ran
    rw [handle_of_ok ran]
    exact .inl ⟨born, steady⟩
  | error error after =>
    have steady : Steady [] conn after := brings.of_error ran
    rw [handle_of_error ran]
    split
    · exact .inr ⟨after, error, steady, rfl⟩
    · exact .inl ⟨[], upkeep.absorb steady error⟩

/-! ## Calls -/

/-- What a call does that is no farewell.  It brings streams of ours to life, and only as long as
neither end has said farewell. -/
def Makes (start after : Connection) : Prop :=
  ∃ born, Steady born start after ∧ ∀ id ∈ born,
    start.registry.isLocal id = true ∧ start.farewell.received = none ∧ start.farewell.sent = none

theorem Steady.makes (steady : Steady [] start conn) : Makes start conn :=
  ⟨[], steady, by simp⟩

theorem called_eq_of_closed (closed : conn.closed) (call : Call) :
    ∃ next, conn.called call =
      { conn with registry := { conn.registry with nextLocal := next } } := by
  rcases called_eq_or_skips closed call with same | ⟨target, registry, skips, same⟩ <;> rw [same]
  · exact ⟨_, rfl⟩
  · exact ⟨target, by rw [(skipTo_eq skips).2.2]⟩

theorem called_makes (sound : conn.closed = false → conn.Sound) {call : Call}
    (stays : call.isFarewell = false) : conn.Makes (conn.called call) := by
  have here := Steady.refl conn
  have taken : ∀ next, Steady [] conn { conn with
      registry := { conn.registry with nextLocal := next } } := upkeep.setNextLocal here
  by_cases plain : call.isPlain
  · exact (upkeep.called here plain).makes
  refine called_of_leads ((perform_served conn call).mono fun result after served => ?_)
  cases served with
  | denied => exact here.makes
  | looped allocated =>
    obtain ⟨rfl, rfl⟩ := allocate_eq allocated
    exact (taken _).makes
  | crowded allocated =>
    obtain ⟨rfl, rfl⟩ := allocate_eq allocated
    exact (upkeep.refuseOwn (taken _)).makes
  | @opened fields priority endStream _ _ stream staying allocated _ _ _ _ going =>
    obtain ⟨rfl, rfl⟩ := allocate_eq allocated
    have added : Steady [conn.registry.nextLocal] conn _ :=
      (taken (conn.registry.nextLocal + 2)).addStream { stream with finalSent := true }
    refine ⟨[_], (upkeep.reprioritizeIf added _ priority).writeHeaders fields priority endStream,
      ?_⟩
    rintro _ member
    obtain rfl := mem_singleton.mp member
    exact ⟨(sound going).registry.nextLocal, staying⟩
  | @promised id _ request _ _ _ _ staying _ _ allocated going =>
    obtain ⟨rfl, rfl⟩ := allocate_eq allocated
    have added := (taken (conn.registry.nextLocal + 2)).addPromised conn.registry.nextLocal id
      { phase := .reservedLocal }
    refine ⟨[_], (upkeep.compress added request).write _ rfl, ?_⟩
    rintro _ member
    obtain rfl := mem_singleton.mp member
    exact ⟨(sound going).registry.nextLocal, staying⟩
  | overfull => exact (upkeep.dropStream here ..).makes
  | @responded id fields endStream _ _ held _ _ _ _ moves =>
    have noted := here.modifyStream id (f := fun stream => { stream with finalSent := true })
      fun _ => rfl
    have headed : Steady [] conn (Connection.writeHeaders _ id fields none endStream) :=
      noted.writeHeaders fields none endStream
    exact (upkeep.settled (headed.insertNext (get?_modifyStream held) moves)).makes
  | parted => cases stays
  | _ => exact absurd rfl plain

end Connection

end Http2
