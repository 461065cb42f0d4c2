import Http2.Proofs.Farewells
import Http2.Proofs.Passage
import Http2.Proofs.Supply
import Mathlib.Data.List.Basic

/-!
# Farewells of the peer

A farewell of the peer parts our streams.  Those above the last one that it names have not been
looked at: they are closed there and then, the application is told so once and for all, and the peer
is not told at all.  The others go on as they were.  No stream of ours is opened any more.
-/

namespace Http2

open Registry List

def Stream.dismissal (id : Nat) (stream : Stream) : List Event :=
  (if stream.hasOutbound then [.sendCancelled id stream.buffered
    (.stream id .refusedStream)] else []) ++ [.streamClosed id (some .refusedStream)]

namespace Connection

variable {start conn after : Connection} {log more : List Activity} {id last : Nat} {ids : List Nat}

def dismissal (conn : Connection) (id : Nat) : List Event :=
  (conn.registry.get? id).elim [] (Stream.dismissal id)

def unheard (conn : Connection) (last : Nat) : List Nat :=
  conn.registry.liveIds.filter fun id => conn.registry.isLocal id && decide (last < id)

/-- What becomes of our streams when the last one that the peer looks at is made known.  Nothing is
written, and the streams that stay keep their windows and all that the registry has of them, but for
the stream that they depend on. -/
structure Partitions (before : Connection) (last : Nat) (reason : Reason) (debug : Octets)
    (after : Connection) : Prop where
  closed : after.closed = before.closed
  farewell : after.farewell = { before.farewell with received := some last }
  outbound : after.outbound = before.outbound
  events : after.events = before.events ++
    .goaway last reason debug :: (before.unheard last).flatMap before.dismissal
  dismissed : ∀ id ∈ before.unheard last, after.registry.HasClosed id
  kept : ∀ id ∉ before.unheard last, Stream.Unaffected (before.registry.get? id)
    (after.registry.get? id) ∧
      after.sendWindows.stream? id = before.sendWindows.stream? id ∧
      after.receiveWindows.stream? id = before.receiveWindows.stream? id

/-! ## Streams that are dismissed -/

def dismiss (conn : Connection) (ids : List Nat) : Connection :=
  ids.foldl (fun conn id => conn.resetStream id .refusedStream false) conn

private theorem receiveGoaway_eq (conn : Connection) (last : Nat)
    (reason : Reason) (debug : Octets) :
    conn.receiveGoaway last reason debug = (conn.noteFarewell last reason debug).dismiss
      (conn.unheard (Farewell.least conn.farewell.received last)) := rfl

private theorem outbound_resetStream (conn : Connection) (id : Nat) (reason : Reason) :
    (conn.resetStream id reason false).outbound = conn.outbound := by
  unfold resetStream dropStream
  split
  · rfl
  · rename_i stream _
    split
    · cases stream.hasOutbound <;> rfl
    · rfl

private theorem outbound_dismiss (conn : Connection) (ids : List Nat) :
    (conn.dismiss ids).outbound = conn.outbound := by
  induction ids generalizing conn with
  | nil => rfl
  | cons id rest ih => exact (ih _).trans (outbound_resetStream conn id .refusedStream)

private theorem dismissal_of_unaffected
    (rests : Stream.Unaffected (conn.registry.get? id) (after.registry.get? id))
    (live : conn.registry.IsLive id) :
    after.dismissal id = conn.dismissal id ∧ after.registry.IsLive id := by
  obtain ⟨stream, held, live⟩ := isLive_iff.mp live
  unfold dismissal
  rw [isLive_iff]
  rw [held] at rests ⊢
  generalize after.registry.get? id = later at rests
  cases rests with
  | kept _ parent => exact ⟨rfl, _, rfl, live⟩
  | forgotten closed => cases closed.symm.trans live

private theorem events_resetStream (live : conn.registry.IsLive id) :
    (conn.resetStream id .refusedStream false).events = conn.events ++ conn.dismissal id := by
  obtain ⟨stream, held, live⟩ := isLive_iff.mp live
  unfold resetStream dropStream dismissal
  simp only [held, live, if_true, Option.elim_some, Bool.false_eq_true, if_false, Stream.dismissal]
  cases stream.hasOutbound
  · rfl
  · exact append_assoc ..

private theorem events_dismiss (sound : conn.registry.Sound) (distinct : ids.Nodup)
    (live : ∀ id ∈ ids, conn.registry.IsLive id) :
    (conn.dismiss ids).events = conn.events ++ ids.flatMap conn.dismissal := by
  induction ids generalizing conn with
  | nil => exact (append_nil _).symm
  | cons id rest ih =>
    obtain ⟨new, distinct⟩ := nodup_cons.mp distinct
    -- The streams that are still to be dismissed do not feel the first one.
    have others : ∀ other ∈ rest,
        (conn.resetStream id .refusedStream false).dismissal other = conn.dismissal other ∧
          (conn.resetStream id .refusedStream false).registry.IsLive other := by
      intro other member
      have elsewhere := (Elsewhere.refl id conn).dropStream sound .refusedStream false
        (.stream id .refusedStream)
      have apart : other ≠ id := fun same => new (same ▸ member)
      exact dismissal_of_unaffected (elsewhere.registry.streams other apart)
        (live other (mem_cons_of_mem id member))
    have sound : (conn.resetStream id .refusedStream false).registry.Sound :=
      registry_dropStream_sound sound id .refusedStream false _
    refine (ih sound distinct fun other member => (others other member).2).trans ?_
    rw [flatMap_congr fun other member => (others other member).1,
      events_resetStream (live id mem_cons_self), append_assoc, flatMap_cons]

private theorem dismiss_spares (sound : conn.registry.Sound) (apart : id ∉ ids) :
    Stream.Unaffected (conn.registry.get? id) ((conn.dismiss ids).registry.get? id) ∧
      (conn.dismiss ids).sendWindows.stream? id = conn.sendWindows.stream? id ∧
      (conn.dismiss ids).receiveWindows.stream? id = conn.receiveWindows.stream? id := by
  induction ids generalizing conn with
  | nil => exact ⟨.refl _, rfl, rfl⟩
  | cons other rest ih =>
    obtain ⟨apart, elsewhere⟩ := ne_and_not_mem_of_not_mem_cons apart
    have first := (Elsewhere.refl other conn).dropStream sound .refusedStream false
      (.stream other .refusedStream)
    obtain ⟨rests, send, receive⟩ := ih
      (registry_dropStream_sound sound other .refusedStream false (.stream other .refusedStream))
      elsewhere
    exact ⟨(first.registry.streams id apart).trans rests,
      send.trans (first.sendWindows.streams id apart),
      receive.trans (first.receiveWindows.streams id apart)⟩

private theorem mem_unheard_iff : id ∈ conn.unheard last ↔
    conn.registry.IsLive id ∧ conn.registry.isLocal id ∧ last < id := by
  rw [unheard, mem_filter, mem_liveIds_iff, Bool.and_eq_true, decide_eq_true_iff]

private theorem nodup_unheard (conn : Connection) (last : Nat) : (conn.unheard last).Nodup := by
  have ascends := IdMap.keysWhere_ascending conn.registry.streams fun _ stream => stream.isLive
  exact (ascends.imp Nat.ne_of_lt).filter _

private theorem receiveGoaway_partitions (sound : conn.Sound) (last : Nat)
    (reason : Reason) (debug : Octets) :
    Partitions conn (Farewell.least conn.farewell.received last) reason debug
      (conn.receiveGoaway last reason debug) := by
  have steady := receiveGoaway_steady conn last reason debug
  have noted : (conn.noteFarewell last reason debug).registry.Sound := sound.registry
  rw [receiveGoaway_eq] at steady ⊢
  exact
    { closed := steady.closed
      farewell := steady.farewell
      outbound := outbound_dismiss _ _
      events := by
        have live : ∀ id ∈ conn.unheard (Farewell.least conn.farewell.received last),
            (conn.noteFarewell last reason debug).registry.IsLive id :=
          fun id member => (mem_unheard_iff.mp member).1
        exact (events_dismiss noted (nodup_unheard ..) live).trans (append_assoc ..)
      dismissed := by
        intro id member
        obtain ⟨stream, view⟩ := isLive_iff_view.mp (mem_unheard_iff.mp member).1
        refine hasClosed_iff_view.mpr ?_
        have dropped := view_dropAll noted (conn.unheard
          (Farewell.least conn.farewell.received last)) .refusedStream
            (fun id => .stream id .refusedStream) id
        rw [if_pos member] at dropped
        exact dropped.trans (congrArg View.dropped view)
      kept := fun id apart => dismiss_spares noted apart }

/-! ## What farewells of the peer come to -/

private theorem min?_concat (lasts : List Nat) (last : Nat) :
    (lasts ++ [last]).min? = some (Farewell.least lasts.min? last) := by
  cases lasts with
  | nil => rfl
  | cons first rest => simp [List.min?, Farewell.least, foldl_append]

/-- The lowest stream that the peer's farewells name is kept, and none of ours lives above it. -/
structure Heedful (log : List Activity) (conn : Connection) : Prop where
  received : conn.farewell.received = (lastsIn (acceptedIn log)).min?
  live : ∀ last id, conn.farewell.received = some last → conn.registry.IsLive id →
    conn.registry.isLocal id = true → id ≤ last

theorem Heedful.steady {born : List Nat} (heedful : Heedful log conn)
    (steady : Steady born conn after) (silent : lastsIn (acceptedIn more) = [])
    (new : ∀ last id, conn.farewell.received = some last → id ∈ born →
      conn.registry.isLocal id = false) : Heedful (log ++ more) after where
  received := by
    rw [steady.farewell, acceptedIn_append, lastsIn_append, silent, append_nil]
    exact heedful.received
  live last id received live ours := by
    rw [steady.farewell] at received
    rw [isLocal, steady.role] at ours
    rcases steady.live id live with before | member
    · exact heedful.live last id received before ours
    · cases (new last id received member).symm.trans ours

theorem Course.heedful (course : Course conn more after)
    (sound : conn.closed = false → conn.Sound) (heedful : Heedful log conn) :
    Heedful (log ++ more) after := by
  have silent : ∀ after : Connection, lastsIn (acceptedIn (conn.wroteSince after)) = [] :=
    fun after => congrArg lastsIn acceptedIn_wroteSince
  cases course with
  | made makes =>
    obtain ⟨born, steady, ours⟩ := makes
    refine heedful.steady steady (silent after) fun last id received member => ?_
    cases (ours id member).2.1.symm.trans received
  | @brought frame _ born stays steady opens =>
    refine heedful.steady steady ?_ fun last id received member => ?_
    · have named : lastsIn (frame :: acceptedIn (conn.wroteSince after)) =
          lastsIn (acceptedIn (conn.wroteSince after)) := filterMap_cons_none stays
      exact named.trans (silent after)
    · cases opens id member with
      | headers theirs => exact not_initiates_of_peer theirs
      | promise theirs => exact not_initiates_of_peer theirs
  | parted opened last reason debug =>
    have said :
        Heedful log (conn.sayFarewell (Farewell.least conn.farewell.sent last) reason debug) :=
      ⟨heedful.received, heedful.live⟩
    exact said.steady (dropAbove_steady conn last reason debug) (silent _) (by simp)
  | heeded opened last code debug =>
    have steady := receiveGoaway_steady conn last ⟨code⟩ debug
    have received : (conn.receiveGoaway last ⟨code⟩ debug).farewell.received =
        some (Farewell.least conn.farewell.received last) :=
      congrArg Farewell.received steady.farewell
    constructor
    · have named : lastsIn (acceptedIn (.accepted (.goaway last code debug) ::
          conn.wroteSince (conn.receiveGoaway last ⟨code⟩ debug))) = [last] :=
        congrArg (last :: ·) (silent _)
      rw [received, acceptedIn_append, lastsIn_append, named, min?_concat, heedful.received]
    · intro least id named live ours
      obtain rfl := Option.some.inj (received.symm.trans named)
      rw [isLocal, steady.role] at ours
      obtain ⟨before, spared⟩ := @isLive_dropAll (conn.noteFarewell last ⟨code⟩ debug) id
        (sound opened).registry _ .refusedStream (fun id => .stream id .refusedStream) live
      by_contra above
      exact spared (mem_unheard_iff.mpr ⟨before, ours, Nat.lt_of_not_le above⟩)
  | ended deserted received =>
    constructor
    · rw [received, acceptedIn_append, acceptedIn_wroteSince, append_nil]
      exact heedful.received
    · exact fun _ id _ live => absurd live (deserted.not_isLive id)
  | rested registry farewell =>
    rw [append_nil]
    constructor
    · rw [farewell]
      exact heedful.received
    · rw [farewell, registry]
      exact heedful.live

theorem Steps.heedful (steps : Steps start log conn) (sound : start.Sound)
    (staying : start.farewell.received = none) : Heedful log conn := by
  induction steps with
  | refl => exact ⟨staying, fun last id received => by cases staying.symm.trans received⟩
  | tail steps step ih =>
    have sound := fun opened => steps.sound sound opened
    exact (step.course sound).heedful sound ih

private theorem perform_of_received {call : Call} (received : conn.farewell.received = some last)
    (opening : call.opens) :
    (perform call).Leads conn fun result after => (∃ error, result = .error error) ∧
    after = conn := by
  have parted : ¬ conn.farewell.received = none := by simp [received]
  refine (perform_served conn call).mono fun result after served => ?_
  cases served with
  | denied => exact ⟨⟨_, rfl⟩, rfl⟩
  | looped _ _ staying | crowded _ _ staying => exact absurd staying parted
  | opened staying | promised _ _ staying => exact absurd staying.1 parted
  | _ => cases opening

end Connection

/-! ## The application's view -/

namespace Stream

private theorem filter_dismissal_self (id : Nat) (stream : Stream) :
    (stream.dismissal id).filter (Event.isAbout id) = stream.dismissal id := by
  cases waits : stream.hasOutbound <;> simp [dismissal, waits, Event.isAbout]

private theorem filter_dismissal_other {id other : Nat} (apart : other ≠ id) (stream : Stream) :
    (stream.dismissal other).filter (Event.isAbout id) = [] := by
  cases waits : stream.hasOutbound <;> simp [dismissal, waits, Event.isAbout, apart]

private theorem countP_dismissal (id : Nat) (stream : Stream) :
    (stream.dismissal id).countP Event.isClosure = 1 := by
  cases waits : stream.hasOutbound <;> simp [dismissal, waits, Event.isClosure]

end Stream

namespace Connection

variable {conn : Connection} {id : Nat}

private theorem filter_flatMap_dismissal (conn : Connection) {ids : List Nat} (distinct : ids.Nodup)
    (member : id ∈ ids) :
    (ids.flatMap conn.dismissal).filter (Event.isAbout id) = conn.dismissal id := by
  have self : (conn.dismissal id).filter (Event.isAbout id) = conn.dismissal id := by
    unfold dismissal
    cases conn.registry.get? id with
    | none => rfl
    | some stream => exact stream.filter_dismissal_self id
  have others : ∀ other ≠ id, (conn.dismissal other).filter (Event.isAbout id) = [] := by
    intro other apart
    unfold dismissal
    cases conn.registry.get? other with
    | none => rfl
    | some stream => exact Stream.filter_dismissal_other apart stream
  induction ids with
  | nil => cases member
  | cons first rest ih =>
    obtain ⟨new, distinct⟩ := nodup_cons.mp distinct
    rw [flatMap_cons, filter_append]
    rcases mem_cons.mp member with rfl | member
    · have none : (rest.flatMap conn.dismissal).filter (Event.isAbout id) = [] := by
        rw [filter_flatMap]
        refine flatMap_eq_nil_iff.mpr fun other member => others other ?_
        exact fun same => new (same ▸ member)
      rw [none, append_nil, self]
    · rw [others first fun same => new (same ▸ member), ih distinct member, nil_append]

end Connection

namespace Session

variable {start session : Session} {log : List Activity} {handed : List Event}
  {role : Role} {config : Config} {now last : Nat} {marks : List Mark}

theorem Told.handleAll {origin conn : Connection} {reader rest : Reader} {frames : List Frame}
    (told : Told origin marks handed conn) (reads : conn.Reads reader frames rest)
    (sound : conn.Sound) :
    ∃ marks, Told origin marks handed (conn.handleAll frames) := by
  induction frames generalizing conn reader marks with
  | nil => exact ⟨marks, told⟩
  | cons frame frames ih =>
    obtain ⟨opened, next, -, reads⟩ := reads
    obtain ⟨more, lived⟩ := Connection.handle_lived sound opened frame
    cases frames with
    | nil => exact ⟨_, told.lived lived⟩
    | cons => exact ih (told.lived lived) reads (Connection.handle_sound sound reads.1)

/-- All that is told of a dismissed stream, from the beginning on and for good. -/
theorem Told.dismissed {before after later : Connection} {more : List Mark}
    {given : List Event} {id : Nat}
    {reason : Reason} {debug : Octets} (told : Told (fresh role config) marks handed before)
    (partitions : before.Partitions last reason debug after) (member : id ∈ before.unheard last)
    (onward : Told after more given later) :
    (handed ++ given ++ later.events).filter (Event.isAbout id) =
        (handed ++ before.events).filter (Event.isAbout id) ++ before.dismissal id ∧
      ((handed ++ given ++ later.events).filter (Event.isAbout id)).countP Event.isClosure = 1 := by
  have live := (Connection.mem_unheard_iff.mp member).1
  have gone := hasClosed_iff_view.mp (partitions.dismissed id member)
  have events : (handed ++ given ++ later.events).filter (Event.isAbout id) =
      (handed ++ before.events).filter (Event.isAbout id) ++ before.dismissal id := by
    have aside : Event.isAbout id (.goaway last reason debug) = false := rfl
    rw [append_assoc, filter_append, onward.eventsOn gone, partitions.events, filter_append,
      filter_cons_of_neg (Bool.eq_false_iff.mp aside),
      before.filter_flatMap_dismissal (before.nodup_unheard last) member, ← append_assoc,
      ← filter_append]
  refine ⟨events, ?_⟩
  obtain ⟨stream, held, -⟩ := isLive_iff.mp live
  have dismissal : before.dismissal id = stream.dismissal id := by
    rw [Connection.dismissal, held, Option.elim_some]
  have none : ((handed ++ before.events).filter (Event.isAbout id)).countP Event.isClosure = 0 :=
    countP_eq_zero.mpr fun event member => Bool.eq_false_iff.mp (told.lasts live event member)
  rw [events, countP_append, none, dismissal, stream.countP_dismissal]

private theorem call_of_received {call : Call}
    (received : session.connection.farewell.received = some last) (opening : call.opens) :
    ∃ error, session.call call = (.error error, session) := by
  have leads := Connection.perform_of_received received opening
  unfold Session.call
  cases ran : (Connection.perform call).run session.connection with
  | ok answer after =>
    obtain ⟨⟨error, failed⟩, -⟩ := leads.of_ok ran
    cases failed
  | error error after =>
    obtain ⟨-, rfl⟩ := leads.of_error ran
    exact ⟨error, rfl⟩

theorem Run.heedful (run : Run session log) : Connection.Heedful log session.connection := by
  obtain ⟨role, config, steps⟩ := run.steps
  exact steps.heedful (fresh_sound role config) rfl

/-- The lowest stream that the farewells of the peer have named is kept.  No stream of ours above it
is live, and none is opened any more: a call that would do so fails and changes nothing.  A farewell
closes the streams of ours above the lowest one named, writes nothing, and leaves the other streams
as they are.  That such a stream was refused, and what was left unsent on it, is all that is told of
it from then on, however the session is used, and it is told once. -/
theorem Passage.farewell_partitions (passage : Passage start log handed session)
    (created : create role config now = .ok start) :
    session.connection.farewell.received = (lastsIn (acceptedIn log)).min? ∧
    (∀ last, session.connection.farewell.received = some last →
      (∀ id ∈ session.connection.registry.liveIds, session.connection.registry.isLocal id = true →
        id ≤ last) ∧
      ∀ call : Call, call.opens = true → ∃ error, session.call call = (.error error, session)) ∧
    ∀ octets frames last code debug rest,
      session.connection.Reads (session.reader.feed octets)
        (frames ++ [.goaway last code debug]) rest →
      let before := session.connection.handleAll frames
      let least := Farewell.least before.farewell.received last
      before.Partitions least ⟨code⟩ debug (before.handle (.goaway last code debug)) ∧
      ∀ id ∈ before.unheard least, ∀ more given later, Passage (session.receive octets).2 more
      given later →
        later.eventsOn (handed ++ given) id =
          (handed ++ before.events).filter (Event.isAbout id) ++ before.dismissal id ∧
        (later.eventsOn (handed ++ given) id).countP Event.isClosure = 1 := by
  have run := passage.run (.create created)
  refine ⟨?_, fun last received => ⟨fun id live ours => ?_, fun call => call_of_received received⟩,
    fun octets frames last code debug rest reads => ?_⟩
  · rw [run.heedful.received, acceptedIn_append, acceptedIn_wrote, List.nil_append]
  · exact run.heedful.live last id received (Registry.mem_liveIds_iff.mp live) ours
  · obtain ⟨opened, middle, earlier, -⟩ := reads.split
    have sound := run.sound reads.opened
    have partitions := Connection.receiveGoaway_partitions (earlier.sound sound opened) last
      ⟨code⟩ debug
    refine ⟨partitions, fun id member more given later onward => ?_⟩
    obtain ⟨config, first, told⟩ := create_told created
    obtain ⟨second, told⟩ := passage.told (.create created) told
    obtain ⟨third, told⟩ := told.handleAll earlier sound
    have going : (session.connection.handleAll (frames ++ [.goaway last code debug])).closed =
        false := by
      rw [Connection.handleAll_concat]
      exact partitions.closed.trans opened
    obtain ⟨fourth, lived⟩ :=
      lived_frameWise.consumed (consumed (reads.sound sound going) going rest)
    rw [← receive_of_reads reads sound reads.opened going, Connection.handleAll_concat] at lived
    obtain ⟨fifth, onward⟩ := onward.told (run.after [.receive octets]) ((Told.begin _).lived lived)
    exact told.dismissed partitions member onward

/-- A client without credit that has asked on two streams, with data that waits on the second. -/
def unanswered : Session :=
  newClient.after [.receive [0, 0, 6, 4, 0, 0, 0, 0, 0, 0, 4, 0, 0, 0, 0],
    .call (.createStream [] none true), .call (.createStream [] none false),
    .call (.sendData 3 [1, 2, 3] false)]

private theorem exists_passage_unanswered : ∃ log, Passage newClient log [] unanswered :=
  ⟨_, _, rfl, rfl, rfl⟩

/-- The server has looked at the first stream only. -/
theorem Passage.farewell_partitions_unanswered :
    let octets : Octets := [0, 0, 8, 7, 0, 0, 0, 0, 0, 0, 0, 0, 1, 0, 0, 0, 0]
    let parted := (unanswered.receive octets).2
    parted.eventsOn [] 3 =
      [.sendCancelled 3 3 (.stream 3 .refusedStream), .streamClosed 3 (some .refusedStream)] ∧
    (unanswered.connection.handle (.goaway 1 0 [])).sendWindows.stream? 1 = some 0 ∧
    parted.connection.registry.liveIds = [1] ∧
    parted.connection.farewell.received = some 1 ∧
    ∃ error, parted.call (.createStream [] none true) = (.error error, parted) := by
  intro octets parted
  obtain ⟨log, passage⟩ := exists_passage_unanswered
  obtain ⟨-, -, parts⟩ := passage.farewell_partitions create_newClient
  obtain ⟨-, calls, -⟩ := (passage.after [.receive octets]).farewell_partitions create_newClient
  have received : parted.connection.farewell.received = some 1 := by decide +kernel
  have reads : unanswered.connection.Reads (unanswered.reader.feed octets) [.goaway 1 0 []]
      { unanswered.reader.feed octets with
        frameLimit := unanswered.connection.frameLimit }.next.2 :=
    ⟨by decide +kernel, _, Prod.ext (by decide +kernel) rfl, rfl⟩
  obtain ⟨partitions, told⟩ := parts octets [] 1 0 [] _ reads
  obtain ⟨events, -⟩ := told 3 (by decide +kernel) [] [] parted ⟨[], rfl, rfl, rfl⟩
  refine ⟨?_, ?_, by decide +kernel, received, (calls 1 received).2 _ rfl⟩
  · exact events.trans (by decide +kernel)
  · have window : unanswered.connection.sendWindows.stream? 1 = some 0 := by decide +kernel
    exact (partitions.kept 1 (by decide +kernel)).2.1.trans window

end Session

end Http2
