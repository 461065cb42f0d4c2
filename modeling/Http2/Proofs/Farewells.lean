import Http2.Proofs.Steady
import Http2.Proofs.Traffic

/-!
# Farewells

A farewell names a last stream, and an end may say farewell several times.  Each time that the
application asks for it the stream named is no higher than before.  A violation is another matter:
the farewell then names the highest stream that the peer has used, be that higher than what was
named before.  It is the last frame that is written, and no other farewell has this fault.

The streams of the peer above the one that was named are given up, and no HEADERS frame opens one
again.  A PUSH_PROMISE frame does.
-/

namespace Http2

open Registry List

namespace Connection

variable {conn middle after : Connection} {id : Nat} {lasts : List Nat} {told : List Event}

/-! ## What a farewell does -/

private theorem teardown_steady (conn : Connection) (reason : Reason) :
    Steady [] conn (conn.teardown reason) :=
  Steady.upkeep.teardown (Steady.refl conn) reason

theorem dropAbove_steady (conn : Connection) (last : Nat) (reason : Reason) (debug : Octets) :
    Steady [] (conn.sayFarewell (Farewell.least conn.farewell.sent last) reason debug)
      (conn.dropAbove last reason debug) :=
  Steady.upkeep.dropAll (Steady.refl _) _ .refusedStream fun id => .stream id .refusedStream

def noteFarewell (conn : Connection) (last : Nat) (reason : Reason) (debug : Octets) : Connection :=
  { conn with farewell := { conn.farewell with
      received := some (Farewell.least conn.farewell.received last) } }.emit
    (.goaway (Farewell.least conn.farewell.received last) reason debug)

theorem receiveGoaway_steady (conn : Connection) (last : Nat) (reason : Reason) (debug : Octets) :
    Steady [] (conn.noteFarewell last reason debug) (conn.receiveGoaway last reason debug) :=
  Steady.upkeep.dropAll (Steady.refl _) _ .refusedStream fun id => .stream id .refusedStream

private theorem called_sendGoaway (opened : conn.closed = false) (last : Nat)
    (reason : Reason) (debug : Octets) :
    conn.called (.sendGoaway last reason debug) = conn.dropAbove last reason debug := by
  have leads : (perform (.sendGoaway last reason debug)).Leads conn fun _ after =>
      after = conn.dropAbove last reason debug := by
    simp [perform, silently, sendGoaway, ensureOpen, opened]
  exact called_of_leads leads

/-! ## The streams that farewells name -/

/-- How the farewells that have been said stand to a connection, with what the application was told.
Only a violation names a stream out of turn, and with it the connection ends. -/
structure Parted (lasts : List Nat) (told : List Event) (conn : Connection) : Prop where
  sent : conn.farewell.sent = lasts.getLast?
  orderly : told.any Event.isFailure = false → lasts.Pairwise (· ≥ ·)
  failed : told.any Event.isFailure → conn.closed ∧
    ∃ earlier, lasts = earlier ++ [conn.registry.lastRemote] ∧ earlier.Pairwise (· ≥ ·)

/-- What lies between two states continues the farewells. -/
def Continued (before after : Connection) : Prop :=
  ∃ written more, after.queued = before.queued ++ written ∧ after.events = before.events ++ more ∧
    ∀ lasts told, Parted lasts told before → Parted (lasts ++ lastsIn written) (told ++ more) after

private theorem descending_concat {new : Nat} (descends : lasts.Pairwise (· ≥ ·))
    (lower : ∀ last, lasts.getLast? = some last → new ≤ last) :
    (lasts ++ [new]).Pairwise (· ≥ ·) := by
  refine pairwise_append.mpr ⟨descends, pairwise_singleton .., fun earlier member _ new => ?_⟩
  obtain rfl := mem_singleton.mp new
  obtain ⟨last, named⟩ :=
    Option.isSome_iff_exists.mp (getLast?_isSome.mpr (ne_nil_of_mem member))
  have bound := lower last named
  obtain ⟨front, rfl⟩ := getLast?_eq_some_iff.mp named
  rcases mem_append.mp member with member | member
  · have above := (pairwise_append.mp descends).2.2 earlier member last (mem_singleton_self last)
    omega
  · obtain rfl := mem_singleton.mp member
    exact bound

theorem Parted.of_open (parted : Parted lasts told conn) (opened : conn.closed = false) :
    told.any Event.isFailure = false ∧ lasts.Pairwise (· ≥ ·) := by
  have none : told.any Event.isFailure = false := by
    refine Bool.eq_false_iff.mpr fun failed => ?_
    cases opened.symm.trans (parted.failed failed).1
  exact ⟨none, parted.orderly none⟩

theorem Parted.of_orderly (sent : conn.farewell.sent = lasts.getLast?)
    (none : told.any Event.isFailure = false)
    (descends : lasts.Pairwise (· ≥ ·)) : Parted lasts told conn where
  sent := sent
  orderly _ := descends
  failed some := absurd (none.symm.trans some) Bool.false_ne_true

namespace Continued

theorem refl (conn : Connection) : Continued conn conn :=
  ⟨[], [], (append_nil _).symm, (append_nil _).symm, fun lasts told parted => by
    simpa [lastsIn] using parted⟩

theorem trans (first : Continued conn middle) (second : Continued middle after) :
    Continued conn after := by
  obtain ⟨written, more, queued, events, keeps⟩ := first
  obtain ⟨written', more', queued', events', keeps'⟩ := second
  refine ⟨written ++ written', more ++ more', ?_, ?_, fun lasts told parted => ?_⟩
  · rw [queued', queued, append_assoc]
  · rw [events', events, append_assoc]
  · have next := keeps' _ _ (keeps lasts told parted)
    rwa [append_assoc, append_assoc, ← lastsIn_append] at next

theorem of_steady {born : List Nat} (steady : Steady born conn after)
    (opened : conn.closed = false) : Continued conn after := by
  obtain ⟨written, queued, silent⟩ := steady.queued
  obtain ⟨more, events, mild⟩ := steady.events
  refine ⟨written, more, queued, events, fun lasts told parted => ?_⟩
  obtain ⟨none, descends⟩ := parted.of_open opened
  rw [silent, append_nil]
  refine .of_orderly ?_ ?_ descends
  · rw [steady.farewell, parted.sent]
  · rw [any_append, none, mild]
    rfl

theorem sayFarewell (opened : conn.closed = false) {last : Nat}
    (lower : ∀ previous, conn.farewell.sent = some previous → last ≤ previous) (reason : Reason)
    (debug : Octets) : Continued conn (conn.sayFarewell last reason debug) := by
  refine ⟨[.goaway last reason.code debug], [], queued_write conn _, (append_nil _).symm,
    fun lasts told parted => ?_⟩
  obtain ⟨none, descends⟩ := parted.of_open opened
  rw [append_nil]
  refine .of_orderly ?_ none (descending_concat descends fun previous named => ?_)
  · exact (getLast?_concat ..).symm
  · exact lower previous (parted.sent.trans named)

theorem dropAbove (opened : conn.closed = false) (last : Nat) (reason : Reason) (debug : Octets) :
    Continued conn (conn.dropAbove last reason debug) := by
  refine trans (sayFarewell opened (fun previous named => ?_) reason debug)
    (of_steady (dropAbove_steady conn last reason debug) opened)
  rw [Farewell.least, named]
  exact Nat.min_le_left previous last

theorem receiveGoaway (opened : conn.closed = false) (last : Nat) (reason : Reason)
    (debug : Octets) : Continued conn (conn.receiveGoaway last reason debug) := by
  have noted : Continued conn (conn.noteFarewell last reason debug) := by
    refine ⟨[], _, (append_nil _).symm, rfl, fun lasts told parted => ?_⟩
    obtain ⟨none, descends⟩ := parted.of_open opened
    rw [lastsIn, filterMap_nil, append_nil]
    refine .of_orderly parted.sent ?_ descends
    rw [any_append, none]
    rfl
  exact noted.trans (of_steady (receiveGoaway_steady conn last reason debug) opened)

theorem fail (conn : Connection) (error : Error) : Continued conn (conn.fail error) := by
  unfold Connection.fail
  cases opened : conn.closed with
  | true => exact refl conn
  | false =>
    simp only [Bool.false_eq_true, if_false]
    generalize Header.encodeUtf8 error.debugText = debug
    have steady := teardown_steady (conn.sayFarewell conn.registry.lastRemote error.reason
      debug) error.reason
    obtain ⟨written, queued, silent⟩ := steady.queued
    obtain ⟨more, events, mild⟩ := steady.events
    refine ⟨.goaway conn.registry.lastRemote error.reason.code debug :: written,
      more ++ [.sessionError error], ?_, ?_, fun lasts told parted => ?_⟩
    · refine queued.trans ?_
      rw [(sayFarewell_ended ..).1, append_assoc]
      rfl
    · exact (congrArg (· ++ [Event.sessionError error]) events).trans (append_assoc ..)
    · obtain ⟨none, descends⟩ := parted.of_open opened
      have named : lastsIn (.goaway conn.registry.lastRemote error.reason.code debug :: written) =
          [conn.registry.lastRemote] := congrArg (conn.registry.lastRemote :: ·) silent
      have told' : (told ++ (more ++ [Event.sessionError error])).any Event.isFailure = true := by
        simp [Event.isFailure]
      rw [named]
      constructor
      · exact (congrArg Farewell.sent steady.farewell).trans (getLast?_concat ..).symm
      · exact fun mild => absurd (mild.symm.trans told') Bool.false_ne_true
      · have same := Silent.lastRemote <| teardown_silent (conn.sayFarewell conn.registry.lastRemote
          error.reason debug) error.reason
        exact fun _ => ⟨rfl, lasts, congrArg (lasts ++ [·]) same.symm, descends⟩

theorem close (conn : Connection) : Continued conn conn.close := by
  unfold Connection.close
  cases opened : conn.closed with
  | true => exact refl conn
  | false =>
    simp only [Bool.false_eq_true, if_false]
    have torn : ∀ {middle : Connection}, Continued conn middle → middle.closed = false →
        Continued conn { middle.teardown .cancel with closed := true } := by
      intro middle first opened
      refine (first.trans (of_steady (teardown_steady middle .cancel) opened)).trans
        ⟨[], [], (append_nil _).symm, (append_nil _).symm, fun lasts told parted => ?_⟩
      have opened : (middle.teardown .cancel).closed = false :=
        (teardown_steady middle .cancel).closed.trans opened
      obtain ⟨none, descends⟩ := parted.of_open opened
      rw [append_nil, lastsIn, filterMap_nil, append_nil]
      exact .of_orderly parted.sent none descends
    split
    · rename_i silent
      refine torn (sayFarewell opened (fun previous named => ?_) .noError []) opened
      cases silent.symm.trans named
    · exact torn (refl conn) opened

theorem called (sound : conn.closed = false → conn.Sound) (call : Call) :
    Continued conn (conn.called call) := by
  cases opened : conn.closed with
  | true =>
    obtain ⟨next, same⟩ := called_eq_of_closed opened call
    rw [same]
    refine ⟨[], [], (append_nil _).symm, (append_nil _).symm, fun lasts told parted => ?_⟩
    rw [append_nil, lastsIn, filterMap_nil, append_nil]
    exact ⟨parted.sent, parted.orderly, parted.failed⟩
  | false =>
    cases stays : call.isFarewell with
    | false =>
      obtain ⟨born, steady, -⟩ := called_makes sound stays
      exact of_steady steady opened
    | true =>
      cases call with
      | sendGoaway last reason debug =>
        rw [called_sendGoaway opened]
        exact dropAbove opened last reason debug
      | _ => cases stays

theorem handle (opened : conn.closed = false) (frame : Frame) :
    Continued conn (conn.handle frame) := by
  cases named : frame.last? with
  | some _ =>
    cases frame with
    | goaway last code debug => exact receiveGoaway opened last ⟨code⟩ debug
    | _ => cases named
  | none =>
    rcases handle_steady conn named with ⟨born, steady⟩ | ⟨middle, error, steady, failed⟩
    · exact of_steady steady opened
    · rw [failed]
      exact (of_steady steady opened).trans (fail middle error)

end Continued

end Connection

namespace Session

open Connection (Continued Parted)

variable {session : Session} {traffic : Traffic}

private theorem continued_frameWise : FrameWise Continued where
  refl := .refl
  trans := .trans
  handle _ := .handle
  fail _ error := .fail _ error

private theorem create_continued {role : Role} {config : Config} {now : Nat}
    (created : create role config now = .ok session) :
    Continued (fresh role config) session.connection := by
  exact create_induct created (.refl _)
    fun sound _ continued => continued.trans (.called (fun _ => sound) _)

/-- The farewells that have been written and the events that have been told in a run. -/
abbrev Carried.Parts (session : Session) (traffic : Traffic) : Prop :=
  Parted (lastsIn traffic.written) (traffic.handed ++ session.connection.events) session.connection

private theorem use_continued (sound : session.connection.closed = false → session.connection.Sound)
    {use : Use} (acts : use.takes = false) :
    Continued session.connection (session.use use).connection := by
  cases use with
  | call call =>
    simp only [Session.use, connection_call]
    exact .called sound call
  | receive octets => exact continued_frameWise.receive sound octets
  | close => exact .close _
  | tick now => exact continued_frameWise.tick sound now
  | takeOutbound | flush | nextEvent | takeEvents => cases acts

theorem Carried.Parts.used (parts : Carried.Parts session traffic)
    (sound : session.connection.closed = false → session.connection.Sound) (use : Use) :
    Carried.Parts (session.use use) (traffic.used session use) := by
  unfold Carried.Parts Traffic.used at *
  cases takes : use.takes with
  | true =>
    rw [writtenBy_of_takes takes, append_nil, append_assoc]
    obtain ⟨rest, events, same | same⟩ := use_takes takes <;> rw [events] at parts <;> rw [same]
    · exact ⟨parts.sent, parts.orderly, parts.failed⟩
    · exact ⟨parts.sent, parts.orderly, parts.failed⟩
  | false =>
    obtain ⟨written, more, queued, events, keeps⟩ := use_continued sound takes
    have next := keeps _ _ parts
    rw [← lastsIn_append, append_assoc, ← events] at next
    rwa [handedBy_of_acts takes, append_nil, writtenBy, Connection.wroteSince_eq queued,
      writtenIn_wrote]

private theorem create_parts {role : Role} {config : Config} {now : Nat}
    (created : create role config now = .ok session) :
    Carried.Parts session { written := session.connection.queued } := by
  obtain ⟨written, more, queued, events, keeps⟩ := create_continued created
  have none : (fresh role config).queued = [] := by cases role <;> rfl
  have begins : Parted [] [] (fresh role config) := .of_orderly rfl rfl .nil
  have next := keeps [] [] begins
  rw [none, nil_append] at queued
  have events : session.connection.events = [] ++ more := events
  rwa [← queued, ← events] at next

theorem Carried.parts (carried : Carried session traffic) : Carried.Parts session traffic := by
  obtain ⟨role, config, now, first, uses, created, rfl, rfl⟩ := carried
  induction uses using List.reverseRecOn with
  | nil =>
    simp only [Session.traffic, along_nil, append_nil]
    exact create_parts created
  | append_singleton uses use ih =>
    rw [after_concat, traffic_concat]
    exact ih.used ((Run.create created).after uses).sound use

/-- The last stream that was named is kept, and the streams that farewells name never increase but
for one case.  When a violation ends the session, the last farewell names the highest stream that
the peer has used, whatever was named before. -/
theorem Carried.farewells_descend (carried : Carried session traffic) :
    session.connection.farewell.sent = (lastsIn traffic.written).getLast? ∧
    ((traffic.handed ++ session.connection.events).any Event.isFailure = false →
      (lastsIn traffic.written).Pairwise (· ≥ ·)) ∧
    ((traffic.handed ++ session.connection.events).any Event.isFailure = true →
      ∃ earlier, lastsIn traffic.written = earlier ++ [session.connection.registry.lastRemote] ∧
        earlier.Pairwise (· ≥ ·)) :=
  ⟨carried.parts.sent, carried.parts.orderly, fun failed => (carried.parts.failed failed).2⟩

/-- A server that gives up the stream of its client, and then fails over a frame without credit. -/
def overruled : Session :=
  (newServer []).after [.receive (preface ++ [0, 0, 0, 4, 0, 0, 0, 0, 0] ++
    [0, 0, 0, 1, 5, 0, 0, 0, 1]),
    .call (.sendGoaway 0 .noError []), .receive [0, 0, 4, 8, 0, 0, 0, 0, 0, 0, 0, 0, 0]]

private theorem exists_carried_overruled :
    ∃ traffic, Carried overruled traffic ∧ lastsIn traffic.written = [0, 1] ∧
    traffic.handed = [] := by
  have created : Session.create .server {} 0 = .ok (newServer []) := rfl
  exact ⟨_, ⟨_, _, _, _, _, created, rfl, rfl⟩, by decide +kernel, rfl⟩

theorem Carried.farewells_descend_overruled :
    ∃ traffic, Carried overruled traffic ∧ overruled.connection.farewell.sent = some 1 ∧
      ∃ earlier, lastsIn traffic.written = earlier ++ [1] ∧ earlier = [0] := by
  obtain ⟨traffic, carried, named, handed⟩ := exists_carried_overruled
  obtain ⟨sent, -, failed⟩ := carried.farewells_descend
  rw [named] at sent
  obtain ⟨earlier, split, -⟩ := failed (by rw [handed]; decide +kernel)
  have last : overruled.connection.registry.lastRemote = 1 := by decide +kernel
  rw [last] at split
  exact ⟨traffic, carried, sent, earlier, split, (List.append_left_inj [1]).mp
    (split.symm.trans named)⟩

/-- After a violation more streams count as looked at than the peer was promised. -/
theorem farewells_do_not_descend :
    ¬ ∀ session traffic, Carried session traffic → (lastsIn traffic.written).Pairwise (· ≥ ·) := by
  intro descend
  obtain ⟨traffic, carried, named, -⟩ := exists_carried_overruled
  have descends := descend _ _ carried
  rw [named] at descends
  exact absurd descends (by decide)

end Session

/-! ## Steps, by what they are to the farewells -/

namespace Connection

variable {start conn after : Connection} {log more : List Activity} {id : Nat}

/-- What a step is to the farewells: a call or a frame that is none, a farewell of one of the ends,
or the end of the session. -/
inductive Course (conn : Connection) : List Activity → Connection → Prop
  | made {after : Connection} (makes : conn.Makes after) :
      Course conn (conn.wroteSince after) after
  | brought {frame : Frame} {after : Connection} {born : List Nat} (stays : frame.last? = none)
      (steady : Steady born conn after) (opens : ∀ id ∈ born, conn.Opens frame id) :
      Course conn (.accepted frame :: conn.wroteSince after) after
  | parted (opened : conn.closed = false) (last : Nat) (reason : Reason) (debug : Octets) :
      Course conn (conn.wroteSince (conn.dropAbove last reason debug))
        (conn.dropAbove last reason debug)
  | heeded (opened : conn.closed = false) (last code : Nat) (debug : Octets) :
      Course conn (.accepted (.goaway last code debug) ::
        conn.wroteSince (conn.receiveGoaway last ⟨code⟩ debug))
        (conn.receiveGoaway last ⟨code⟩ debug)
  | ended {after : Connection} (deserted : after.Deserted)
      (received : after.farewell.received = conn.farewell.received)
      (role : after.registry.role = conn.registry.role) :
      Course conn (conn.wroteSince after) after
  | rested {after : Connection} (registry : after.registry = conn.registry)
      (farewell : after.farewell = conn.farewell) : Course conn [] after

private theorem fail_farewell (conn : Connection) (error : Error) :
    (conn.fail error).farewell.received = conn.farewell.received ∧
      (conn.fail error).registry.role = conn.registry.role := by
  unfold fail
  split
  · exact ⟨rfl, rfl⟩
  · have steady := teardown_steady (conn.sayFarewell conn.registry.lastRemote error.reason
      (Header.encodeUtf8 error.debugText)) error.reason
    have received := congrArg Farewell.received steady.farewell
    exact ⟨received, steady.role⟩

private theorem close_farewell (conn : Connection) :
    conn.close.farewell.received = conn.farewell.received ∧
      conn.close.registry.role = conn.registry.role := by
  unfold close
  split
  · exact ⟨rfl, rfl⟩
  · have torn : ∀ middle : Connection,
        { middle.teardown .cancel with closed := true }.farewell.received =
        middle.farewell.received ∧
          { middle.teardown .cancel with closed := true }.registry.role = middle.registry.role :=
          fun middle =>
      ⟨congrArg Farewell.received (teardown_steady middle .cancel).farewell,
        (teardown_steady middle .cancel).role⟩
    simp only
    split
    · exact torn _
    · exact torn conn

theorem Step.course (step : Step conn log after)
    (sound : conn.closed = false → conn.Sound) : Course conn log after := by
  have idle : conn.wroteSince conn = [] := wroteSince_eq (append_nil _).symm
  cases step with
  | call call =>
    cases opened : conn.closed with
    | true =>
      obtain ⟨next, same⟩ := called_eq_of_closed opened call
      rw [same]
      exact .made (Steady.upkeep.setNextLocal (Steady.refl conn) next).makes
    | false =>
      cases stays : call.isFarewell with
      | false => exact .made (called_makes sound stays)
      | true =>
        cases call with
        | sendGoaway last reason debug =>
          rw [called_sendGoaway opened]
          exact .parted opened last reason debug
        | _ => cases stays
  | @accept frame _ opened ran =>
    cases named : frame.last? with
    | some _ =>
      cases frame with
      | goaway last code debug =>
        obtain rfl : conn.receiveGoaway last ⟨code⟩ debug = after := by cases ran; rfl
        exact .heeded opened last code debug
      | _ => cases named
    | none =>
      obtain ⟨born, steady, opens⟩ := (receiveFrame_brings conn named).of_ok ran
      exact .brought named steady opens
  | @absorb frame error later opened ran harmless =>
    cases named : frame.last? with
    | some _ =>
      cases frame with
      | goaway => cases ran
      | _ => cases named
    | none =>
      have steady : Steady [] conn later := (receiveFrame_brings conn named).of_error ran
      exact .made (Steady.upkeep.absorb steady error).makes
  | @collapse frame error later opened ran fatal =>
    cases named : frame.last? with
    | some _ =>
      cases frame with
      | goaway => cases ran
      | _ => cases named
    | none =>
      have steady : Steady [] conn later := (receiveFrame_brings conn named).of_error ran
      have receipt := (receiveFrame_receipt (sound opened) frame).of_error ran
      obtain ⟨received, role⟩ := fail_farewell later error
      refine .ended (fail_deserted (receipt.registry_sound (sound opened))
        (steady.closed.trans opened) error) ?_ (role.trans steady.role)
      rw [received, steady.farewell]
  | fail error =>
    cases opened : conn.closed with
    | true =>
      rw [Connection.fail, if_pos opened, idle]
      exact .rested rfl rfl
    | false =>
      obtain ⟨received, role⟩ := fail_farewell conn error
      exact .ended (fail_deserted (sound opened).registry opened error) received role
  | close =>
    cases opened : conn.closed with
    | true =>
      rw [Connection.close, if_pos opened, idle]
      exact .rested rfl rfl
    | false =>
      obtain ⟨received, role⟩ := close_farewell conn
      exact .ended (close_deserted (sound opened).registry opened) received role
  | handOver => exact .rested rfl rfl
  | tell events => exact .rested rfl rfl

theorem Course.role (course : Course conn log after) :
    after.registry.role = conn.registry.role := by
  cases course with
  | made makes =>
    obtain ⟨born, steady, -⟩ := makes
    exact steady.role
  | brought _ steady => exact steady.role
  | parted _ last reason debug => exact (dropAbove_steady conn last reason debug).role
  | heeded _ last code debug => exact (receiveGoaway_steady conn last ⟨code⟩ debug).role
  | ended _ _ role => exact role
  | rested registry => rw [registry]

theorem Steps.role (steps : Steps start log conn) (sound : start.Sound) :
    conn.registry.role = start.registry.role := by
  induction steps with
  | refl => rfl
  | tail steps step ih => exact (step.course fun opened => steps.sound sound opened).role.trans ih

theorem Deserted.not_isLive (deserted : conn.Deserted) (id : Nat) : ¬ conn.registry.IsLive id := by
  intro live
  obtain ⟨stream, view⟩ := isLive_iff_view.mp live
  exact deserted id stream view

theorem isLive_dropAll (sound : conn.registry.Sound) {ids : List Nat} {reason : Reason}
    {error : Nat → Error}
    (live : (ids.foldl (fun conn id => conn.dropStream id reason false (error id))
      conn).registry.IsLive id) : conn.registry.IsLive id ∧ id ∉ ids := by
  obtain ⟨stream, view⟩ := isLive_iff_view.mp live
  rw [view_dropAll sound] at view
  split at view
  · cases before : conn.registry.view id <;> rw [before] at view <;> cases view
  · rename_i spared
    exact ⟨isLive_iff_view.mpr ⟨stream, view⟩, spared⟩

end Connection

/-! ## Streams above a farewell -/

/-- The peer has promised the stream, and we have not said farewell since. -/
def PromisedSince (log : List Activity) (id : Nat) : Prop :=
  ∃ before parent block rest, log = before ++ .accepted (.pushPromise parent id block) :: rest ∧
    lastsIn (writtenIn rest) = []

theorem PromisedSince.append {log more : List Activity} {id : Nat} (promised : PromisedSince log id)
    (silent : lastsIn (writtenIn more) = []) : PromisedSince (log ++ more) id := by
  obtain ⟨before, parent, block, rest, rfl, quiet⟩ := promised
  refine ⟨before, parent, block, rest ++ more, by simp, ?_⟩
  rw [writtenIn_append, lastsIn_append, quiet, silent]
  rfl

namespace Connection

variable {start conn after : Connection} {log more : List Activity} {id : Nat} {born : List Nat}

theorem Steady.silent (steady : Steady born conn after) :
    lastsIn (writtenIn (conn.wroteSince after)) = [] := by
  obtain ⟨written, queued, silent⟩ := steady.queued
  rwa [wroteSince_eq queued, writtenIn_wrote]

/-- The streams of the peer that live above our farewell were promised after it. -/
def Bounded (log : List Activity) (conn : Connection) : Prop :=
  ∀ last id, conn.farewell.sent = some last → conn.registry.IsLive id →
    conn.registry.isLocal id = false → last < id →
    conn.registry.role = .client ∧ PromisedSince log id

theorem Bounded.steady (bounded : Bounded log conn) (steady : Steady born conn after)
    (silent : lastsIn (writtenIn more) = [])
    (new : ∀ last id, conn.farewell.sent = some last → id ∈ born →
      conn.registry.isLocal id = false → last < id →
      conn.registry.role = .client ∧ PromisedSince (log ++ more) id) : Bounded
      (log ++ more) after := by
  intro last id sent live theirs above
  rw [steady.farewell] at sent
  have theirs : conn.registry.isLocal id = false := by
    rwa [isLocal, steady.role] at theirs
  rw [steady.role]
  rcases steady.live id live with before | member
  · obtain ⟨client, promised⟩ := bounded last id sent before theirs above
    exact ⟨client, promised.append silent⟩
  · exact new last id sent member theirs above

theorem Course.bounded (course : Course conn more after)
    (sound : conn.closed = false → conn.Sound) (bounded : Bounded log conn) :
    Bounded (log ++ more) after := by
  cases course with
  | made makes =>
    obtain ⟨born, steady, ours⟩ := makes
    refine bounded.steady steady steady.silent fun last id sent member theirs _ => ?_
    cases (ours id member).1.symm.trans theirs
  | @brought frame _ born stays steady opens =>
    refine bounded.steady steady steady.silent fun last id sent member theirs above => ?_
    have opened := opens id member
    cases opened with
    | headers _ within =>
      rw [sent] at within
      exact absurd above (of_decide_eq_false within)
    | @promise parent _ block _ client =>
      exact ⟨client, log, parent, block, _, rfl, steady.silent⟩
  | parted opened last reason debug =>
    intro named id sent live theirs above
    have steady := dropAbove_steady conn last reason debug
    rw [steady.farewell] at sent
    obtain rfl : Farewell.least conn.farewell.sent last = named := Option.some.inj sent
    rw [isLocal, steady.role] at theirs
    obtain ⟨before, spared⟩ := @isLive_dropAll
      (conn.sayFarewell (Farewell.least conn.farewell.sent last) reason debug) id
      (sound opened).registry _ .refusedStream (fun id => .stream id .refusedStream) live
    refine absurd (mem_filter.mpr ⟨mem_liveIds_iff.mpr before, ?_⟩) spared
    exact Bool.and_eq_true_iff.mpr ⟨congrArg (! ·) theirs, decide_eq_true above⟩
  | heeded opened last code debug =>
    have steady := receiveGoaway_steady conn last ⟨code⟩ debug
    have noted : Bounded log (conn.noteFarewell last ⟨code⟩ debug) := bounded
    exact noted.steady steady steady.silent (by simp)
  | ended deserted => exact fun _ id _ live => absurd live (deserted.not_isLive id)
  | rested registry farewell =>
    intro last id sent live theirs above
    rw [append_nil]
    rw [registry] at live theirs ⊢
    exact bounded last id (farewell ▸ sent) live theirs above

theorem Steps.bounded (steps : Steps start log conn) (sound : start.Sound)
    (staying : start.farewell.sent = none) : Bounded log conn := by
  induction steps with
  | refl => exact fun last id sent => by cases staying.symm.trans sent
  | tail steps step ih =>
    have sound := fun opened => steps.sound sound opened
    exact (step.course sound).bounded sound ih

/-- A stream that is promised is there, whatever our farewell was. -/
theorem receivePushPromise_isLive (conn : Connection) (id promised : Nat) (block : Octets) :
    (receiveFrame (.pushPromise id promised block)).Leads conn fun result after =>
      result = .ok () → after.registry.IsLive promised ∧ after.registry.isLocal promised = false ∧
        after.farewell = conn.farewell := by
  refine (receiveFrame_dealt conn _).mono ?_
  rintro _ after dealt rfl
  cases dealt with
  | promised _ _ _ _ _ taken =>
    obtain ⟨theirs, -, rfl⟩ := acceptRemote_eq taken
    have reserved : ({ phase := .reservedRemote, priority := ⟨id, Priority.defaultWeight, false⟩ } :
        Stream).isLive = true := rfl
    exact ⟨isLive_iff.mpr ⟨_, (get?_insert ..).trans (if_pos rfl), reserved⟩,
      not_initiates_of_peer theirs, rfl⟩

end Connection

namespace Session

variable {session : Session} {log : List Activity}

/-- Once we have said farewell, no stream of the peer above the one that was named is live, but for
the streams that the peer has promised to us, a client, since the last farewell.  A promise is taken
all the same, and the stream that it names is live however high it is. -/
theorem Run.live_above_farewell (run : Run session log) {last : Nat}
    (sent : session.connection.farewell.sent = some last) :
    (∀ id ∈ session.connection.registry.liveIds, session.connection.registry.isLocal id = false →
      last < id → session.connection.registry.role = .client ∧ PromisedSince log id) ∧
    ∀ parent promised block after,
      (Connection.receiveFrame (.pushPromise parent promised block)).run session.connection =
        .ok () after →
      promised ∈ after.registry.liveIds ∧ after.registry.isLocal promised = false ∧
        after.farewell.sent = some last := by
  obtain ⟨role, config, steps⟩ := run.steps
  refine ⟨fun id live theirs above => ?_, fun parent promised block after ran => ?_⟩
  · exact steps.bounded (fresh_sound role config) rfl last id sent
      (Registry.mem_liveIds_iff.mp live) theirs above
  · obtain ⟨live, theirs, same⟩ :=
      (Connection.receivePushPromise_isLive session.connection parent promised block).of_ok ran rfl
    exact ⟨Registry.mem_liveIds_iff.mpr live, theirs, by rw [same, sent]⟩

def leaving : Session :=
  newClient.after [.call (.createStream [] none true), .call (.sendGoaway 0 .noError [])]

private theorem exists_run_leaving : ∃ log, Run leaving log :=
  ⟨_, (Run.create create_newClient).after _⟩

theorem Run.live_above_farewell_leaving :
    leaving.connection.farewell.sent = some 0 ∧
      ∃ log, Run (leaving.receive [0, 0, 4, 5, 4, 0, 0, 0, 1, 0, 0, 0, 2]).2 log ∧
        2 ∈
          (leaving.receive [0, 0, 4, 5, 4, 0, 0, 0, 1, 0, 0, 0, 2]).2.connection.registry.liveIds ∧
        PromisedSince log 2 := by
  obtain ⟨log, run⟩ := exists_run_leaving
  have later := run.after [.receive [0, 0, 4, 5, 4, 0, 0, 0, 1, 0, 0, 0, 2]]
  refine ⟨by decide +kernel, _, later, by decide +kernel, ?_⟩
  exact ((later.live_above_farewell (by decide +kernel : _ = some 0)).1 2 (by decide +kernel)
    (by decide +kernel) (by decide)).2

/-- A stream of the peer may live above the last one that we have named. -/
theorem live_above_farewell_exists :
    ¬ ∀ session log last id, Run session log → session.connection.farewell.sent = some last →
      id ∈ session.connection.registry.liveIds → session.connection.registry.isLocal id = false →
      id ≤ last := by
  intro bounded
  obtain ⟨log, run⟩ := exists_run_leaving
  have low := bounded _ _ 0 2 (run.after [.receive [0, 0, 4, 5, 4, 0, 0, 0, 1, 0, 0, 0, 2]])
    (by decide +kernel) (by decide +kernel) (by decide +kernel)
  omega

end Session

end Http2
