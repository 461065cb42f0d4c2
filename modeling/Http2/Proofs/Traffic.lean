import Http2.Proofs.Record
import Http2.Proofs.Unsent

/-!
# What goes through a session

`Traffic` is what has gone into a session and come out of it along a run: the octets that were
accepted, the frames that were written, the events that were taken out.  Behind it are the lives of
the streams, and their counts say that every octet is accounted for, with one exception: final
headers that end a stream can overtake octets that wait.
-/

namespace Http2

open List

/-! ## Final headers -/

namespace Connection

variable {conn after : Connection} {id : Nat} {call : Call} {endStream : Bool}
  {given marks : List Mark}

/-- Where the action succeeds, final headers have gone out on a live stream, and nothing else has
been written with them. -/
def Responds {α : Type} (conn : Connection) (id : Nat) (fields : List Field) (endStream : Bool)
    (result : Except Error α) (after : Connection) : Prop :=
  result.isOk = true → ∃ stream, conn.registry.get? id = some stream ∧ stream.isLive ∧
      after.queued = conn.queued ++ [.headers id none (conn.compress fields).1 endStream]

private theorem perform_responds (conn : Connection) (id : Nat) (fields : List Field)
    (endStream : Bool) :
    (perform (.respond id fields endStream)).Leads conn (conn.Responds id fields endStream) := by
  refine (perform_served conn _).mono fun result after served ok => ?_
  cases served with
  | denied | overfull => cases ok
  | responded held sends =>
    refine ⟨_, held, isLive_of_responds sends, ?_⟩
    unfold settled
    split <;> exact queued_write _ _

private theorem gives_of_input (conn : Connection) (none : call.input = []) :
    conn.gives call = [] := by
  unfold gives
  cases (perform call).run conn with
  | ok => exact none
  | error => rfl

variable (lived : Lived conn given marks after)

include lived

theorem Lived.took : marks.filterMap Mark.took? = given.filterMap Mark.took? := by
  rw [← lived.given, filterMap_filter]
  congr 1
  funext mark
  cases mark <;> rfl

theorem Lived.queued_append : conn.queued ++ writtenIn (conn.wroteSince after) = after.queued := by
  obtain ⟨frames, queued, -⟩ := lived.queued
  rw [wroteSince_eq queued, writtenIn_wrote, queued]

theorem Lived.mem_given (member : .answered id endStream ∈ marks) :
    .answered id endStream ∈ given := by
  rw [← lived.given]
  exact mem_filter.mpr ⟨member, rfl⟩

end Connection

/-! ## Traffic -/

namespace Session

def bufferedOn (session : Session) (id : Nat) : Nat :=
  ((session.connection.registry.get? id).map Stream.buffered).getD 0

def cuts (session : Session) (call : Call) : List (Nat × Nat) :=
  match call, (session.call call).1 with
  | .respond id _ true, .ok _ => [(id, session.bufferedOn id)]
  | _, _ => []

/-- What has gone into a session and come out of it. -/
structure Traffic where
  accepted : List (Nat × Octets) := []
  /-- The streams that final headers have ended, with the numbers of octets that still waited. -/
  cut : List (Nat × Nat) := []
  written : List Frame := []
  handed : List Event := []

namespace Traffic

def acceptedOn (traffic : Traffic) (id : Nat) : Nat := (octetsOn id traffic.accepted).length

def writtenOn (traffic : Traffic) (id : Nat) : Nat :=
  (traffic.written.flatMap (Frame.dataOn id)).length

end Traffic

def acceptedBy (session : Session) : Use → List (Nat × Octets)
  | .call call => session.accepts call
  | _ => []

def cutBy (session : Session) : Use → List (Nat × Nat)
  | .call call => session.cuts call
  | _ => []

def writtenBy (session : Session) (use : Use) : List Frame :=
  writtenIn (session.connection.wroteSince (session.use use).connection)

def traffic (session : Session) (uses : List Use) : Traffic where
  accepted := session.along acceptedBy uses
  cut := session.along cutBy uses
  written := session.connection.queued ++ session.along writtenBy uses
  handed := session.along handedBy uses

def Traffic.used (traffic : Traffic) (session : Session) (use : Use) : Traffic where
  accepted := traffic.accepted ++ session.acceptedBy use
  cut := traffic.cut ++ session.cutBy use
  written := traffic.written ++ session.writtenBy use
  handed := traffic.handed ++ session.handedBy use

/-- A run of a session, with what has gone into it and come out of it. -/
def Carried (session : Session) (traffic : Traffic) : Prop :=
  ∃ role config now first uses, create role config now = .ok first ∧ first.after uses = session ∧
    first.traffic uses = traffic

variable {session : Session} {traffic : Traffic} {id : Nat}

theorem traffic_concat (first : Session) (uses : List Use) (use : Use) :
    first.traffic (uses ++ [use]) = (first.traffic uses).used (first.after uses) use := by
  simp only [Session.traffic, Traffic.used, along_concat, append_assoc]

theorem Carried.run (carried : Carried session traffic) : ∃ log, Run session log := by
  obtain ⟨role, config, now, first, uses, created, rfl, -⟩ := carried
  exact ⟨_, (Run.create created).after uses⟩

theorem writtenBy_of_takes {use : Use} (takes : use.takes) : session.writtenBy use = [] := by
  have silent := @loggedBy_of_takes session use takes
  unfold writtenBy
  cases use <;> first | exact congrArg writtenIn silent | cases takes

/-! ## Traffic by lives -/

open Connection

structure Traced (start : Connection) (marks : List Mark) (conn : Connection)
    (traffic : Traffic) : Prop where
  life : ∀ id, Life id (start.registry.view id) (marks.filter (Mark.isOn id))
    (conn.registry.view id)
  accepted : marks.filterMap Mark.took? = traffic.accepted
  written : traffic.written.map Frame.outline = saidIn marks
  told : traffic.handed ++ conn.events = toldIn marks
  cut : ∀ id, (({} : Count).addAll id marks).cut = 0 ∨
    (id, (({} : Count).addAll id marks).cut) ∈ traffic.cut

namespace Traced

variable {start conn after : Connection} {given marks more : List Mark}

section

variable (traced : Traced start marks conn traffic)

include traced

theorem lived (lived : Lived conn given more after) (cuts : List (Nat × Nat))
    (cut : ∀ id, (({} : Count).addAll id (marks ++ more)).cut = (({} : Count).addAll id marks).cut ∨
      (id, (({} : Count).addAll id (marks ++ more)).cut) ∈ cuts) :
    Traced start (marks ++ more) after
      { traffic with
        accepted := traffic.accepted ++ given.filterMap Mark.took?
        cut := traffic.cut ++ cuts
        written := traffic.written ++ writtenIn (conn.wroteSince after) } where
  life id := by
    rw [filter_append]
    exact (traced.life id).trans (lived.life id)
  accepted := by rw [filterMap_append, traced.accepted, lived.took]
  written := by rw [map_append, traced.written, lived.written, saidIn_append]
  told := by rw [lived.events, ← append_assoc, traced.told, toldIn_append]
  cut id := by
    rcases cut id with same | new
    · rw [same]
      exact (traced.cut id).imp_right (mem_append_left _)
    · exact .inr (mem_append_right _ new)

theorem unasked (lived : Lived conn [] more after) :
    Traced start (marks ++ more) after
      { traffic with written := traffic.written ++ writtenIn (conn.wroteSince after) } := by
  have none : ∀ id, .answered id true ∉ more := by
    intro id member
    cases lived.mem_given member
  have traced := traced.lived lived [] fun id => .inl (by
    rw [Count.addAll_append, Count.cut_addAll _ (none id)])
  simpa using traced

theorem hand {taken rest : List Event} (split : conn.events = taken ++ rest)
    (outbound : List Outgoing) :
    Traced start marks { conn with outbound, events := rest }
      { traffic with handed := traffic.handed ++ taken } where
  life := traced.life
  accepted := traced.accepted
  written := traced.written
  told := by rw [← traced.told, split, append_assoc]
  cut := traced.cut

end

theorem sets_up (traced : Traced start marks conn { written := conn.queued })
    (sound : conn.closed = false → conn.Sound) {call : Call} (none : call.input = []) :
    ∃ marks, Traced start marks (conn.called call)
      { written := (conn.called call).queued } := by
  obtain ⟨more, lived⟩ := called_lived sound call
  rw [conn.gives_of_input none] at lived
  have next := traced.unasked lived
  rw [lived.queued_append] at next
  exact ⟨_, next⟩

theorem settles {role : Role} {config : Config}
    (traced : Traced (fresh role config) marks conn traffic) (id : Nat) :
    Settles (conn.registry.view id) (({} : Count).addAll id marks) := by
  rw [← Count.addAll_filter]
  refine (traced.life id).settles ?_
  rcases fresh_view role config id with view | view
  · rw [view]
    exact .unused
  · rw [view]
    exact .gone (.inl ⟨rfl, rfl⟩)

end Traced

private theorem answered_of_gives {call : Call}
    (given : .answered id true ∈ session.connection.gives call) :
    session.connection.gives call = [.answered id true] ∧
      ∃ stream frame, session.connection.registry.get? id = some stream ∧ stream.isLive ∧
        (session.call call).2.connection.queued = session.connection.queued ++ [frame] ∧
        frame.outline.dataOn id = [] ∧ session.cuts call = [(id, stream.buffered)] := by
  unfold gives at given
  cases ran : (perform call).run session.connection with
  | error => simp [ran] at given
  | ok answer after =>
    rw [ran] at given
    cases call with
    | respond other fields endStream =>
      obtain ⟨rfl, rfl⟩ : id = other ∧ true = endStream := by simpa [Call.input] using given
      obtain ⟨stream, held, live, queued⟩ :=
        (perform_responds session.connection id fields true).of_ok ran rfl
      have ends : (session.call (.respond id fields true)).2.connection = after := by
        unfold Session.call
        rw [ran]
      have cut : session.cuts (.respond id fields true) = [(id, stream.buffered)] := by
        have waits : session.bufferedOn id = stream.buffered := by
          rw [bufferedOn, held]
          rfl
        unfold cuts Session.call
        rw [ran, ← waits]
      have only : session.connection.gives (.respond id fields true) = [.answered id true] := by
        rw [gives, ran]
        rfl
      exact ⟨only, stream, _, held, live, ends ▸ queued, rfl, cut⟩
    | _ => simp [Call.input] at given

theorem Traced.called {role : Role} {config : Config} {marks : List Mark}
    (traced : Traced (fresh role config) marks session.connection traffic)
    (sound : session.connection.closed = false → session.connection.Sound) (call : Call) :
    ∃ marks, Traced (fresh role config) marks (session.call call).2.connection
      { traffic with
        accepted := traffic.accepted ++ session.accepts call
        cut := traffic.cut ++ session.cuts call
        written := traffic.written ++ session.writtenBy (.call call) } := by
  obtain ⟨more, lived⟩ := called_lived sound call
  rw [← connection_call] at lived
  have next := traced.lived lived (session.cuts call) fun id => ?_
  · rw [took_gives] at next
    exact ⟨_, next⟩
  · rw [Count.addAll_append]
    by_cases answered : .answered id true ∈ more
    · obtain ⟨only, stream, frame, held, live, queued, empty, cuts⟩ :=
        answered_of_gives (lived.mem_given answered)
      have took : more.filterMap Mark.took? = [] := by
        rw [lived.took, only]
        rfl
      have said : ∀ frame ∈ saidIn more, frame.dataOn id = [] := by
        rw [← lived.written, wroteSince_eq queued, writtenIn_wrote]
        simpa using empty
      -- the headers go out alone, so what is cut off is what waited before the call
      have settles := traced.settles id
      rw [Registry.view_of_get? held live] at settles
      have waits : stream.bare.buffered = stream.buffered := rfl
      rw [cuts]
      refine (Count.cut_addAll_still _ took said).imp_right fun cut => ?_
      rw [cut, settles.all, waits, Nat.add_sub_cancel_left]
      exact mem_singleton_self _
    · exact .inl (Count.cut_addAll _ answered)

theorem Traced.used {role : Role} {config : Config} {marks : List Mark}
    (traced : Traced (fresh role config) marks session.connection traffic)
    (sound : session.connection.closed = false → session.connection.Sound) (use : Use) :
    ∃ marks,
      Traced (fresh role config) marks (session.use use).connection (traffic.used session use) := by
  cases takes : use.takes with
  | true =>
    have none : session.acceptedBy use = [] ∧ session.cutBy use = [] := by
      cases use <;> first | exact ⟨rfl, rfl⟩ | cases takes
    rw [Traffic.used, none.1, none.2, writtenBy_of_takes takes, append_nil, append_nil, append_nil]
    obtain ⟨rest, events, same | same⟩ := use_takes takes <;> rw [same]
    · exact ⟨marks, traced.hand events _⟩
    · exact ⟨marks, traced.hand events _⟩
  | false =>
    rw [Traffic.used, handedBy_of_acts takes, append_nil]
    cases called : use with
    | call call => exact traced.called sound call
    | _ =>
      subst called
      obtain ⟨more, lived⟩ := use_lived sound takes
      simp only [acceptedBy, cutBy, append_nil]
      exact ⟨_, traced.unasked lived⟩

private theorem create_traced {role : Role} {config : Config} {now : Nat}
    (created : create role config now = .ok session) : ∃ marks,
      Traced (fresh role config) marks session.connection
        { written := session.connection.queued } := by
  have begins : Traced (fresh role config) [] (fresh role config)
      { written := (fresh role config).queued } :=
    ⟨fun _ => .refl, rfl, by cases role <;> rfl, rfl, fun _ => .inl rfl⟩
  refine create_induct (motive := fun conn => ∃ marks,
    Traced _ marks conn { written := conn.queued }) created ⟨_, begins⟩ fun sound call holds => ?_
  obtain ⟨marks, traced⟩ := holds
  exact traced.sets_up (fun _ => sound) (by rcases call with rfl | rfl <;> rfl)

theorem Carried.traced (carried : Carried session traffic) :
    ∃ role config marks, Traced (fresh role config) marks session.connection traffic := by
  obtain ⟨role, config, now, first, uses, created, rfl, rfl⟩ := carried
  refine ⟨role, config, ?_⟩
  induction uses using List.reverseRecOn with
  | nil =>
    simp only [Session.traffic, along_nil, append_nil]
    exact create_traced created
  | append_singleton uses use ih =>
    obtain ⟨marks, traced⟩ := ih
    rw [after_concat, traffic_concat]
    exact traced.used ((Run.create created).after uses).sound use

/-! ## All octets are accounted for -/

def unsentOn (session : Session) (handed : List Event) (id : Nat) : List Nat :=
  (session.eventsOn handed id).filterMap Event.unsent?

theorem Traced.count {start : Connection} {marks : List Mark}
    (traced : Traced start marks session.connection traffic) (id : Nat) :
    (({} : Count).addAll id marks).taken = traffic.acceptedOn id ∧
      (({} : Count).addAll id marks).sent = traffic.writtenOn id ∧
      (({} : Count).addAll id marks).unsent = session.unsentOn traffic.handed id := by
  refine ⟨?_, ?_, ?_⟩
  · rw [Count.taken_addAll, traced.accepted, Traffic.acceptedOn, Nat.zero_add]
  · have data : ∀ frame : Frame, frame.outline.dataOn id = frame.dataOn id := by
      intro frame
      cases frame <;> rfl
    rw [Count.sent_addAll, ← traced.written, Traffic.writtenOn, flatMap_map, Nat.zero_add]
    simp only [data]
  · rw [Count.unsent_addAll, ← traced.told, unsentOn, eventsOn, nil_append]

theorem Carried.unused_of_idle (carried : Carried session traffic)
    (idle : session.connection.registry.isIdle id) :
    ∃ ours, session.connection.registry.view id = .unused ours := by
  obtain ⟨log, run⟩ := carried.run
  rcases Registry.view_cases session.connection.registry id with ⟨stream, held,
    live, view⟩ | ⟨-, view⟩
  · exfalso
    cases closed : session.connection.closed with
    | true =>
      obtain ⟨role, config, steps⟩ := run.steps
      exact steps.deserted (fresh_sound role config) rfl closed id _ view
    | false =>
      have used := (run.sound closed).registry.used held
      rw [idle] at used
      cases used
  · rw [idle] at view
    exact ⟨_, view⟩

/-- Every octet that was handed over for a stream has been written, or waits as long as the stream
lives.  Once the stream has closed, the application was told how many were left unsent, but for
those that waited when final headers ended the stream: a stream that closes in good order after that
has lost them without a word. -/
theorem Carried.octets_accounted (carried : Carried session traffic) (id : Nat) :
    (∀ stream, session.connection.registry.get? id = some stream → stream.isLive = true →
      traffic.acceptedOn id = traffic.writtenOn id + stream.buffered ∧
        session.unsentOn traffic.handed id = []) ∧
    (session.connection.registry.isIdle id = true → traffic.acceptedOn id = 0 ∧
      traffic.writtenOn id = 0) ∧
    (session.connection.registry.HasClosed id →
      session.unsentOn traffic.handed id = [] ∧ traffic.acceptedOn id = traffic.writtenOn id ∨
      (∃ unsent, session.unsentOn traffic.handed id = [unsent] ∧
        traffic.acceptedOn id = traffic.writtenOn id + unsent) ∨
      session.unsentOn traffic.handed id = [] ∧ ∃ waiting, 0 < waiting ∧
      (id, waiting) ∈ traffic.cut ∧
        traffic.acceptedOn id = traffic.writtenOn id + waiting) := by
  obtain ⟨role, config, marks, traced⟩ := carried.traced
  have settles := traced.settles id
  obtain ⟨taken, sent, unsent⟩ := traced.count id
  rw [← taken, ← sent, ← unsent]
  refine ⟨fun stream held live => ?_, fun idle => ?_, fun closed => ?_⟩
  · rw [Registry.view_of_get? held live] at settles
    exact ⟨settles.all, settles.untold⟩
  · obtain ⟨ours, view⟩ := carried.unused_of_idle idle
    rw [view] at settles
    rw [settles.eq_empty]
    exact ⟨rfl, rfl⟩
  · rw [Registry.hasClosed_iff_view.mp closed] at settles
    rcases settles.settled with ⟨untold, all⟩ | told
    · rcases Nat.eq_zero_or_pos (({} : Count).addAll id marks).cut with none | some
      · exact .inl ⟨untold, by rw [all, none, Nat.add_zero]⟩
      · have cut := (traced.cut id).resolve_left (Nat.ne_of_gt some)
        exact .inr (.inr ⟨untold, _, some, cut, all⟩)
    · exact .inr (.inl told)

/-- A server whose peer grants no credit, with an answer on each of three streams.  The first stream
is ended by final headers that come late, the second goes on, and the third is reset. -/
def overtaken : Session :=
  (newServer []).after [.receive (preface ++ [0, 0, 6, 4, 0, 0, 0, 0, 0, 0, 4, 0, 0, 0, 0] ++
      [0, 0, 0, 1, 5, 0, 0, 0, 1] ++ [0, 0, 0, 1, 5, 0, 0, 0, 3] ++ [0, 0, 0, 1, 5, 0, 0, 0, 5]),
    .call (.sendData 1 [1, 2, 3] false), .call (.sendData 3 [4, 5] false),
    .call (.sendData 5 [6] false), .call (.respond 1 [] true), .call (.reset 5 .cancel)]

private theorem carried_overtaken :
    ∃ traffic, Carried overtaken traffic ∧ traffic.acceptedOn 1 = 3 ∧
    traffic.writtenOn 1 = 0 ∧ overtaken.unsentOn traffic.handed 1 = [] ∧
    overtaken.unsentOn traffic.handed 5 = [1] := by
  have created : Session.create .server {} 0 = .ok (newServer []) := rfl
  have carried : Carried overtaken _ := ⟨_, _, _, _, _, created, rfl, rfl⟩
  exact ⟨_, carried, by decide +kernel, by decide +kernel, by decide +kernel, by decide +kernel⟩

private theorem overtaken_closed :
    overtaken.connection.registry.HasClosed 1 ∧ overtaken.connection.registry.HasClosed 5 := by
  rw [Registry.hasClosed_iff_view, Registry.hasClosed_iff_view]
  decide +kernel

private theorem overtaken_waiting : ∃ stream, overtaken.connection.registry.get? 3 = some stream ∧
    stream.isLive = true ∧ stream.buffered = 2 :=
  ⟨_, Option.get_mem (by decide +kernel), by decide +kernel, by decide +kernel⟩

theorem Carried.octets_accounted_overtaken :
    ∃ traffic, Carried overtaken traffic ∧ traffic.acceptedOn 3 = traffic.writtenOn 3 + 2 ∧
      traffic.acceptedOn 5 = traffic.writtenOn 5 + 1 ∧ traffic.acceptedOn 7 = 0 ∧
      overtaken.unsentOn traffic.handed 1 = [] ∧ (1, 3) ∈ traffic.cut := by
  obtain ⟨traffic, carried, three, none, untold, told⟩ := carried_overtaken
  obtain ⟨stream, held, live, two⟩ := overtaken_waiting
  have waiting := ((carried.octets_accounted 3).1 stream held live).1
  have idle := ((carried.octets_accounted 7).2.1 (by decide +kernel)).1
  have reset : traffic.acceptedOn 5 = traffic.writtenOn 5 + 1 := by
    have settled := (carried.octets_accounted 5).2.2 overtaken_closed.2
    simpa [told] using settled
  have lost : (1, 3) ∈ traffic.cut := by
    have settled := (carried.octets_accounted 1).2.2 overtaken_closed.1
    simpa [untold, three, none] using settled
  exact ⟨traffic, carried, two ▸ waiting, reset, idle, untold, lost⟩

/-- Final headers that end a stream can make the octets before them go missing. -/
theorem not_forall_octets_accounted :
    ¬ ∀ session traffic id, Carried session traffic → session.connection.registry.HasClosed id →
      traffic.acceptedOn id = traffic.writtenOn id +
        total (session.unsentOn traffic.handed id) := by
  intro accounted
  obtain ⟨traffic, carried, three, none, untold, -⟩ := carried_overtaken
  have same := accounted overtaken traffic 1 carried overtaken_closed.1
  rw [three, none, untold] at same
  cases same

end Session

end Http2
