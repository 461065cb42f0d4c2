import Http2.Proofs.Finality
import Http2.Proofs.Turns

/-!
# Sizes of header lists

The header lists that reach the application are those of the events that a turn tells; upkeep and
farewells tell of none.  The headers and trailers that the peer sends are weighed against our limit
before they are told, whichever way they come in.  The request that comes with a promise is not
weighed at all.
-/

namespace Http2

open List

namespace Connection

variable {conn start after : Connection} {motion : Motion} {motions : List Motion} {role : Role}
  {event : Event} {events : List Event} {fields : List Field}

/-! ## What a motion tells -/

def emits (conn : Connection) (motion : Motion) : List Event :=
  (conn.givesOut motion ++ (conn.move motion).events).drop conn.events.length

theorem Tells.refl (conn : Connection) : conn.Tells [] conn :=
  .of_eq (append_nil _).symm

theorem Tells.emit (tells : start.Tells events conn) (bare : event.fields? = none) :
    start.Tells events (conn.emit event) := by
  obtain ⟨more, told, plain⟩ := tells
  refine ⟨more ++ [event], ?_, fun other member => ?_⟩
  · rw [Connection.emit, told, append_assoc]
  · rcases mem_append.mp member with member | member
    · exact plain other member
    · rw [mem_singleton.mp member]
      exact bare

theorem Tells.endures (start : Connection) : Endures (start.Tells []) where
  keep tells _ _ _ _ events := by
    unfold Tells
    rwa [events]
  number _ _ tells := tells
  emit {conn event} tells plain := tells.emit (by cases event <;> first | rfl | cases plain)
  write tells _ := tells
  say tells _ _ _ := tells
  reprioritize _ _ tells := tells
  detach _ tells := tells
  forget _ tells := tells
  shut _ tells _ := tells
  finish tells _ _ _ _ := tells
  touch _ _ tells _ _ := tells
  part tells _ _ events := by
    unfold Tells
    rwa [events]
  bid _ _ _ tells := tells
  warn {conn event} tells parting := tells.emit (by cases event <;> first | rfl | cases parting)

theorem ByUpkeep.tells (byUpkeep : conn.ByUpkeep after) : conn.Tells [] after :=
  byUpkeep _ (Tells.endures conn) (.refl conn)

/-- How the fields of an event came in: as headers or trailers within our limit, or promised. -/
def LetsIn (conn : Connection) (motion : Motion) (event : Event) (fields : List Field) : Prop :=
  ((∃ id endStream, event = .headers id fields endStream) ∨ ∃ id, event = .trailers id fields) ∧
      conn.Fits fields ∨
    conn.role = .client ∧ ∃ id promised block, motion = .frame (.pushPromise id promised block) ∧
      event = .streamCreated promised (some ⟨id, fields⟩)

theorem Turn.exists_tells (turn : conn.Turn motion after) :
    ∃ events, conn.Tells events after ∧
      ∀ event ∈ events, ∀ fields, event.fields? = some fields →
      conn.LetsIn motion event fields := by
  cases turn with
  | opens room begun seats tells => exact ⟨[], tells, by simp⟩
  | promises seats tells => exact ⟨[], tells, by simp⟩
  | responds held sends early final room moved shifts tells => exact ⟨[], tells, by simp⟩
  | accepts unknown theirs room fits begun seats tells =>
    refine ⟨_, tells, fun event member fields found => ?_⟩
    rcases mem_cons.mp member with rfl | member
    · cases found
    · cases mem_singleton.mp member
      cases found
      exact .inl ⟨.inl ⟨_, _, rfl⟩, fits⟩
  | starts held reserved fits moved shifts tells =>
    refine ⟨_, tells, fun event member fields found => ?_⟩
    cases mem_singleton.mp member
    cases found
    exact .inl ⟨.inl ⟨_, _, rfl⟩, fits⟩
  | continues known receives thins named fits tells =>
    refine ⟨_, tells, fun event member fields found => ?_⟩
    cases mem_singleton.mp member
    rcases named with rfl | rfl
    · cases found
      exact .inl ⟨.inl ⟨_, _, rfl⟩, fits⟩
    · cases found
      exact .inl ⟨.inr ⟨_, rfl⟩, fits⟩
  | notes client theirs seats tells =>
    refine ⟨_, tells, fun event member fields found => ?_⟩
    cases mem_singleton.mp member
    cases found
    exact .inr ⟨client, _, _, _, rfl, rfl⟩

/-- Whatever happens, events are only added, and those with fields have been let in. -/
theorem move_tells (conn : Connection) (motion : Motion) :
    ∃ more, conn.givesOut motion ++ (conn.move motion).events = conn.events ++ more ∧
      ∀ event ∈ more, ∀ fields, event.fields? = some fields → conn.LetsIn motion event fields := by
  by_cases inner : motion.isInner
  · have given : conn.givesOut motion = [] := by
      cases motion <;> first | rfl | cases inner
    obtain ⟨events, ⟨more, told, plain⟩, letIn⟩ : ∃ events, conn.Tells events (conn.move motion) ∧
          ∀ event ∈ events, ∀ fields, event.fields? = some fields →
          conn.LetsIn motion event fields := by
      rcases move_turns conn inner with byUpkeep | turn
      · exact ⟨[], byUpkeep.tells, by simp⟩
      · exact turn.exists_tells
    refine ⟨events ++ more, ?_, fun event member fields found => ?_⟩
    · rw [given, told, nil_append, append_assoc]
    · rcases mem_append.mp member with member | member
      · exact letIn event member fields found
      · cases (plain event member).symm.trans found
  · refine ⟨[], ?_, by simp⟩
    cases motion with
    | handOver => exact (append_nil _).symm
    | tell count => exact (take_append_drop count _).trans (append_nil _).symm
    | _ => exact absurd rfl inner

private theorem append_emits (conn : Connection) (motion : Motion) :
    conn.givesOut motion ++ (conn.move motion).events = conn.events ++ conn.emits motion := by
  obtain ⟨more, told, -⟩ := move_tells conn motion
  rw [emits, told, drop_left]

private theorem letsIn_of_emits (member : event ∈ conn.emits motion)
    (found : event.fields? = some fields) :
    conn.LetsIn motion event fields := by
  obtain ⟨more, told, letIn⟩ := move_tells conn motion
  rw [emits, told, drop_left] at member
  exact letIn event member fields found

theorem Trail.toldAlong_eq (trail : Trail start motions conn) :
    start.toldAlong motions = start.events ++ start.along emits motions := by
  induction trail with
  | refl => simp [toldAlong]
  | @tail motions middle motion trail _ ih =>
    rw [trail.toldAlong_concat, append_emits, trail.along_concat, ← append_assoc, ← append_assoc,
      ← ih, toldAlong, trail.moved]

private theorem exists_of_mem_along {α : Type} {observe : Connection → Motion → List α} {item : α}
    (member : item ∈ start.along observe motions) :
    ∃ earlier motion later, motions = earlier ++ motion :: later ∧
      item ∈ observe (start.moved earlier) motion := by
  induction motions generalizing start with
  | nil => cases member
  | cons motion rest ih =>
    rw [along_cons] at member
    rcases mem_append.mp member with here | member
    · exact ⟨[], motion, rest, rfl, here⟩
    · obtain ⟨earlier, next, later, rfl, there⟩ := ih member
      exact ⟨motion :: earlier, next, later, rfl, there⟩

/-! ## Promises -/

section Promises

variable {id promised : Nat} {block : Octets} {request : List Field}
  {table : Header.Table} {phase : Phase}

private theorem handle_notes (client : conn.role = .client) (enabled : conn.exchange.own.enablePush)
    (decoded : Header.decodeBlock conn.decoder block = (.ok request, table))
    (known : conn.phase? id = some phase) (receives : phase.canReceive)
    (theirs : conn.registry.role.peer.initiates promised)
    (new : conn.registry.lastRemote < promised) :
    (conn.handle (.pushPromise id promised block)).events =
      conn.events ++ [.streamCreated promised (some ⟨id, request⟩)] := by
  apply handle_of_leads (fun after => after.events = _)
  refine (receiveFrame_dealt conn _).mono fun result after dealt => ?_
  cases dealt with
  | pushToServer server => cases client.symm.trans server
  | pushRefused refuses => cases enabled.symm.trans refuses
  | garbledPromise failed => cases decoded.symm.trans failed
  | unfounded _ fault =>
    cases fault with
    | missing unknown => cases known.symm.trans unknown
    | wrongPhase held shut =>
      cases known.symm.trans (Registry.phase?_of_get? held)
      cases receives.symm.trans shut
    | unaccepted failed => cases (Registry.acceptRemote_of theirs new).symm.trans failed
  | promised _ _ decoded' =>
    cases decoded.symm.trans decoded'
    exact ⟨rfl, rfl⟩

end Promises

end Connection

/-! ## Sessions -/

namespace Session

variable {role : Role} {config : Config} {now : Nat} {session : Session}

/-- What becomes of the limit on header lists.  Every list in headers or trailers that the
application is told of was within the larger of the limits in force when it was received.  The
request of a promise is told by a client whatever its size. -/
theorem header_lists_weighed (created : create role config now = .ok session) (uses : List Use) :
    (∀ event ∈ session.told uses, ∀ fields, event.fields? = some fields →
      ∃ earlier motion later, session.history uses = earlier ++ motion :: later ∧
        event ∈ (session.connection.moved earlier).emits motion) ∧
    ∀ earlier motion later, session.history uses = earlier ++ motion :: later →
      let before := session.connection.moved earlier
      let limit := max (before.exchange.own.get .maxHeaderListSize)
        (before.exchange.latest.get .maxHeaderListSize)
      (∀ id fields endStream, .headers id fields endStream ∈ before.emits motion →
        listSize fields ≤ limit) ∧
      (∀ id fields, .trailers id fields ∈ before.emits motion → listSize fields ≤ limit) ∧
      (∀ promised promise, .streamCreated promised (some promise) ∈ before.emits motion →
        role = .client ∧ ∃ block, motion =
        .frame (.pushPromise promise.associated promised block)) ∧
      ∀ id promised block request table phase, motion = .frame (.pushPromise id promised block) →
        role = .client → before.exchange.own.enablePush = true →
        Header.decodeBlock before.decoder block = (.ok request, table) →
        before.phase? id = some phase → phase.canReceive = true →
        role.peer.initiates promised = true →
        before.registry.lastRemote < promised →
        before.emits motion = [.streamCreated promised (some ⟨id, request⟩)] := by
  have trail := trail_after (Run.create created) uses
  refine ⟨fun event member fields found => ?_, fun earlier motion later split => ?_⟩
  · rw [told, trail.toldAlong_eq] at member
    rcases List.mem_append.mp member with member | member
    · -- nothing that carries fields waits when a session begins
      obtain ⟨more, told, plain⟩ := (byUpkeep_of_create created).tells
      rw [told] at member
      cases (plain event member).symm.trans found
    · exact Connection.exists_of_mem_along member
  · have reached := reached_of_split created split
    intro before limit
    refine ⟨fun id fields endStream member => ?_, fun id fields member => ?_,
      fun promised promise member => ?_, ?_⟩
    · rcases Connection.letsIn_of_emits member rfl with ⟨-, fits⟩ | ⟨-, _, _, _, -, other⟩
      · exact fits
      · cases other
    · rcases Connection.letsIn_of_emits member rfl with ⟨-, fits⟩ | ⟨-, _, _, _, -, other⟩
      · exact fits
      · cases other
    · rcases Connection.letsIn_of_emits member rfl with ⟨other, -⟩ | ⟨client, id,
        _, block, made, same⟩
      · rcases other with ⟨_, _, other⟩ | ⟨_, other⟩ <;> cases other
      · obtain ⟨rfl, origin⟩ := Event.streamCreated.inj same
        have associated : promise.associated = id :=
          congrArg Promise.associated (Option.some.inj origin)
        refine ⟨reached.role_eq.symm.trans client, block, ?_⟩
        rw [associated]
        exact made
    · rintro id promised block request table phase rfl client enabled decoded
        known receives theirs new
      have noted := Connection.handle_notes (reached.role_eq.trans client) enabled
        decoded known receives (by rwa [reached.role_eq]) new
      rw [Connection.emits]
      exact (congrArg (List.drop _) noted).trans List.drop_left

def curt : Session :=
  ⟨{ prefaceDue := false, blockLimit := 262144 },
    (fresh .client { settings := [(.maxHeaderListSize, 40)] }).called
      (.sendSettings [(.maxHeaderListSize, 40)] 0)⟩

private theorem create_curt :
    create .client { settings := [(.maxHeaderListSize, 40)] } 0 = .ok curt := rfl

/-- The server has acknowledged the settings of the client, which has opened a stream. -/
def settledDown : List Use :=
  [.receive ([0, 0, 0, 4, 0, 0, 0, 0, 0] ++ [0, 0, 0, 4, 1, 0, 0, 0, 0]),
    .call (.createStream [] none false)]

private theorem history_settledDown :
    curt.history (settledDown ++ [.receive [0, 0, 5, 5, 4, 0, 0, 0, 1, 0, 0, 0, 2, 130]]) =
      curt.history settledDown ++ .frame (.pushPromise 1 2 [130]) :: [] := by decide +kernel

theorem header_lists_weighed_settledDown :
    let before := curt.connection.moved (curt.history settledDown)
    let request : List Field := [⟨":method", "GET"⟩]
    before.receiveLimit .maxHeaderListSize = 40 ∧ listSize request = 42 ∧
    before.emits (.frame (.pushPromise 1 2 [130])) = [.streamCreated 2 (some ⟨1, request⟩)] := by
  intro before request
  have stands : before.receiveLimit .maxHeaderListSize = 40 ∧ listSize request = 42 ∧
      before.exchange.own.enablePush = true ∧ before.phase? 1 = some .opened ∧
      before.registry.lastRemote < 2 := by decide +kernel
  obtain ⟨limit, size, enabled, known, new⟩ := stands
  have decoded : Header.decodeBlock before.decoder [130] = (.ok request, _) :=
    Prod.ext (by decide +kernel) rfl
  obtain ⟨-, -, -, noted⟩ := (header_lists_weighed create_curt _).2 _ _ _ history_settledDown
  exact ⟨limit, size, noted 1 2 [130] request _ .opened rfl rfl enabled decoded known rfl rfl new⟩

/-- A request that is too long reaches the application with the promise. -/
theorem header_lists_exceed_limit :
    ¬ ∀ role config now session uses earlier motion later, create role config now = .ok session →
      session.history uses = earlier ++ motion :: later →
      ∀ event ∈ (session.connection.moved earlier).emits motion, ∀ fields,
        event.fields? = some fields →
        listSize fields ≤ (session.connection.moved earlier).receiveLimit .maxHeaderListSize := by
  intro bounded
  have within := bounded _ _ _ _ _ _ _ _ create_curt history_settledDown
    (.streamCreated 2 (some ⟨1, [⟨":method", "GET"⟩]⟩)) (by decide +kernel) _ rfl
  exact absurd within (by decide +kernel)

end Session

end Http2
