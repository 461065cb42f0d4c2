import Http2.Proofs.Uses

/-!
# Stream identifiers

Each end numbers its own streams, and checks the numbers of the other end.  An identifier is idle
until it is used up, and it is used up once: it is idle before the stream enters and never idle
again, whether the stream was opened, refused or passed over.  That is all it takes for the
identifiers of either end to come in ascending order, and for an end that has run out of them to
stay so.
-/

namespace Http2

open Registry

namespace Registry

variable {registry : Registry} {id other : Nat}

private theorem lt_of_used_of_idle (parity : registry.isLocal id = registry.isLocal other)
    (used : registry.isIdle id = false) (idle : registry.isIdle other) : id < other := by
  unfold isIdle at used idle
  rw [parity] at used
  split at used <;> simp_all <;> omega

private theorem isIdle_reprioritize (registry : Registry) (id other : Nat) (priority : Priority) :
    (registry.reprioritize id priority).isIdle other = registry.isIdle other := by
  rw [reprioritize_eq]
  rfl

theorem isIdle_nextLocal (ours : registry.isLocal registry.nextLocal) :
    registry.isIdle registry.nextLocal = true := isIdle_iff.mpr (.inl ⟨ours, Nat.le_refl _⟩)

theorem allocate_ok {after : Registry} (allocated : registry.allocate = .ok (id, after)) :
    registry.Takes id after ∧ id = registry.nextLocal ∧ id ≤ maxStreamId := by
  refine ⟨.ours allocated, (allocate_eq allocated).1, ?_⟩
  rw [(allocate_eq allocated).1]
  unfold allocate at allocated
  split at allocated
  · cases allocated
  · omega

end Registry

/-! ## Identifiers only move forward -/

namespace Connection

variable {conn after : Connection} {role : Role} {id : Nat}

theorem Changes.forward {closings : List Nat} (changes : Changes conn closings after) :
    Forward conn after := by
  induction changes with
  | refl => exact ⟨rfl, fun _ idle => idle, fun ours => ours⟩
  | @tail _ _ middle after _ change ih =>
    have last : Forward middle after := by
      cases change with
      | none forward | enter forward | move forward | close forward => exact forward
    exact ⟨last.retention.trans ih.retention, fun id idle => ih.idle id (last.idle id idle),
      fun ours => last.ours (ih.ours ours)⟩

theorem Reached.forward (reached : conn.Reached role) {motion : Motion}
    (allowed : conn.Allows motion) : Forward conn (conn.move motion) := by
  obtain ⟨closings, tidy⟩ := reached.tidy
  obtain ⟨log, step⟩ := allowed.step
  obtain ⟨more, changes⟩ := step.changes reached.sound tidy
  exact changes.forward

theorem Reached.ours (reached : conn.Reached role) :
    conn.registry.isLocal conn.registry.nextLocal = true := by
  obtain ⟨closings, tidy⟩ := reached.tidy
  exact tidy.ours

theorem Reached.nextLocal_le (reached : conn.Reached role) {motion : Motion}
    (allowed : conn.Allows motion) :
    conn.registry.nextLocal ≤ (conn.move motion).registry.nextLocal := by
  have later := reached.move allowed
  have idle := (reached.forward allowed).idle _ (isIdle_nextLocal later.ours)
  have ours : conn.registry.isLocal (conn.move motion).registry.nextLocal = true := by
    have ours := later.ours
    rwa [isLocal, later.role_eq, ← reached.role_eq] at ours
  rcases isIdle_iff.mp idle with ⟨-, le⟩ | ⟨theirs, -⟩
  · exact le
  · rw [ours] at theirs
    cases theirs

/-! ## Identifiers that are issued -/

structure Claims (conn : Connection) (id : Nat) (after : Connection) : Prop where
  idle : conn.registry.isIdle id
  used : after.registry.isIdle id = false

/-- Identifiers of one end, ours or the peer's, that have been used up one after the other. -/
structure Issued (ours : Bool) (ids : List Nat) (conn : Connection) : Prop where
  ascending : ids.Pairwise (· < ·)
  used : ∀ id ∈ ids, conn.registry.isLocal id = ours ∧ conn.registry.isIdle id = false

namespace Issued

variable {ours : Bool} {ids : List Nat}

theorem nil (ours : Bool) (conn : Connection) : Issued ours [] conn :=
  ⟨.nil, fun _ member => by cases member⟩

theorem keep (issued : Issued ours ids conn)
    (role : after.registry.role = conn.registry.role) (forward : Forward conn after) :
    Issued ours ids after := by
  refine ⟨issued.ascending, fun id member => ?_⟩
  obtain ⟨parity, used⟩ := issued.used id member
  rw [isLocal, role]
  exact ⟨parity, forward.used used⟩

theorem claim (issued : Issued ours ids conn)
    (role : after.registry.role = conn.registry.role) (forward : Forward conn after)
    (parity : conn.registry.isLocal id = ours) (claims : conn.Claims id after) :
    Issued ours (ids ++ [id]) after := by
  have kept := issued.keep role forward
  constructor
  · rw [List.pairwise_append]
    refine ⟨issued.ascending, List.pairwise_singleton _ _, fun earlier member last same => ?_⟩
    obtain rfl := List.mem_singleton.mp same
    obtain ⟨same, used⟩ := issued.used earlier member
    exact lt_of_used_of_idle (same.trans parity.symm) used claims.idle
  · intro other member
    rcases List.mem_append.mp member with earlier | last
    · exact kept.used other earlier
    · rw [List.mem_singleton.mp last, isLocal, role]
      exact ⟨parity, claims.used⟩

end Issued

end Connection

/-! ## Our identifiers -/

namespace Connection

/-- The identifiers of ours that a motion uses up for a stream, which a call has returned or has
named as refused. -/
def consumes (conn : Connection) : Motion → List Nat
  | .call call =>
    if call.opens then
      match conn.answer call with
      | .ok (some id) | .error (.refused id) => [id]
      | _ => []
    else []
  | _ => []

/-- What a call for a new stream comes to: an identifier that was idle, or that none is left. -/
structure Allots (conn : Connection) (reaches : Prop) (result : Except Error (Option Nat))
    (after : Connection) : Prop where
  claims : ∀ id, result = .ok (some id) ∨ result = .error (.refused id) →
    id = conn.registry.nextLocal ∧ id ≤ maxStreamId ∧ after.registry.isIdle id = false
  exhausted : result = .error .idsExhausted ↔ reaches ∧ maxStreamId < conn.registry.nextLocal

variable {conn after : Connection} {id : Nat} {reaches : Prop} {role : Role}

theorem Served.allots {call : Call} {result : Except Error (Option Nat)}
    (served : Served conn call result after)
    (opens : call.opens) (ours : conn.registry.isLocal conn.registry.nextLocal) :
    Allots conn (conn.Reaches call) result after := by
  have taken : ∀ {id : Nat} {registry : Registry}, conn.registry.allocate = .ok (id, registry) →
      (∀ other, result = .ok (some other) ∨ result = .error (.refused other) → other = id) →
      result ≠ .error .idsExhausted → after.registry.isIdle id = registry.isIdle id →
      Allots conn (conn.Reaches call) result after := by
    intro id registry allocated only other same
    obtain ⟨takes, first, bounded⟩ := allocate_ok allocated
    refine ⟨fun given answer => ?_, by simp only [other, false_iff]; omega⟩
    obtain rfl := only given answer
    exact ⟨first, bounded, same.trans (takes.used_after ours)⟩
  cases served with
  | denied plain _ spent =>
    exact ⟨fun id given => by rcases given with given | given <;> simp_all, by simpa using spent⟩
  | looped allocated | crowded allocated | promised _ _ _ _ _ allocated =>
    exact taken allocated (by simp) (by simp) rfl
  | @opened _ priority _ id _ _ _ allocated =>
    refine taken allocated (by simp) (by simp) ?_
    cases priority with
    | none => rfl
    | some priority => exact isIdle_reprioritize _ id id priority
  | _ => cases opens

theorem Reached.allots (reached : conn.Reached role) {call : Call} (opens : call.opens) :
    Allots conn (conn.Reaches call) (conn.answer call) (conn.called call) :=
  answer_of_leads ((perform_served conn call).mono fun _ _ served => served.allots opens
    reached.ours)

theorem Reached.consumes (reached : conn.Reached role) (motion : Motion) :
    conn.consumes motion = [] ∨ ∃ id, conn.consumes motion = [id] ∧
      id = conn.registry.nextLocal ∧ id ≤ maxStreamId ∧ conn.Claims id (conn.move motion) := by
  have first := isIdle_nextLocal reached.ours
  unfold Connection.consumes
  split
  · rename_i call
    split
    · rename_i opens
      have claims := (reached.allots opens).claims
      split
      · rename_i id answered
        obtain ⟨rfl, bounded, used⟩ := claims id (.inl answered)
        exact .inr ⟨_, rfl, rfl, bounded, first, used⟩
      · rename_i id answered
        obtain ⟨rfl, bounded, used⟩ := claims id (.inr answered)
        exact .inr ⟨_, rfl, rfl, bounded, first, used⟩
      · exact .inl rfl
    · exact .inl rfl
  · exact .inl rfl

/-! ## The peer's identifiers -/

def acceptedIds (conn : Connection) : Motion → List Nat
  | .frame frame =>
    match frame, (receiveFrame frame).run conn with
    | .headers id .., .ok .. => if (conn.phase? id).isNone then [id] else []
    | .pushPromise _ promised _, .ok .. => [promised]
    | _, _ => []
  | _ => []

/-- A frame for a new stream is turned down, or the identifier was free and is used up. -/
def Accepts (conn : Connection) (id : Nat) (result : Except Error Unit) (after : Connection) :
    Prop :=
  result = .ok () → conn.registry.role.peer.initiates id ∧
    conn.registry.lastRemote < id ∧ after.registry.isIdle id = false

variable (ours : conn.registry.isLocal conn.registry.nextLocal)

include ours

private theorem accepts_of_taken {registry : Registry}
    (taken : conn.registry.acceptRemote id = .ok registry) {result : Except Error Unit}
    (kept : after.registry.isIdle id = registry.isIdle id) : Accepts conn id result after := by
  obtain ⟨parity, later, -⟩ := acceptRemote_eq taken
  exact fun _ => ⟨parity, later, kept.trans ((Takes.theirs taken).used_after ours)⟩

private theorem receiveHeaders_accepts
    (missing : conn.phase? id = none) (priority : Option Priority) (block : Octets)
    (endStream : Bool) :
    (receiveFrame (.headers id priority block endStream)).Leads conn (Accepts conn id) := by
  refine (receiveFrame_dealt conn _).mono fun result after dealt => ?_
  cases dealt with
  | garbled => rintro ⟨⟩
  | headers _ dealt =>
    cases dealt with
    | misplaced | declined => rintro ⟨⟩
    | passed _ taken | turnedAway _ taken => exact accepts_of_taken ours taken rfl
    | accepted _ taken =>
      refine accepts_of_taken ours taken ?_
      cases priority with
      | none => rfl
      | some priority => exact isIdle_reprioritize _ id id priority
    | started held | continued held | concluded held | trailed held =>
      cases (phase?_of_get? held).symm.trans missing

private theorem receivePushPromise_accepts (stream : Nat) (block : Octets) :
    (receiveFrame (.pushPromise stream id block)).Leads conn (Accepts conn id) := by
  refine (receiveFrame_dealt conn _).mono fun result after dealt => ?_
  cases dealt with
  | pushToServer | pushRefused | garbledPromise | unfounded => rintro ⟨⟩
  | promised _ _ _ _ _ taken => exact accepts_of_taken ours taken rfl

omit ours

theorem Reached.acceptedIds (reached : conn.Reached role) (motion : Motion) :
    conn.acceptedIds motion = [] ∨ ∃ id, conn.acceptedIds motion = [id] ∧
      role.peer.initiates id = true ∧ conn.Claims id (conn.move motion) := by
  have accept : ∀ {id : Nat} {frame : Frame} {after : Connection},
      (receiveFrame frame).Leads conn (Accepts conn id) →
      (receiveFrame frame).run conn = .ok () after →
        role.peer.initiates id = true ∧ conn.Claims id (conn.handle frame) := by
    intro id frame after leads ran
    obtain ⟨parity, later, used⟩ := leads.of_ok ran rfl
    have theirs := not_initiates_of_peer parity
    rw [handle_of_ok ran]
    refine ⟨by rwa [← reached.role_eq], isIdle_iff.mpr (.inr ⟨theirs, later⟩), used⟩
  unfold Connection.acceptedIds
  split
  · rename_i frame
    split
    · rename_i id priority block endStream _ after ran
      split
      · rename_i missing
        exact .inr
          ⟨id, rfl,
            accept (receiveHeaders_accepts reached.ours (Option.isNone_iff_eq_none.mp missing)
          priority block endStream) ran⟩
      · exact .inl rfl
    · rename_i stream promised block _ after ran
      exact .inr ⟨promised, rfl, accept (receivePushPromise_accepts reached.ours stream block) ran⟩
    · exact .inl rfl
  · exact .inl rfl

/-! ## Along a trail -/

variable {start : Connection} {motions : List Motion}

theorem Reached.issued {ours : Bool} (reached : start.Reached role)
    {observe : Connection → Motion → List Nat}
    (step : ∀ {conn : Connection} (motion : Motion), conn.Reached role →
      observe conn motion = [] ∨ ∃ id, observe conn motion = [id] ∧
        role.initiates id = ours ∧ conn.Claims id (conn.move motion))
    (trail : Trail start motions conn) : Issued ours (start.along observe motions) conn := by
  refine reached.along_induct (Issued.nil ours start)
    (fun {seen conn motion} reached allowed issued => ?_) trail
  have forward := reached.forward allowed
  have same : (conn.move motion).registry.role = conn.registry.role :=
    (reached.move allowed).role_eq.trans reached.role_eq.symm
  rcases step motion reached with none | ⟨id, one, parity, claims⟩
  · rw [none, List.append_nil]
    exact issued.keep same forward
  · rw [one]
    exact issued.claim same forward (by rwa [isLocal, reached.role_eq]) claims

theorem Reached.along_forall {α : Type} {good : α → Prop} (reached : start.Reached role)
    {observe : Connection → Motion → List α}
    (step : ∀ {conn : Connection} (motion : Motion), conn.Reached role →
      ∀ item ∈ observe conn motion, good item)
    (trail : Trail start motions conn) : ∀ item ∈ start.along observe motions, good item := by
  have begins : ∀ item ∈ ([] : List α), good item := fun item member => by cases member
  refine @along_induct start conn motions α role reached observe
    (fun seen _ => ∀ item ∈ seen, good item) begins
    (fun {seen conn motion} reached allowed held => ?_) trail
  intro item member
  rcases List.mem_append.mp member with earlier | last
  · exact held item earlier
  · exact step motion reached item last

theorem Reached.used_along (reached : start.Reached role) (trail : Trail start motions conn)
    (used : start.registry.isIdle id = false) : conn.registry.isIdle id = false := by
  induction trail with
  | refl => exact used
  | tail before allowed ih => exact ((reached.trail before).forward allowed).used ih

theorem Reached.nextLocal_along (reached : start.Reached role) (trail : Trail start motions conn) :
    start.registry.nextLocal ≤ conn.registry.nextLocal := by
  induction trail with
  | refl => exact Nat.le_refl _
  | tail before allowed ih => exact Nat.le_trans ih ((reached.trail before).nextLocal_le allowed)

end Connection

/-! ## Over every use of a session -/

namespace Session

/-- The identifiers of our own streams have run out: none is handed out any more, and a call that
comes to the point of asking for one is told so. -/
structure Exhausted (session : Session) : Prop where
  allocate : session.connection.registry.allocate = .error .idsExhausted
  told : ∀ call, session.connection.Reaches call → (session.call call).1 = .error .idsExhausted
  issued : ∀ motion, session.connection.consumes motion = []

theorem Exhausted.of_beyond {role : Role} {session : Session}
    (reached : session.connection.Reached role)
    (beyond : maxStreamId < session.connection.registry.nextLocal) : session.Exhausted where
  allocate := allocate_eq_error_iff.mpr ⟨rfl, beyond⟩
  told call reaches := by
    have opens : call.opens := by
      cases call <;> first | rfl | exact reaches.elim
    rw [answer_eq]
    exact (reached.allots opens).exhausted.mpr ⟨reaches, beyond⟩
  issued motion := by
    rcases reached.consumes motion with none | ⟨id, -, rfl, bounded, -⟩
    · exact none
    · omega

/-- No identifier is used twice.  Those that calls take for our streams, opened or refused, and
those that the peer's frames bring come in ascending order, each with the parity of its end, however
the application skips some; an identifier that is not idle stays so; and once there are none left,
there never are. -/
theorem identifiers_used_once {role : Role} {config : Config} {now : Nat} {session : Session}
    (created : create role config now = .ok session) (uses : List Use) :
    ((session.connection.along Connection.consumes (session.history uses)).Pairwise (· < ·) ∧
      ∀ id ∈ session.connection.along Connection.consumes (session.history uses),
        id ≤ maxStreamId ∧ role.initiates id = true) ∧
    ((session.connection.along Connection.acceptedIds (session.history uses)).Pairwise (· < ·) ∧
      ∀ id ∈ session.connection.along Connection.acceptedIds (session.history uses),
        role.peer.initiates id = true) ∧
    ∀ earlier later, uses = earlier ++ later →
      (∀ id, (session.after earlier).connection.registry.isIdle id = false →
        (session.after uses).connection.registry.isIdle id = false) ∧
      (∀ call, call.opens = true → ((session.after earlier).call call).1 = .error .idsExhausted →
        (session.after uses).Exhausted) := by
  have reached := reached_of_create created
  have run := Run.create created
  have trail := trail_after run uses
  have ours : Connection.Issued true (session.connection.along Connection.consumes
      (session.history uses)) (session.after uses).connection := by
    refine reached.issued (fun motion reached => ?_) trail
    rcases reached.consumes motion with none | ⟨id, one, rfl, bounded, claims⟩
    · exact .inl none
    · exact .inr ⟨_, one, by rw [← reached.role_eq]; exact reached.ours, claims⟩
  have theirs : Connection.Issued false (session.connection.along Connection.acceptedIds
      (session.history uses)) (session.after uses).connection := by
    refine reached.issued (fun motion reached => ?_) trail
    rcases reached.acceptedIds motion with none | ⟨id, one, parity, claims⟩
    · exact .inl none
    · exact .inr ⟨id, one, Registry.not_initiates_of_peer parity, claims⟩
  refine ⟨⟨ours.ascending, reached.along_forall (fun motion reached id member => ?_) trail⟩,
    ⟨theirs.ascending, reached.along_forall (fun motion reached id member => ?_) trail⟩, ?_⟩
  · rcases reached.consumes motion with none | ⟨_, one, rfl, bounded, -⟩
    · rw [none] at member
      cases member
    · rw [one] at member
      rw [List.mem_singleton.mp member, ← reached.role_eq]
      exact ⟨bounded, reached.ours⟩
  · rcases reached.acceptedIds motion with none | ⟨other, one, parity, -⟩
    · rw [none] at member
      cases member
    · rw [one] at member
      rwa [List.mem_singleton.mp member]
  · rintro earlier later rfl
    have first := reached.trail (trail_after run earlier)
    have onward := trail_after (run.after earlier) later
    rw [← after_append] at onward
    refine ⟨fun id used => first.used_along onward used, fun call opens failed => ?_⟩
    rw [answer_eq] at failed
    have beyond := ((first.allots opens).exhausted.mp failed).2
    exact .of_beyond (first.trail onward) (Nat.lt_of_lt_of_le beyond (first.nextLocal_along onward))

/-- A client that has skipped to its last identifier, uses it up and asks for another. -/
def spendAll : List Use :=
  [.call (.createStream [] none false), .call (.skipTo maxStreamId),
    .call (.createStream [] none true), .call (.createStream [] none true)]

theorem identifiers_used_once_spendAll :
    newClient.connection.along Connection.consumes (newClient.history spendAll) = [1, maxStreamId] ∧
    [1, maxStreamId].Pairwise (· < ·) ∧
    ((newClient.after spendAll).call (.createStream [] none true)).1 = .error .idsExhausted ∧
    (newClient.after (spendAll ++ [.call (.skipTo 1), .close])).Exhausted := by
  have spent : newClient.connection.along Connection.consumes (newClient.history spendAll) =
      [1, maxStreamId] := by decide +kernel
  have failed : ((newClient.after spendAll).call (.createStream [] none true)).1 =
      .error .idsExhausted := by
    decide +kernel
  obtain ⟨⟨ascending, -⟩, -, -⟩ := identifiers_used_once create_newClient spendAll
  obtain ⟨-, -, onward⟩ :=
    identifiers_used_once create_newClient (spendAll ++ [.call (.skipTo 1), .close])
  rw [spent] at ascending
  exact ⟨spent, ascending, failed, (onward spendAll _ rfl).2 _ rfl failed⟩

end Session

end Http2
