import Http2.Proofs.Identifiers
import Http2.Proofs.Turns
import Mathlib.Data.List.Perm.Subperm

/-!
# Concurrency

How many streams of either end are active at once.  Upkeep and farewells make no stream active, so
that only turns have to be looked at, and of these the ones that seat a stream in an active phase
which was not active before.  Our own streams become active by a call, when they are opened or when
the response to a push begins, and both ask for room first.  The peer's become active by HEADERS.
Those that open a stream are held to our limit, but the first HEADERS on a stream that the peer has
promised are not.
-/

namespace Http2

open Http2.Stream Registry

variable {next phase : Phase} {endStream : Bool}

/-! ## The active streams -/

namespace Registry

variable {before after : Registry} {id other : Nat} {stream : Stream} {ours side : Bool}

def isActive (registry : Registry) (id : Nat) : Bool := (registry.phase? id).any Phase.isActive

private theorem isActive_iff : before.isActive id ↔
    ∃ stream, before.get? id = some stream ∧ stream.phase.isActive := by
  unfold isActive phase?
  cases before.get? id <;> simp

private theorem mem_active {registry : Registry} :
    id ∈ (registry.streams.keysWhere fun id stream =>
      stream.phase.isActive && registry.isLocal id == ours) ↔
      registry.isActive id = true ∧ registry.isLocal id = ours := by
  simp only [IdMap.mem_keysWhere, Bool.and_eq_true, beq_iff_eq, isActive_iff, get?]
  constructor
  · rintro ⟨stream, held, active, side⟩
    exact ⟨⟨stream, held, active⟩, side⟩
  · rintro ⟨⟨stream, held, active⟩, side⟩
    exact ⟨stream, held, active, side⟩

private theorem active_nodup (registry : Registry) (p : Nat → Stream → Bool) :
    (registry.streams.keysWhere p).Nodup :=
  (IdMap.keysWhere_ascending registry.streams p).imp Nat.ne_of_lt

private theorem activeCount_le (role : after.role = before.role)
    (calm : ∀ id, after.isActive id → before.isActive id) (ours : Bool) :
    after.activeCount ours ≤ before.activeCount ours := by
  refine List.Subperm.length_le (List.subperm_of_subset (active_nodup after _) fun id member => ?_)
  obtain ⟨active, side⟩ := mem_active.mp member
  refine mem_active.mpr ⟨calm id active, ?_⟩
  rwa [isLocal, ← role]

private theorem isActive_of_isActive_insert
    (active : (before.insert id stream).isActive other = true)
    (calm : stream.phase.isActive → before.isActive id) : before.isActive other := by
  obtain ⟨found, held, active⟩ := isActive_iff.mp active
  rw [get?_insert] at held
  split at held
  · rename_i same
    cases held
    exact same ▸ calm active
  · exact isActive_iff.mpr ⟨found, held, active⟩

theorem Thins.isActive (thins : before.Thins after) (active : after.isActive id) :
    before.isActive id = true := by
  obtain ⟨later, held, active⟩ := isActive_iff.mp active
  obtain ⟨earlier, held, follows⟩ := thins.streams held (isLive_of_isActive active)
  refine isActive_iff.mpr ⟨earlier, held, ?_⟩
  rcases follows.phase with same | ⟨was, -⟩
  · exact same ▸ active
  · exact was

theorem Thins.activeCount_le (thins : before.Thins after) (ours : Bool) :
    after.activeCount ours ≤ before.activeCount ours :=
  Registry.activeCount_le thins.role (fun _ => thins.isActive) ours

theorem Seats.phase? (seats : before.Seats id stream after) (other : Nat) :
    after.phase? other = if id = other then some stream.phase else before.phase? other := by
  have phases : ∀ registry : Registry, registry.phase? other =
      (registry.bare? other).map phase := by
    intro registry
    unfold Registry.phase? Registry.bare?
    cases registry.get? other <;> rfl
  rw [phases, seats.bare, phases before]
  split <;> rfl

private theorem not_isActive (known : before.phase? id = some phase)
    (idle : phase.isActive = false) :
    before.isActive id = false := by
  rw [isActive, known]
  exact idle

def Gains (before : Registry) (side : Bool) (after : Registry) : Prop :=
  ∀ ours, after.activeCount ours = before.activeCount ours + if side = ours then 1 else 0

theorem Gains.one_more (gains : before.Gains side after) :
    after.activeCount side = before.activeCount side + 1 := by
  rw [gains side, if_pos rfl]

theorem Gains.side_eq (gains : before.Gains side after)
    (more : before.activeCount ours < after.activeCount ours) : side = ours := by
  by_contra differ
  rw [gains ours, if_neg differ] at more
  exact absurd more (Nat.lt_irrefl _)

private theorem activeCount_le_of_insert (thins : (before.insert id stream).Thins after)
    (calm : stream.phase.isActive → before.isActive id) (ours : Bool) :
    after.activeCount ours ≤ before.activeCount ours := by
  have role : after.role = before.role := thins.role
  exact Registry.activeCount_le role
    (fun _ active => isActive_of_isActive_insert (thins.isActive active) calm) ours

theorem Seats.gains (seats : before.Seats id stream after) (active : stream.phase.isActive)
    (was : before.isActive id = false) : before.Gains (before.isLocal id) after := by
  intro ours
  have now : ∀ other, after.isActive other = (decide (id = other) || before.isActive other) := by
    intro other
    rw [isActive, seats.phase?, isActive]
    by_cases same : id = other
    · simp [same, active]
    · simp [same]
  have side : ∀ other, after.isLocal other = before.isLocal other := by
    intro other
    rw [isLocal, seats.role, isLocal]
  by_cases here : before.isLocal id = ours
  · rw [if_pos here]
    rw [Registry.activeCount, Registry.activeCount, ← List.length_cons (a := id)]
    refine List.Perm.length_eq ((List.perm_ext_iff_of_nodup (active_nodup after _) ?_).mpr
      fun other => ?_)
    · refine List.nodup_cons.mpr ⟨fun member => ?_, active_nodup before _⟩
      exact Bool.false_ne_true (was.symm.trans (mem_active.mp member).1)
    · rw [mem_active, List.mem_cons, mem_active, now, side]
      by_cases same : id = other
      · simp [same, ← here]
      · simp [same, Ne.symm same]
  · rw [if_neg here]
    refine List.Perm.length_eq ?_
    refine (List.perm_ext_iff_of_nodup (active_nodup after _) (active_nodup before _)).mpr
      fun other => ?_
    rw [mem_active, mem_active, now, side]
    by_cases same : id = other
    · subst same
      simp [here]
    · simp [same]

private theorem not_isActive_of_none (unknown : before.phase? id = none) :
    before.isActive id = false := by
  rw [isActive, unknown]
  rfl

end Registry

/-! ## Promised streams -/

/-- Either end has promised only streams of its own, and only a server promises any. -/
structure Registry.Sided (registry : Registry) : Prop where
  ours {id : Nat} : registry.phase? id = some .reservedLocal → registry.isLocal id
  theirs {id : Nat} : registry.phase? id = some .reservedRemote →
    registry.isLocal id = false ∧ registry.role = .client

private theorem Phase.isActive_of_begins (begun : idle.next? (.sendHeaders endStream) = some next ∨
      idle.next? (.receiveHeaders endStream) = some next) : next.isActive := by
  cases endStream <;> rcases begun with begun | begun <;> cases begun <;> rfl

private theorem Phase.isActive_of_reserved {signal : Signal}
    (reserved : phase = .reservedLocal ∧ signal = .sendHeaders endStream ∨
      phase = .reservedRemote ∧ signal = .receiveHeaders endStream) (moved :
      phase.next? signal = some next) :
    next.isActive = !endStream := by
  rcases reserved with ⟨rfl, rfl⟩ | ⟨rfl, rfl⟩ <;> cases endStream <;> cases moved <;> rfl

private theorem Phase.next?_headers (moved : phase.next? (.sendHeaders endStream) = some next ∨
      phase.next? (.receiveHeaders endStream) = some next) :
    next ≠ .reservedLocal ∧ next ≠ .reservedRemote := by
  cases phase <;> cases endStream <;> rcases moved with moved | moved <;> cases moved <;> decide

namespace Registry.Sided

variable {before after : Registry} {id : Nat} {stream : Stream}

theorem insert (sided : before.Sided) (ours : stream.phase = .reservedLocal → before.isLocal id)
    (theirs : stream.phase = .reservedRemote → before.isLocal id = false ∧ before.role = .client) :
    (before.insert id stream).Sided := by
  constructor
  · intro other reserved
    rw [phase?_insert] at reserved
    split at reserved
    · rename_i same
      exact same ▸ ours (Option.some.inj reserved)
    · exact sided.ours reserved
  · intro other reserved
    rw [phase?_insert] at reserved
    split at reserved
    · rename_i same
      exact same ▸ theirs (Option.some.inj reserved)
    · exact sided.theirs reserved

theorem phase?_of_thins (thins : before.Thins after) (live : phase ≠ .closed)
    (idle : phase.isActive = false) (reserved : after.phase? id = some phase) :
    before.phase? id = some phase := by
  obtain ⟨later, held, rfl⟩ := Option.map_eq_some_iff.mp reserved
  obtain ⟨earlier, held, follows⟩ :=
    thins.streams held (by simpa [isLive, Phase.isClosed] using live)
  rw [phase?_of_get? held]
  rcases follows.phase with same | ⟨-, active⟩
  · rw [same]
  · cases idle.symm.trans active

theorem thins (sided : before.Sided) (thins : before.Thins after) : after.Sided := by
  constructor
  · intro id reserved
    rw [isLocal, thins.role]
    exact sided.ours (phase?_of_thins thins (by decide) rfl reserved)
  · intro id reserved
    rw [isLocal, thins.role]
    exact sided.theirs (phase?_of_thins thins (by decide) rfl reserved)

end Registry.Sided

namespace Connection

/-- The stream that the motion makes active if it is let happen. -/
def wakes? (conn : Connection) : Motion → Option Nat
  | .call (.createStream ..) => some conn.registry.nextLocal
  | .call (.respond id _ endStream) =>
    if conn.phase? id = some .reservedLocal ∧ endStream = false then some id else none
  | .frame (.headers id _ _ endStream) =>
    if conn.phase? id = none ∨ conn.phase? id = some .reservedRemote ∧ endStream = false then
      some id
    else none
  | _ => none

variable {conn after : Connection} {motion : Motion} {role : Role} {id : Nat}

theorem Turn.sided (turn : conn.Turn motion after) (sided : conn.registry.Sided)
    (ours : conn.registry.isLocal conn.registry.nextLocal) : after.registry.Sided := by
  -- headers seat a stream that is not reserved, whichever end has sent them
  have headed : ∀ {id : Nat} {stream next : Stream} {endStream : Bool},
      (conn.registry.insert id next).Thins after.registry →
      stream.phase.next? (.sendHeaders endStream) = some next.phase ∨
        stream.phase.next? (.receiveHeaders endStream) = some next.phase → after.registry.Sided :=
    fun thins moved =>
      have other := Phase.next?_headers moved
      (sided.insert (fun reserved => absurd reserved other.1) fun reserved =>
        absurd reserved other.2).thins thins
  cases turn with
  | opens room begun seats tells writes exchange =>
    exact headed seats.thins (.inl (advance?_eq begun).1)
  | promises seats tells writes =>
    exact (sided.insert (fun _ => ours) fun reserved => by cases reserved).thins seats.thins
  | responds held sends early final room moved shifts tells writes exchange =>
    exact headed shifts.thins (.inl (advance?_eq moved).1)
  | accepts unknown theirs room fits begun seats tells outbound exchange =>
    exact headed seats.thins (.inr (advance?_eq begun).1)
  | starts held reserved fits moved shifts tells outbound =>
    exact headed shifts.thins (.inr (advance?_eq moved).1)
  | continues known receives thins named fits tells outbound => exact sided.thins thins
  | notes client theirs seats tells outbound =>
    have side := not_initiates_of_peer theirs
    exact (sided.insert (fun reserved => by cases reserved) fun _ => ⟨side, client⟩).thins
      seats.thins

/-- What a turn does to the numbers of active streams. -/
inductive ActiveChange (conn : Connection) (motion : Motion) (after : Connection) : Prop
  | calm (sleeps : conn.wakes? motion = none)
      (fewer : ∀ ours, after.registry.activeCount ours ≤ conn.registry.activeCount ours)
  | ours {call : Call} {id : Nat} (made : motion = .call call)
      (woken : conn.wakes? motion = some id)
      (room : conn.isFull = false) (exchange : after.exchange = conn.exchange)
      (counts : conn.registry.Gains true after.registry)
  /-- One more of the peer's streams is active.  There was room if it has just been opened. -/
  | theirs {id : Nat} {priority : Option Priority} {block : Octets} {endStream : Bool}
      (made : motion = .frame (.headers id priority block endStream))
      (woken : conn.wakes? motion = some id) (side : conn.registry.isLocal id = false)
      (grounds : conn.phase? id = none ∧ after.exchange = conn.exchange ∧
          conn.registry.activeCount false < conn.exchange.latest.maxConcurrentStreams ∨
        conn.registry.role = .client ∧ conn.phase? id = some .reservedRemote ∧ endStream = false)
      (counts : conn.registry.Gains false after.registry)

theorem Turn.activeChange (turn : conn.Turn motion after) (sided : conn.registry.Sided)
    (ours : conn.registry.isLocal conn.registry.nextLocal)
    (unused : conn.phase? conn.registry.nextLocal = none) : conn.ActiveChange motion after := by
  cases turn with
  | opens room begun seats tells writes exchange =>
    have active := Phase.isActive_of_begins (.inl (advance?_eq begun).1)
    exact .ours rfl rfl room exchange (ours ▸ seats.gains active (not_isActive_of_none unused))
  | promises seats tells writes | notes client theirs seats tells outbound =>
    exact .calm rfl (activeCount_le_of_insert seats.thins fun active => by cases active)
  | @responds id fields endStream stream next block after held sends early final
      room moved shifts tells writes exchange =>
      have known : conn.phase? id = some stream.phase := phase?_of_get? held
      rcases sends with sends | reserved
      · have active := Phase.isActive_of_canSend sends
        refine .calm (if_neg ?_) (activeCount_le_of_insert shifts.thins fun _ =>
          isActive_iff.mpr ⟨stream, held, active⟩)
        rintro ⟨reserved, -⟩
        rw [Option.some.inj (known.symm.trans reserved)] at sends
        cases sends
      · have active := Phase.isActive_of_reserved (.inl ⟨reserved, rfl⟩) (advance?_eq moved).1
        rw [reserved] at known
        cases endStream with
        | true =>
          refine .calm (if_neg (by simp)) (activeCount_le_of_insert shifts.thins fun now => ?_)
          cases active.symm.trans now
        | false =>
          have seats := shifts.seats (isLive_of_isActive active)
          exact .ours rfl (if_pos ⟨known, rfl⟩) (room reserved rfl) exchange
            (sided.ours known ▸ seats.gains active (not_isActive known rfl))
  | accepts unknown theirs room fits begun seats tells outbound exchange =>
    have active := Phase.isActive_of_begins (.inr (advance?_eq begun).1)
    have side := not_initiates_of_peer theirs
    exact .theirs rfl (if_pos (.inl unknown)) side (.inl ⟨unknown, exchange, room⟩)
      (side ▸ seats.gains active (not_isActive_of_none unknown))
  | @starts id priority block endStream fields stream next after held reserved
      fits moved shifts tells outbound =>
      have known : conn.phase? id = some .reservedRemote :=
        reserved ▸ phase?_of_get? held
      have active := Phase.isActive_of_reserved (.inr ⟨reserved, rfl⟩) (advance?_eq moved).1
      cases endStream with
      | true =>
        refine .calm (if_neg (by simp [known]))
          (activeCount_le_of_insert shifts.thins fun now => ?_)
        cases active.symm.trans now
      | false =>
        have seats := shifts.seats (isLive_of_isActive active)
        have side := sided.theirs known
        exact .theirs rfl (if_pos (.inr ⟨known, rfl⟩)) side.1 (.inr ⟨side.2, known, rfl⟩)
          (side.1 ▸ seats.gains active (not_isActive known rfl))
  | continues known receives thins named fits tells outbound =>
    refine .calm (if_neg ?_) thins.activeCount_le
    rintro (unknown | ⟨reserved, -⟩)
    · cases known.symm.trans unknown
    · rw [Option.some.inj (known.symm.trans reserved)] at receives
      cases receives

/-! ## Headers at the limit -/

section Limit

variable {block : Octets} {fields : List Field} {table : Header.Table} {priority : Option Priority}

theorem Turn.outbound_of_headers
    (turn : conn.Turn (.frame (.headers id priority block endStream)) after) :
    after.outbound = conn.outbound := by
  cases turn <;> assumption

variable (decoded : Header.decodeBlock conn.decoder block = (.ok fields, table))

include decoded

/-- A stream that the peer opens beyond our limit is refused, whatever its headers are. -/
theorem handle_refuses (unknown : conn.phase? id = none)
    (theirs : conn.registry.role.peer.initiates id) (new : conn.registry.lastRemote < id)
    (stays : conn.farewell.sent.any (· < id) = false)
    (full : conn.exchange.latest.maxConcurrentStreams ≤ conn.registry.activeCount false)
    (priority : Option Priority) (endStream : Bool) :
    conn.handle (.headers id priority block endStream) =
      { conn with
        decoder := table
        registry := { conn.registry with lastRemote := id } }.refuseStream id .refusedStream := by
  apply handle_of_leads (fun after => after = _)
  refine (receiveFrame_dealt conn _).mono fun result after dealt => ?_
  cases dealt with
  | garbled failed => cases decoded.symm.trans failed
  | headers decoded' dealt =>
    cases decoded.symm.trans decoded'
    have accepted := acceptRemote_of theirs new
    have missing : ∀ stream, conn.registry.get? id ≠ some stream := by
      simp [phase?_eq_none_iff.mp unknown]
    cases dealt with
    | misplaced fault =>
      cases fault with
      | missing _ ours => cases (not_initiates_of_peer theirs).symm.trans ours
      | unaccepted _ _ failed => cases accepted.symm.trans failed
      | wrongPhase held => exact absurd held (missing _)
    | passed _ _ beyond => cases stays.symm.trans beyond
    | turnedAway _ taken _ refused =>
      cases accepted.symm.trans taken
      rw [refusal?, if_pos (by exact full)] at refused
      cases refused
      exact ⟨rfl, rfl⟩
    | accepted _ _ _ welcome =>
      rw [refusal?, if_pos (by exact full)] at welcome
      cases welcome
    | declined held | started held | continued held | concluded held | trailed held =>
      exact absurd held (missing _)

/-- The first headers on a stream that the peer has promised are heeded, limit or not. -/
theorem handle_starts
    (known : conn.phase? id = some .reservedRemote)
    (wellFormed : conn.isMalformed id fields priority = false) (endStream : Bool) :
    conn.Turn (.frame (.headers id priority block endStream))
      (conn.handle (.headers id priority block endStream)) := by
  apply handle_of_leads (conn.Turn _)
  refine (receiveFrame_dealt conn _).mono fun result after dealt => ?_
  cases dealt with
  | garbled failed => cases decoded.symm.trans failed
  | headers decoded' dealt =>
    cases decoded.symm.trans decoded'
    have phases : ∀ {stream}, conn.registry.get? id = some stream →
        stream.phase = .reservedRemote :=
      fun held => Option.some.inj ((phase?_of_get? held).symm.trans known)
    cases dealt with
    | misplaced fault =>
      cases fault with
      | missing unknown | unaccepted unknown => cases known.symm.trans unknown
      | wrongPhase held unfit => simp [phases held] at unfit
    | declined held _ fault =>
      rcases fault with malformed | other
      · cases wellFormed.symm.trans malformed
      · exact absurd (phases held) other
    | passed unknown | turnedAway unknown | accepted unknown => cases known.symm.trans unknown
    | started held wellFormed reserved moves =>
      exact ⟨rfl, started_turns conn held wellFormed reserved moves table block⟩
    | continued held _ receives | concluded held _ receives | trailed held _ receives =>
      rw [phases held] at receives
      cases receives

end Limit

/-! ## Runs -/

section

variable (reached : conn.Reached role) (sided : conn.registry.Sided)

include reached sided

theorem Reached.turn_activeChange (turn : conn.Turn motion after) :
    conn.ActiveChange motion after := by
  obtain ⟨closings, tidy⟩ := reached.tidy
  exact turn.activeChange sided reached.ours (tidy.missing (isIdle_nextLocal reached.ours))

theorem Reached.activeChange (motion : Motion) :
    (∀ ours, (conn.move motion).registry.activeCount ours ≤ conn.registry.activeCount ours) ∨
      conn.ActiveChange motion (conn.move motion) := by
  by_cases inner : motion.isInner
  · rcases move_turns conn inner with byUpkeep | turn
    · exact .inl byUpkeep.thins.activeCount_le
    · exact .inr (reached.turn_activeChange sided turn)
  · cases motion with
    | handOver | tell => exact .inl fun _ => Nat.le_refl _
    | _ => exact absurd rfl inner

theorem Reached.answer_activeChange {call : Call} (wakes : conn.wakes? (.call call) = some id) :
    (∃ error, conn.answer call = .error error) ∧
      (∀ ours, (conn.called call).registry.activeCount ours ≤ conn.registry.activeCount ours) ∨
    (conn.answer call).isOk = true ∧ conn.isFull = false ∧
      conn.registry.Gains true (conn.called call).registry := by
  have turning : call.isTurning := by
    cases call <;> first | rfl | cases wakes
  have turns : conn.TurnsTo _ _ _ _ := answer_turns turning
  cases answer : conn.answer call with
  | error error =>
    rw [answer] at turns
    exact .inl ⟨⟨error, rfl⟩, (ByUpkeep.thins turns).activeCount_le⟩
  | ok given =>
    rw [answer] at turns
    cases reached.turn_activeChange sided turns.2 with
    | calm sleeps fewer => cases wakes.symm.trans sleeps
    | ours made woken room exchange counts => exact .inr ⟨rfl, room, counts⟩
    | theirs made => cases made

/-- One more of our streams is active only after a call for which there was room. -/
theorem Reached.more_ours
    (more : conn.registry.activeCount true < (conn.move motion).registry.activeCount true) :
    ∃ call id, motion = .call call ∧ conn.wakes? motion = some id ∧ conn.isFull = false ∧
      (conn.move motion).exchange = conn.exchange ∧
      conn.registry.Gains true (conn.move motion).registry := by
  rcases reached.activeChange sided motion with fewer | activeChange
  · exact absurd more (Nat.not_lt.mpr (fewer true))
  cases activeChange with
  | calm sleeps fewer => exact absurd more (Nat.not_lt.mpr (fewer true))
  | ours made woken room exchange counts => exact ⟨_, _, made, woken, room, exchange, counts⟩
  | theirs made woken side grounds counts => cases counts.side_eq more

/-- One more of the peer's streams is active only after headers, which are held to our limit unless
the stream was promised. -/
theorem Reached.more_theirs
    (more : conn.registry.activeCount false < (conn.move motion).registry.activeCount false) :
    ∃ id priority block endStream, motion = .frame (.headers id priority block endStream) ∧
      conn.registry.isLocal id = false ∧
      (conn.phase? id = none ∧ (conn.move motion).exchange = conn.exchange ∧
          conn.registry.activeCount false < conn.exchange.latest.maxConcurrentStreams ∨
        conn.registry.role = .client ∧ conn.phase? id = some .reservedRemote ∧ endStream = false) ∧
      conn.registry.Gains false (conn.move motion).registry := by
  rcases reached.activeChange sided motion with fewer | activeChange
  · exact absurd more (Nat.not_lt.mpr (fewer false))
  cases activeChange with
  | calm sleeps fewer => exact absurd more (Nat.not_lt.mpr (fewer false))
  | ours made woken room exchange counts => cases counts.side_eq more
  | theirs made woken side grounds counts => exact ⟨_, _, _, _, made, side, grounds, counts⟩

theorem Reached.gains_of_turn {priority : Option Priority} {block : Octets}
    (turn : conn.Turn (.frame (.headers id priority block false)) after)
    (known : conn.phase? id = some .reservedRemote) : conn.registry.Gains false after.registry := by
  cases reached.turn_activeChange sided turn with
  | calm sleeps fewer => cases (if_pos (.inr ⟨known, rfl⟩)).symm.trans sleeps
  | ours made woken room exchange counts => cases made
  | theirs made woken side grounds counts => exact counts

theorem Reached.move_sided (motion : Motion) : (conn.move motion).registry.Sided := by
  by_cases inner : motion.isInner
  · rcases move_turns conn inner with byUpkeep | turn
    · exact sided.thins byUpkeep.thins
    · exact turn.sided sided reached.ours
  · cases motion with
    | handOver | tell => exact sided
    | _ => exact absurd rfl inner

end

theorem Reached.trail_sided {start : Connection} {motions : List Motion}
    (reached : start.Reached role)
    (sided : start.registry.Sided) (trail : Trail start motions conn) : conn.registry.Sided := by
  induction trail with
  | refl => exact sided
  | tail trail _ ih => exact (reached.trail trail).move_sided ih _

end Connection

namespace Session

open Connection (Trail Reached ByUpkeep)

variable {role : Role} {config : Config} {now : Nat} {session : Session}

private theorem fresh_sided (role : Role) (config : Config) :
    (fresh role config).registry.Sided := by
  constructor <;> intro id reserved <;> cases reserved

private theorem sided_of_split (created : create role config now = .ok session) {uses : List Use}
    {earlier later : List Motion} (split : session.history uses = earlier ++ later) :
    (session.connection.moved earlier).registry.Sided := by
  have first := (fresh_sided role config).thins (byUpkeep_of_create created).thins
  have trail := trail_after (Run.create created) uses
  rw [split] at trail
  exact (reached_of_create created).trail_sided first trail.split.1

/-- We keep within the limit on our own streams.  One more of them is active exactly after a call
that opens a stream, or that begins the response to a push, and succeeds.  Then their number is
within the lower of the two limits at that time; and as long as it has not fallen below, no such
call succeeds. -/
theorem own_streams_within_limit (created : create role config now = .ok session) (uses : List Use)
    {earlier later : List Motion} {motion : Motion}
    (split : session.history uses = earlier ++ motion :: later) :
    let before := session.connection.moved earlier
    let after := before.move motion
    let limit :=
      min before.exchange.peer.maxConcurrentStreams before.exchange.latest.maxConcurrentStreams
    (before.registry.activeCount true < after.registry.activeCount true ↔
      ∃ call id, motion = .call call ∧ before.wakes? (.call call) = some id ∧
        (before.answer call).isOk = true) ∧
    (before.registry.activeCount true < after.registry.activeCount true →
      after.registry.activeCount true = before.registry.activeCount true + 1 ∧
      after.registry.activeCount true ≤ limit ∧ after.exchange = before.exchange) ∧
    (limit ≤ before.registry.activeCount true → ∀ call id, before.wakes? (.call call) = some id →
      ∃ error, before.answer call = .error error) := by
  intro before after limit
  have reached := reached_of_split created split
  have sided := sided_of_split created split
  refine ⟨⟨fun more => ?_, ?_⟩, fun more => ?_, fun full call id wakes => ?_⟩
  · obtain ⟨call, id, rfl, woken, -, -, -⟩ := reached.more_ours sided more
    rcases reached.answer_activeChange sided woken with ⟨-, fewer⟩ | ⟨succeeds, -, -⟩
    · exact absurd more (Nat.not_lt.mpr (fewer true))
    · exact ⟨call, id, rfl, woken, succeeds⟩
  · rintro ⟨call, id, rfl, wakes, succeeds⟩
    rcases reached.answer_activeChange sided wakes with ⟨⟨error, fails⟩, -⟩ | ⟨-, -, counts⟩
    · rw [fails] at succeeds
      cases succeeds
    · exact Nat.lt_of_lt_of_eq (Nat.lt_succ_self _) counts.one_more.symm
  · obtain ⟨call, id, -, -, room, exchange, counts⟩ := reached.more_ours sided more
    have below : before.registry.activeCount true < limit := Nat.not_le.mp (of_decide_eq_false room)
    exact ⟨counts.one_more, counts.one_more ▸ below, exchange⟩
  · rcases reached.answer_activeChange sided wakes with ⟨fails, -⟩ | ⟨-, room, -⟩
    · exact fails
    · exact absurd full (of_decide_eq_false room)

/-- A server whose client allows one stream at a time promises two. -/
def pushing : List Use :=
  [.receive (preface ++ [0, 0, 6, 4, 0, 0, 0, 0, 0, 0, 3, 0, 0, 0, 1] ++
    [0, 0, 0, 1, 4, 0, 0, 0, 1]), .call (.pushPromise 1 []), .call (.pushPromise 1 [])]

/-- The response on the first promised stream is sent, that on the second is not. -/
theorem own_streams_within_limit_pushing :
    let before := (newServer []).connection.moved ((newServer []).history pushing)
    let after := before.move (.call (.respond 2 [] false))
    before.registry.activeCount true = 0 ∧ after.registry.activeCount true = 1 ∧
    after.exchange.peer.maxConcurrentStreams = 1 ∧
    ∃ error, after.answer (.respond 4 [] false) = .error error := by
  intro before after
  have created : create .server {} 0 = .ok (newServer []) := rfl
  have stands : before.registry.activeCount true = 0 ∧
      before.exchange.peer.maxConcurrentStreams = 1 ∧
      before.wakes? (.call (.respond 2 [] false)) = some 2 ∧
      (before.answer (.respond 2 [] false)).isOk = true ∧
      after.wakes? (.call (.respond 4 [] false)) = some 4 := by decide +kernel
  obtain ⟨none, allowed, wakes, succeeds, next⟩ := stands
  have split := history_concat (newServer []) pushing (.call (.respond 2 [] false))
  obtain ⟨raised, bound, -⟩ := own_streams_within_limit created _ split
  obtain ⟨one, -, exchange⟩ := bound (raised.mpr ⟨_, 2, rfl, wakes, succeeds⟩)
  have active : after.registry.activeCount true = 1 := one.trans (congrArg (· + 1) none)
  have limit : after.exchange.peer.maxConcurrentStreams = 1 :=
    (congrArg (·.peer.maxConcurrentStreams) exchange).trans allowed
  have split := history_concat (newServer []) (pushing ++ [.call (.respond 2 [] false)])
    (.call (.respond 4 [] false))
  obtain ⟨-, -, barred⟩ := own_streams_within_limit created _ split
  rw [history_concat, Connection.moved_append] at barred
  refine ⟨none, active, limit, barred ?_ _ 4 next⟩
  exact Nat.le_trans (Nat.min_le_left _ _) (Nat.le_of_eq (limit.trans active.symm))

/-- What becomes of the limit on the peer's streams.  One more of them is active only after HEADERS.
Those that open a stream keep within the limit, and beyond it the stream is refused; but those that
are the first on a stream which the peer has promised are never held to it. -/
theorem peer_streams_counted (created : create role config now = .ok session) (uses : List Use)
    {earlier later : List Motion} {motion : Motion}
    (split : session.history uses = earlier ++ motion :: later) :
    let before := session.connection.moved earlier
    let after := before.move motion
    (before.registry.activeCount false < after.registry.activeCount false →
      after.registry.activeCount false = before.registry.activeCount false + 1 ∧
      ∃ id priority block endStream, motion = .frame (.headers id priority block endStream) ∧
        before.registry.isLocal id = false ∧
        (before.phase? id = none ∧
            after.registry.activeCount false ≤ after.exchange.latest.maxConcurrentStreams ∨
          role = .client ∧ before.phase? id = some .reservedRemote ∧ endStream = false)) ∧
    ∀ id priority block endStream fields table, motion =
    .frame (.headers id priority block endStream) →
      Header.decodeBlock before.decoder block = (.ok fields, table) →
      (before.phase? id = none → role.peer.initiates id = true → before.registry.lastRemote < id →
        before.farewell.sent.any (· < id) = false →
        before.exchange.latest.maxConcurrentStreams ≤ before.registry.activeCount false →
        after.outbound = before.outbound ++
          [.frame before.exchange.peer.maxFrameSize (.rstStream id Reason.refusedStream.code)] ∧
        after.registry.activeCount false ≤ before.registry.activeCount false ∧
        after.events = before.events ∧ after.closed = before.closed) ∧
      (before.phase? id = some .reservedRemote → endStream = false →
        before.isMalformed id fields priority = false →
        after.registry.activeCount false = before.registry.activeCount false + 1 ∧
        after.outbound = before.outbound) := by
  intro before after
  have reached := reached_of_split created split
  have sided := sided_of_split created split
  refine ⟨fun more => ?_, ?_⟩
  · obtain ⟨id, priority, block, endStream, made, side, grounds, counts⟩ :=
      reached.more_theirs sided more
    refine ⟨counts.one_more, id, priority, block, endStream, made, side, ?_⟩
    rcases grounds with ⟨unknown, exchange, room⟩ | ⟨client, reserved, remains⟩
    · refine .inl ⟨unknown, ?_⟩
      change ((session.connection.moved earlier).move motion).registry.activeCount false ≤
        ((session.connection.moved earlier).move motion).exchange.latest.maxConcurrentStreams
      rw [exchange, counts.one_more]
      exact room
    · exact .inr ⟨reached.role_eq.symm.trans client, reserved, remains⟩
  · rintro id priority block endStream fields table rfl decoded
    refine ⟨fun unknown theirs new stays full => ?_, ?_⟩
    · have refused := Connection.handle_refuses decoded unknown (by rwa [reached.role_eq]) new
        stays full priority endStream
      have byUpkeep : before.ByUpkeep after := by
        change before.ByUpkeep (before.handle (.headers id priority block endStream))
        rw [refused]
        have read : before.ByUpkeep { before with decoder := table } :=
          ByUpkeep.endures.keep (ByUpkeep.refl before) rfl rfl rfl rfl rfl
        exact ByUpkeep.endures.refuseStream (ByUpkeep.endures.setLastRemote read id) .refusedStream
      have events := congrArg Connection.events refused
      have closed := congrArg Connection.closed refused
      exact ⟨congrArg Connection.outbound refused, byUpkeep.thins.activeCount_le false,
        events, closed⟩
    · rintro known rfl wellFormed
      have turn := Connection.handle_starts decoded known wellFormed false
      exact ⟨(reached.gains_of_turn sided turn known).one_more, turn.outbound_of_headers⟩

def frugal : Session :=
  ⟨{ prefaceDue := false, blockLimit := 262144 },
    (fresh .client { settings := [(.maxConcurrentStreams, 1)] }).called
      (.sendSettings [(.maxConcurrentStreams, 1)] 0)⟩

private theorem create_frugal :
    create .client { settings := [(.maxConcurrentStreams, 1)] } 0 = .ok frugal := rfl

/-- The peer promises two streams on one of the client's, and begins with the first. -/
def promisedTwice : List Use :=
  [.call (.createStream [] none false),
    .receive ([0, 0, 0, 4, 0, 0, 0, 0, 0] ++ [0, 0, 4, 5, 4, 0, 0, 0, 1, 0, 0, 0, 2] ++
      [0, 0, 4, 5, 4, 0, 0, 0, 1, 0, 0, 0, 4] ++ [0, 0, 0, 1, 4, 0, 0, 0, 2])]

private theorem history_promisedTwice :
    frugal.history (promisedTwice ++ [.receive [0, 0, 0, 1, 4, 0, 0, 0, 4]]) =
      frugal.history promisedTwice ++ .frame (.headers 4 none [] false) :: [] := by decide +kernel

theorem peer_streams_counted_promisedTwice :
    let before := frugal.connection.moved (frugal.history promisedTwice)
    let after := before.move (.frame (.headers 4 none [] false))
    before.exchange.latest.maxConcurrentStreams = 1 ∧ before.registry.activeCount false = 1 ∧
    after.registry.activeCount false = 2 ∧ after.outbound = before.outbound := by
  intro before after
  have stands : before.exchange.latest.maxConcurrentStreams = 1 ∧
      before.registry.activeCount false = 1 ∧ before.phase? 4 = some .reservedRemote ∧
      before.isMalformed 4 [] none = false := by decide +kernel
  obtain ⟨limit, active, known, wellFormed⟩ := stands
  have decoded : Header.decodeBlock before.decoder [] = (.ok [], _) :=
    Prod.ext (by decide +kernel) rfl
  obtain ⟨-, heeded⟩ := peer_streams_counted create_frugal _ history_promisedTwice
  have begins := (heeded 4 none [] false [] _ rfl decoded).2 known rfl wellFormed
  exact ⟨limit, active, begins.1.trans (congrArg (· + 1) active), begins.2⟩

/-- The peer gets beyond the limit by promising streams first. -/
theorem peer_streams_exceed_limit :
    ¬ ∀ role config now session uses earlier motion later, create role config now = .ok session →
      session.history uses = earlier ++ motion :: later →
      (session.connection.moved earlier).registry.activeCount false <
        ((session.connection.moved earlier).move motion).registry.activeCount false →
      ((session.connection.moved earlier).move motion).registry.activeCount false ≤
        (session.connection.moved earlier).exchange.latest.maxConcurrentStreams := by
  intro bounded
  have within := bounded _ _ _ _ _ _ _ _ create_frugal history_promisedTwice (by decide +kernel)
  exact absurd within (by decide +kernel)

end Session

end Http2
