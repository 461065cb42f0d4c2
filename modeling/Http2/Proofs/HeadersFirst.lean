import Http2.Proofs.Finality
import Http2.Proofs.Output
import Http2.Proofs.Turns

/-!
# Headers ahead of data

The data and the trailers of a stream should follow the final headers of our side.  Whether these
have been sent is noted in `Stream.finalSent`, but a stream is let send by its phase alone, so that
everything depends on how the two go together.  For our own streams they do: such a stream can send
only once it has been opened or, if we have promised it, responded on, and either sends its headers.
A stream that the peer has opened can send from the start.

Each item that is written is looked at together with the motion that writes it, since a frame alone
does not show whether its header block is a heading or trailers.
-/

namespace Http2

open Registry Action List

def Motion.heading? : Motion → Option (List Field)
  | call given => given.heading?
  | _ => none

def Motion.isHasty : Motion → Bool
  | call (.createStream fields ..) => isInformational fields
  | _ => false

def Outgoing.heads (id : Nat) : Outgoing → Bool
  | frame _ (.headers other ..) => other == id
  | _ => false

def Outgoing.carries (id : Nat) : Outgoing → Bool
  | frame _ (.data other ..) => other == id
  | _ => false

/-- An item that is written, and the motion in which it is. -/
structure Writing where
  motion : Motion
  item : Outgoing
  deriving DecidableEq, Repr

namespace Writing

def isFinal (id : Nat) (writing : Writing) : Bool :=
  writing.item.heads id && writing.motion.heading?.any (!isInformational ·)

def isHasty (id : Nat) (writing : Writing) : Bool :=
  writing.item.heads id && writing.motion.isHasty

def isBody (id : Nat) (writing : Writing) : Bool :=
  writing.item.carries id || writing.item.heads id && writing.motion.heading?.isNone

end Writing

def Headed (id : Nat) (writings : List Writing) : Prop :=
  ∃ writing ∈ writings, writing.isFinal id ∨ writing.isHasty id

theorem Headed.append {id : Nat} {writings : List Writing} (headed : Headed id writings)
    (more : List Writing) : Headed id (writings ++ more) := by
  obtain ⟨writing, member, heads⟩ := headed
  exact ⟨writing, mem_append_left more member, heads⟩

/-- Whatever belongs to a body comes after the headers, on the streams that `ours` tells. -/
def HeadsFirst (ours : Nat → Bool) (writings : List Writing) : Prop :=
  ∀ earlier writing later, writings = earlier ++ writing :: later → ∀ id, ours id = true →
    writing.isBody id = true → Headed id earlier

theorem HeadsFirst.append {ours : Nat → Bool} {writings more : List Writing}
    (headsFirst : HeadsFirst ours writings)
    (next : ∀ writing ∈ more, ∀ id, ours id = true → writing.isBody id → Headed id writings) :
    HeadsFirst ours (writings ++ more) := by
  intro earlier writing later split id own body
  rcases append_eq_append_iff.mp split with ⟨front, rfl, rest⟩ | ⟨front, rfl, rest⟩
  · exact (next writing (rest ▸ by simp) id own body).append front
  · cases front with
    | nil =>
      have rest : writing :: later = more := rest
      have headed := next writing (rest ▸ mem_cons_self) id own body
      rwa [append_nil] at headed
    | cons first front =>
      obtain ⟨rfl, -⟩ := List.cons.inj rest
      exact headsFirst earlier writing front rfl id own body

/-! ## Speaking -/

def Outgoing.message? : Outgoing → Option Nat
  | frame _ content => content.message?
  | preface => none

private theorem Frame.message?_of_isService {frame : Frame} (service : frame.isService) :
    frame.message? = none := by
  cases frame <;> first | rfl | cases service

theorem Writing.message?_of_isBody {id : Nat} {writing : Writing} (body : writing.isBody id) :
    writing.item.message? = some id := by
  unfold isBody Outgoing.carries Outgoing.heads at body
  obtain ⟨motion, item⟩ := writing
  cases item with
  | preface => simp at body
  | frame limit frame => cases frame <;> simp_all [Outgoing.message?, Frame.message?]

namespace Connection

variable {conn start after : Connection} {motion : Motion} {motions : List Motion} {role : Role}

/-- What upkeep and farewells write on streams is written on streams that could send. -/
structure Speaks (start after : Connection) : Prop where
  thins : start.registry.Thins after.registry
  writes : ∃ more, after.outbound = start.outbound ++ more ∧ ∀ item ∈ more, ∀ id,
    item.message? = some id → ∃ stream, start.registry.get? id = some stream ∧ stream.phase.canSend

namespace Speaks

theorem refl (conn : Connection) : conn.Speaks conn :=
  ⟨.refl _, [], (append_nil _).symm, by simp⟩

theorem write (speaks : start.Speaks conn) {frame : Frame} (fits : ∀ id, frame.message? = some id →
      ∃ stream, start.registry.get? id = some stream ∧ stream.phase.canSend) :
    start.Speaks (conn.write frame) := by
  obtain ⟨thins, more, outbound, spoken⟩ := speaks
  refine ⟨thins, more ++ [.frame conn.exchange.peer.maxFrameSize frame], ?_, fun item member => ?_⟩
  · rw [Connection.write, outbound, append_assoc]
  · rcases mem_append.mp member with member | member
    · exact spoken item member
    · rw [mem_singleton.mp member]
      exact fits

theorem sender (speaks : start.Speaks conn) {id : Nat} {stream : Stream}
    (held : conn.registry.get? id = some stream) (sends : stream.phase.canSend) :
    ∃ stream, start.registry.get? id = some stream ∧ stream.phase.canSend := by
  obtain ⟨earlier, held, follows⟩ :=
    speaks.thins.streams held (Stream.isLive_of_canSend sends)
  exact ⟨earlier, held, follows.sends sends⟩

theorem endures (start : Connection) : Endures start.Speaks where
  keep speaks registry _ _ outbound _ := ⟨registry ▸ speaks.thins, outbound ▸ speaks.writes⟩
  number next last speaks := ⟨(Thins.endures _).number next last speaks.thins, speaks.writes⟩
  emit speaks _ := ⟨speaks.thins, speaks.writes⟩
  write speaks service := speaks.write fun id found => by
    rw [Frame.message?_of_isService service] at found
    cases found
  say speaks held sends message := speaks.write fun id found => by
    cases message.symm.trans found
    exact speaks.sender held sends
  reprioritize id priority speaks :=
    ⟨(Thins.endures _).reprioritize id priority speaks.thins, speaks.writes⟩
  detach id speaks := ⟨(Thins.endures _).detach id speaks.thins, speaks.writes⟩
  forget id speaks := ⟨(Thins.endures _).forget id speaks.thins, speaks.writes⟩
  shut id speaks ended := ⟨(Thins.endures _).shut id speaks.thins ended, speaks.writes⟩
  finish speaks held active ends moves :=
    ⟨(Thins.endures _).finish speaks.thins held active ends moves, speaks.writes⟩
  touch id _ speaks phase final :=
    ⟨(Thins.endures _).touch id speaks.thins phase final, speaks.writes⟩
  part speaks registry outbound _ := ⟨registry ▸ speaks.thins, outbound ▸ speaks.writes⟩
  bid last code debug speaks := speaks.write fun _ found => by cases found
  warn speaks _ := ⟨speaks.thins, speaks.writes⟩

end Speaks

theorem ByUpkeep.speaks (byUpkeep : conn.ByUpkeep after) : conn.Speaks after :=
  byUpkeep _ (Speaks.endures conn) (.refl conn)

/-! ## What a motion writes -/

def writings (conn : Connection) (motion : Motion) : List Writing :=
  ((conn.sendsOff motion ++ (conn.move motion).outbound).drop conn.outbound.length).map
    (Writing.mk motion)

theorem writings_of_inner (inner : motion.isInner) {more : List Outgoing}
    (outbound : (conn.move motion).outbound = conn.outbound ++ more) :
    conn.writings motion = more.map (Writing.mk motion) := by
  have off : conn.sendsOff motion = [] := by
    cases motion <;> first | rfl | cases inner
  rw [writings, off, nil_append, outbound, drop_left]

theorem writings_of_outer (outer : motion.isInner = false) : conn.writings motion = [] := by
  cases motion with
  | handOver =>
    rw [writings, sendsOff, move, append_nil, drop_length]
    rfl
  | tell count =>
    have off : conn.sendsOff (.tell count) = [] := rfl
    rw [writings, off, move, nil_append, drop_length]
    rfl
  | _ => cases outer

theorem Turn.outbound_grows (turn : conn.Turn motion after) :
    ∃ more, after.outbound = conn.outbound ++ more := by
  cases turn with
  | opens room begun seats tells writes => exact ⟨_, writes.choose_spec⟩
  | promises seats tells writes => exact ⟨_, writes.choose_spec⟩
  | responds held sends early final room moved shifts tells writes => exact ⟨_, writes.choose_spec⟩
  | accepts unknown theirs room fits begun seats tells outbound =>
    exact ⟨[], outbound.trans (append_nil _).symm⟩
  | starts held reserved fits moved shifts tells outbound =>
    exact ⟨[], outbound.trans (append_nil _).symm⟩
  | continues known receives thins named fits tells outbound =>
    exact ⟨[], outbound.trans (append_nil _).symm⟩
  | notes client theirs seats tells outbound => exact ⟨[], outbound.trans (append_nil _).symm⟩

private theorem append_writings (conn : Connection) (motion : Motion) :
    conn.sendsOff motion ++ (conn.move motion).outbound =
      conn.outbound ++ (conn.writings motion).map Writing.item := by
  cases inner : motion.isInner with
  | true =>
    obtain ⟨more, outbound⟩ : ∃ more, (conn.move motion).outbound = conn.outbound ++ more := by
      rcases move_turns conn inner with byUpkeep | turn
      · obtain ⟨more, outbound, -⟩ := byUpkeep.speaks.writes
        exact ⟨more, outbound⟩
      · exact turn.outbound_grows
    have off : conn.sendsOff motion = [] := by
      cases motion <;> first | rfl | cases inner
    rw [writings_of_inner inner outbound, off, outbound, nil_append, map_map]
    exact congrArg _ (map_id more).symm
  | false =>
    rw [writings_of_outer inner]
    cases motion with
    | handOver => rfl
    | tell count => exact (append_nil _).symm
    | _ => cases inner

theorem Trail.sentAlong_eq (trail : Trail start motions conn) :
    start.sentAlong motions =
      start.outbound ++ (start.along writings motions).map Writing.item := by
  induction trail with
  | refl => simp [sentAlong]
  | @tail motions middle motion trail _ ih =>
    rw [trail.sentAlong_concat, append_writings, trail.along_concat, map_append, ← append_assoc,
      ← append_assoc, ← ih, sentAlong, trail.moved]

/-! ## Streams that have been headed -/

/-- A stream that is noted to have been headed was headed in what is written, and our own streams
send only once they are so noted. -/
structure HeadersNoted (written : List Writing) (registry : Registry) : Prop where
  headed {id : Nat} {stream : Stream} : registry.get? id = some stream → stream.isLive →
    stream.finalSent = true → Headed id written
  ours {id : Nat} {stream : Stream} : registry.get? id = some stream → registry.isLocal id →
    stream.phase.canSend = true → stream.finalSent

namespace HeadersNoted

variable {written : List Writing} {before later : Registry} {id : Nat} {stream : Stream}

variable (noted : HeadersNoted written before)

include noted

theorem append (more : List Writing) : HeadersNoted (written ++ more) before :=
  ⟨fun held live final => (noted.headed held live final).append more, noted.ours⟩

theorem thins (thins : before.Thins later) : HeadersNoted written later := by
  constructor
  · intro id stream held live final
    obtain ⟨earlier, held, follows⟩ := thins.streams held live
    exact noted.headed held (follows.isLive live) (follows.final.symm.trans final)
  · intro id stream held ours sends
    obtain ⟨earlier, held, follows⟩ := thins.streams held (Stream.isLive_of_canSend sends)
    rw [isLocal, thins.role] at ours
    exact follows.final.trans (noted.ours held ours (follows.sends sends))

theorem insert (headed : stream.finalSent → Headed id written)
    (ours : before.isLocal id → stream.phase.canSend → stream.finalSent) :
    HeadersNoted written (before.insert id stream) := by
  constructor
  · intro other found held live final
    rw [get?_insert] at held
    split at held
    · rename_i same
      cases held
      exact same ▸ headed final
    · exact noted.headed held live final
  · intro other found held own sends
    rw [get?_insert] at held
    split at held
    · rename_i same
      cases held
      subst same
      exact ours own sends
    · exact noted.ours held own sends

theorem sender (held : before.get? id = some stream)
    (sends : stream.phase.canSend) (ours : before.isLocal id) : Headed id written :=
  noted.headed held (Stream.isLive_of_canSend sends) (noted.ours held ours sends)

end HeadersNoted

variable {written : List Writing}

/-- The order lasts through what is written next: bodies have been headed before, and so are all
streams that are left. -/
structure InOrder (written : List Writing) (conn after : Connection)
    (more : List Writing) : Prop where
  bodies : ∀ writing ∈ more, ∀ id, conn.registry.isLocal id → writing.isBody id →
    Headed id written
  noted : HeadersNoted (written ++ more) after.registry

theorem Speaks.inOrder (speaks : conn.Speaks after) (noted : HeadersNoted written conn.registry)
    (motion : Motion) :
    ∃ more, after.outbound = conn.outbound ++ more ∧
      InOrder written conn after (more.map (Writing.mk motion)) := by
  obtain ⟨thins, more, outbound, spoken⟩ := speaks
  refine ⟨more, outbound, fun writing member id ours body => ?_, (noted.thins thins).append _⟩
  obtain ⟨item, among, rfl⟩ := mem_map.mp member
  obtain ⟨stream, held, sends⟩ := spoken item among id (Writing.message?_of_isBody body)
  exact noted.sender held sends ours

theorem InOrder.silent (noted : HeadersNoted written after.registry) :
    InOrder written conn after [] :=
  ⟨by simp, by rwa [append_nil]⟩

theorem InOrder.heading {fields : List Field} {limit id : Nat} {priority : Option Priority}
    {block : Octets} {endStream : Bool} (sent : motion.heading? = some fields)
    (noted : HeadersNoted
      (written ++ [⟨motion, .frame limit (.headers id priority block endStream)⟩]) after.registry) :
    InOrder written conn after [⟨motion, .frame limit (.headers id priority block endStream)⟩] := by
  refine ⟨fun writing member id _ body => ?_, noted⟩
  rw [mem_singleton.mp member] at body
  simp [Writing.isBody, Outgoing.carries, sent] at body

theorem Turn.inOrder (turn : conn.Turn motion after) (noted : HeadersNoted written conn.registry) :
    ∃ more, after.outbound = conn.outbound ++ more ∧
      InOrder written conn after (more.map (Writing.mk motion)) := by
  have quiet : after.outbound = conn.outbound → HeadersNoted written after.registry →
      ∃ more, after.outbound = conn.outbound ++ more ∧
        InOrder written conn after (more.map (Writing.mk motion)) := fun outbound noted =>
    ⟨[], outbound.trans (append_nil _).symm, .silent noted⟩
  cases turn with
  | @opens fields priority endStream stream block _ room begun seats tells writes exchange =>
    obtain ⟨limit, outbound⟩ := writes
    refine ⟨_, outbound, .heading rfl (((noted.append _).insert (fun _ => ?_) fun _ _ => rfl).thins
      seats.thins)⟩
    refine ⟨_, mem_append_right _ mem_cons_self, ?_⟩
    cases final : isInformational fields with
    | true => exact .inr (by simp [Writing.isHasty, Outgoing.heads, Motion.isHasty, final])
    | false =>
      exact .inl (by simp [Writing.isFinal, Outgoing.heads, Motion.heading?, Call.heading?, final])
  | promises seats tells writes =>
    obtain ⟨limit, outbound⟩ := writes
    refine ⟨_, outbound, fun writing member id _ body => ?_, ?_⟩
    · rw [map_singleton, mem_singleton] at member
      subst member
      cases body
    · exact ((noted.insert (fun final => by cases final) fun _ sends => by cases sends).thins
        seats.thins).append _
  | @responds id fields endStream stream next block _ held sends early final room
      moved shifts tells writes exchange =>
      obtain ⟨limit, outbound⟩ := writes
      have sent : next.finalSent := by rw [(Stream.advance?_eq moved).2]
      refine ⟨_, outbound,
        .heading rfl (((noted.append _).insert (fun _ => ?_) fun _ _ => sent).thins shifts.thins)⟩
      refine ⟨_, mem_append_right _ mem_cons_self, .inl ?_⟩
      simp [Writing.isFinal, Outgoing.heads, Motion.heading?, Call.heading?, final]
  | @accepts id _ _ _ _ stream _ unknown theirs room fits begun seats tells outbound exchange =>
    have side := not_initiates_of_peer theirs
    have unsent : stream.finalSent = false := by rw [(Stream.advance?_eq begun).2]
    exact quiet outbound ((noted.insert (fun final => by cases unsent.symm.trans final)
      fun ours => by cases side.symm.trans ours).thins seats.thins)
  | @starts id _ _ endStream _ stream next _ held reserved fits moved shifts tells outbound =>
    have same : next.finalSent = stream.finalSent := by rw [(Stream.advance?_eq moved).2]
    have phase := (Stream.advance?_eq moved).1
    refine quiet outbound ((noted.insert (fun final => ?_) fun _ sends => ?_).thins shifts.thins)
    · refine noted.headed held ?_ (same.symm.trans final)
      rw [Stream.isLive, reserved]
      rfl
    · rw [reserved] at phase
      cases endStream <;> rw [← Option.some.inj phase] at sends <;> cases sends
  | continues known receives thins named fits tells outbound =>
    exact quiet outbound (noted.thins thins)
  | notes client theirs seats tells outbound =>
    exact quiet outbound ((noted.insert (fun final => by cases final)
      fun _ sends => by cases sends).thins seats.thins)

private theorem move_inOrder (noted : HeadersNoted written conn.registry) (motion : Motion) :
    InOrder written conn (conn.move motion) (conn.writings motion) := by
  cases inner : motion.isInner with
  | true =>
    obtain ⟨more, outbound, inOrder⟩ : ∃ more, (conn.move motion).outbound = conn.outbound ++ more ∧
          InOrder written conn (conn.move motion) (more.map (Writing.mk motion)) := by
      rcases move_turns conn inner with byUpkeep | turn
      · exact byUpkeep.speaks.inOrder noted motion
      · exact turn.inOrder noted
    rwa [writings_of_inner inner outbound]
  | false =>
    rw [writings_of_outer inner]
    cases motion with
    | handOver | tell => exact .silent noted
    | _ => cases inner

theorem Reached.headsFirst (reached : start.Reached role) (noted : HeadersNoted [] start.registry)
    (trail : Trail start motions conn) :
    HeadsFirst role.initiates (start.along writings motions) ∧
      HeadersNoted (start.along writings motions) conn.registry := by
  have begins : HeadsFirst role.initiates [] ∧ HeadersNoted [] start.registry :=
    ⟨fun earlier writing later split => by simp at split, noted⟩
  refine @Reached.along_induct start conn motions Writing role reached writings
    (fun seen conn => HeadsFirst role.initiates seen ∧ HeadersNoted seen conn.registry) begins
    (fun {seen conn motion} reached _ held => ?_) trail
  have next := move_inOrder held.2 motion
  refine ⟨held.1.append fun writing member id ours body => next.bodies writing member id ?_ body,
    next.noted⟩
  rwa [isLocal, reached.role_eq]

/-! ## Who may send -/

section Sending

variable {id : Nat} {stream : Stream} {call : Call} {operation : Operation} {f : Stream → Stream}

/-- More may be queued on the stream.  It does not matter whether its headers have been sent. -/
def MaySend (conn : Connection) (id : Nat) : Prop :=
  conn.closed = false ∧ ∃ stream, conn.registry.get? id = some stream ∧
    stream.phase.canSend = true ∧ stream.endQueued = false

variable (queues : perform call = silently (do
    ensureOpen
    requireSender id operation
    modify fun conn => (conn.modifyStream id f).flush id))

include queues

/-- A call that queues something succeeds on a stream that may send, and sends what it can. -/
theorem queue_answer :
    conn.MaySend id ∧ conn.answer call = .ok none ∧
    conn.called call = (conn.modifyStream id f).flush id ∨
      ¬ conn.MaySend id ∧ ∃ error, conn.answer call = .error error := by
  refine answer_of_leads (show (perform call).Leads conn fun result after =>
    conn.MaySend id ∧ result = .ok none ∧ after = (conn.modifyStream id f).flush id ∨
      ¬ conn.MaySend id ∧ ∃ error, result = .error error from ?_)
  rw [queues, silently, leads_bind, leads_bind, ensureOpen, leads_bind, leads_get,
    onward_ok, leads_require]
  refine ⟨fun opened => ?_, fun closed => .inr ⟨fun may => ?_, _, rfl⟩⟩
  · have opened : conn.closed = false := by simpa using opened
    rw [onward_ok, leads_bind, requireSender, leads_bind]
    refine requireStream_leads.mpr ⟨fun stream held => ?_, fun missing => .inr
      ⟨fun may => ?_, _, rfl⟩⟩
    · rw [onward_ok, leads_require]
      refine ⟨fun ready => .inl ⟨⟨opened, stream, held, by simpa using ready⟩, rfl, rfl⟩,
        fun refused => .inr ⟨fun may => ?_, _, rfl⟩⟩
      obtain ⟨-, other, held', sends, lasts⟩ := may
      cases held.symm.trans held'
      simp [sends, lasts] at refused
    · obtain ⟨-, stream, held, -⟩ := may
      cases missing.symm.trans held
  · simp [may.1] at closed

theorem MaySend.called (may : conn.MaySend id) :
    conn.called call = (conn.modifyStream id f).flush id := by
  rcases queue_answer queues with ⟨-, -, called⟩ | ⟨not, -⟩
  · exact called
  · exact absurd may not

private theorem answer_isOk_iff : (conn.answer call).isOk = true ↔ conn.MaySend id := by
  rcases queue_answer queues with ⟨may, answer, -⟩ | ⟨not, error, answer⟩
  · rw [answer]
    exact iff_of_true rfl may
  · rw [answer]
    exact iff_of_false Bool.false_ne_true not

omit queues

theorem MaySend.sends (may : conn.MaySend id) (held : conn.registry.get? id = some stream) :
    stream.phase.canSend = true := by
  obtain ⟨-, other, held', sends, -⟩ := may
  cases held.symm.trans held'
  exact sends

private theorem outbound_advanceAnyway (conn : Connection) (id : Nat) (signal : Signal) :
    (conn.advanceAnyway id signal).outbound = conn.outbound := by
  exact @holds_advanceAnyway (·.outbound = conn.outbound) conn id signal rfl fun _ _ =>
    outbound_settled conn id _

variable (held : conn.registry.get? id = some stream) (sends : stream.phase.canSend)
  (empty : stream.queue = {})

include held sends empty

private theorem outbound_flush_end (bare : stream.trailers = none) :
    ((conn.modifyStream id (·.enqueue [] true)).flush id).outbound =
      conn.outbound ++ [.frame conn.exchange.peer.maxFrameSize (.data id [] true none)] := by
  have holding : (conn.modifyStream id (·.enqueue [] true)).registry.get? id =
    some (stream.enqueue [] true) := get?_modifyStream held
  have empty' : (stream.enqueue [] true).queue = {} := empty
  have bare' : (stream.enqueue [] true).trailers = none := bare
  have sends' : (stream.enqueue [] true).phase.canSend = true := sends
  have ends : (stream.enqueue [] true).endQueued = true := Bool.or_true _
  unfold flush
  simp only [holding, sends', empty', bare', ends, finishFlush, Stream.buffered, sendQueue, if_true,
    outbound_advanceAnyway]
  rfl

private theorem outbound_flush_trailers (fields : List Field) :
    ∃ block, ((conn.modifyStream id (·.enqueueTrailers fields)).flush id).outbound =
      conn.outbound ++
        [.frame conn.exchange.peer.maxFrameSize (.headers id none block true)] := by
  have holding : (conn.modifyStream id (·.enqueueTrailers fields)).registry.get? id =
    some (stream.enqueueTrailers fields) := get?_modifyStream held
  have empty' : (stream.enqueueTrailers fields).queue = {} := empty
  have given : (stream.enqueueTrailers fields).trailers = some fields := rfl
  have sends' : (stream.enqueueTrailers fields).phase.canSend = true := sends
  unfold flush
  simp only [holding, sends', empty', given, finishFlush, sendQueue, if_true,
    outbound_advanceAnyway]
  exact ⟨_, rfl⟩

end Sending

end Connection

/-! ## Sessions -/

namespace Session

open Connection (HeadersNoted)

variable {role : Role} {config : Config} {now : Nat} {session : Session}

private theorem fresh_noted (role : Role) (config : Config) :
    HeadersNoted [] (fresh role config).registry := by
  constructor <;> intro id stream held <;> cases held

private theorem message?_of_create (created : create role config now = .ok session) :
    ∀ item ∈ session.connection.outbound, item.message? = none := by
  obtain ⟨-, more, outbound, spoken⟩ := (byUpkeep_of_create created).speaks
  rw [outbound]
  intro item member
  rcases mem_append.mp member with member | member
  · cases role with
    | client =>
      rw [mem_singleton.mp member]
      rfl
    | server => cases member
  · cases found : item.message? with
    | none => rfl
    | some id =>
      obtain ⟨stream, held, -⟩ := spoken item member id found
      cases held

/-- What becomes of the order of headers and data.  On a stream of ours, opened or promised, data
and trailers are written only after its final headers, unless it was opened with headers that were
not final.  On a stream of the peer they may come first: what is handed in is accepted as long as
the stream may send, whether or not headers have been sent, and if nothing else is in the way it is
written at once. -/
theorem bodies_after_headings (created : create role config now = .ok session) (uses : List Use) :
    let written := session.connection.along Connection.writings (session.history uses)
    let last := (session.after uses).connection
    (∃ first, session.sent uses = first ++ written.map Writing.item ∧
      ∀ item ∈ first, item.message? = none) ∧
    (∀ earlier writing later, written = earlier ++ writing :: later →
      ∀ id, role.initiates id = true →
      writing.isBody id = true →
      ∃ heading ∈ earlier, heading.isFinal id = true ∨ heading.isHasty id = true) ∧
    ∀ id,
      (∀ octets endStream, (last.answer (.sendData id octets endStream)).isOk = true ↔
        last.MaySend id) ∧
      (∀ fields, (last.answer (.sendTrailers id fields)).isOk = true ↔ last.MaySend id) ∧
      ∀ stream, last.registry.get? id = some stream → last.MaySend id →
        stream.queue.octets = [] → stream.trailers = none →
        last.writings (.call (.sendData id [] true)) =
          [⟨.call (.sendData id [] true), .frame last.exchange.peer.maxFrameSize
            (.data id [] true none)⟩] ∧
        ∀ fields, ∃ block, last.writings (.call (.sendTrailers id fields)) =
          [⟨.call (.sendTrailers id fields),
            .frame last.exchange.peer.maxFrameSize (.headers id none block true)⟩] := by
  have reached := reached_of_create created
  have trail := trail_after (Run.create created) uses
  intro written last
  refine ⟨⟨_, trail.sentAlong_eq, message?_of_create created⟩, ?_, fun id => ?_⟩
  · exact (reached.headsFirst ((fresh_noted role config).thins (byUpkeep_of_create created).thins)
      trail).1
  · refine ⟨fun octets endStream => Connection.answer_isOk_iff rfl,
      fun fields => Connection.answer_isOk_iff rfl, fun stream held may empty bare => ?_⟩
    have sends := may.sends held
    have exact := (((Run.create created).after uses).sound may.1).registry.exact held
    have empty := exact.length_eq_zero_iff.mp (exact.length_octets ▸ congrArg length empty)
    refine ⟨?_, fun fields => ?_⟩
    · have called : last.called (.sendData id [] true) = _ := may.called rfl
      have outbound : (last.move (.call (.sendData id [] true))).outbound = _ :=
        (congrArg Connection.outbound called).trans (Connection.outbound_flush_end
          held sends empty bare)
      exact Connection.writings_of_inner rfl outbound
    · obtain ⟨block, written⟩ := Connection.outbound_flush_trailers held sends empty fields
      have called : last.called (.sendTrailers id fields) = _ := may.called rfl
      have outbound : (last.move (.call (.sendTrailers id fields))).outbound = _ :=
        (congrArg Connection.outbound called).trans written
      exact ⟨block, Connection.writings_of_inner rfl outbound⟩

def asked : List Use :=
  [.receive (preface ++ [0, 0, 0, 4, 0, 0, 0, 0, 0] ++ [0, 0, 0, 1, 4, 0, 0, 0, 1])]

theorem bodies_after_headings_asked :
    let last := ((newServer []).after asked).connection
    last.registry.get? 1 = some { phase := .opened, finalReceived := true, finalSent := false } ∧
    ((last.answer (.sendData 1 [7] false)).isOk = true ∧
    last.writings (.call (.sendData 1 [] true)) =
      [⟨.call (.sendData 1 [] true), .frame 16384 (.data 1 [] true none)⟩]) := by
  intro last
  have created : create .server {} 0 = .ok (newServer []) := rfl
  have stands : last.registry.get? 1 =
      some { phase := .opened, finalReceived := true, finalSent := false } ∧
      last.closed = false ∧ last.exchange.peer.maxFrameSize = 16384 := by decide +kernel
  obtain ⟨held, opened, limit⟩ := stands
  have may : last.MaySend 1 := ⟨opened, _, held, rfl, rfl⟩
  obtain ⟨-, -, sends⟩ := bodies_after_headings created asked
  obtain ⟨accepts, -, writes⟩ := sends 1
  have written := (writes _ held may rfl rfl).1
  rw [← limit]
  exact ⟨held, (accepts [7] false).mpr may, written⟩

/-- Data that is handed in before the response goes out before it. -/
theorem bodies_precede_headings :
    ¬ ∀ role config now session uses earlier writing later id,
      create role config now = .ok session →
      session.connection.along Connection.writings (session.history uses) =
        earlier ++ writing :: later →
      writing.isBody id = true → ∃ heading ∈ earlier, heading.isFinal id = true := by
  intro ordered
  have created : create .server {} 0 = .ok (newServer []) := rfl
  have written : (newServer []).connection.along Connection.writings
      ((newServer []).history (asked ++ [.call (.sendData 1 [7] false)])) =
      [⟨.frame (.settings false []), .frame 16384 (.settings true [])⟩] ++
        ⟨.call (.sendData 1 [7] false), .frame 16384 (.data 1 [7] false none)⟩ :: [] := by
        decide +kernel
  exact absurd (ordered _ _ _ _ _ _ _ _ 1 created written rfl) (by decide)

end Session

end Http2
