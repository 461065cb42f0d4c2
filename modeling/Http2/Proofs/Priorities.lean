import Http2.Proofs.Output
import Http2.Proofs.WellPlaced

/-!
# The priorities of a session

Whatever the application asks for and whatever the peer sends, the places of the live streams stay a
forest.  The weights that calls bring are checked, and the reader gives out none that is out of
bounds.
-/

namespace Http2

/-! ## Weights on the wire -/

namespace Frame

def place? : Frame → Option Priority
  | .headers _ place _ _ => place
  | .priority _ place => some place
  | _ => none

def Weighed (frame : Frame) : Prop :=
  ∀ place, frame.place? = some place → place.hasValidWeight

end Frame

theorem Frame.Received.weighed {size limit : Nat} {frame : Frame}
    (received : frame.Received size limit) :
    frame.Weighed := by
  intro place found
  obtain ⟨room, wellFormed⟩ : ∃ room, frame.WellFormed size room :=
    received.elim (fun wellFormed => ⟨_, wellFormed⟩) fun single => ⟨_, single.1⟩
  cases frame with
  | headers id place' block endStream =>
    cases found
    exact wellFormed.2.1.2
  | priority id place' =>
    cases found
    exact wellFormed.2.2
  | _ => cases found

namespace Connection

variable {conn after : Connection} {id : Nat} {result : Except Error Unit} {stream : Stream}
  {priority : Option Priority} {endStream : Bool} {frame : Frame}

/-! ## Calls -/

private theorem isSome_places (held : conn.registry.get? id = some stream) (live : stream.isLive) :
    (conn.registry.places id).isSome := by
  rw [Registry.places_of_get? held live]
  rfl

variable (kept : conn.registry.WellPlaced)

include kept

private theorem wellPlaced_start {registry : Registry}
    (takes : conn.registry.Takes id registry) (live : stream.isLive)
    (rooted : stream.priority = .default)
    (apart : ∀ place, priority = some place → place.dependency ≠ id)
    (weighed : ∀ place, priority = some place → place.hasValidWeight) :
    (({ conn with registry }.addStream id stream).reprioritizeIf id
      priority).registry.WellPlaced := by
  have planted : (registry.insert id stream).WellPlaced := by
    refine kept.plant takes live ?_ (.inl ?_)
    · rw [rooted]
      exact ⟨rfl, rfl⟩
    · rw [rooted]
      rfl
  refine wellPlaced_reprioritizeIf (by exact planted) ?_ apart weighed
  change ((registry.insert id _).places id).isSome
  rw [Registry.places_of_get? (by rw [Registry.get?_insert, if_pos rfl]) live]
  rfl

theorem Served.wellPlaced {call : Call} {result : Except Error (Option Nat)}
    (served : Served conn call result after) : after.registry.WellPlaced := by
  cases served with
  | denied | informed | pinged | offered | named | grown | lowered => exact kept
  | looped allocated => exact kept.take (.ours allocated)
  | crowded allocated =>
    have takes := Registry.Takes.ours allocated
    exact (kept.take takes).finish (takes.used_after kept.nextLocal) rfl
  | @opened _ _ endStream _ _ _ _ allocated heavy apart _ begun =>
    refine wellPlaced_start kept (.ours allocated) ?_ ?_ apart heavy
    · cases endStream <;> cases begun <;> rfl
    · cases endStream <;> cases begun <;> rfl
  | promised _ _ _ held sends allocated =>
    exact kept.plant (.ours allocated) rfl ⟨rfl, rfl⟩
      (.inr (isSome_places held (Stream.isLive_of_canSend sends)))
  | queued | trailed =>
    exact wellPlaced_flush (by exact kept.modify _ (fun _ => rfl) fun _ => rfl) _
  | dropped | overfull => exact wellPlaced_drop kept ..
  | placed held live apart heavy => exact kept.reprioritize (isSome_places held live) apart heavy
  | @responded id _ _ _ _ held _ _ _ _ moves =>
    have noted := kept.modify id (f := fun stream => { stream with finalSent := true })
      (fun _ => rfl) fun _ => rfl
    exact wellPlaced_settled (by exact noted) (get?_modifyStream held) moves
  | announced ends =>
    obtain ⟨_, -, announcing⟩ := announcing_of_ends ends
    cases announcing <;> exact kept
  | parted => exact wellPlaced_dropAll (by exact kept) _ _ fun id => .stream id .refusedStream
  | skipped skips => exact kept.skipTo skips

private theorem called_wellPlaced (call : Call) : (conn.called call).registry.WellPlaced :=
  @called_of_leads conn call (fun after => after.registry.WellPlaced)
    ((perform_served conn call).mono fun _ _ served => served.wellPlaced kept)

/-! ## Frames -/

theorem DataDealt.wellPlaced {octets : Octets} {count : Nat}
    (dealt : DataDealt conn id octets count endStream result after) :
    after.registry.WellPlaced := by
  cases dealt with
  | unheld | unwelcome | overdrawn => exact kept
  | delivered =>
    rw [registry_refill, registry_emitIf]
    exact kept
  | finished held _ _ moves => exact wellPlaced_settled (by exact kept) held moves

theorem HeadersDealt.wellPlaced {fields : List Field}
    (dealt : HeadersDealt conn id fields priority endStream result after)
    (weighed : ∀ place, priority = some place → place.hasValidWeight) :
    after.registry.WellPlaced := by
  -- a stream that depends on itself makes headers malformed
  have apart : conn.isMalformed id fields priority = false →
      ∀ place, priority = some place → place.dependency ≠ id := by
    rintro sane place rfl
    simp only [isMalformed, Bool.or_eq_false_iff] at sane
    simpa using sane.1
  have told : ∀ endStream, (conn.deliverHeaders id fields endStream).registry.WellPlaced := fun _ =>
    kept.modify id (fun _ => rfl) fun _ => rfl
  have placed : ∀ {middle : Connection} {stream : Stream}, middle.registry.WellPlaced →
      middle.registry.get? id = some stream → stream.phase.canReceive →
      conn.isMalformed id fields priority = false →
      (middle.reprioritizeIf id priority).registry.WellPlaced :=
      fun kept held receives wellFormed =>
    wellPlaced_reprioritizeIf kept (isSome_places held (Stream.isLive_of_canReceive receives))
      (apart wellFormed) weighed
  cases dealt with
  | misplaced | declined => exact kept
  | passed _ taken => exact kept.take (.theirs taken)
  | turnedAway _ taken => exact kept.refuse (.theirs taken) rfl
  | accepted _ taken _ welcome begun =>
    refine wellPlaced_start kept (.theirs taken) ?_ ?_ (apart (refusal?_eq_none.mp welcome).2)
      weighed
    · cases endStream <;> cases begun <;> rfl
    · cases endStream <;> cases begun <;> rfl
  | started held _ _ moves =>
    exact wellPlaced_settled (told _) (get?_deliverHeaders held fields _) moves
  | continued held wellFormed receives =>
    exact placed (told false) (get?_deliverHeaders held fields false) receives wellFormed
  | concluded held wellFormed receives _ holds _ moves =>
    exact wellPlaced_settled (placed (told true) (get?_deliverHeaders held fields true)
      receives wellFormed) holds moves
  | trailed held wellFormed receives _ holds _ moves =>
    exact wellPlaced_settled (placed (by exact kept) (by exact held) receives wellFormed)
      holds moves

theorem Dealt.wellPlaced (dealt : Dealt conn frame result after)
    (weighed : frame.Weighed) : after.registry.WellPlaced := by
  cases dealt with
  | data _ dealt =>
    refine dealt.wellPlaced ?_
    rw [debited, registry_refill]
    exact kept
  | headers _ dealt => exact dealt.wellPlaced (by exact kept) weighed
  | promised _ _ _ held receives taken =>
    exact kept.plant (.theirs taken) rfl ⟨rfl, rfl⟩
      (.inr (isSome_places held (Stream.isLive_of_canReceive receives)))
  | placed apart live =>
    obtain ⟨stream, held, live⟩ := (Option.any_eq_true _ _).mp live
    exact kept.reprioritize (isSome_places held live) apart (weighed _ rfl)
  | dropped => exact wellPlaced_drop kept ..
  | applied | credited => exact wellPlaced_resumeIf (by exact kept)
  | served => exact wellPlaced_flush (by exact kept) _
  | parted => exact wellPlaced_dropAll (by exact kept) _ _ fun id => .stream id .refusedStream
  | _ => exact kept

private theorem receiveFrame_wellPlaced (weighed : frame.Weighed) :
    (receiveFrame frame).Leads conn fun _ after => after.registry.WellPlaced :=
  (receiveFrame_dealt conn frame).mono fun _ _ dealt => dealt.wellPlaced kept weighed

private theorem wellPlaced_move {motion : Motion} {limit : Nat}
    (received : motion.Received limit) : (conn.move motion).registry.WellPlaced := by
  cases motion with
  | call call => exact called_wellPlaced kept call
  | frame frame =>
    have leads := receiveFrame_wellPlaced kept received.weighed
    show (conn.handle frame).registry.WellPlaced
    cases ran : (receiveFrame frame).run conn with
    | ok _ after =>
      rw [handle_of_ok ran]
      exact leads.of_ok ran
    | error error after =>
      rw [handle_of_error ran]
      split
      · exact wellPlaced_fail (leads.of_error ran) error
      · exact wellPlaced_absorb (leads.of_error ran) error
  | fail error => exact wellPlaced_fail kept error
  | close => exact wellPlaced_close kept
  | handOver | tell => exact kept

end Connection

/-! ## Sessions -/

namespace Session

variable {session : Session}

private theorem wellPlaced_create {role : Role} {config : Config} {now : Nat}
    (created : create role config now = .ok session) : session.connection.registry.WellPlaced := by
  have begins : (fresh role config).registry.WellPlaced := .new role config.retention
  exact create_induct (motive := fun conn => conn.registry.WellPlaced) created begins
    fun _ _ wellPlaced => Connection.called_wellPlaced wellPlaced _

theorem Run.wellPlaced {log : List Activity} (run : Run session log) :
    session.connection.registry.WellPlaced := by
  obtain ⟨role, config, now, first, uses, created, rfl, -⟩ := run
  have received := history_received created uses
  have trail := trail_after (.create created) uses
  generalize first.history uses = motions, (first.after uses).connection = conn at received trail ⊢
  induction trail with
  | refl => exact wellPlaced_create created
  | tail _ _ ih =>
    rw [List.forall_mem_append, List.forall_mem_singleton] at received
    exact Connection.wellPlaced_move (ih received.1) received.2

/-- In every state of a session, each stream that is not closed depends on the root or on another
stream that is not closed, and its line of parents ends at the root. -/
theorem Run.priorities_rooted {session : Session} {log : List Activity} (run : Run session log)
    {id : Nat} {stream : Stream} (held : session.connection.registry.get? id = some stream)
    (live : stream.isLive = true) :
    (stream.priority.dependency = 0 ∨ stream.priority.dependency ≠ id ∧
      ∃ parent, session.connection.registry.get? stream.priority.dependency = some parent ∧
        parent.isLive = true) ∧
    session.connection.registry.Rooted id ∧
    stream.priority.exclusive = false ∧
    1 ≤ stream.priority.weight ∧ stream.priority.weight ≤ 256 := by
  have sound := run.wellPlaced.places
  have place := Registry.places_of_get? held live
  have settled := sound.settled place
  refine ⟨?_, Registry.rooted_of_forest sound.toForest (by rw [place]; rfl), settled.2, ?_⟩
  · by_cases root : stream.priority.dependency = 0
    · exact .inl root
    · have above := (sound.linked place).resolve_left root
      obtain ⟨_, found⟩ := Option.isSome_iff_exists.mp above
      obtain ⟨parent, found, alive, -⟩ := Registry.places_eq_some_iff.mp found
      exact .inr ⟨sound.dependency_ne place root, parent, found, alive⟩
  · simpa [Priority.hasValidWeight] using settled.1

/-- A client whose first stream has been moved below the second one, which stood below it. -/
def reparented : Session :=
  newClient.after [.call (.createStream [] none false),
    .call (.createStream [] (some ⟨1, 16, false⟩) false), .call (.updatePriority 1 ⟨3, 200, true⟩)]

theorem Run.priorities_rooted_reparented :
    ∃ stream, reparented.connection.registry.get? 1 = some stream ∧
      stream.priority = ⟨3, 200, false⟩ ∧ reparented.connection.registry.Rooted 1 := by
  have run : Run reparented _ := (Run.create create_newClient).after _
  have held : reparented.connection.registry.get? 1 =
      some { phase := .opened, priority := ⟨3, 200, false⟩, finalSent := true } := rfl
  exact ⟨_, held, rfl, (run.priorities_rooted held rfl).2.1⟩

end Session

end Http2
