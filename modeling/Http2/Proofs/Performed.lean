import Http2.Proofs.Receipt

/-!
# What a call comes to

`Performed connection call after` lists what a call of the application can do to a sound connection:
calm changes, announcing settings, or queueing something on a stream and flushing it.  Calls that
fail are among them, and `perform_performed` says that the list is complete.  The peer is given no
reason for a reset or a farewell but the one that the application names, or that a stream is
refused.
-/

namespace Http2

def Call.reason? : Call → Option Reason
  | reset _ reason | sendGoaway _ reason _ => some reason
  | _ => none

def Call.Gives (call : Call) (reason : Reason) : Prop :=
  reason = .refusedStream ∨ call.reason? = some reason

namespace Connection

inductive Performed (conn : Connection) : Call → Connection → Prop
  | calm {call : Call} {after : Connection} (calms : Calms call.Gives conn after) :
      Performed conn call after
  | announced {changes : List (Setting × Nat)} {now : Nat} {after : Connection}
      (allowed : Allowed changes)
      (synced : Synced { conn.write (.settings false (wireForm changes)) with
        exchange := { conn.exchange with
          outstanding := conn.exchange.outstanding ++ [⟨changes, now⟩] } } after) :
      Performed conn (.sendSettings changes now) after
  | queued {call : Call} {id : Nat} {stream : Stream} {f : Stream → Stream}
      (held : conn.registry.get? id = some stream) (sends : stream.phase.canSend)
      (phase : ∀ stream, (f stream).phase = stream.phase)
      (sound : stream.cargo.Sound → (f stream).cargo.Sound) :
      Performed conn call ((conn.modifyStream id f).flush id)

variable {conn after : Connection} {id now : Nat} {stream : Stream} {call : Call}
  {changes : List (Setting × Nat)}

/-! ## All calls -/

theorem enqueue_sound (octets : Octets) (endStream : Bool) (sends : stream.phase.canSend)
    (sound : stream.cargo.Sound) : (stream.enqueue octets endStream).cargo.Sound := by
  refine ⟨sound.queue.push octets, fun early => ?_, fun trailers => ?_⟩
  · exact absurd sends (Phase.not_canSend_of_isEarly early)
  · simp only [Stream.enqueue, Stream.cargo, Bool.or_eq_true]
    exact .inl (sound.trailers trailers)

theorem enqueueTrailers_sound (fields : List Field) (sends : stream.phase.canSend)
    (sound : stream.cargo.Sound) : (stream.enqueueTrailers fields).cargo.Sound :=
  ⟨sound.queue, fun early => absurd sends (Phase.not_canSend_of_isEarly early), fun _ => rfl⟩

theorem Calms.begin {reasons : Reason → Prop} {registry : Registry} {endStream : Bool}
    (takes : conn.registry.Takes id registry)
    (begun : ({} : Stream).advance? (.sendHeaders endStream) = some stream) :
    Calms reasons conn
      ({ conn with registry }.addStream id { stream with finalSent := true }) := by
  refine .single (.add conn takes ?_ ?_ ?_)
  · cases endStream <;> cases begun <;> rfl
  · cases endStream <;> cases begun <;> simp [Stream.cargo, Cargo.Waits]
  · cases endStream <;> cases begun <;> simp

theorem Served.performed {result : Except Error (Option Nat)}
    (served : Served conn call result after) (sound : conn.Sound) : Performed conn call after := by
  cases served with
  | denied => exact .calm .refl
  | looped allocated => exact .calm (.single (.take conn (.ours allocated)))
  | crowded allocated => exact .calm (.single (.refuseOwn conn (.ours allocated)))
  | opened _ allocated _ _ _ begun =>
    exact .calm (((Calms.begin (.ours allocated) begun).reprioritizeIf _).writeHeaders _ _ _)
  | @promised id promised fields registry _ _ _ _ _ _ allocated =>
    have added : Calms (Call.pushPromise id fields).Gives conn
        ({ conn with registry }.addPromised promised id { phase := .reservedLocal }) :=
      .single (.add conn (.ours allocated) rfl (by simp [Stream.cargo, Cargo.Waits]) (by simp))
    have compressed :=
      added.tail (.tables _ (Header.encodeBlock conn.encoder fields).2 conn.decoder)
    exact .calm (compressed.tail (.write _ (.of_control rfl) (by rintro _ ⟨⟩)))
  | queued held sends => exact .queued held sends (fun _ => rfl) (enqueue_sound _ _ sends)
  | trailed held sends => exact .queued held sends (fun _ => rfl) (enqueueTrailers_sound _ sends)
  | dropped => exact .calm (.single (.drop conn _ _ fun _ => .inr rfl))
  | placed =>
    exact .calm (.tail (.single (.reprioritize conn _ _))
      (.write _ (.of_control rfl) (by rintro _ ⟨⟩)))
  | overfull => exact .calm (.single (.drop conn _ _ fun _ => .inl rfl))
  | @responded id fields endStream _ _ held _ _ _ _ moves =>
    have noted : Calms (Call.respond id fields endStream).Gives conn
        (conn.modifyStream id fun stream => { stream with finalSent := true }) :=
      .single (.touch conn id fun _ => rfl)
    refine .calm ((noted.writeHeaders _ none _).settled ?_ moves)
    show (conn.registry.modify _ _).get? _ = _
    rw [Registry.get?_modify, if_pos rfl, held]
    rfl
  | informed => exact .calm (Calms.writeHeaders .refl _ none false)
  | announced ends =>
    refine (ends.and (announce_leads sound _ _)).elim ?_
    rintro _ _ ⟨⟨-, rfl⟩, ⟨error, -, rfl⟩ | ⟨-, allowed, synced⟩⟩
    · exact .calm .refl
    · exact .announced allowed synced
  | parted =>
    exact .calm (Calms.dropAll (Calms.sayFarewell .refl (.inr rfl) _ _) _ .refusedStream
      fun id => .stream id .refusedStream)
  | pinged | offered | named =>
    exact .calm (.single (.write conn (.of_control rfl) (by rintro _ ⟨⟩)))
  | skipped skips => exact .calm (.single (.skip conn skips))
  | grown fits larger credited => exact .calm (.single (.grow conn larger fits credited))
  | lowered _ lower => exact .calm (.single (.target conn lower))

theorem perform_performed (sound : conn.Sound) (call : Call) :
    (perform call).Leads conn fun _ after => Performed conn call after :=
  (perform_served conn call).mono fun _ _ served => served.performed sound

/-! ## Calls in the books -/

def called (conn : Connection) (call : Call) : Connection :=
  match (perform call).run conn with
  | .ok _ after => after
  | .error _ after => after

theorem called_of_leads {goal : Connection → Prop}
    (leads : (perform call).Leads conn fun _ after => goal after) : goal (conn.called call) := by
  unfold Connection.called
  split
  · rename_i ran
    exact leads.of_ok ran
  · rename_i ran
    exact leads.of_error ran

theorem called_eq_or_skips (closed : conn.closed) (call : Call) :
    conn.called call = conn ∨ ∃ id registry, conn.registry.skipTo id = .ok registry ∧
      conn.called call = { conn with registry } := by
  have leads : (perform call).Leads conn fun _ after =>
      after = conn ∨ ∃ id registry, conn.registry.skipTo id = .ok registry ∧
        after = { conn with registry } := by
    refine (perform_served conn call).mono fun _ _ served => ?_
    cases served with
    | denied => exact .inl rfl
    | skipped skips => exact .inr ⟨_, _, skips, rfl⟩
    | announced _ going => cases closed.symm.trans going
    | _ =>
      rename_i going
      cases closed.symm.trans going
  exact called_of_leads leads

/-- Changes have been announced, and no balance has moved. -/
structure Announced (conn : Connection) (changes : List (Setting × Nat)) (now : Nat)
    (after : Connection) : Prop where
  sound : after.Sound
  allowed : Allowed changes
  queued : after.queued = conn.queued ++ [.settings false (wireForm changes)]
  exchange : after.exchange = { conn.exchange with
    outstanding := conn.exchange.outstanding ++ [⟨changes, now⟩] }
  closed : after.closed = conn.closed
  registry : after.registry = conn.registry
  sendWindows : after.sendWindows = conn.sendWindows
  receiveConnection : after.receiveWindows.connection = conn.receiveWindows.connection
  receiveBalance : ∀ id, after.receiveBalance id = conn.receiveBalance id

theorem announced_of_synced (sound : conn.Sound) (allowed : Allowed changes)
    (synced : Synced { conn.write (.settings false (wireForm changes)) with
      exchange := { conn.exchange with
        outstanding := conn.exchange.outstanding ++ [⟨changes, now⟩] } } after) :
    Announced conn changes now after := by
  have valid : ({ conn.exchange with
      outstanding := conn.exchange.outstanding ++ [⟨changes, now⟩] } : Exchange).Sound := by
    refine { sound.exchange with outstanding := fun batch member => ?_ }
    rcases List.mem_append.mp member with member | member
    · exact sound.exchange.outstanding batch member
    · cases List.mem_singleton.mp member
      exact allowed
  have written : (conn.write (.settings false (wireForm changes))).Sound :=
    sound.congr rfl rfl rfl rfl rfl rfl
  have settled := written.sync valid rfl synced
  obtain ⟨windows, shifted, rfl⟩ := synced
  refine ⟨settled, allowed, queued_write conn _, rfl, rfl, rfl, rfl, shifted.connection,
    fun id => ?_⟩
  change balanceIn windows conn.registry id = _
  rw [balanceIn, shifted.balance?]
  rfl

theorem Announced.sendBalance (announced : Announced conn changes now after) (id : Nat) :
    after.sendBalance id = conn.sendBalance id := by
  unfold Connection.sendBalance
  rw [announced.registry, announced.sendWindows]

theorem Performed.sort (sound : conn.Sound) (performed : Performed conn call after) :
    (∃ written, Balanced call.Gives conn written after ∧ after.Sound) ∨
      ∃ changes now, call = .sendSettings changes now ∧ Announced conn changes now after := by
  have moves : ∀ {after}, Moves call.Gives conn after →
      ∃ written, Balanced call.Gives conn written after ∧ after.Sound := by
    intro after moves
    obtain ⟨written, balanced⟩ := Balanced.of_moves sound moves
    exact ⟨written, balanced, sound.moves moves⟩
  cases performed with
  | calm calms => exact .inl (moves calms.moves)
  | queued held sends phase cargo =>
    refine .inl (moves (.head (.requeue conn fun other held' => ?_) (flush_flushed _ _).moves))
    obtain rfl := Option.some.inj (held.symm.trans held')
    exact ⟨phase _, cargo⟩
  | announced allowed synced => exact .inr ⟨_, _, rfl, announced_of_synced sound allowed synced⟩

theorem Performed.cases (sound : conn.Sound) (performed : Performed conn call after) :
    (∃ written, Balanced call.Gives conn written after ∧ after.Sound) ∨
      ∃ changes now, Announced conn changes now after := by
  rcases performed.sort sound with balanced | ⟨changes, now, -, announced⟩
  · exact .inl balanced
  · exact .inr ⟨changes, now, announced⟩

theorem called_cases (sound : conn.Sound) (call : Call) :
    (∃ written, Balanced call.Gives conn written (conn.called call) ∧ (conn.called call).Sound) ∨
      ∃ changes now, Announced conn changes now (conn.called call) :=
  (called_of_leads (perform_performed sound call)).cases sound

theorem called_keeps (sound : conn.Sound) (call : Call) :
    (conn.called call).Sound ∧ (conn.called call).closed = conn.closed ∧
      ∃ written, (conn.called call).queued = conn.queued ++ written := by
  rcases called_cases sound call with ⟨_, balanced, sound⟩ | ⟨_, _, announced⟩
  · exact ⟨sound, balanced.closed, _, balanced.queued⟩
  · exact ⟨announced.sound, announced.closed, _, announced.queued⟩

theorem called_closed (closed : conn.closed) (call : Call) :
    (conn.called call).closed = true ∧ (conn.called call).queued = conn.queued := by
  rcases called_eq_or_skips closed call with same | ⟨id, registry, -, same⟩ <;> rw [same] <;>
    exact ⟨closed, rfl⟩

end Connection

end Http2
