import Http2.Proofs.Life

/-!
# Rejected calls

A call first looks whether it may go ahead and changes the state only then, so that a call that is
rejected leaves everything as it was.  Where something can still fail after the first change, it is
ruled out: a stream that may send can always move on, and windows of a sound connection can follow
every setting that may be announced.

A refused stream is told of and recorded, and so is no rejection.  What is left is a stream that
would depend on itself, for which its identifier is found out first, and is used up.
-/

namespace Http2

namespace Connection

def passOver (conn : Connection) : Connection :=
  { conn with
    registry := { conn.registry with nextLocal := conn.registry.nextLocal + 2 } }

/-- What a call comes to that fails: where it is not that a stream was refused, nothing but that a
stream that would depend on itself costs its identifier. -/
def Rejected (call : Call) (error : Error) (start after : Connection) : Prop :=
  (∃ id, error = .refused id) ∨ after = if call.loopsAt start.registry.nextLocal ∧
        error = .invalidPriority start.registry.nextLocal then start.passOver else start

def Rejects {α : Type} (call : Call) (start : Connection) : Except Error α → Connection → Prop
  | .ok _, _ => True
  | .error error, after => Rejected call error start after

variable {conn : Connection}

theorem perform_rejects (sound : conn.closed = false → conn.Sound) (call : Call) :
    (perform call).Leads conn (Rejects call conn) := by
  refine (perform_served conn call).mono fun result after served => ?_
  cases served with
  | denied _ straight =>
    refine .inr (if_neg ?_).symm
    rintro ⟨loops, same⟩
    exact straight.elim (fun never => Bool.false_ne_true (never.symm.trans loops)) fun other =>
      other same
  | looped allocated loops =>
    obtain ⟨rfl, rfl⟩ := Registry.allocate_eq allocated
    exact .inr (if_pos ⟨loops, rfl⟩).symm
  | crowded | overfull => exact .inl ⟨_, rfl⟩
  | @announced changes now _ _ ends going =>
    -- the windows of a sound connection follow whatever may be announced
    refine (ends.and (announce_leads (sound going) changes now)).elim ?_
    rintro _ _ ⟨⟨rfl, rfl⟩, ⟨error, rfl, rfl⟩ | ⟨rfl, -, -⟩⟩
    · exact .inr (if_neg (fun loops => nomatch loops.1)).symm
    · trivial
  | opened | promised | queued | trailed | dropped | placed | responded | informed | parted | pinged
  | offered
  | named | skipped | grown | lowered => trivial

end Connection

namespace Session

variable {session : Session} {log : List Activity}

/-- A call that is rejected, and does not refuse a stream, leaves the whole session as it was, but
for the identifier of a stream that would depend on itself. -/
theorem Run.unchanged_of_rejected (run : Run session log) {call : Call} {error : Error}
    (rejected : (session.call call).1 = .error error) (denied : ∀ id, error ≠ .refused id) :
    (session.call call).2 =
      if call.loopsAt session.connection.registry.nextLocal ∧
          error = .invalidPriority session.connection.registry.nextLocal then
        { session with connection := session.connection.passOver }
      else session := by
  have rejects := call_of_leads (Connection.perform_rejects run.sound call)
  rw [rejected] at rejects
  have same :
      (session.call call).2 = { session with connection := (session.call call).2.connection } := by
    unfold Session.call
    split <;> rfl
  rcases rejects with ⟨id, refused⟩ | left
  · exact absurd refused (denied id)
  · rw [same, left]
    split <;> rfl

/-- A client whose window is as large as can be, and that would let it shrink. -/
def shrinking : Session :=
  newClient.after [.call (.resizeWindow maxWindow), .call (.resizeWindow 0)]

theorem Run.unchanged_of_rejected_shrinking :
    (shrinking.call (.resizeWindow 1)).1 = .error (.window (.overflow 0)) ∧
    (shrinking.call (.resizeWindow 1)).2 = shrinking ∧
    (shrinking.call (.createStream [] (some ⟨1, 16, false⟩) false)).1 =
      .error (.invalidPriority 1) ∧
    (shrinking.call (.createStream [] (some ⟨1, 16, false⟩) false)).2 =
      { shrinking with connection := shrinking.connection.passOver } := by
  have run : ∃ log, Run shrinking log := ⟨_, (Run.create create_newClient).after _⟩
  obtain ⟨log, run⟩ := run
  have full : (shrinking.call (.resizeWindow 1)).1 = .error (.window (.overflow 0)) := rfl
  have loops : (shrinking.call (.createStream [] (some ⟨1, 16, false⟩) false)).1 =
      .error (.invalidPriority 1) := rfl
  have unchanged := run.unchanged_of_rejected full (by simp)
  have passed := run.unchanged_of_rejected loops (by simp)
  rw [if_neg (by simp [Call.loopsAt])] at unchanged
  rw [if_pos (by decide +kernel)] at passed
  exact ⟨full, unchanged, loops, passed⟩

end Session

end Http2
