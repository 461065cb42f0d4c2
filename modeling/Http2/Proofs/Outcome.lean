import Http2.Connection.Basic

/-!
# Where an action leads

`action.Leads connection goal` says that `goal` holds of the result with which the action ends when
it is started in `connection`, and of the state it leaves, whether it succeeds or fails.  The rules
below take an action apart along its steps.
-/

namespace Http2.Action

variable {α β : Type} {conn after : Connection} {action : Action α} {rest : α → Action β}
  {goal goal' : Except Error α → Connection → Prop}

def Leads (action : Action α) (conn : Connection) (goal : Except Error α → Connection → Prop) :
    Prop :=
  match action.run conn with
  | .ok value after => goal (.ok value) after
  | .error error after => goal (.error error) after

/-- What follows a step of an action: the rest of the action, unless the step failed. -/
def Onward (rest : α → Action β) (goal : Except Error β → Connection → Prop) :
    Except Error α → Connection → Prop
  | .ok value, conn => (rest value).Leads conn goal
  | .error error, conn => goal (.error error) conn

theorem Leads.mono
    (h : action.Leads conn goal) (weaker : ∀ result after, goal result after → goal' result after) :
    action.Leads conn goal' := by
  unfold Leads at h ⊢
  split at h
  · exact weaker _ _ h
  · exact weaker _ _ h

theorem Leads.of_ok {value : α}
    (h : action.Leads conn goal) (run : action.run conn = .ok value after) :
    goal (.ok value) after := by
  simpa only [Leads, run] using h

theorem Leads.of_error {error : Error}
    (h : action.Leads conn goal) (run : action.run conn = .error error after) :
    goal (.error error) after := by
  simpa only [Leads, run] using h

theorem Leads.and (first : action.Leads conn goal) (second : action.Leads conn goal') :
    action.Leads conn fun result after => goal result after ∧ goal' result after := by
  unfold Leads at first second ⊢
  split <;> rename_i ran
  · rw [ran] at first second
    exact ⟨first, second⟩
  · rw [ran] at first second
    exact ⟨first, second⟩

theorem Leads.elim {conclusion : Prop} (leads : action.Leads conn goal)
    (yields : ∀ result after, goal result after → conclusion) : conclusion := by
  unfold Leads at leads
  split at leads
  · exact yields _ _ leads
  · exact yields _ _ leads

variable {later : Except Error β → Connection → Prop} {done : Except Error Unit → Connection → Prop}

@[simp] theorem leads_pure (value : α) :
    (pure value : Action α).Leads conn goal ↔ goal (.ok value) conn := Iff.rfl

@[simp] theorem leads_throw (error : Error) :
    (throw error : Action α).Leads conn goal ↔ goal (.error error) conn := Iff.rfl

@[simp] theorem leads_get {goal : Except Error Connection → Connection → Prop} :
    (get : Action Connection).Leads conn goal ↔ goal (.ok conn) conn := Iff.rfl

@[simp] theorem leads_set (next : Connection) :
    (set next : Action PUnit).Leads conn done ↔ done (.ok ⟨⟩) next := Iff.rfl

@[simp] theorem leads_modify (f : Connection → Connection) :
    (modify f : Action PUnit).Leads conn done ↔ done (.ok ⟨⟩) (f conn) := Iff.rfl

@[simp] theorem leads_bind :
    (action >>= rest).Leads conn later ↔ action.Leads conn (Onward rest later) := by
  unfold Leads
  simp only [EStateM.run_bind]
  cases action.run conn <;> rfl

@[simp] theorem leads_map (f : α → β) :
    (f <$> action).Leads conn later ↔ action.Leads conn fun result => later (result.map f) := by
  have same : Onward (fun value => pure (f value)) later = fun result => later (result.map f) := by
    funext result after
    cases result <;> rfl
  rw [map_eq_pure_bind, leads_bind, same]

@[simp] theorem leads_ite {condition : Prop} [Decidable condition] {first second : Action α} :
    (if condition then first else second).Leads conn goal ↔
      (condition → first.Leads conn goal) ∧ (¬ condition → second.Leads conn goal) := by
  split <;> simp_all

@[simp] theorem onward_ok (value : α) :
    Onward rest later (.ok value) conn ↔ (rest value).Leads conn later := Iff.rfl

@[simp] theorem onward_error (error : Error) :
    Onward rest later (.error error) conn ↔ later (.error error) conn := Iff.rfl

@[simp] theorem leads_get_bind {rest : Connection → Action β} :
    (get >>= rest).Leads conn later ↔ (rest conn).Leads conn later := leads_bind

@[simp] theorem leads_require (condition : Bool) (error : Error) :
    (require condition error).Leads conn done ↔ (condition = true → done (.ok ()) conn) ∧
        (condition = false → done (.error error) conn) := by
  cases condition <;> simp

@[simp] theorem leads_onlyIf (condition : Bool) (action : Action Unit) :
    (onlyIf condition action).Leads conn done ↔ (condition = true → action.Leads conn done) ∧
        (condition = false → done (.ok ()) conn) := by
  cases condition <;> simp

@[simp] theorem leads_ofExcept (result : Except Error α) :
    (ofExcept result).Leads conn goal ↔ goal result conn := by
  cases result <;> simp [ofExcept]

end Http2.Action
