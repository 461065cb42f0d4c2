import Http2.Proofs.Windows

/-!
# Window updates in any order

An update only adds to a window, and it fails where the window would become too large.  So the order
of a list of updates decides neither whether all of them succeed nor what they lead to.
-/

namespace Http2.Windows

variable {windows after : Windows} {id other count more : Nat} {updates others : List (Nat × Nat)}

/-- Makes one update after the other, each on what the last one left, and gives what they return. -/
def creditEach (windows : Windows) : List (Nat × Nat) → List (Except WindowError Bool) × Windows
  | [] => ([], windows)
  | (id, count) :: rest =>
      match windows.credit id count with
      | .ok crossed after => (.ok crossed :: (after.creditEach rest).1, (after.creditEach rest).2)
      | .error error after => (.error error :: (after.creditEach rest).1, (after.creditEach rest).2)

private theorem creditEach_append (front back : List (Nat × Nat)) :
    windows.creditEach (front ++ back) =
      ((windows.creditEach front).1 ++ ((windows.creditEach front).2.creditEach back).1,
        ((windows.creditEach front).2.creditEach back).2) := by
  induction front generalizing windows with
  | nil => rfl
  | cons update rest ih =>
    obtain ⟨id, count⟩ := update
    cases credited : windows.credit id count with
    | error | ok => simp only [List.cons_append, creditEach, credited, ih]

/-! ## A single update -/

def Fits (windows : Windows) (id count : Nat) : Prop :=
  ∀ window, windows.window? id = some window → window + count ≤ maxWindow

def raise (windows : Windows) (id count : Nat) : Windows :=
  if id = 0 then { windows with connection := windows.connection + count }
  else { windows with streams := windows.streams.modify id (· + (count : Int)) }

private theorem window?_raise (windows : Windows) (id count other : Nat) :
    (windows.raise id count).window? other =
      if other = id then (windows.window? other).map (· + (count : Int)) else windows.window?
        other := by
  unfold raise window? stream?
  by_cases root : id = 0
  · by_cases here : other = 0 <;> simp [root, here]
  · by_cases here : other = 0
    · simp [root, here, Ne.symm root]
    · simp [root, here, IdMap.get?_modify]

private theorem raise_comm (windows : Windows) (id count other more : Nat) :
    (windows.raise id count).raise other more = (windows.raise other more).raise id count := by
  unfold raise
  by_cases root : id = 0
  · by_cases base : other = 0 <;> simp [root, base, Int.add_right_comm]
  · by_cases base : other = 0
    · simp [root, base]
    · simp only [if_neg root, if_neg base]
      congr 1
      refine IdMap.ext fun key => ?_
      simp only [IdMap.get?_modify]
      split <;> split <;> simp [Function.comp_def, Int.add_right_comm]

private theorem credit_eq (windows : Windows) (id count : Nat) :
    (windows.Fits id count ∧ ∃ crossed, windows.credit id count =
      .ok crossed (windows.raise id count)) ∨
      (¬ windows.Fits id count ∧ windows.credit id count = .error (.overflow id) windows) := by
  unfold credit
  cases held : windows.window? id with
  | none =>
    have stream : id ≠ 0 := fun root => by simp [window?, root] at held
    have same : windows.raise id count = windows := by
      rw [window?, if_neg stream, stream?] at held
      rw [raise, if_neg stream]
      congr 1
      refine IdMap.ext fun key => ?_
      rw [IdMap.get?_modify]
      split
      · rename_i here
        rw [here, held]
        rfl
      · rfl
    exact .inl ⟨fun window found => by simp [held] at found, false, by rw [same]⟩
  | some window =>
    simp only
    by_cases large : (maxWindow : Int) < window + count
    · rw [if_pos large]
      exact .inr ⟨fun fits => absurd (fits window held) (by omega), rfl⟩
    · rw [if_neg large]
      refine .inl ⟨fun _ found => ?_, _, congrArg (EStateM.Result.ok _) ?_⟩
      · cases held.symm.trans found
        omega
      · unfold setWindow raise
        by_cases root : id = 0
        · simp_all [window?]
        · rw [if_neg root, if_neg root]
          rw [window?, if_neg root, stream?] at held
          congr 1
          refine IdMap.ext fun key => ?_
          rw [IdMap.get?_insert, IdMap.get?_modify]
          by_cases here : key = id
          · simp [here, held]
          · simp [here, Ne.symm here]

private theorem fits_raise_iff : windows.Fits id count ∧ (windows.raise id count).Fits other more ↔
    windows.Fits other more ∧ (windows.raise other more).Fits id count := by
  unfold Fits
  simp only [window?_raise]
  by_cases same : id = other
  · subst same
    cases windows.window? id with
    | none => simp
    | some window =>
      simp only [if_true, Option.map_some, Option.some.injEq, forall_eq']
      omega
  · simp only [if_neg same, if_neg (Ne.symm same)]
    exact And.comm

/-! ## Many updates -/

def Grants (windows : Windows) (updates : List (Nat × Nat)) (after : Windows) : Prop :=
  (∀ result ∈ (windows.creditEach updates).1, result.isOk) ∧ (windows.creditEach updates).2 = after

private theorem grants_cons_iff : windows.Grants ((id, count) :: updates) after ↔
    windows.Fits id count ∧ (windows.raise id count).Grants updates after := by
  unfold Grants
  rw [creditEach]
  rcases windows.credit_eq id count with ⟨fits, crossed, eq⟩ | ⟨unfit, eq⟩
  · simp [eq, fits, Except.isOk, Except.toBool]
  · simp [eq, unfit, Except.isOk, Except.toBool]

private theorem grants_of_perm (perm : updates.Perm others) :
    windows.Grants updates after ↔ windows.Grants others after := by
  induction perm generalizing windows with
  | nil => rfl
  | cons _ _ ih => rw [grants_cons_iff, grants_cons_iff, ih]
  | swap first second rest =>
    obtain ⟨id, count⟩ := first
    obtain ⟨other, more⟩ := second
    rw [grants_cons_iff, grants_cons_iff, grants_cons_iff, grants_cons_iff,
      ← and_assoc, ← and_assoc, fits_raise_iff, raise_comm]
  | trans _ _ first second => exact first.trans second

/-- Updates succeed in one order if they succeed in another, and lead to the same.  After any
updates one that fails, which is because the window would become too large, gives the windows back
as they were. -/
theorem creditEach_perm (windows : Windows) (perm : updates.Perm others) :
    ((∀ result ∈ (windows.creditEach updates).1, result.isOk = true) ↔
      ∀ result ∈ (windows.creditEach others).1, result.isOk = true) ∧
    ((∀ result ∈ (windows.creditEach updates).1, result.isOk = true) →
      (windows.creditEach updates).2 = (windows.creditEach others).2) ∧
    ∀ front id count error after, (windows.creditEach front).2.credit id count =
      .error error after →
      error = .overflow id ∧ after = (windows.creditEach front).2 ∧
        windows.creditEach (front ++ [(id, count)]) =
          ((windows.creditEach front).1 ++ [.error error], (windows.creditEach front).2) := by
  refine ⟨⟨fun all => ?_, fun all => ?_⟩, fun all => ?_, fun front id count error after fails => ?_⟩
  · exact ((grants_of_perm perm).mp ⟨all, rfl⟩).1
  · exact ((grants_of_perm perm).mpr ⟨all, rfl⟩).1
  · exact ((grants_of_perm perm).mp ⟨all, rfl⟩).2.symm
  · rcases (windows.creditEach front).2.credit_eq id count with ⟨-, _, eq⟩ | ⟨-, eq⟩
    · cases eq.symm.trans fails
    · cases eq.symm.trans fails
      exact ⟨rfl, rfl, by simp only [creditEach_append, creditEach, eq]⟩

/-- Updates of the connection and of a negative window to the limit, and of an unknown stream. -/
theorem creditEach_perm_limit :
    let windows : Windows := ⟨2147483000, 65535, ⟨[(1, -2147483648), (3, 10)], by decide⟩, [1]⟩
    let updates := [(0, 600), (1, 4294967295), (9, 7), (0, 47)]
    (∀ result ∈ (windows.creditEach updates.reverse).1, result.isOk = true) ∧
      (windows.creditEach updates).2 = (windows.creditEach updates.reverse).2 ∧
      windows.creditEach (updates ++ [(1, 1)]) =
        ((windows.creditEach updates).1 ++ [.error (.overflow 1)],
          (windows.creditEach updates).2) := by
  intro windows updates
  have all : ∀ result ∈ (windows.creditEach updates).1, result.isOk = true := by decide
  have ⟨ok, same, fails⟩ := creditEach_perm windows updates.reverse_perm.symm
  exact ⟨ok.mp all, same all, (fails updates 1 1 (.overflow 1) _ (by rfl)).2.2⟩

end Http2.Windows
