import Http2.Proofs.Settings

/-!
# Settings of the peer, staged and committed

What the peer announces is staged until it is committed.  Stages that follow one another are merged,
and one that is rejected takes with it everything that waited.
-/

namespace Http2.Exchange

inductive Learning
  | stage (parameters : List (Nat × Nat))
  | commit

def learn (exchange : Exchange) : Learning → Exchange
  | .stage parameters => (exchange.stage parameters).2
  | .commit => (exchange.commit.map Prod.snd).getD exchange

def Learning.changes : Learning → List (Setting × Nat)
  | .stage parameters => known parameters
  | .commit => []

def learned (history : List Learning) : Exchange := history.foldl learn {}

/-- A commit comes before any stage that is rejected. -/
def reachesCommit : List Learning → Bool
  | [] => false
  | .commit :: _ => true
  | .stage parameters :: rest => Allowed (known parameters) && reachesCommit rest

/-- The changes of every stage that is accepted and that a commit follows before a rejection. -/
def committed : List Learning → List (Setting × Nat)
  | [] => []
  | .commit :: rest => committed rest
  | .stage parameters :: rest =>
      if reachesCommit (.stage parameters :: rest) then known parameters ++ committed
        rest else committed rest

variable {exchange : Exchange} {history : List Learning} {parameters : List (Nat × Nat)}

private theorem stage_of_allowed (exchange : Exchange) (allowed : Allowed (known parameters)) :
    exchange.stage parameters =
      (.ok (), { exchange with staged := some (exchange.staged.getD [] ++ known parameters) }) := by
  rcases readParameters_eq parameters with ⟨-, read⟩ | ⟨refused, -⟩
  · rw [stage, read]
  · exact absurd allowed refused

private theorem stage_of_not_allowed (exchange : Exchange)
    (refused : ¬ Allowed (known parameters)) :
    ∃ error, exchange.stage parameters = (.error error, { exchange with staged := none }) := by
  rcases readParameters_eq parameters with ⟨allowed, -⟩ | ⟨-, _, -, _, read | read⟩
  · exact absurd allowed refused
  · exact ⟨_, by rw [stage, read]⟩
  · exact ⟨_, by rw [stage, read]⟩

private theorem apply_append (settings : Settings) (changes others : List (Setting × Nat)) :
    settings.apply (changes ++ others) = (settings.apply changes).apply others :=
  List.foldl_append

/-- What waits takes effect if a commit comes before a rejection. -/
theorem peer_foldl_learn (exchange : Exchange) (history : List Learning) :
    (history.foldl learn exchange).peer = exchange.peer.apply
      ((if reachesCommit history then exchange.staged.getD [] else []) ++ committed history) := by
  induction history generalizing exchange with
  | nil => rfl
  | cons call rest ih =>
    rw [List.foldl_cons, ih]
    cases call with
    | commit =>
      simp only [learn, commit, reachesCommit, committed, if_true]
      cases staged : exchange.staged with
      | none => simp [staged]
      | some changes => simp [apply_append]
    | stage parameters =>
      simp only [learn, committed]
      by_cases allowed : Allowed (known parameters)
      · rw [stage_of_allowed exchange allowed]
        cases reaches : reachesCommit rest <;> simp [reachesCommit, allowed, reaches]
      · obtain ⟨error, eq⟩ := stage_of_not_allowed exchange allowed
        simp [eq, reachesCommit, allowed]

private theorem allowed_committed (history : List Learning) : Allowed (committed history) := by
  fun_induction committed history with
  | case1 => exact List.forall_mem_nil _
  | case2 _ ih => exact ih
  | case3 parameters rest reaches ih =>
    have allowed : Allowed (known parameters) := by simp_all [reachesCommit]
    exact List.forall_mem_append.mpr ⟨allowed, ih⟩
  | case4 _ _ _ ih => exact ih

/-- Where nothing is rejected, every stage before the last commit counts. -/
theorem committed_of_allowed (allowed : ∀ call ∈ history, Allowed call.changes)
    (later : List Learning) :
    reachesCommit (history ++ .commit :: later) = true ∧
      committed (history ++ .commit :: later) = history.flatMap Learning.changes ++
        committed later := by
  induction history with
  | nil => exact ⟨rfl, rfl⟩
  | cons call rest ih =>
    obtain ⟨first, others⟩ := List.forall_mem_cons.mp allowed
    obtain ⟨reaches, same⟩ := ih others
    cases call with
    | commit => exact ⟨rfl, same⟩
    | stage parameters =>
      have reached : reachesCommit (.stage parameters :: (rest ++ .commit :: later)) = true := by
        simpa [reachesCommit, reaches, Learning.changes] using first
      exact ⟨reached, by simp [committed, reached, same, Learning.changes]⟩

private theorem get_apply {changes : List (Setting × Nat)} (settings : Settings)
    (allowed : Allowed changes) (setting : Setting) : (settings.apply changes).get setting =
      ((changes.reverse.find? (·.1 = setting)).map Prod.snd).getD (settings.get setting) := by
  induction changes generalizing settings with
  | nil => rfl
  | cons change rest ih =>
    obtain ⟨first, others⟩ := List.forall_mem_cons.mp allowed
    rw [Settings.apply, List.foldl_cons]
    refine (ih _ others).trans ?_
    rw [Settings.get_store _ _ _ _ first, List.reverse_cons, List.find?_append]
    cases rest.reverse.find? (·.1 = setting) with
    | some found => rfl
    | none => by_cases same : change.1 = setting <;> simp [same]

private theorem staged_learn (exchange : Exchange) (call : Learning) :
    (exchange.learn call).staged = none ↔
      ∀ parameters, call = .stage parameters → ¬ Allowed (known parameters) := by
  cases call with
  | commit =>
    cases staged : exchange.staged <;> simp [learn, commit, staged]
  | stage parameters =>
    by_cases allowed : Allowed (known parameters)
    · simp [learn, stage_of_allowed exchange allowed, allowed]
    · obtain ⟨error, eq⟩ := stage_of_not_allowed exchange allowed
      simp [learn, eq, allowed]

private theorem commit_eq_none_iff : exchange.commit = none ↔ exchange.staged = none := by
  unfold commit
  cases exchange.staged <;> simp

private theorem commit_learned_iff (history : List Learning) : (learned history).commit = none ↔
    ∀ parameters, history.getLast? = some (.stage parameters) → ¬ Allowed (known parameters) := by
  rw [commit_eq_none_iff]
  rcases List.eq_nil_or_concat history with rfl | ⟨front, call, rfl⟩
  · simp [learned]
  · simp [learned, staged_learn]

/-- The peer's settings are the defaults with the stages that were committed, the last change of
each setting.  Nothing is committed exactly if the last call was not an accepted stage.  A stage
changes no settings, and one that is rejected for any of its values discards everything that
waits. -/
theorem learned_eq (history : List Learning) :
    (learned history).peer = ({} : Settings).apply (committed history) ∧
    (∀ setting, (learned history).peer.get setting =
      (((committed history).reverse.find? (·.1 = setting)).map Prod.snd).getD
        (({} : Settings).get setting)) ∧
    ((learned history).commit = none ↔
      ∀ parameters, history.getLast? = some (.stage parameters) → ¬ Allowed (known parameters)) ∧
    (∀ front later, history = front ++ .commit :: later → (∀ call ∈ front, Allowed call.changes) →
      committed history = front.flatMap Learning.changes ++ committed later) ∧
    ∀ parameters,
      (((learned history).stage parameters).1 = .ok () ↔ Allowed (known parameters)) ∧
      ((learned history).stage parameters).2.peer = (learned history).peer ∧
      (¬ Allowed (known parameters) →
        ((learned history).stage parameters).2 = { learned history with staged := none }) := by
  have law : (learned history).peer = ({} : Settings).apply (committed history) := by
    rw [learned, peer_foldl_learn]
    simp
  refine ⟨law, fun setting => ?_, commit_learned_iff history, ?_, fun parameters => ?_⟩
  · rw [law, get_apply _ (allowed_committed history)]
  · rintro front later rfl allowed
    exact (committed_of_allowed allowed later).2
  · by_cases allowed : Allowed (known parameters)
    · rw [stage_of_allowed _ allowed]
      exact ⟨by simp [allowed], rfl, fun refused => absurd allowed refused⟩
    · obtain ⟨error, eq⟩ := stage_of_not_allowed (learned history) allowed
      rw [eq]
      exact ⟨by simp [allowed], rfl, fun _ => rfl⟩

/-- A rejected stage does not always leave what waits alone. -/
theorem rejected_stage_discards : ¬ ∀ (history : List Learning) (parameters : List (Nat × Nat)),
    ¬ Allowed (known parameters) → ((learned history).stage parameters).2 = learned history := by
  intro all
  exact absurd (all [.stage [(3, 7)]] [(2, 7)] (by decide)) (by decide)

end Http2.Exchange
