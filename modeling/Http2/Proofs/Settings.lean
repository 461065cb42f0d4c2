import Http2.Settings.Exchange

/-!
# Settings within their bounds

Every value that an end keeps, its own or the peer's, is within the bounds of its setting, and a
batch of changes survives the way over the wire.
-/

namespace Http2

open List

def Allowed (changes : List (Setting × Nat)) : Prop :=
  ∀ change ∈ changes, change.1.Allows change.2

instance (changes : List (Setting × Nat)) : Decidable (Allowed changes) :=
  inferInstanceAs (Decidable (∀ change ∈ changes, _))

def wireForm (changes : List (Setting × Nat)) : List (Nat × Nat) :=
  changes.map fun (setting, value) => (setting.wireId, value)

namespace Settings

variable {settings : Settings} {changes : List (Setting × Nat)}

def Valid (settings : Settings) : Prop := ∀ setting : Setting, setting.Allows (settings.get setting)

theorem valid_default : ({} : Settings).Valid := by
  intro setting
  cases setting <;> decide

private theorem allowed_of_check (h : Settings.check changes = .ok ()) : Allowed changes := by
  unfold Settings.check at h
  split at h
  · cases h
  · rename_i none
    intro change member
    have := find?_eq_none.mp none change member
    simpa using this

variable (valid : settings.Valid)

include valid

theorem Valid.store {setting : Setting} {value : Nat} (allows : setting.Allows value) :
    (settings.store setting value).Valid := by
  intro other
  rw [get_store settings setting other value allows]
  split
  · rename_i same
    exact same ▸ allows
  · exact valid other

theorem Valid.apply (allowed : Allowed changes) : (settings.apply changes).Valid := by
  unfold Settings.apply
  induction changes generalizing settings with
  | nil => exact valid
  | cons change rest ih =>
    have first := allowed change mem_cons_self
    have others : Allowed rest := fun other member => allowed other (mem_cons_of_mem _ member)
    exact ih (valid.store first) others

theorem Valid.initialWindowSize_le : settings.initialWindowSize ≤ maxWindow := by
  have := valid .initialWindowSize
  unfold Setting.Allows Setting.fault? at this
  simp only [ite_eq_right_iff, reduceCtorEq, imp_false, Nat.not_lt] at this
  exact this

theorem Valid.maxFrameSize_range :
    leastFrameLimit ≤ settings.maxFrameSize ∧ settings.maxFrameSize ≤ greatestFrameLimit := by
  have := valid .maxFrameSize
  unfold Setting.Allows Setting.fault? at this
  simp only [ite_eq_left_iff, reduceCtorEq, imp_false, Decidable.not_not] at this
  exact this

theorem Valid.maxFrameSize_pos : 0 < settings.maxFrameSize :=
  Nat.lt_of_lt_of_le (by decide) valid.maxFrameSize_range.1

end Settings

namespace Exchange

variable {changes : List (Setting × Nat)} {exchange after : Exchange}
  {parameters : List (Nat × Nat)} {now : Nat} {commit : Commit}

def known (parameters : List (Nat × Nat)) : List (Setting × Nat) :=
  parameters.filterMap fun (id, value) => (Setting.ofWire? id).map (·, value)

theorem readParameters_eq (parameters : List (Nat × Nat)) :
    (Allowed (known parameters) ∧ readParameters parameters = .ok (known parameters)) ∨
      (¬ Allowed (known parameters) ∧ ∃ parameter ∈ parameters, ∃ setting,
        readParameters parameters = .error (.connection (.settingValue setting parameter.2)) ∨
          readParameters parameters = .error (.protocol (.settingValue setting parameter.2))) := by
  have faulty {setting : Setting} {value : Nat} {reason : Reason} {rest : List (Setting × Nat)}
      (fault : setting.fault? value = some reason) : ¬ Allowed ((setting, value) :: rest) :=
      fun allowed =>
    Option.some_ne_none reason (fault.symm.trans (allowed _ mem_cons_self))
  fun_induction readParameters parameters with
  | case1 => exact .inl ⟨forall_mem_nil _, rfl⟩
  | case2 id value rest unknown ih =>
    have same : known ((id, value) :: rest) = known rest := by simp [known, unknown]
    rw [same]
    refine ih.imp_right fun fails => ⟨fails.1, ?_⟩
    obtain ⟨parameter, member, read⟩ := fails.2
    exact ⟨parameter, mem_cons_of_mem _ member, read⟩
  | case3 id value rest setting found fault =>
    exact .inr ⟨by simpa [known, found] using faulty fault, _, mem_cons_self, setting, .inl rfl⟩
  | case4 id value rest setting found reason fault =>
    exact .inr ⟨by simpa [known, found] using faulty fault, _, mem_cons_self, setting, .inr rfl⟩
  | case5 id value rest setting found allowed ih =>
    have first : known ((id, value) :: rest) = (setting, value) :: known rest := by
      simp [known, found]
    rw [first]
    rcases ih with ⟨others, read⟩ | ⟨refused, parameter, member, other, read⟩
    · exact .inl ⟨forall_mem_cons.mpr ⟨allowed, others⟩, by rw [read]; rfl⟩
    · refine .inr ⟨fun all => refused (forall_mem_cons.mp all).2, parameter,
        mem_cons_of_mem _ member, other, ?_⟩
      exact read.imp (fun read => by rw [read]; rfl) fun read => by rw [read]; rfl

theorem readParameters_fails {goal : Error → Prop} {error : Error}
    (fault : readParameters parameters = .error error) (wrong : ∀ parameter ∈ parameters, ∀ setting,
      goal (.connection (.settingValue setting parameter.2)) ∧ goal
      (.protocol (.settingValue setting parameter.2))) :
    goal error := by
  rcases readParameters_eq parameters with ⟨-, read⟩ | ⟨-, parameter, member, setting, read | read⟩
  · cases read.symm.trans fault
  · cases read.symm.trans fault
    exact (wrong parameter member setting).1
  · cases read.symm.trans fault
    exact (wrong parameter member setting).2

theorem allowed_of_readParameters (h : readParameters parameters = .ok changes) :
    Allowed changes := by
  rcases readParameters_eq parameters with ⟨allowed, read⟩ | ⟨-, _, -, _, read | read⟩
  · cases read.symm.trans h
    exact allowed
  · cases read.symm.trans h
  · cases read.symm.trans h

theorem readParameters_wireForm (allowed : Allowed changes) :
    readParameters (wireForm changes) = .ok changes := by
  have same : known (wireForm changes) = changes := by
    simp [known, wireForm, filterMap_map, Function.comp_def]
  rcases readParameters_eq (wireForm changes) with ⟨-, read⟩ | ⟨refused, -⟩
  · rw [read, same]
  · exact absurd allowed (same ▸ refused)

structure Sound (exchange : Exchange) : Prop where
  own : exchange.own.Valid
  peer : exchange.peer.Valid
  outstanding : ∀ batch ∈ exchange.outstanding, Allowed batch.changes
  staged : exchange.staged = none

theorem announce_eq (h : exchange.announce changes now = .ok after) :
    Allowed changes ∧
      after = { exchange with outstanding := exchange.outstanding ++ [⟨changes, now⟩] } := by
  unfold announce at h
  split at h
  · cases h
  · rename_i checked
    cases h
    exact ⟨Settings.allowed_of_check checked, rfl⟩

theorem acknowledge_eq (h : exchange.acknowledge = some (commit, after)) :
    ∃ batch rest, exchange.outstanding = batch :: rest ∧
      after = { exchange with own := exchange.own.apply batch.changes, outstanding := rest } ∧
      commit = ⟨exchange.own, exchange.own.apply batch.changes⟩ := by
  unfold acknowledge at h
  split at h
  · cases h
  · rename_i batch rest waiting
    cases h
    exact ⟨batch, rest, waiting, rfl, rfl⟩

theorem acknowledge_peer (h : exchange.acknowledge = some (commit, after)) :
    after.peer = exchange.peer := by
  obtain ⟨_, _, -, rfl, -⟩ := acknowledge_eq h
  rfl

theorem acknowledge_eq_none (h : exchange.acknowledge = none) : exchange.outstanding = [] := by
  unfold acknowledge at h
  split at h
  · assumption
  · cases h

variable (sound : exchange.Sound)

include sound

theorem Sound.latest : exchange.latest.Valid := by
  have all : ∀ (batches : List Batch) (settings : Settings), settings.Valid →
      (∀ batch ∈ batches, Allowed batch.changes) →
      (batches.foldl (fun settings batch => settings.apply batch.changes) settings).Valid := by
    intro batches
    induction batches with
    | nil => exact fun settings valid _ => valid
    | cons batch rest ih =>
      intro settings valid allowed
      exact ih _ (valid.apply (allowed batch mem_cons_self))
        fun other member => allowed other (mem_cons_of_mem _ member)
  exact all exchange.outstanding exchange.own sound.own sound.outstanding

theorem Sound.announce (h : exchange.announce changes now = .ok after) : after.Sound := by
  obtain ⟨allowed, rfl⟩ := announce_eq h
  refine ⟨sound.own, sound.peer, ?_, sound.staged⟩
  intro batch member
  rcases mem_append.mp member with member | member
  · exact sound.outstanding batch member
  · cases mem_singleton.mp member
    exact allowed

theorem Sound.acknowledge (h : exchange.acknowledge = some (commit, after)) : after.Sound := by
  obtain ⟨batch, rest, waiting, rfl, -⟩ := acknowledge_eq h
  have allowed := sound.outstanding
  rw [waiting] at allowed
  exact ⟨sound.own.apply (allowed batch mem_cons_self), sound.peer,
    fun other member => allowed other (mem_cons_of_mem _ member), sound.staged⟩

theorem Sound.valid_apply (read : readParameters parameters = .ok changes) :
    (exchange.peer.apply (exchange.staged.getD [] ++ changes)).Valid := by
  rw [sound.staged]
  exact sound.peer.apply (allowed_of_readParameters read)

theorem Sound.setPeer (allowed : Allowed changes) :
    { exchange with peer := exchange.peer.apply changes }.Sound :=
  ⟨sound.own, sound.peer.apply allowed, sound.outstanding, sound.staged⟩

end Exchange

end Http2
