import Http2.Windows

/-!
# Windows and balances

The balance of a stream is its window less the initial one: what has been credited on the stream
less what has been charged.  A change of the initial window leaves it alone, provided that no window
wraps around, and no window of a `Sound` ledger does.
-/

namespace Http2

theorem wrap32_eq {value : Int} (low : -2147483648 ≤ value) (high : value ≤ 2147483647) :
    wrap32 value = value := by
  unfold wrap32
  exact Int.bmod_eq_of_le (by omega) (by omega)

namespace Windows

def balance? (windows : Windows) (id : Nat) : Option Int :=
  (windows.stream? id).map (· - windows.initial)

structure Sound (windows : Windows) : Prop where
  connection_low : 0 ≤ windows.connection
  connection_high : windows.connection ≤ maxWindow
  initial_low : 0 ≤ windows.initial
  initial_high : windows.initial ≤ maxWindow
  stream_low : ∀ id window, windows.stream? id = some window → -maxWindow ≤ window - windows.initial
  stream_high : ∀ id window, windows.stream? id = some window → window ≤ maxWindow

/-- No window exceeds the one with which a stream starts. -/
def Topped (windows : Windows) : Prop :=
  ∀ id window, windows.stream? id = some window → window ≤ windows.initial

variable {windows after : Windows} {id other count : Nat} {error : WindowError} {window delta : Int}

theorem balance?_eq_some_iff {balance : Int} :
    windows.balance? id = some balance ↔ windows.stream? id = some (balance + windows.initial) := by
  unfold balance?
  cases windows.stream? id with
  | none => simp
  | some window =>
    simp only [Option.map_some, Option.some.injEq]
    omega

theorem balance?_eq_none_iff : windows.balance? id = none ↔ windows.stream? id = none := by
  unfold balance?
  cases windows.stream? id <;> simp

/-! ## Opening, closing and waiting -/

variable (windows id other)

theorem stream?_openStream : (windows.openStream id).stream? other =
      if id = other then some ((windows.stream? id).getD windows.initial)
      else windows.stream? other := by
  unfold openStream stream? IdMap.contains
  cases held : windows.streams.get? id with
  | none => simp [IdMap.get?_insert]
  | some window =>
    simp only [Option.isSome_some, if_true, Option.getD_some]
    split
    · rename_i same
      rw [← same, held]
    · rfl

@[simp] theorem connection_openStream :
    (windows.openStream id).connection = windows.connection := by
  unfold openStream
  split <;> rfl

@[simp] theorem initial_openStream : (windows.openStream id).initial = windows.initial := by
  unfold openStream
  split <;> rfl

@[simp] theorem parked_openStream : (windows.openStream id).parked = windows.parked := by
  unfold openStream
  split <;> rfl

theorem stream?_closeStream : (windows.closeStream id).stream? other =
      if id = other then none else windows.stream? other :=
  IdMap.get?_erase windows.streams id other

@[simp] theorem stream?_park : (windows.park id).stream? other = windows.stream? other := by
  unfold park
  split <;> rfl

@[simp] theorem connection_park : (windows.park id).connection = windows.connection := by
  unfold park
  split <;> rfl

theorem parked_park : (windows.park id).parked =
      if id ∈ windows.parked then windows.parked else windows.parked ++ [id] := by
  unfold park
  split <;> rfl

theorem park_eq : windows.park id = { windows with parked := (windows.park id).parked } := by
  unfold park
  split <;> rfl

variable {windows id other}

theorem popParked?_eq {rest : Windows} (h : windows.popParked? = some (id, rest)) :
    ∃ others, windows.parked = id :: others ∧ rest = { windows with parked := others } := by
  unfold popParked? at h
  split at h
  · cases h
  · rename_i first others waiting
    cases h
    exact ⟨others, waiting, rfl⟩

/-! ## Charging -/

theorem charge_eq (h : windows.charge id count = .ok after) :
    (count : Int) ≤ windows.connection ∧ (count : Int) ≤ (windows.stream? id).getD 0 ∧
      after = { windows with
        connection := windows.connection - count
        streams := windows.streams.modify id (· - (count : Int)) } := by
  unfold charge at h
  simp only at h
  split at h
  · cases h
  · split at h
    · cases h
    · cases h
      exact ⟨by omega, by omega, rfl⟩

theorem stream?_charge (h : windows.charge id count = .ok after) (other : Nat) :
    after.stream? other =
      if other = id then (windows.stream? other).map (· - (count : Int))
      else windows.stream? other := by
  obtain ⟨-, -, rfl⟩ := charge_eq h
  exact IdMap.get?_modify windows.streams id other _

theorem charge_of_le_available (fits : count ≤ windows.available id) (some : 0 < count) :
    ∃ after, windows.charge id count = .ok after := by
  unfold available at fits
  unfold charge
  simp only
  rw [if_neg (by omega), if_neg (by omega)]
  exact ⟨_, rfl⟩

theorem chargeConnection_eq (h : windows.chargeConnection count = .ok after) :
    (count : Int) ≤ windows.connection ∧
      after = { windows with connection := windows.connection - count } := by
  unfold chargeConnection at h
  split at h
  · cases h
  · cases h
    exact ⟨by omega, rfl⟩

theorem chargeConnection_fails (h : windows.chargeConnection count = .error error) :
    windows.connection < count := by
  unfold chargeConnection at h
  split at h
  · assumption
  · cases h

theorem chargeStream_eq (h : windows.chargeStream id count = .ok after) :
    ∃ window, windows.stream? id = some window ∧ (count : Int) ≤ window ∧
      after = { windows with streams := windows.streams.insert id (window - count) } := by
  unfold chargeStream at h
  split at h
  · cases h
  · rename_i window held
    split at h
    · cases h
    · cases h
      exact ⟨window, held, by omega, rfl⟩

theorem chargeStream_fails (held : windows.stream? id = some window)
    (h : windows.chargeStream id count = .error error) : window < count := by
  simp only [chargeStream, held] at h
  split at h
  · assumption
  · cases h

theorem stream?_chargeStream (h : windows.chargeStream id count = .ok after) (other : Nat) :
    after.stream? other =
      if other = id then (windows.stream? other).map (· - (count : Int))
      else windows.stream? other := by
  obtain ⟨window, held, -, rfl⟩ := chargeStream_eq h
  simp only [stream?, IdMap.get?_insert]
  split
  · rename_i same
    subst same
    unfold stream? at held
    simp [held]
  · rename_i differ
    rw [if_neg fun same => differ same.symm]

/-! ## Crediting -/

theorem stream?_setWindow (stream : id ≠ 0) (other : Nat) :
    (windows.setWindow id window).stream? other =
      if id = other then some window else windows.stream? other := by
  unfold setWindow
  rw [if_neg stream]
  exact IdMap.get?_insert windows.streams id other window

theorem credit_connection_eq {crossed : Bool} (h : windows.credit 0 count = .ok crossed after) :
    windows.connection + count ≤ maxWindow ∧
      crossed = decide (windows.connection ≤ 0 ∧ 0 < windows.connection + count) ∧
      after = { windows with connection := windows.connection + count } := by
  simp only [credit, window?, if_true] at h
  split at h
  · cases h
  · cases h
    refine ⟨by omega, rfl, ?_⟩
    simp [setWindow]

theorem credit_stream_eq {crossed : Bool} (stream : id ≠ 0)
    (held : windows.stream? id = some window) (h : windows.credit id count = .ok crossed after) :
    window + count ≤ maxWindow ∧ crossed = decide (window ≤ 0 ∧ 0 < window + count) ∧
      after = windows.setWindow id (window + count) := by
  simp only [credit, window?, if_neg stream, held] at h
  split at h
  · cases h
  · cases h
    exact ⟨by omega, rfl, rfl⟩

theorem credit_fails (held : windows.window? id = some window)
    (h : windows.credit id count = .error error after) : maxWindow < window + count := by
  simp only [credit, held] at h
  split at h
  · assumption
  · cases h

/-! ## Moving every window -/

theorem shift_eq {crossed : List Nat} (h : windows.shift delta = .ok (crossed, after)) :
    (∀ id window, windows.stream? id = some window → window + delta ≤ maxWindow) ∧
    (∀ id, id ∈ crossed ↔
        ∃ window, windows.stream? id = some window ∧ window ≤ 0 ∧ 0 < window + delta) ∧
      after = { windows with
        streams := windows.streams.mapWithKey fun _ window => wrap32 (window + delta)
        initial := max 0 (min (windows.initial + delta) maxWindow) } := by
  unfold shift at h
  split at h
  · cases h
  · rename_i none
    cases h
    refine ⟨?_, ?_, rfl⟩
    · intro id window held
      have absent : id ∉ windows.streams.keysWhere
          fun _ window => decide ((maxWindow : Int) < window + delta) := by
        rw [none]
        exact List.not_mem_nil
      rw [IdMap.mem_keysWhere] at absent
      simp only [decide_eq_true_eq, not_exists, not_and, Int.not_lt] at absent
      exact absent window held
    · intro id
      simp only [IdMap.mem_keysWhere, decide_eq_true_eq, stream?]

theorem shift_fails (h : windows.shift delta = .error error) :
    ∃ id window, error = .overflow id ∧ windows.stream? id = some window ∧
    maxWindow < window + delta := by
  unfold shift at h
  split at h
  · rename_i id rest found
    have member : id ∈ windows.streams.keysWhere
        fun _ window => decide ((maxWindow : Int) < window + delta) := by
      rw [found]
      exact List.mem_cons_self
    obtain ⟨window, held, large⟩ := IdMap.mem_keysWhere.mp member
    cases h
    exact ⟨id, window, rfl, held, by simpa using large⟩
  · cases h

/-! ## Refilling -/

theorem refill_eq {target increment : Nat}
    (h : windows.refill id target = some (increment, after)) :
    ∃ window, windows.window? id = some window ∧ window < min target maxWindow ∧
      (increment : Int) = min target maxWindow - window ∧
      after = windows.setWindow id (min target maxWindow : Nat) := by
  unfold refill at h
  simp only at h
  split at h
  · cases h
  · rename_i window held
    split at h
    · cases h
    · split at h
      · cases h
      · cases h
        exact ⟨window, held, by omega, by omega, rfl⟩

/-! ## Sound ledgers -/

namespace Sound

variable (sound : windows.Sound)

include sound

omit sound in
theorem default : Windows.default.Sound := by
  constructor
  · decide
  · decide
  · decide
  · decide
  · intro id window held
    cases held
  · intro id window held
    cases held

theorem of_windows (initial : after.initial = windows.initial) (low : 0 ≤ after.connection)
    (high : after.connection ≤ maxWindow) (streams : ∀ id window, after.stream? id = some window →
      windows.stream? id = some window ∨ 0 ≤ window ∧ window ≤ maxWindow) : after.Sound := by
  have := sound.initial_high
  refine ⟨low, high, by rw [initial]; exact sound.initial_low, by rw [initial]; exact this, ?_, ?_⟩
  · intro id window held
    rw [initial]
    rcases streams id window held with held | bounds
    · exact sound.stream_low id window held
    · omega
  · intro id window held
    rcases streams id window held with held | bounds
    · exact sound.stream_high id window held
    · exact bounds.2

theorem openStream (id : Nat) : (windows.openStream id).Sound := by
  refine sound.of_windows (by simp) (by simpa using sound.connection_low)
    (by simpa using sound.connection_high) ?_
  intro other window held
  rw [stream?_openStream] at held
  split at held
  · rename_i same
    subst same
    cases before : windows.stream? id with
    | none =>
      rw [before] at held
      cases held
      exact .inr ⟨sound.initial_low, sound.initial_high⟩
    | some value =>
      rw [before] at held
      exact .inl held
  · exact .inl held

theorem closeStream (id : Nat) : (windows.closeStream id).Sound := by
  refine sound.of_windows rfl sound.connection_low sound.connection_high ?_
  intro other window held
  rw [stream?_closeStream] at held
  split at held
  · cases held
  · exact .inl held

theorem setParked (parked : List Nat) : { windows with parked }.Sound :=
  ⟨sound.connection_low, sound.connection_high, sound.initial_low, sound.initial_high,
    sound.stream_low, sound.stream_high⟩

theorem charge (h : windows.charge id count = .ok after) : after.Sound := by
  have streams := stream?_charge h
  obtain ⟨affordable, fits, eq⟩ := charge_eq h
  have := sound.connection_high
  refine sound.of_windows (by rw [eq]) (by rw [eq]; simp only; omega)
    (by rw [eq]; simp only; omega) ?_
  intro other window held
  rw [streams] at held
  split at held
  · rename_i same
    subst same
    obtain ⟨value, before, rfl⟩ := Option.map_eq_some_iff.mp held
    have := sound.stream_high other value before
    rw [before, Option.getD_some] at fits
    exact .inr (by omega)
  · exact .inl held

theorem chargeStream (h : windows.chargeStream id count = .ok after) : after.Sound := by
  have streams := stream?_chargeStream h
  obtain ⟨value, before, fits, rfl⟩ := chargeStream_eq h
  refine sound.of_windows rfl sound.connection_low sound.connection_high ?_
  intro other window held
  rw [streams] at held
  split at held
  · rename_i same
    subst same
    rw [before, Option.map_some] at held
    cases held
    have := sound.stream_high other value before
    exact .inr (by omega)
  · exact .inl held

theorem setConnection (low : 0 ≤ window) (high : window ≤ maxWindow) :
    { windows with connection := window }.Sound :=
  sound.of_windows rfl low high fun _ _ held => .inl held

theorem setWindow {value : Int} (stream : id ≠ 0) (before : windows.stream? id = some value)
    (risen : value ≤ window) (high : window ≤ maxWindow) : (windows.setWindow id window).Sound := by
  have initial : (windows.setWindow id window).initial = windows.initial := by
    simp [Windows.setWindow, stream]
  have conn : (windows.setWindow id window).connection = windows.connection := by
    simp [Windows.setWindow, stream]
  refine ⟨?_, ?_, ?_, ?_, ?_, ?_⟩
  · rw [conn]
    exact sound.connection_low
  · rw [conn]
    exact sound.connection_high
  · rw [initial]
    exact sound.initial_low
  · rw [initial]
    exact sound.initial_high
  · intro other window' held
    rw [initial]
    rw [stream?_setWindow stream] at held
    split at held
    · rename_i same
      subst same
      cases held
      have := sound.stream_low id value before
      omega
    · exact sound.stream_low other window' held
  · intro other window' held
    rw [stream?_setWindow stream] at held
    split at held
    · cases held
      exact high
    · exact sound.stream_high other window' held

theorem credit {crossed : Bool} (h : windows.credit id count = .ok crossed after) :
    after.Sound := by
  by_cases stream : id = 0
  · subst stream
    obtain ⟨bound, -, rfl⟩ := credit_connection_eq h
    have := sound.connection_low
    exact sound.setConnection (by omega) bound
  · cases held : windows.stream? id with
    | none =>
      simp only [Windows.credit, window?, if_neg stream, held] at h
      cases h
      exact sound
    | some window =>
      obtain ⟨bound, -, rfl⟩ := credit_stream_eq stream held h
      exact sound.setWindow stream held (by omega) bound

end Sound

/-! ## Exact shifts -/

/-- The windows have moved to a new initial window and no balance has changed. -/
structure Shifted (windows : Windows) (target : Nat) (after : Windows) : Prop where
  sound : after.Sound
  connection : after.connection = windows.connection
  parked : after.parked = windows.parked
  initial : after.initial = target
  stream : ∀ id, after.stream? id = (windows.stream? id).map (· + (target - windows.initial))

namespace Shifted

variable {target : Nat}

theorem refl (sound : windows.Sound) (same : windows.initial = target) :
    windows.Shifted target windows := by
  refine ⟨sound, rfl, rfl, same, fun id => ?_⟩
  cases windows.stream? id with
  | none => rfl
  | some window =>
    rw [Option.map_some, Option.some.injEq]
    omega

/-- A window of a sound ledger is never so low that it wraps around. -/
theorem of_shift {crossed : List Nat} (sound : windows.Sound) (bound : target ≤ maxWindow)
    (h : windows.shift (target - windows.initial) = .ok (crossed, after)) :
    windows.Shifted target after := by
  obtain ⟨bounded, -, rfl⟩ := shift_eq h
  have exactly : ∀ id window, windows.stream? id = some window →
      wrap32 (window + (target - windows.initial)) = window + (target - windows.initial) := by
    intro id window held
    have high := bounded id window held
    have low := sound.stream_low id window held
    simp only [maxWindow] at *
    exact wrap32_eq (by omega) (by omega)
  have reached : max 0 (min (windows.initial + (target - windows.initial)) (maxWindow : Int)) =
      target := by omega
  have streams : ∀ id, ({ windows with
      streams := windows.streams.mapWithKey
        fun _ window => wrap32 (window + ((target : Int) - windows.initial))
      initial := max 0 (min (windows.initial + (target - windows.initial)) (maxWindow : Int))
      } : Windows).stream? id = (windows.stream? id).map
      (· + ((target : Int) - windows.initial)) := by
    intro id
    simp only [stream?, IdMap.get?_mapWithKey]
    cases held : windows.streams.get? id with
    | none => rfl
    | some window => rw [Option.map_some, Option.map_some, exactly id window held]
  refine ⟨⟨sound.connection_low, sound.connection_high, ?_, ?_, ?_, ?_⟩, rfl, rfl, reached, streams⟩
  · simp only [reached]
    omega
  · simp only [reached]
    omega
  · intro id window held
    rw [streams] at held
    obtain ⟨value, before, rfl⟩ := Option.map_eq_some_iff.mp held
    have := sound.stream_low id value before
    simp only [reached]
    omega
  · intro id window held
    rw [streams] at held
    obtain ⟨value, before, rfl⟩ := Option.map_eq_some_iff.mp held
    exact bounded id value before

theorem balance? (shifted : windows.Shifted target after) (id : Nat) :
    after.balance? id = windows.balance? id := by
  unfold Windows.balance?
  rw [shifted.stream, shifted.initial]
  cases windows.stream? id with
  | none => rfl
  | some window =>
    simp only [Option.map_some, Option.some.injEq]
    omega

theorem topped (shifted : windows.Shifted target after) (topped : windows.Topped) :
    after.Topped := by
  intro id window held
  rw [shifted.stream] at held
  obtain ⟨value, before, rfl⟩ := Option.map_eq_some_iff.mp held
  have := topped id value before
  rw [shifted.initial]
  omega

end Shifted

theorem shift_of_topped (topped : windows.Topped) (high : windows.initial + delta ≤ maxWindow) :
    ∃ crossed after, windows.shift delta = .ok (crossed, after) := by
  cases h : windows.shift delta with
  | ok result => exact ⟨result.1, result.2, rfl⟩
  | error error =>
    obtain ⟨id, window, -, held, large⟩ := shift_fails h
    have := topped id window held
    omega

end Windows

end Http2
