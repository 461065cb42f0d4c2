import Http2.Error

/-!
# The settings of one end

`Settings` holds a value for each of the six parameters.  `set` checks the bounds of a value,
`store` and `apply` write values that have been checked.
-/

namespace Http2

structure Settings where
  headerTableSize : Nat := 4096
  enablePush : Bool := true
  maxConcurrentStreams : Nat := unlimited
  initialWindowSize : Nat := defaultWindow
  maxFrameSize : Nat := leastFrameLimit
  maxHeaderListSize : Nat := unlimited
  deriving DecidableEq, Repr

namespace Settings

instance : Inhabited Settings := ⟨{}⟩

def get (settings : Settings) : Setting → Nat
  | .headerTableSize => settings.headerTableSize
  | .enablePush => settings.enablePush.toNat
  | .maxConcurrentStreams => settings.maxConcurrentStreams
  | .initialWindowSize => settings.initialWindowSize
  | .maxFrameSize => settings.maxFrameSize
  | .maxHeaderListSize => settings.maxHeaderListSize

def store (settings : Settings) (setting : Setting) (value : Nat) : Settings :=
  match setting with
  | .headerTableSize => { settings with headerTableSize := value }
  | .enablePush => { settings with enablePush := value == 1 }
  | .maxConcurrentStreams => { settings with maxConcurrentStreams := value }
  | .initialWindowSize => { settings with initialWindowSize := value }
  | .maxFrameSize => { settings with maxFrameSize := value }
  | .maxHeaderListSize => { settings with maxHeaderListSize := value }

def apply (settings : Settings) (changes : List (Setting × Nat)) : Settings :=
  changes.foldl (fun settings change => settings.store change.1 change.2) settings

def check (changes : List (Setting × Nat)) : Except Error Unit :=
  match changes.find? fun change => ¬ change.1.Allows change.2 with
  | some (setting, value) => .error (.invalidSetting setting.wireId value)
  | none => .ok ()

def set (settings : Settings) (setting : Setting) (value : Nat) : Except Error Settings :=
  if setting.Allows value then .ok (settings.store setting value)
  else .error (.invalidSetting setting.wireId value)

def changesFromDefault (settings : Settings) : List (Setting × Nat) :=
  (Setting.all.filter fun setting => settings.get setting ≠ ({} : Settings).get setting).map
    fun setting => (setting, settings.get setting)

theorem get_store (settings : Settings) (setting other : Setting) (value : Nat)
    (h : setting.Allows value) :
    (settings.store setting value).get other =
      if setting = other then value else settings.get other := by
  cases setting <;> cases other <;> simp [store, get]
  simp only [Setting.Allows, Setting.fault?, ite_eq_right_iff, reduceCtorEq, imp_false] at h
  rcases Nat.lt_or_ge value 1 with hv | hv
  · simp [show value = 0 by omega]
  · simp [show value = 1 by omega]

end Settings

end Http2
