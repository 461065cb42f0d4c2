import Http2.Settings.Basic

/-!
# Configuration

What an end of a connection is set up with.  Times are in nanoseconds.
-/

namespace Http2

structure Config where
  settings : List (Setting × Nat) := []
  connectionWindow : Nat := defaultWindow
  settingsTimeout : Nat := 10000000000
  retention : Nat := 32
  blockLimit : Nat := 262144
  deriving DecidableEq, Repr

namespace Config

/-- A later value for the same setting replaces the earlier one and goes to the end. -/
def advertise (config : Config) (setting : Setting) (value : Nat) : Config :=
  { config with
    settings := (config.settings.filter fun change => change.1 ≠ setting) ++ [(setting, value)] }

def localSettings (config : Config) : Except Error Settings :=
  match Settings.check config.settings with
  | .error error => .error error
  | .ok () => .ok (({} : Settings).apply config.settings)

def validate (config : Config) : Except Error Unit :=
  match config.localSettings with
  | .error error => .error error
  | .ok _ =>
      if config.connectionWindow < defaultWindow ∨ maxWindow < config.connectionWindow then
        .error (.invalidSetting 0 config.connectionWindow)
      else .ok ()

end Config

end Http2
