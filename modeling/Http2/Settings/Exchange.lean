import Http2.Settings.Basic

/-!
# The exchange of settings

Each end announces changes to its own settings, and they count once the other end has acknowledged
them.  An `Exchange` keeps, for this end, the settings that the peer has acknowledged with the
batches that it has not, and the peer's settings with the changes that are staged and not yet
committed.
-/

namespace Http2

structure Batch where
  changes : List (Setting × Nat)
  sentAt : Nat
  deriving DecidableEq, Repr

structure Commit where
  previous : Settings
  current : Settings
  deriving DecidableEq, Repr

namespace Commit

def windowDelta (commit : Commit) : Int :=
  (commit.current.initialWindowSize : Int) - commit.previous.initialWindowSize

def changed (commit : Commit) : List Setting :=
  Setting.all.filter fun setting => commit.previous.get setting ≠ commit.current.get setting

end Commit

structure Exchange where
  own : Settings := {}
  outstanding : List Batch := []
  peer : Settings := {}
  staged : Option (List (Setting × Nat)) := none
  deriving DecidableEq, Repr

namespace Exchange

instance : Inhabited Exchange := ⟨{}⟩

def latest (exchange : Exchange) : Settings :=
  exchange.outstanding.foldl (fun settings batch => settings.apply batch.changes) exchange.own

/-! ## Our settings -/

def announce (exchange : Exchange) (changes : List (Setting × Nat)) (now : Nat) :
    Except Error Exchange :=
  match Settings.check changes with
  | .error error => .error error
  | .ok () => .ok { exchange with outstanding := exchange.outstanding ++ [⟨changes, now⟩] }

def acknowledge (exchange : Exchange) : Option (Commit × Exchange) :=
  match exchange.outstanding with
  | [] => none
  | batch :: rest =>
      let current := exchange.own.apply batch.changes
      some (⟨exchange.own, current⟩, { exchange with own := current, outstanding := rest })

def deadline? (exchange : Exchange) (timeout : Nat) : Option Nat :=
  exchange.outstanding.head?.map fun batch => batch.sentAt + timeout

/-! ## The peer's settings -/

def readParameters : List (Nat × Nat) → Except Error (List (Setting × Nat))
  | [] => .ok []
  | (id, value) :: rest =>
      match Setting.ofWire? id with
      | none => readParameters rest
      | some setting =>
          match setting.fault? value with
          | some reason =>
              if reason = .flowControlError then
                .error (.connection (.settingValue setting value))
              else .error (.protocol (.settingValue setting value))
          | none => (readParameters rest).map ((setting, value) :: ·)

/-- Adds the parameters to what is staged.  A parameter out of bounds discards everything staged. -/
def stage (exchange : Exchange) (parameters : List (Nat × Nat)) :
    Except Error Unit × Exchange :=
  match readParameters parameters with
  | .error error => (.error error, { exchange with staged := none })
  | .ok changes => (.ok (), { exchange with staged := some (exchange.staged.getD [] ++ changes) })

def commit (exchange : Exchange) : Option (Commit × Exchange) :=
  match exchange.staged with
  | none => none
  | some changes =>
      let current := exchange.peer.apply changes
      some (⟨exchange.peer, current⟩, { exchange with peer := current, staged := none })

end Exchange

end Http2
