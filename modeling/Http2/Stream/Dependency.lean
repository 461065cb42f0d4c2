import Http2.Stream.Registry

/-!
# The dependency tree

Every live stream names its parent, with 0 for the root; nothing else is stored of the tree.  A
stream that closes leaves its children to the root.
-/

namespace Http2

namespace Registry

def parent? (registry : Registry) (id : Nat) : Option Nat :=
  match registry.get? id with
  | some stream => if stream.isLive then some stream.priority.dependency else none
  | none => none

def isChild (parent id : Nat) (stream : Stream) : Bool :=
  stream.isLive && stream.priority.dependency == parent && id != parent

def children (registry : Registry) (id : Nat) : List Nat :=
  registry.streams.keysWhere (isChild id)

def climbsTo (registry : Registry) (ancestor : Nat) : (steps id : Nat) → Bool
  | 0, _ => false
  | steps + 1, id =>
      match registry.parent? id with
      | none => false
      | some parent =>
          if parent = 0 then false
          else if parent = ancestor then true
          else climbsTo registry ancestor steps parent

/-- Whether the stream stands below the ancestor.  No path is longer than the number of streams. -/
def isDescendant (registry : Registry) (id ancestor : Nat) : Bool :=
  registry.climbsTo ancestor (registry.size + 1) id

/-- Depending on a stream that is not live means the default priority. -/
def effectivePriority (registry : Registry) (priority : Priority) : Priority :=
  if priority.dependency ≠ 0 ∧ registry.parent? priority.dependency = none then .default
  else priority

def liftParent (registry : Registry) (id parent : Nat) : Registry :=
  if parent ≠ 0 ∧ registry.isDescendant parent id then
    registry.modify parent (·.dependOn 0)
  else registry

def adoptSiblings (registry : Registry) (id parent : Nat) : Registry :=
  { registry with
    streams := registry.streams.mapWithKey fun other stream =>
      if isChild parent other stream && other != id then stream.dependOn id else stream }

/-- Gives the stream a new place in the tree.  Its exclusiveness acts now and is not kept. -/
def reprioritize (registry : Registry) (id : Nat) (priority : Priority) : Registry :=
  let priority := registry.effectivePriority priority
  let parent := priority.dependency
  let registry := registry.liftParent id parent
  let registry := if priority.exclusive then registry.adoptSiblings id parent else registry
  registry.modify id fun stream => { stream with priority := ⟨parent, priority.weight, false⟩ }

def detachChildren (registry : Registry) (id : Nat) : Registry :=
  { registry with
    streams := registry.streams.mapWithKey fun other stream =>
      if isChild id other stream then stream.dependOn 0 else stream }

end Registry

end Http2
