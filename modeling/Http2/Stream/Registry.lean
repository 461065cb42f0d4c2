import Http2.Error
import Http2.Stream.Basic

/-!
# The streams of a connection

A `Registry` holds the streams that one end knows, hands out identifiers for its own and checks
those of the peer.  Closed streams stay for a while, so that late frames on them are told apart from
frames on streams that never were.
-/

namespace Http2

inductive Role where
  | client
  | server
  deriving DecidableEq, Repr

namespace Role

def initiates : Role → Nat → Bool
  | client, id => id % 2 == 1
  | server, id => id != 0 && id % 2 == 0

def firstId : Role → Nat
  | client => 1
  | server => 2

def peer : Role → Role
  | client => server
  | server => client

end Role

structure Registry where
  role : Role
  retention : Nat
  streams : IdMap Stream
  closed : List Nat
  nextLocal : Nat
  lastRemote : Nat
  deriving DecidableEq, Repr

namespace Registry

def new (role : Role) (retention : Nat) : Registry :=
  ⟨role, retention, ∅, [], role.firstId, 0⟩

def get? (registry : Registry) (id : Nat) : Option Stream := registry.streams.get? id

def phase? (registry : Registry) (id : Nat) : Option Phase :=
  (registry.get? id).map Stream.phase

def insert (registry : Registry) (id : Nat) (stream : Stream) : Registry :=
  { registry with streams := registry.streams.insert id stream }

def modify (registry : Registry) (id : Nat) (f : Stream → Stream) : Registry :=
  { registry with streams := registry.streams.modify id f }

def size (registry : Registry) : Nat := registry.streams.size

def isLocal (registry : Registry) (id : Nat) : Bool := registry.role.initiates id

/-! ## Identifiers -/

def allocate (registry : Registry) : Except Error (Nat × Registry) :=
  if maxStreamId < registry.nextLocal then .error .idsExhausted
  else .ok (registry.nextLocal, { registry with nextLocal := registry.nextLocal + 2 })

def skipTo (registry : Registry) (id : Nat) : Except Error Registry :=
  if !registry.isLocal id || id < registry.nextLocal || maxStreamId < id then
    .error (.invalidStream id)
  else .ok { registry with nextLocal := id }

/-- The peer's identifiers have its parity and grow strictly. -/
def acceptRemote (registry : Registry) (id : Nat) : Except Error Registry :=
  if !registry.role.peer.initiates id then .error (.protocol (.wrongParity id))
  else if id ≤ registry.lastRemote then
    .error (.protocol (.staleStream id registry.lastRemote))
  else .ok { registry with lastRemote := id }

def isIdle (registry : Registry) (id : Nat) : Bool :=
  if registry.isLocal id then registry.nextLocal ≤ id else registry.lastRemote < id

/-! ## Phases -/

def liveIds (registry : Registry) : List Nat :=
  registry.streams.keysWhere fun _ stream => stream.isLive

def activeCount (registry : Registry) (ours : Bool) : Nat :=
  (registry.streams.keysWhere fun id stream =>
    stream.phase.isActive && registry.isLocal id == ours).length

/-- Notes that a stream has closed and gives the closed streams that are forgotten for it, the
oldest first. -/
def markClosed (registry : Registry) (id : Nat) : List Nat × Registry :=
  let closed := if id ∈ registry.closed then registry.closed else registry.closed ++ [id]
  let excess := closed.length - registry.retention
  let evicted := closed.take excess
  (evicted,
    { registry with
      closed := closed.drop excess
      streams := evicted.foldl IdMap.erase registry.streams })

end Registry

end Http2
