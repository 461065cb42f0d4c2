import Http2.IdMap
import Http2.Limits

/-!
# Flow-control windows

One end of a connection keeps the credit of one direction: a window for the connection and one for
each stream that is not closed, and the streams that wait for credit in the order in which they
began to wait.  Stream 0 stands for the connection.

Windows are 32-bit numbers.  A window never exceeds `maxWindow`, and it may be negative after the
peer has lowered the initial window.
-/

namespace Http2

inductive WindowError where
  | exhausted (stream requested : Nat) (available : Int)
  | overflow (stream : Nat)
  deriving DecidableEq, Repr

namespace WindowError

def message : WindowError → String
  | exhausted stream requested available =>
      s!"window of stream {stream} exhausted: requested {requested}, available {available}"
  | overflow stream => s!"window of stream {stream} would exceed 2^31-1"

def stream : WindowError → Nat
  | exhausted stream _ _ => stream
  | overflow stream => stream

end WindowError

/-- The number of 32 bits, with a sign, that is congruent to `value`. -/
def wrap32 (value : Int) : Int := Int.bmod value 4294967296

structure Windows where
  connection : Int
  initial : Int
  streams : IdMap Int
  /-- Streams waiting for credit, the longest waiting first. -/
  parked : List Nat
  deriving DecidableEq, Repr

namespace Windows

def new (connection initial : Nat) : Windows :=
  ⟨min connection maxWindow, min initial maxWindow, ∅, []⟩

def default : Windows := new defaultWindow defaultWindow

instance : Inhabited Windows := ⟨default⟩

def stream? (windows : Windows) (id : Nat) : Option Int := windows.streams.get? id

def openStream (windows : Windows) (id : Nat) : Windows :=
  if windows.streams.contains id then windows
  else { windows with streams := windows.streams.insert id windows.initial }

/-! ## Waiting for credit -/

def park (windows : Windows) (id : Nat) : Windows :=
  if id ∈ windows.parked then windows
  else { windows with parked := windows.parked ++ [id] }

def isParked (windows : Windows) (id : Nat) : Bool := windows.parked.contains id

def unpark (windows : Windows) (id : Nat) : Windows :=
  { windows with parked := windows.parked.erase id }

def closeStream (windows : Windows) (id : Nat) : Windows :=
  { windows with streams := windows.streams.erase id }.unpark id

def popParked? (windows : Windows) : Option (Nat × Windows) :=
  match windows.parked with
  | [] => none
  | id :: rest => some (id, { windows with parked := rest })

/-! ## Spending credit -/

def available (windows : Windows) (id : Nat) : Nat :=
  (min windows.connection ((windows.stream? id).getD 0)).toNat

def chargeConnection (windows : Windows) (count : Nat) : Except WindowError Windows :=
  if windows.connection < count then .error (.exhausted 0 count windows.connection)
  else .ok { windows with connection := windows.connection - count }

def chargeStream (windows : Windows) (id count : Nat) : Except WindowError Windows :=
  match windows.stream? id with
  | none => .error (.exhausted id count 0)
  | some window =>
      if window < count then .error (.exhausted id count window)
      else .ok { windows with streams := windows.streams.insert id (window - count) }

/-- Takes `count` octets from the stream and from the connection, or from neither. -/
def charge (windows : Windows) (id count : Nat) : Except WindowError Windows :=
  let window := (windows.stream? id).getD 0
  if windows.connection < count then .error (.exhausted 0 count windows.connection)
  else if window < count then .error (.exhausted id count window)
  else
    .ok { windows with
      connection := windows.connection - count
      streams := windows.streams.modify id (· - (count : Int)) }

/-! ## Granting credit -/

def window? (windows : Windows) (id : Nat) : Option Int :=
  if id = 0 then some windows.connection else windows.stream? id

def setWindow (windows : Windows) (id : Nat) (window : Int) : Windows :=
  if id = 0 then { windows with connection := window }
  else { windows with streams := windows.streams.insert id window }

deriving instance DecidableEq for EStateM.Result

/-- Adds `count` octets and tells whether the window became positive.  A missing window stays so. -/
def credit (windows : Windows) (id count : Nat) :
    EStateM.Result WindowError Windows Bool :=
  match windows.window? id with
  | none => .ok false windows
  | some window =>
      let updated := window + count
      if (maxWindow : Int) < updated then .error (.overflow id) windows
      else .ok (window ≤ 0 ∧ 0 < updated) (windows.setWindow id updated)

/-- Moves every stream window by `delta`, unless one of them would become too large, and gives the
streams whose windows became positive.  Of several that would become too large the error names the
lowest stream, though any of them would do. -/
def shift (windows : Windows) (delta : Int) : Except WindowError (List Nat × Windows) :=
  match windows.streams.keysWhere fun _ window => (maxWindow : Int) < window + delta with
  | id :: _ => .error (.overflow id)
  | [] =>
      .ok (windows.streams.keysWhere fun _ window => window ≤ 0 ∧ 0 < window + delta,
        { windows with
          streams := windows.streams.mapWithKey fun _ window => wrap32 (window + delta)
          initial := max 0 (min (windows.initial + delta) maxWindow) })

def refill (windows : Windows) (id target : Nat) : Option (Nat × Windows) :=
  let target := min target maxWindow
  match windows.window? id with
  | none => none
  | some window =>
      if (target : Int) < window * 2 then none
      else if (target : Int) ≤ window then none
      else some ((target - window).toNat, windows.setWindow id target)

end Windows

end Http2
