import Http2.Connection.Basic
import Http2.Proofs.Windows

/-!
# Credit on the wire

What frames take from the windows and what they give: `charged` and `chargedOn` add up the payloads
of DATA frames, on the whole connection and on one stream, and `granted` adds up the increments of
WINDOW_UPDATE frames, with those for the connection under stream 0.
-/

namespace Http2

namespace Frame

def charge (id : Nat) (frame : Frame) : Nat := if frame.stream = id then frame.chargedLength else 0

def grant (id : Nat) : Frame → Nat
  | windowUpdate stream increment => if stream = id then increment else 0
  | _ => 0

def reason? : Frame → Option Reason
  | rstStream _ code | goaway _ code _ => some ⟨code⟩
  | _ => none

def isAck : Frame → Bool
  | settings ack _ => ack
  | _ => false

def announced? : Frame → Option (List (Nat × Nat))
  | settings false parameters => some parameters
  | _ => none

def increment? : Frame → Option Nat
  | windowUpdate _ increment => some increment
  | _ => none

def isControl : Frame → Bool
  | data .. | windowUpdate .. | settings .. => false
  | _ => true

structure Inert (frame : Frame) : Prop where
  charge : frame.chargedLength = 0
  grant : ∀ id, frame.grant id = 0
  ack : frame.isAck = false
  announced : frame.announced? = none
  increment : frame.increment? = none

theorem Inert.of_control {frame : Frame} (h : frame.isControl) : frame.Inert := by
  cases frame <;> first | exact ⟨rfl, fun _ => rfl, rfl, rfl, rfl⟩ | cases h

theorem Inert.of_empty (id : Nat) (endStream : Bool) : (data id [] endStream none).Inert :=
  ⟨rfl, fun _ => rfl, rfl, rfl, rfl⟩

theorem charge_le (id : Nat) (frame : Frame) : frame.charge id ≤ frame.chargedLength := by
  unfold charge
  split <;> omega

end Frame

def charged (frames : List Frame) : Nat := total (frames.map Frame.chargedLength)

def chargedOn (id : Nat) (frames : List Frame) : Nat := total (frames.map (Frame.charge id))

def granted (id : Nat) (frames : List Frame) : Nat := total (frames.map (Frame.grant id))

section Sums

variable (id : Nat) (frame : Frame) (frames first second : List Frame)

@[simp] theorem charged_nil : charged [] = 0 := rfl

@[simp] theorem charged_cons :
    charged (frame :: frames) = frame.chargedLength + charged frames := rfl

@[simp] theorem charged_append : charged (first ++ second) = charged first + charged second := by
  simp [charged]

@[simp] theorem chargedOn_nil : chargedOn id [] = 0 := rfl

@[simp] theorem chargedOn_cons :
    chargedOn id (frame :: frames) = frame.charge id + chargedOn id frames := rfl

@[simp] theorem chargedOn_append :
    chargedOn id (first ++ second) = chargedOn id first + chargedOn id second := by
  simp [chargedOn]

@[simp] theorem granted_nil : granted id [] = 0 := rfl

@[simp] theorem granted_cons :
    granted id (frame :: frames) = frame.grant id + granted id frames := rfl

@[simp] theorem granted_append :
    granted id (first ++ second) = granted id first + granted id second := by
  simp [granted]

theorem chargedOn_le_charged : chargedOn id frames ≤ charged frames := by
  induction frames with
  | nil => exact Nat.le_refl 0
  | cons frame rest ih =>
    have := frame.charge_le id
    simp only [chargedOn_cons, charged_cons]
    omega

variable {id frames} (inert : ∀ frame ∈ frames, frame.Inert)

include inert

theorem charged_of_inert : charged frames = 0 := by
  induction frames with
  | nil => rfl
  | cons frame rest ih =>
    have first := (inert frame List.mem_cons_self).charge
    have others := ih fun other member => inert other (List.mem_cons_of_mem _ member)
    rw [charged_cons, first, others]

theorem granted_of_inert : granted id frames = 0 := by
  induction frames with
  | nil => rfl
  | cons frame rest ih =>
    have first := (inert frame List.mem_cons_self).grant id
    have others := ih fun other member => inert other (List.mem_cons_of_mem _ member)
    rw [granted_cons, first, others]

end Sums

theorem split_append {α : Type} {first second before rest : List α} {entry : α}
    (split : first ++ second = before ++ entry :: rest) :
    (∃ more, first = before ++ entry :: more) ∨
      ∃ gap, before = first ++ gap ∧ second = gap ++ entry :: rest := by
  rcases List.append_eq_append_iff.mp split with ⟨gap, start, cut⟩ | ⟨gap, start, cut⟩
  · exact .inr ⟨gap, start, cut⟩
  · cases gap with
    | nil => exact .inr ⟨[], by simpa using start.symm, cut.symm⟩
    | cons head gap =>
      obtain ⟨rfl, -⟩ := List.cons.inj cut
      exact .inl ⟨gap, start⟩

/-! ## What waits to be sent -/

def Outgoing.frame? : Outgoing → Option Frame
  | preface => none
  | frame _ content => some content

namespace Connection

variable {windows : Windows} {registry : Registry} {id : Nat} {window : Int}

def queued (conn : Connection) : List Frame := conn.outbound.filterMap Outgoing.frame?

@[simp] theorem queued_write (conn : Connection) (frame : Frame) :
    (conn.write frame).queued = conn.queued ++ [frame] := by
  simp [queued, write, List.filterMap_append, Outgoing.frame?]

/-! ## Balances -/

/-- The balance of a stream, which is nothing yet for an idle one.  Closed streams have none. -/
def balanceIn (windows : Windows) (registry : Registry) (id : Nat) : Option Int :=
  (windows.balance? id).or (if registry.isIdle id then some 0 else none)

def sendBalance (conn : Connection) (id : Nat) : Option Int :=
  balanceIn conn.sendWindows conn.registry id

def receiveBalance (conn : Connection) (id : Nat) : Option Int :=
  balanceIn conn.receiveWindows conn.registry id

theorem balanceIn_of_window (held : windows.stream? id = some window) :
    balanceIn windows registry id = some (window - windows.initial) := by
  unfold balanceIn Windows.balance?
  rw [held]
  rfl

theorem balanceIn_moved {later : Windows} {change balance : Int}
    (initial : later.initial = windows.initial)
    (found : windows.stream? id = some window) (streams : ∀ other, later.stream? other =
      if id = other then some (window + change) else windows.stream? other) {other : Nat}
    (h : balanceIn later registry other = some balance) :
    balanceIn windows registry other = some (balance - if id = other then change else 0) := by
  unfold balanceIn Windows.balance? at h ⊢
  rw [initial, streams] at h
  split at h
  · rename_i same
    subst same
    simp only [found, Option.map_some, Option.some_or, Option.some.injEq, if_true] at h ⊢
    omega
  · rename_i differ
    rwa [if_neg differ, Int.sub_zero]

end Connection

end Http2
