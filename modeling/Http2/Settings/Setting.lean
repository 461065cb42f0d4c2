import Http2.Limits
import Http2.Reason

/-!
# Settings by name

The six parameters that an endpoint can announce, their identifiers on the wire and the bounds on
their values.
-/

namespace Http2

inductive Setting where
  | headerTableSize
  | enablePush
  | maxConcurrentStreams
  | initialWindowSize
  | maxFrameSize
  | maxHeaderListSize
  deriving DecidableEq, Repr

namespace Setting

def all : List Setting :=
  [headerTableSize, enablePush, maxConcurrentStreams, initialWindowSize, maxFrameSize,
    maxHeaderListSize]

def wireId : Setting → Nat
  | headerTableSize => 1
  | enablePush => 2
  | maxConcurrentStreams => 3
  | initialWindowSize => 4
  | maxFrameSize => 5
  | maxHeaderListSize => 6

def ofWire? : Nat → Option Setting
  | 1 => some headerTableSize
  | 2 => some enablePush
  | 3 => some maxConcurrentStreams
  | 4 => some initialWindowSize
  | 5 => some maxFrameSize
  | 6 => some maxHeaderListSize
  | _ => none

def name : Setting → String
  | headerTableSize => "HeaderTableSize"
  | enablePush => "EnablePush"
  | maxConcurrentStreams => "MaxConcurrentStreams"
  | initialWindowSize => "InitialWindowSize"
  | maxFrameSize => "MaxFrameSize"
  | maxHeaderListSize => "MaxHeaderListSize"

def fault? : Setting → Nat → Option Reason
  | enablePush, value => if 1 < value then some .protocolError else none
  | initialWindowSize, value => if maxWindow < value then some .flowControlError else none
  | maxFrameSize, value =>
      if leastFrameLimit ≤ value ∧ value ≤ greatestFrameLimit then none else some .protocolError
  | _, _ => none

def Allows (setting : Setting) (value : Nat) : Prop := setting.fault? value = none

instance (setting : Setting) (value : Nat) : Decidable (setting.Allows value) :=
  inferInstanceAs (Decidable (_ = none))

@[simp] theorem ofWire?_wireId (setting : Setting) : ofWire? setting.wireId = some setting := by
  cases setting <;> rfl

end Setting

end Http2
