/-!
# Bounds of the protocol
-/

namespace Http2

def maxStreamId : Nat := 2147483647

/-- The low 31 bits of a number, which is what a field with a reserved high bit holds. -/
def low31 (value : Nat) : Nat := value % 2147483648

def defaultWindow : Nat := 65535

def maxWindow : Nat := 2147483647

def leastFrameLimit : Nat := 16384

def greatestFrameLimit : Nat := 16777215

/-- Where a setting puts no bound, this stands for none. -/
def unlimited : Nat := 4294967295

end Http2
