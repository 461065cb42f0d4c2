import Http2.Header.Field
import Http2.Settings.Basic

/-!
# Events

What the application is told.
-/

namespace Http2

structure Promise where
  associated : Nat
  request : List Field
  deriving DecidableEq, Repr

inductive Event where
  | streamCreated (stream : Nat) (promise : Option Promise)
  | headers (stream : Nat) (fields : List Field) (endStream : Bool)
  | data (stream : Nat) (octets : Octets) (endStream : Bool)
  | trailers (stream : Nat) (fields : List Field)
  | streamClosed (stream : Nat) (reason : Option Reason)
  | ownSettings (settings : Settings)
  | peerSettings (settings : Settings)
  | goaway (last : Nat) (reason : Reason) (debug : Octets)
  | pingAck (payload : UInt64)
  | altSvc (stream : Nat) (origin value : Octets)
  | origin (origins : List Octets)
  /-- Something was left unsent, `unsent` octets of data among it. -/
  | sendCancelled (stream unsent : Nat) (error : Error)
  | sessionError (error : Error)
  deriving DecidableEq, Repr

namespace Event

def stream? : Event → Option Nat
  | streamCreated id _ | headers id .. | data id .. | trailers id _ | streamClosed id _ |
    sendCancelled id .. => some id
  | altSvc id .. => if id = 0 then none else some id
  | _ => none

end Event

end Http2
