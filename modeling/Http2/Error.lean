import Http2.Frame.Kind
import Http2.Header.Failure
import Http2.Settings.Setting
import Http2.Stream.Phase
import Http2.Windows

/-!
# Errors

A `Violation` is something the peer did, or failed to do, for which the whole connection is given
up.  An `Error` is why a call or a frame was turned down: a violation, a fault of one stream, or a
request that the application may not make.
-/

namespace Http2

inductive Violation where
  | badPreface
  | frameTooLong (length limit : Nat)
  | expectedContinuation (stream : Nat) (kind : UInt8)
  | unexpectedContinuation (stream : Nat)
  | strayContinuation (stream pending : Nat)
  | blockTooLarge (length limit : Nat)
  | withoutStream (kind : FrameKind)
  | withStream (kind : FrameKind) (stream : Nat)
  | wrongLength (kind : FrameKind) (length : Nat)
  | tooShort (kind : FrameKind)
  | paddingMissing
  | paddingTooLong
  | priorityTruncated
  | ackWithPayload
  | settingsLength
  | compression (failure : Header.Failure)
  | settingValue (setting : Setting) (value : Nat)
  | ackNotDue
  | settingsTimeout
  | window (error : WindowError)
  | zeroIncrement
  | idleStream (kind : FrameKind) (stream : Nat)
  | closedStream (kind : FrameKind) (stream : Nat)
  | wrongPhase (kind : FrameKind) (stream : Nat) (phase : Phase)
  | wrongParity (stream : Nat)
  | staleStream (stream last : Nat)
  | cannotOpen (stream : Nat)
  | cannotReserve (stream : Nat)
  | pushToServer
  | pushRefused
  | stated (reason : Reason) (text : String)
  deriving DecidableEq, Repr

namespace Violation

def reason : Violation → Reason
  | frameTooLong .. | wrongLength .. | tooShort _ | paddingMissing | priorityTruncated
  | ackWithPayload | settingsLength => .frameSizeError
  | blockTooLarge .. => .enhanceYourCalm
  | compression _ => .compressionError
  | settingValue setting value => (setting.fault? value).getD .protocolError
  | settingsTimeout => .settingsTimeout
  | window _ => .flowControlError
  | closedStream .. => .streamClosed
  | stated reason _ => reason
  | _ => .protocolError

def message : Violation → String
  | badPreface => "invalid connection preface"
  | frameTooLong length limit => s!"frame of {length} bytes exceeds max frame size {limit}"
  | expectedContinuation stream kind =>
      s!"expected CONTINUATION for stream {stream}, got frame type " ++ hexText kind.toNat
  | unexpectedContinuation stream => s!"unexpected CONTINUATION frame for stream {stream}"
  | strayContinuation stream pending =>
      s!"CONTINUATION for stream {stream} but pending headers on stream {pending}"
  | blockTooLarge length limit => s!"header block too large ({length} bytes, max {limit})"
  | withoutStream kind => kind.name ++ " frame on stream 0"
  | withStream kind stream => kind.name ++ s!" frame on stream {stream}, expected stream 0"
  | wrongLength kind length => kind.name ++ s!" frame must be {length} bytes"
  | tooShort kind => kind.name ++ " frame too short"
  | paddingMissing => "PADDED frame with no payload"
  | paddingTooLong => "invalid padding length"
  | priorityTruncated => "HEADERS priority block truncated"
  | ackWithPayload => "SETTINGS ACK with payload"
  | settingsLength => "SETTINGS payload not a multiple of 6"
  | compression failure => "HPACK decode error: " ++ failure.text
  | settingValue setting value => s!"invalid value {value} for setting " ++ setting.name
  | ackNotDue => "SETTINGS ACK without pending SETTINGS"
  | settingsTimeout => "settings not acknowledged in time"
  | window error => error.message
  | zeroIncrement => "WINDOW_UPDATE with zero increment on connection"
  | idleStream kind stream => kind.name ++ s!" on idle stream {stream}"
  | closedStream kind stream => kind.name ++ s!" on closed stream {stream}"
  | wrongPhase kind stream phase => kind.name ++ s!" on stream {stream} in state " ++ phase.text
  | wrongParity stream => s!"stream id {stream} has the wrong parity"
  | staleStream stream last =>
      s!"stream id {stream} is not greater than last peer stream {last}"
  | cannotOpen stream => s!"cannot open stream {stream}"
  | cannotReserve stream => s!"cannot reserve stream {stream}"
  | pushToServer => "PUSH_PROMISE received by a server"
  | pushRefused => "PUSH_PROMISE received with push disabled"
  | stated _ text => text

end Violation

/-! ## What the application asked for -/

inductive Operation where
  | openStream
  | reserveStream
  | changeState
  | sendData
  | sendTrailers
  | reprioritize
  | respond
  | sendInformational
  | push
  | sendAltSvc
  | sendOrigin
  deriving DecidableEq, Repr

def Operation.text : Operation → String
  | openStream => "open"
  | reserveStream => "reserve"
  | changeState => "change state"
  | sendData => "send data"
  | sendTrailers => "send trailers"
  | reprioritize => "reprioritize"
  | respond => "respond"
  | sendInformational => "send informational headers"
  | push => "push"
  | sendAltSvc => "send ALTSVC"
  | sendOrigin => "send ORIGIN"

inductive Error where
  | protocol (violation : Violation)
  | connection (violation : Violation)
  | stream (stream : Nat) (reason : Reason)
  | refused (stream : Nat)
  | window (error : WindowError)
  | goingAway (last : Nat)
  | sessionClosed
  | unknownStream (stream : Nat)
  | invalidState (stream : Nat) (operation : Operation)
  | invalidStream (stream : Nat)
  | invalidSetting (id value : Nat)
  | invalidPriority (stream : Nat)
  | pushDisabled
  | idsExhausted
  deriving DecidableEq, Repr

namespace Error

def message : Error → String
  | protocol violation =>
      "protocol error (" ++ violation.reason.text ++ "): " ++ violation.message
  | connection violation =>
      "connection error (" ++ violation.reason.text ++ "): " ++ violation.message
  | stream id reason => s!"stream {id} error: " ++ reason.text
  | refused id => s!"stream {id} refused"
  | window error => error.message
  | goingAway last => s!"session is going away, last stream id {last}"
  | sessionClosed => "session closed"
  | unknownStream id => s!"unknown stream {id}"
  | invalidState id operation =>
      s!"stream {id} cannot " ++ operation.text ++ " in its current state"
  | invalidStream id => s!"invalid stream id {id}"
  | invalidSetting id value => s!"invalid value {value} for setting " ++ hexText id
  | invalidPriority id => s!"invalid priority for stream {id}"
  | pushDisabled => "peer has disabled server push"
  | idsExhausted => "stream ids exhausted"

def reason : Error → Reason
  | protocol violation | connection violation => violation.reason
  | stream _ reason => reason
  | refused _ | goingAway _ => .refusedStream
  | window _ => .flowControlError
  | sessionClosed => .cancel
  | _ => .internalError

def isFatal : Error → Bool
  | protocol _ | connection _ => true
  | _ => false

def debugText : Error → String
  | protocol violation | connection violation => violation.message
  | error => error.message

end Error

end Http2
