/-!
# Reasons

The codes with which an endpoint explains a reset stream or a failed connection.  Any 32-bit code
may arrive; fourteen of them have a name.
-/

namespace Http2

def hexText (value : Nat) : String :=
  "0x" ++ String.ofList (Nat.toDigits 16 value)

structure Reason where
  code : Nat
  deriving DecidableEq, Repr

namespace Reason

def noError : Reason := ⟨0⟩
def protocolError : Reason := ⟨1⟩
def internalError : Reason := ⟨2⟩
def flowControlError : Reason := ⟨3⟩
def settingsTimeout : Reason := ⟨4⟩
def streamClosed : Reason := ⟨5⟩
def frameSizeError : Reason := ⟨6⟩
def refusedStream : Reason := ⟨7⟩
def cancel : Reason := ⟨8⟩
def compressionError : Reason := ⟨9⟩
def connectError : Reason := ⟨10⟩
def enhanceYourCalm : Reason := ⟨11⟩
def inadequateSecurity : Reason := ⟨12⟩
def http11Required : Reason := ⟨13⟩

def named : List Reason :=
  [noError, protocolError, internalError, flowControlError, settingsTimeout, streamClosed,
    frameSizeError, refusedStream, cancel, compressionError, connectError, enhanceYourCalm,
    inadequateSecurity, http11Required]

def name? (reason : Reason) : Option String :=
  ["NO_ERROR", "PROTOCOL_ERROR", "INTERNAL_ERROR", "FLOW_CONTROL_ERROR", "SETTINGS_TIMEOUT",
    "STREAM_CLOSED", "FRAME_SIZE_ERROR", "REFUSED_STREAM", "CANCEL", "COMPRESSION_ERROR",
    "CONNECT_ERROR", "ENHANCE_YOUR_CALM", "INADEQUATE_SECURITY", "HTTP_1_1_REQUIRED"][reason.code]?

def text (reason : Reason) : String :=
  reason.name?.getD ("Reason(" ++ hexText reason.code ++ ")")

def description (reason : Reason) : String :=
  (["Graceful shutdown", "Protocol error detected", "Implementation fault",
    "Flow-control limits exceeded", "Settings not acknowledged",
    "Frame received for closed stream", "Frame size incorrect", "Stream not processed",
    "Stream cancelled", "Compression state not updated",
    "TCP connection error for CONNECT method", "Processing capacity exceeded",
    "Negotiated TLS parameters not acceptable",
    "Use HTTP/1.1 for the request"][reason.code]?).getD "Unknown error code"

end Reason

end Http2
