import PreviewHub.Json.Reader

/-! What can go wrong between the editor and its previews. Each cause has one wording, given by
`Error.message`, and callers sort causes by the three tests at the end. -/

namespace PreviewHub

/-- The number that a request carries and its reply echoes. -/
abbrev RequestId := Nat

inductive Error where
  | config (detail : String)
  | invalidOrigin (url detail : String)
  | notStarted
  | closing
  | timeout (request : RequestId) (milliseconds : Nat)
  | protocol (detail : String)
  | transport (detail : String)
  | invalidMessage (detail : String)
  | json (cause : Json.SyntaxError)
  | channelClosed
  deriving DecidableEq, Repr

namespace Error

def message : Error → String
  | .config detail => "Configuration error: " ++ detail
  | .invalidOrigin url detail => "Invalid origin '" ++ url ++ "': " ++ detail
  | .notStarted => "Debugger server is not started"
  | .closing => "Debugger server is closing"
  | .timeout request ms =>
    "No response received for messageId " ++ toString request ++ " after " ++ toString ms ++ "ms"
  | .protocol detail => "Protocol error: " ++ detail
  | .transport detail => "Transport error: " ++ detail
  | .invalidMessage detail => "Invalid message: " ++ detail
  | .json cause => "JSON error: " ++ cause.message
  | .channelClosed => "Channel closed"

def source? : Error → Option String
  | .json cause => some cause.message
  | .channelClosed => some "channel closed"
  | _ => none

def isTimeout : Error → Bool
  | .timeout _ _ => true
  | _ => false

def isConnection : Error → Bool
  | .transport _ => true
  | .closing => true
  | .channelClosed => true
  | _ => false

def isRecoverable : Error → Bool
  | .timeout _ _ => true
  | .transport _ => true
  | .notStarted => true
  | _ => false

end Error

end PreviewHub
