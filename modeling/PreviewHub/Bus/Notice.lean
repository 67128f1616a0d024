import PreviewHub.Message
import PreviewHub.Preview.Id

/-! What subscribers are told. -/

namespace PreviewHub

/-- A notice. Those about connections carry the list of all previews right after the change. -/
inductive Notice where
  | opened (id : PreviewId) (ids : List PreviewId)
  | closed (id : PreviewId) (ids : List PreviewId)
  | errored (id : PreviewId) (text : String)
  | stateChanged
  | message (id : PreviewId) (payload : Json)
  | error (cause : Error)
  deriving DecidableEq, Repr

inductive NoticeKind where
  | opened
  | closed
  | errored
  | stateChanged
  | message
  | error
  deriving DecidableEq, Repr

def Notice.kind : Notice → NoticeKind
  | .opened _ _ => .opened
  | .closed _ _ => .closed
  | .errored _ _ => .errored
  | .stateChanged => .stateChanged
  | .message _ _ => .message
  | .error _ => .error

def NoticeKind.text : NoticeKind → String
  | .opened => "connection_opened"
  | .closed => "connection_closed"
  | .errored => "connection_errored"
  | .stateChanged => "server_state_changed"
  | .message => "handle_parsed_message"
  | .error => "error_received"

end PreviewHub
