import PreviewHub.Error
import PreviewHub.Json.Order

/-! What is sent to previews and what comes back. A message is a JSON object whose keys ascend; a
payload is any JSON value. Both may name a command and the request that they belong to. -/

namespace PreviewHub

def commandKey : String := "command"

def requestKey : String := "messageId"

namespace Json

def command? (payload : Json) : Option String := (payload.get? commandKey).bind string?

/-- The request that a payload answers: its id is an integer, and `1.0` is none. -/
def requestId? (payload : Json) : Option RequestId := (payload.get? requestKey).bind natural?

end Json

structure Message extends Json.Object where
  deriving DecidableEq, Repr

instance : Inhabited Message := ⟨⟨[]⟩⟩

namespace Message

def ofCommand (command : String) : Message :=
  ⟨[(commandKey, .str command)], List.pairwise_singleton _ _, trivial, trivial⟩

def ofJson : Json → Except Error Message
  | .obj fields => .ok ⟨fields⟩
  | other => .error (.invalidMessage ("expected a JSON object, got " ++ other.render))

def toJson (m : Message) : Json := .obj m.fields

def insert (m : Message) (key : String) (value : Json) : Message := ⟨m.toObject.insert key value⟩

def get? (m : Message) (key : String) : Option Json := Fields.get? m.fields key

def command? (m : Message) : Option String := m.toJson.command?

def requestId? (m : Message) : Option RequestId := m.toJson.requestId?

/-- Marks the message as the request `id`, whatever id it had. -/
def withRequestId (m : Message) (id : RequestId) : Message := m.insert requestKey (.natural id)

def encode (m : Message) : String := m.toJson.render

end Message

def decodePayload (text : String) : Except Error Json :=
  match Json.parse text with
  | .ok payload => .ok payload
  | .error cause => .error (.json cause)

end PreviewHub
