import PreviewHub.Origin.Basic
import PreviewHub.Preview.Local

/-! The channel to previews. It knows one origin, which every post is meant for and every event must
come from. -/

namespace PreviewHub

/-- What the host passes on from a preview: where it came from and its text. -/
structure Inbound where
  origin : String
  source : Option Handle
  data : String
  deriving DecidableEq, Repr

structure Channel where
  origin : Option Origin := none
  deriving DecidableEq, Repr, Inhabited

namespace Channel

def accepts (c : Channel) (event : Inbound) : Bool :=
  match c.origin with
  | some origin => origin.text = event.origin
  | none => false

def target (c : Channel) : Except Error Origin :=
  match c.origin with
  | some origin => .ok origin
  | none => .error .notStarted

def postLocally (c : Channel) (p : LocalPreview) (data : String) :
    Except Error (LocalPreview × List Remark) :=
  match c.target with
  | .error e => .error e
  | .ok origin =>
    match p.post data origin.text with
    | .error e => .error e
    | .ok p =>
      .ok (p, [.postedLocally data.utf8ByteSize, .posted origin.text data.utf8ByteSize])

end Channel

end PreviewHub
