import PreviewHub.Log

/-! A preview in the same process. Its handle is closed by hand or when nobody receives any more,
and does not open again. -/

namespace PreviewHub

structure Posted where
  data : String
  origin : String
  deriving DecidableEq, Repr

structure LocalPreview where
  marked : Bool := false
  receiving : Bool := true
  inbox : List Posted := []
  deriving DecidableEq, Repr, Inhabited

namespace LocalPreview

def isClosed (p : LocalPreview) : Bool := p.marked || !p.receiving

def post (p : LocalPreview) (data origin : String) : Except Error LocalPreview :=
  if p.marked then .error (.transport "preview is closed")
  else if p.receiving then .ok { p with inbox := p.inbox ++ [⟨data, origin⟩] }
  else .error (.transport "preview receiver dropped")

def markClosed (p : LocalPreview) : LocalPreview := { p with marked := true }

/-- Closes the preview, which can be done once. -/
def close (p : LocalPreview) : Except Error LocalPreview :=
  if p.marked then .error (.transport "preview already closed") else .ok p.markClosed

def receive (p : LocalPreview) : Option Posted × LocalPreview :=
  match p.inbox with
  | [] => (none, p)
  | posted :: rest => (some posted, { p with inbox := rest })

def receiveAll (p : LocalPreview) : List Posted × LocalPreview := (p.inbox, { p with inbox := [] })

/-- Nobody receives any more; what was not received is lost. -/
def dropReceiver (p : LocalPreview) : LocalPreview := { p with receiving := false, inbox := [] }

/-- A post arrives exactly while the preview is open. -/
theorem post_eq_ok_iff {p q : LocalPreview} {data origin : String} :
    p.post data origin = .ok q ↔
      p.isClosed = false ∧ q = { p with inbox := p.inbox ++ [⟨data, origin⟩] } := by
  unfold post isClosed
  cases p.marked <;> cases p.receiving <;> simp [eq_comm]

end LocalPreview

end PreviewHub
