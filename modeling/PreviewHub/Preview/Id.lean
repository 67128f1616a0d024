/-! Names of previews and of their handles. -/

namespace PreviewHub

/-- The id of a preview: the one embedded frame, or a window by its number. -/
structure PreviewId where
  text : String
  deriving DecidableEq, Repr, Inhabited

namespace PreviewId

def frame : PreviewId := ⟨"embedded-game-frame"⟩

def window (index : Nat) : PreviewId := ⟨"preview-window-" ++ toString index⟩

def isFrame (id : PreviewId) : Bool := id = frame

/-- Ids are ordered by their text, character by character. -/
def order (a b : PreviewId) : Ordering := compare a.text b.text

end PreviewId

/-- What the host gives out for a preview, known by its name. Two registrations are of the same
preview if they bring the same handle. -/
structure Handle where
  name : String
  deriving DecidableEq, Repr, Inhabited

end PreviewHub
