/-! Classes of characters, given by runs of codes. -/

namespace PreviewHub.Text

/-- First and last code of each run, ascending. -/
abbrev Runs := List (Nat × Nat)

def Runs.has (runs : Runs) (c : Char) : Bool :=
  runs.any fun run => run.1 ≤ c.toNat && c.toNat ≤ run.2

def classOf {κ : Type} (classes : List (κ × Runs)) (c : Char) : Option κ :=
  (classes.find? fun entry => entry.2.has c).map (·.1)

end PreviewHub.Text
