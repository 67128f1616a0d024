import PreviewHub.Bus.Basic

/-! Participants of a scenario that follow a script. A reaction is a list of steps that is taken
when its cue comes, and only so many times. -/

namespace PreviewHub.Scenario

/-- What is done on a cue, and how many times it can still happen. -/
structure Reaction (κ σ : Type) where
  cue : κ
  left : Nat
  steps : List σ

variable {κ σ : Type} [DecidableEq κ]

def react (cue : κ) : List (Reaction κ σ) → List σ × List (Reaction κ σ)
  | [] => ([], [])
  | r :: rs =>
    if r.cue = cue then
      if r.left = 0 then ([], r :: rs) else (r.steps, { r with left := r.left - 1 } :: rs)
    else
      let (steps, rest) := react cue rs
      (steps, r :: rest)

/-- A subscriber. A silent one takes no notice of anything. -/
structure Subscriber (σ : Type) where
  name : String
  silent : Bool := false
  panics : List NoticeKind := []
  reactions : List (Reaction NoticeKind σ) := []

/-- The subscribers, each by its number as a listener, and the subscriptions by name, the newest
first. -/
structure Cast (σ : Type) where
  subscribers : List (Subscriber σ) := []
  subscriptions : List (String × Subscription) := []

namespace Cast

def find? (c : Cast σ) (name : String) : Option Subscription :=
  (c.subscriptions.find? fun entry => entry.1 = name).map (·.2)

def add (c : Cast σ) (subscriber : Subscriber σ) : Listener × Cast σ :=
  (c.subscribers.length, { c with subscribers := c.subscribers ++ [subscriber] })

def bind (c : Cast σ) (name : String) (subscription : Subscription) : Cast σ :=
  { c with subscriptions := (name, subscription) :: c.subscriptions }

def cue (c : Cast σ) (listener : Listener) (kind : NoticeKind) : List σ × Cast σ :=
  match c.subscribers[listener]? with
  | none => ([], c)
  | some subscriber =>
    let (steps, reactions) := react kind subscriber.reactions
    (steps, { c with subscribers := c.subscribers.set listener { subscriber with reactions } })

end Cast

end PreviewHub.Scenario
