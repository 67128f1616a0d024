import PreviewHub.Watch.Poller

/-! A poller with its clock and its targets. A target counts how often it is polled until it is
dropped. Time passes from one due instant to the next, so that nothing due is missed. -/

namespace PreviewHub.Watch

/-- Targets by name, with the number of polls so far, or `none` once dropped. -/
abbrev Targets := List (String × Option Nat)

structure Session where
  poller : Poller String := {}
  clock : Nat := 0
  targets : Targets := []

inductive Op where
  | start (target : String) (runtime : Bool)
  | stop
  | drop (target : String)
  | advance (milliseconds : Nat)
  deriving DecidableEq, Repr

namespace Session

def polls? (s : Session) (target : String) : Option Nat :=
  ((s.targets.find? fun entry => entry.1 = target).map (·.2)).join

def meet (targets : Targets) (target : String) : Targets :=
  if targets.any fun entry => entry.1 = target then targets else targets ++ [(target, some 0)]

def update (targets : Targets) (target : String) (change : Option Nat → Option Nat) : Targets :=
  targets.map fun entry => if entry.1 = target then (entry.1, change entry.2) else entry

/-- The watch is due: it polls its target, or ends if the target is gone. -/
def fire (s : Session) (watch : Watch String) : Session × List Remark :=
  match s.polls? watch.target with
  | some _ =>
    ({ s with
        poller := s.poller.advance
        targets := update s.targets watch.target fun polls => polls.map (· + 1) },
      [.probing])
  | none => ({ s with poller := s.poller.finish }, [.watchTargetGone])

/-- Lets time pass until `goal`, firing what comes due. The watch fires at most once in a
millisecond, so fuel beyond the time that passes changes nothing. -/
def passUntil : Nat → Nat → Session → Session × List Remark
  | 0, goal, s => ({ s with clock := goal }, [])
  | fuel + 1, goal, s =>
    match s.poller.loop with
    | .running watch =>
      if watch.due ≤ goal then
        let (s, remarks) := { s with clock := watch.due }.fire watch
        let (s, later) := passUntil fuel goal s
        (s, remarks ++ later)
      else ({ s with clock := goal }, [])
    | _ => ({ s with clock := goal }, [])

def step (s : Session) : Op → Session × List Remark
  | .start target runtime =>
    ({ s with
        poller := s.poller.start s.clock runtime target
        targets := meet s.targets target },
      s.poller.startRemarks runtime)
  | .stop => ({ s with poller := s.poller.stop }, s.poller.stopRemarks)
  | .drop target => ({ s with targets := update (meet s.targets target) target fun _ => none }, [])
  | .advance milliseconds => passUntil (milliseconds + 1) (s.clock + milliseconds) s

end Session

end PreviewHub.Watch
