import PreviewHub.Log

/-! A watch that comes due at regular instants. It begins when it is started, its first instant
being one interval later; starting it again while it runs changes nothing. -/

namespace PreviewHub

def defaultPollInterval : Nat := 1000

structure Watch (τ : Type) where
  target : τ
  due : Nat
  /-- Whether it has been due before. -/
  begun : Bool := false
  deriving DecidableEq, Repr

/-- A watch that ended by itself is kept until it is stopped or replaced. -/
inductive PollLoop (τ : Type) where
  | absent
  | running (watch : Watch τ)
  | ended
  deriving DecidableEq, Repr

structure Poller (τ : Type) where
  interval : Nat := defaultPollInterval
  loop : PollLoop τ := .absent
  deriving DecidableEq, Repr

namespace Poller

variable {τ : Type}

def isRunning (p : Poller τ) : Bool :=
  match p.loop with
  | .running _ => true
  | _ => false

def due? (p : Poller τ) : Option Nat :=
  match p.loop with
  | .running watch => some watch.due
  | _ => none

/-- Begins a watch unless one runs. Without a runtime none can begin, and one without an interval
ends at once. Its instants count from `now`: what carries the watch on is taken to look at the clock
for the first time at the instant of the start. -/
def start (p : Poller τ) (now : Nat) (runtime : Bool) (target : τ) : Poller τ :=
  if p.isRunning || !runtime then p
  else if p.interval = 0 then { p with loop := .ended }
  else { p with loop := .running { target, due := now + p.interval } }

theorem interval_start (p : Poller τ) (now : Nat) (runtime : Bool) (target : τ) :
    (p.start now runtime target).interval = p.interval := by
  unfold start
  split
  · rfl
  · split <;> rfl

def startRemarks (p : Poller τ) (runtime : Bool) : List Remark :=
  if p.isRunning then []
  else if runtime then [.watchStarted p.interval]
  else [.watchImpossible]

def stop (p : Poller τ) : Poller τ := { p with loop := .absent }

def stopRemarks (p : Poller τ) : List Remark :=
  match p.loop with
  | .absent => []
  | _ => [.watchStopped]

/-- The watch was due and did its work: it is due again one interval later. -/
def advance (p : Poller τ) : Poller τ :=
  match p.loop with
  | .running watch =>
    { p with loop := .running { watch with due := watch.due + p.interval, begun := true } }
  | _ => p

def finish (p : Poller τ) : Poller τ := { p with loop := .ended }

/-- The work of the watch panicked, which ends it. One that was started meanwhile has not been due,
and goes on. -/
def collapse (p : Poller τ) : Poller τ :=
  match p.loop with
  | .running watch => if watch.begun then p.finish else p
  | _ => p

end Poller

end PreviewHub
