import PreviewHub.Hub.Task
import PreviewHub.Preview.Local
import PreviewHub.Scenario.Participant

/-! Scripts for a hub: the steps, what each gives, and what is written down about the calls that the
hub makes meanwhile. -/

namespace PreviewHub.Scenario

/-- New answers of a scripted handle; what is `none` stays as it is. -/
structure HandleChange where
  postError : Option (Option Error) := none
  probeError : Option (Option Error) := none
  closeError : Option (Option Error) := none
  closed : Option Bool := none

inductive Step where
  | subscribe (name : String) (silent : Bool) (panics : List NoticeKind) (times : Nat)
      (on : List (NoticeKind × List Step))
  /-- Subscribes the subscriber of another subscription once more. -/
  | subscribeAgain (name other : String)
  | unsubscribe (name : String)
  | start (url : String)
  | registerWindow (handle : Handle)
  | registerFrame (handle : Handle)
  | unregisterFrame (handle : Handle)
  | send (id : PreviewId) (message : Json)
  | broadcast (message : Json)
  | request (slot : String) (message : Json) (timeout : Option Nat)
  | abandon (slot : String)
  | dispatch (event : Inbound)
  | closeAll
  | summary
  | nothing
  | markClosed (handle : Handle)
  | dropReceiver (handle : Handle)
  | closeHandle (handle : Handle)
  | setHandle (handle : Handle) (change : HandleChange)
  | poll
  /-- The owner of the hub lets go of it. -/
  | letGo
  | advance (milliseconds : Nat)
  /-- Steps with nothing happening in between. -/
  | batch (steps : List Step)
  /-- A step taken without a runtime. It gives an answer even if it panics. -/
  | outside (step : Step)

instance : Inhabited Step := ⟨.nothing⟩

inductive Result where
  | none
  | done
  | gone
  | unknown
  | noTarget
  | panicked
  | awaiting
  | failed (error : Error)
  | flag (value : Bool)
  | count (n : Nat)
  | text (value : String)
  | window (id : PreviewId)
  | subscribed (id : SubscriptionId)
  | over (outcome : Outcome)
  | several (results : List Result)

inductive Entry where
  | notified (name : String) (notice : Notice)
  | posted (handle : Handle) (data : String) (origin : Origin)
  | probed (handle : Handle)
  | closed (handle : Handle)
  | watcherStarted
  | watcherStopped
  | acted (step : Step) (result : Result)

inductive HandleCue where
  | post
  | probe
  | close
  deriving DecidableEq, Repr

/-- A handle that follows a script: it is written down, reacts, and then answers. -/
structure ScriptedHandle where
  postError : Option Error := none
  probeError : Option Error := none
  closeError : Option Error := none
  closed : Bool := false
  reactions : List (Reaction HandleCue Step) := []

def ScriptedHandle.change (s : ScriptedHandle) (c : HandleChange) : ScriptedHandle :=
  { s with
    postError := c.postError.getD s.postError
    probeError := c.probeError.getD s.probeError
    closeError := c.closeError.getD s.closeError
    closed := c.closed.getD s.closed }

inductive Device where
  | localPreview (preview : LocalPreview)
  /-- Takes every post and is never closed. -/
  | plain
  | scripted (handle : ScriptedHandle)

inductive WatcherCue where
  | start
  | stop
  deriving DecidableEq, Repr

/-- A watcher from outside. An eager one polls whenever it is started. -/
structure ScriptedWatcher where
  eager : Bool := false
  reactions : List (Reaction WatcherCue Step) := []
  /-- Whether it was ever given something to watch. -/
  hasTarget : Bool := false

end PreviewHub.Scenario
