import PreviewHub.Hub.State

/-! The vocabulary of a running hub. What a hub still has to do is a list of tasks. Some tasks call
out, to a subscriber, a handle or a watcher, and such a call may use the hub again before it
returns. -/

namespace PreviewHub

inductive Call where
  | notify (subscription : Subscription) (notice : Notice)
  | post (id : PreviewId) (handle : Handle) (data : String) (origin : Origin)
  | probe (id : PreviewId) (handle : Handle)
  | close (id : PreviewId) (handle : Handle)
  | startWatcher
  | stopWatcher
  deriving DecidableEq, Repr

/-- How a call returns. A reply that does not fit the call counts as `done`. -/
inductive Reply where
  | done
  /-- The probed window is closed. -/
  | closed
  | failed (error : Error)
  /-- The subscriber panicked. -/
  | panicked
  deriving DecidableEq, Repr

/-- What a hub can be asked for. `runtime` says whether the caller has a runtime that can carry on
work in the background. -/
inductive Op where
  | start (url : String) (runtime : Bool)
  | registerWindow (handle : Handle) (runtime : Bool)
  | registerFrame (handle : Handle)
  | unregisterFrame (handle : Handle)
  | closeAll
  | poll
  | send (id : PreviewId) (message : Message)
  | broadcast (message : Message)
  | request (message : Message) (timeout : Option Nat) (runtime : Bool)
  | abandon (id : RequestId)
  | dispatch (event : Inbound)
  | subscribe (listener : Listener)
  | unsubscribe (id : SubscriptionId)
  deriving DecidableEq, Repr

inductive Answer where
  | done
  | window (id : PreviewId)
  | count (n : Nat)
  | subscribed (id : SubscriptionId)
  | queued (accepted : Bool)
  /-- The request was sent and is not over. -/
  | awaiting (id : RequestId)
  /-- The request was over as soon as it was sent. -/
  | over (outcome : Outcome)
  | failed (error : Error)
  | panicked
  deriving DecidableEq, Repr

inductive Task where
  /-- Tell those who are subscribed when the task is reached. -/
  | emit (notice : Notice)
  | deliver (subscription : Subscription) (notice : Notice)
  | post (id : PreviewId) (handle : Handle) (data : String)
  | probe (id : PreviewId) (handle : Handle)
  | startWatcher (runtime : Bool)
  | stopWatcher
  /-- Close the windows that are registered when the task is reached, then the rest. -/
  | closeConnections
  | closeWindow (id : PreviewId)
  | closeFrame
  | rejectRequests
  /-- After a pass over the windows: stop watching if none is left. -/
  | stopIdleWatcher
  | restartWatcher
  /-- A request has been posted to `targets` previews. -/
  | awaitReply (id : RequestId) (timeout targets : Nat) (runtime : Bool)
  /-- A call is under way. -/
  | waiting (call : Call)
  /-- The operation is over. -/
  | answer (answer : Answer)
  deriving DecidableEq, Repr

/-- What can be seen of a hub from outside. -/
inductive Output where
  | remark (remark : Remark)
  | emitted (notice : Notice)
  | called (call : Call)
  | answered (answer : Answer)
  | finished (id : RequestId) (outcome : Outcome)
  /-- The listener has taken the event. -/
  | handled (event : Inbound)
  deriving DecidableEq, Repr

/-- What a piece of work leads to: a new state, tasks to be done before all others, and what is seen
of it. -/
structure Effect where
  hub : Hub
  tasks : List Task := []
  outputs : List Output := []

end PreviewHub
