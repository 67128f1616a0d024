import PreviewHub.Bus.Basic
import PreviewHub.Channel
import PreviewHub.Hub.Options
import PreviewHub.Preview.Registry
import PreviewHub.Request.Pending

/-! The state of a hub: the previews that are connected, the requests that wait for them, and those
who are told about it. Windows, requests and subscriptions are numbered without end, so what is said
of the numbers holds as long as none of them reaches `2 ^ 64`. -/

namespace PreviewHub

/-- What notices that windows were closed: the hub's own polling, or a watcher from outside, of
which the hub only knows whether it runs. -/
inductive Watcher where
  | polling (poller : Poller Unit)
  | external (running : Bool)
  deriving DecidableEq, Repr

namespace Watcher

def isRunning : Watcher → Bool
  | .polling poller => poller.isRunning
  | .external running => running

def due? : Watcher → Option Nat
  | .polling poller => poller.due?
  | .external _ => none

def collapse : Watcher → Watcher
  | .polling poller => .polling poller.collapse
  | .external running => .external running

end Watcher

/-- A request that was sent and is neither over nor given up. -/
structure Request where
  id : RequestId
  timeout : Nat
  deadline : Nat
  deriving DecidableEq, Repr

structure Hub where
  options : Options
  watcher : Watcher
  started : Bool := false
  channel : Channel := {}
  /-- Whether the queue of events has been handed to a listener. -/
  listening : Bool := false
  registry : Registry := {}
  pending : Pending
  bus : Bus := {}
  inbox : List Inbound := []
  requests : List Request := []
  clock : Nat := 0
  deriving DecidableEq, Repr

namespace Hub

def new (options : Options) (watcher : Watcher) : Hub :=
  { options, watcher, pending := { limit := options.maxPending } }

def build (options : Options) (ownWatcher : Bool) : Except Error Hub :=
  match options.check ownWatcher with
  | .error e => .error e
  | .ok () =>
    .ok (new options
      (if ownWatcher then .external false else .polling { interval := options.pollInterval }))

def isWatching (h : Hub) : Bool := h.watcher.isRunning

def summary (h : Hub) : String :=
  "DebuggerServer \x7b state: " ++ (if h.started then "Started" else "Stopped") ++
    ", connection_count: " ++ toString h.registry.size ++
    ", pending_request_count: " ++ toString h.pending.size ++ ", .. \x7d"

def dueInstants (h : Hub) : List Nat := h.watcher.due?.toList ++ h.requests.map (·.deadline)

def nextDue? (h : Hub) : Option Nat := h.dueInstants.min?

end Hub

end PreviewHub
