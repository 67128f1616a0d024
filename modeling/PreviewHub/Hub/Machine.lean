import PreviewHub.Hub.Operations

/-! A hub at work. The machine does its tasks one by one. While a call is under way it is the turn
of those outside, who may begin further operations before they let the call return; the tasks of
such an operation come before all that was to be done. A run is any sequence of moves: a move that
is not possible changes nothing. Runs are sequential. Between a change that an operation makes and
the notice that tells of it nobody acts but those whom the operation calls: there is no second
thread. -/

namespace PreviewHub

namespace Hub

def callOut (h : Hub) (call : Call) (after : List Task) : Effect :=
  ⟨h, .waiting call :: after, [.called call]⟩

def detach (h : Hub) (id : PreviewId) : Option (Handle × List PreviewId × Hub) :=
  match h.registry.remove id with
  | none => none
  | some (handle, registry) => some (handle, registry.list, { h with registry })

def startWatcher (h : Hub) (runtime : Bool) : Effect :=
  match h.watcher with
  | .polling poller =>
    ⟨{ h with watcher := .polling (poller.start h.clock runtime ()) }, [],
      remarks (poller.startRemarks runtime)⟩
  | .external _ => { h with watcher := .external true }.callOut .startWatcher []

def stopWatcher (h : Hub) : Effect :=
  match h.watcher with
  | .polling poller =>
    ⟨{ h with watcher := .polling poller.stop }, [], remarks poller.stopRemarks⟩
  | .external _ => { h with watcher := .external false }.callOut .stopWatcher []

def postFailed (h : Hub) (id : PreviewId) (error : Error) : Effect :=
  ⟨h, [.emit (.errored id error.message)], [.remark (.postFailed id error.message)]⟩

/-- Does a task. A call that is under way is not done by the hub. -/
def perform (h : Hub) : Task → Effect
  | .emit notice => ⟨h, h.bus.subscriptions.map fun s => .deliver s notice, [.emitted notice]⟩
  | .deliver subscription notice => h.callOut (.notify subscription notice) []
  | .post id handle data =>
    match h.channel.target with
    | .ok origin => h.callOut (.post id handle data origin) []
    | .error e => h.postFailed id e
  | .probe id handle => h.callOut (.probe id handle) []
  | .startWatcher runtime => h.startWatcher runtime
  | .stopWatcher => h.stopWatcher
  | .closeConnections =>
    ⟨h, h.registry.windows.map (fun window => .closeWindow window.1) ++
        [.closeFrame, .rejectRequests],
      [.remark (.closingAll h.registry.windowCount)]⟩
  | .closeWindow id =>
    match h.detach id with
    | none => ⟨h, [], []⟩
    | some (handle, ids, h) => h.callOut (.close id handle) [.emit (.closed id ids)]
  | .closeFrame =>
    match h.detach .frame with
    | none => ⟨h, [], []⟩
    | some (_, ids, h) => ⟨h, [.emit (.closed .frame ids)], [.remark .frameDetached]⟩
  | .rejectRequests =>
    let (count, pending) := h.pending.rejectAll .closing
    ⟨{ h with pending }, [], remarks (Pending.rejectRemarks count)⟩
  | .stopIdleWatcher =>
    if 0 < h.registry.windowCount then ⟨h, [], []⟩ else ⟨h, [.stopWatcher, .restartWatcher], []⟩
  | .restartWatcher =>
    if 0 < h.registry.windowCount then ⟨h, [.startWatcher true], []⟩ else ⟨h, [], []⟩
  | .awaitReply id timeout targets runtime => h.awaitReply id timeout targets runtime
  | .waiting call => ⟨h, [.waiting call], []⟩
  | .answer answer => ⟨h, [], [.answered answer]⟩

def resume (h : Hub) : Call → Reply → Effect
  | .notify subscription notice, .panicked =>
    ⟨h, [], [.remark (.subscriberPanicked subscription.id notice.kind)]⟩
  | .post id _ _ _, .failed e => h.postFailed id e
  | .post _ _ data origin, _ => ⟨h, [], [.remark (.posted origin.text data.utf8ByteSize)]⟩
  | .probe id _, .closed =>
    match h.detach id with
    | none => ⟨h, [], []⟩
    | some (_, ids, h) =>
      ⟨h, [.emit (.closed id ids)], [.remark (.connectionClosed id ids.length)]⟩
  | .probe id _, .failed e => ⟨h, [], [.remark (.probeFailed id e.message)]⟩
  | .close id _, .failed e => ⟨h, [], [.remark (.goneWhileClosing id e.message)]⟩
  | _, _ => ⟨h, [], []⟩

/-- Drops the tasks of the operation begun last, and gives those that come after it. A request that
was on its way out is given up. A pass that no operation began is one of the hub's own polling,
which ends with it. -/
def unwind (h : Hub) : List Task → Effect
  | [] => ⟨h, [], []⟩
  | .answer _ :: rest => ⟨h, rest, [.answered .panicked]⟩
  | .awaitReply id _ _ _ :: rest =>
    ⟨{ h with pending := h.pending.discard id }, rest,
      remarks (h.pending.discardRemarks id) ++ [.answered .panicked]⟩
  | [.stopIdleWatcher] => ⟨{ h with watcher := h.watcher.collapse }, [], []⟩
  | _ :: rest => h.unwind rest

end Hub

/-- A hub and what it still has to do, first things first. -/
structure Machine where
  hub : Hub
  agenda : List Task := []
  deriving DecidableEq, Repr

inductive Move where
  /-- Those outside begin an operation. -/
  | call (op : Op)
  /-- The call that is under way returns. -/
  | reply (reply : Reply)
  /-- The hub does its next task. -/
  | proceed
  /-- The listener takes the next event. -/
  | listen
  /-- The hub's own polling comes due. -/
  | tick
  /-- A request that was sent is looked after. -/
  | wake (id : RequestId)
  | elapse (milliseconds : Nat)
  deriving DecidableEq, Repr

namespace Machine

def isIdle (m : Machine) : Bool := m.agenda.isEmpty

def call? (m : Machine) : Option Call :=
  match m.agenda with
  | .waiting call :: _ => some call
  | _ => none

def take (effect : Effect) (rest : List Task) : Machine × List Output :=
  (⟨effect.hub, effect.tasks ++ rest⟩, effect.outputs)

/-- What happens only while no operation is in progress. -/
def between (m : Machine) (effect : Effect) : Machine × List Output :=
  if m.isIdle then take effect [] else (m, [])

def step (m : Machine) : Move → Machine × List Output
  | .call op =>
    if m.isIdle || m.call?.isSome then take (m.hub.begin op) m.agenda else (m, [])
  | .reply reply =>
    match m.agenda with
    | .waiting call :: rest => take (m.hub.resume call reply) rest
    | _ => (m, [])
  | .proceed =>
    match m.agenda with
    | task :: rest => take (m.hub.perform task) rest
    | [] => (m, [])
  | .listen => m.between m.hub.listen
  | .tick => m.between m.hub.tick
  | .wake id => m.between (m.hub.wake id)
  | .elapse milliseconds => m.between (m.hub.elapse milliseconds)

def run (m : Machine) : List Move → Machine × List Output
  | [] => (m, [])
  | move :: moves =>
    let (m, outputs) := m.step move
    let (m, later) := m.run moves
    (m, outputs ++ later)

/-- The call that is under way panics, and the operation that made it breaks off. -/
def breakOff (m : Machine) : Machine × List Output :=
  match m.agenda with
  | .waiting _ :: rest => take (m.hub.unwind rest) []
  | _ => (m, [])

/-- A run can be cut anywhere. -/
theorem run_append (m : Machine) (first second : List Move) :
    m.run (first ++ second) =
      (((m.run first).1.run second).1, (m.run first).2 ++ ((m.run first).1.run second).2) := by
  induction first generalizing m with
  | nil => simp [run]
  | cons move moves ih => simp [run, ih]

end Machine

end PreviewHub
