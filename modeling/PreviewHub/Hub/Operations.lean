import PreviewHub.Hub.Task

/-! What each operation of a hub does at once, and which tasks it leaves. -/

namespace PreviewHub

namespace Hub

def remarks (rs : List Remark) : List Output := rs.map .remark

/-- Starts the hub for the previews of one origin. Only the first start counts. Without a runtime
there is nothing to run the listener on, and the start breaks off half way. -/
def start (h : Hub) (url : String) (runtime : Bool) : Effect :=
  if h.started then ⟨h, [.answer .done], [.remark .alreadyStarted]⟩
  else
    match Origin.parse url with
    | .error e => ⟨h, [.answer (.failed e)], []⟩
    | .ok origin =>
      if h.listening then
        ⟨h, [.answer (.failed (.protocol "Message listener already installed"))], []⟩
      else
        let h := { h with channel := ⟨some origin⟩, listening := true }
        if runtime then
          ⟨{ h with started := true }, [.emit .stateChanged, .answer .done],
            [.remark (.started origin.text)]⟩
        else ⟨h, [.answer .panicked], [.remark (.started origin.text)]⟩

def registerWindow (h : Hub) (handle : Handle) (runtime : Bool) : Effect :=
  let x := h.registry.registerWindow handle
  let h := { h with registry := x.registry }
  if x.added then
    let ids := x.registry.list
    ⟨h, [.emit (.opened x.id ids), .startWatcher runtime, .answer (.window x.id)],
      [.remark x.remark, .remark (.windowConnected x.id ids.length)]⟩
  else ⟨h, [.startWatcher runtime, .answer (.window x.id)], [.remark x.remark]⟩

def registerFrame (h : Hub) (handle : Handle) : Effect :=
  let (registry, change) := h.registry.registerFrame handle
  let h := { h with registry }
  match change with
  | .unchanged => ⟨h, [.answer .done], []⟩
  | change => ⟨h, [.emit (.opened .frame registry.list), .answer .done], remarks change.remarks⟩

def unregisterFrame (h : Hub) (handle : Handle) : Effect :=
  let (registry, release) := h.registry.unregisterFrame handle
  let h := { h with registry }
  match release with
  | .released =>
    ⟨h, [.emit (.closed .frame registry.list), .answer .done], [.remark release.remark]⟩
  | release => ⟨h, [.answer .done], [.remark release.remark]⟩

/-- Probes the windows that are registered now, and then looks whether any is left to watch. -/
def pollTasks (h : Hub) : List Task :=
  h.registry.windows.map (fun window => .probe window.1 window.2) ++ [.stopIdleWatcher]

def postTasks (h : Hub) (data : String) : List Task :=
  h.registry.endpoints.map fun endpoint => .post endpoint.1 endpoint.2 data

/-- Sends a message to one preview; one that is not connected is passed over. -/
def send (h : Hub) (id : PreviewId) (message : Message) : Effect :=
  if h.started then
    match h.registry.handle? id with
    | some handle => ⟨h, [.post id handle message.encode, .answer .done], []⟩
    | none => ⟨h, [.answer .done], [.remark (.unknownPreview id)]⟩
  else ⟨h, [.answer (.failed .notStarted)], []⟩

def broadcast (h : Hub) (message : Message) : Effect :=
  if h.started then
    ⟨h, h.postTasks message.encode ++ [.answer (.count h.registry.endpoints.length)], []⟩
  else ⟨h, [.answer (.failed .notStarted)], []⟩

/-- Sends a message to all previews under a fresh id and waits for the first reply. -/
def request (h : Hub) (message : Message) (timeout : Option Nat) (runtime : Bool) : Effect :=
  if h.started then
    match h.pending.register with
    | .error e => ⟨h, [.answer (.failed e)], [.remark h.pending.registerRemark]⟩
    | .ok (id, pending) =>
      let timeout := timeout.getD h.options.responseTimeout
      ⟨{ h with pending },
        h.postTasks (message.withRequestId id).encode ++
          [.awaitReply id timeout h.registry.endpoints.length runtime],
        [.remark h.pending.registerRemark]⟩
  else ⟨h, [.answer (.failed .notStarted)], []⟩

/-- Looks whether a request is over: it was settled, or else its time is up. Its place among the
open requests is free then. -/
def conclude? (h : Hub) (r : Request) : Option (Outcome × Hub × List Remark) :=
  match h.pending.collect r.id with
  | (.over outcome, pending) => some (outcome, { h with pending := pending.discard r.id }, [])
  | (.waiting, _) =>
    if r.deadline ≤ h.clock then
      some (.failed (.timeout r.id r.timeout), { h with pending := h.pending.discard r.id },
        .requestTimedOut r.id r.timeout :: h.pending.discardRemarks r.id)
    else none

def timed (h : Hub) (id : RequestId) (timeout : Nat) : Request := ⟨id, timeout, h.clock + timeout⟩

/-- Goes on with a request after it was posted. Without a runtime there is no clock to wait by, and
the request is given up half way. -/
def awaitReply (h : Hub) (id : RequestId) (timeout targets : Nat) (runtime : Bool) : Effect :=
  if runtime then
    match h.conclude? (h.timed id timeout) with
    | some (outcome, h, rs) =>
      ⟨h, [.answer (.over outcome)], .remark (.requestSent id targets) :: remarks rs⟩
    | none =>
      ⟨{ h with requests := h.requests ++ [h.timed id timeout] }, [.answer (.awaiting id)],
        [.remark (.requestSent id targets)]⟩
  else
    ⟨{ h with pending := h.pending.discard id }, [.answer .panicked],
      .remark (.requestSent id targets) :: remarks (h.pending.discardRemarks id)⟩

def abandon (h : Hub) (id : RequestId) : Effect :=
  if h.requests.any fun r => r.id = id then
    ⟨{ h with
        requests := h.requests.filter fun r => r.id ≠ id
        pending := h.pending.discard id },
      [.answer .done], remarks (h.pending.discardRemarks id)⟩
  else ⟨h, [.answer .done], []⟩

/-- Queues an event. Before the start events are dropped. -/
def dispatch (h : Hub) (event : Inbound) : Effect :=
  if h.started then ⟨{ h with inbox := h.inbox ++ [event] }, [.answer (.queued true)], []⟩
  else ⟨h, [.answer (.queued false)], [.remark .droppedBeforeStart]⟩

def subscribe (h : Hub) (listener : Listener) : Effect :=
  let (id, bus) := h.bus.subscribe listener
  ⟨{ h with bus }, [.answer (.subscribed id)], [.remark (.subscribed id)]⟩

def unsubscribe (h : Hub) (id : SubscriptionId) : Effect :=
  ⟨{ h with bus := h.bus.unsubscribe id }, [.answer .done], remarks (h.bus.unsubscribeRemarks id)⟩

def begin (h : Hub) : Op → Effect
  | .start url runtime => h.start url runtime
  | .registerWindow handle runtime => h.registerWindow handle runtime
  | .registerFrame handle => h.registerFrame handle
  | .unregisterFrame handle => h.unregisterFrame handle
  | .closeAll => ⟨h, [.stopWatcher, .closeConnections, .answer .done], []⟩
  | .poll => ⟨h, h.pollTasks ++ [.answer .done], []⟩
  | .send id message => h.send id message
  | .broadcast message => h.broadcast message
  | .request message timeout runtime => h.request message timeout runtime
  | .abandon id => h.abandon id
  | .dispatch event => h.dispatch event
  | .subscribe listener => h.subscribe listener
  | .unsubscribe id => h.unsubscribe id

/-- Handles one event. One from elsewhere is passed over; one that cannot be read is told; one from
an unknown preview is passed over; any other is told, after the request that it answers was settled.
-/
def handle (h : Hub) (event : Inbound) : Effect :=
  if h.channel.accepts event then
    match decodePayload event.data with
    | .error e => ⟨h, [.emit (.error e)], [.remark (.unreadable e.message)]⟩
    | .ok payload =>
      match event.source.bind h.registry.find? with
      | none => ⟨h, [], [.remark .unknownSource]⟩
      | some id =>
        match payload.requestId? with
        | none => ⟨h, [.emit (.message id payload)], []⟩
        | some request =>
          let (matched, pending) := h.pending.resolve request payload
          ⟨{ h with pending }, [.emit (.message id payload)],
            if matched then [.remark (.replyMatched request id)] else []⟩
  else ⟨h, [], []⟩

def listen (h : Hub) : Effect :=
  match h.inbox with
  | event :: inbox =>
    if h.started then
      let effect := { h with inbox }.handle event
      { effect with outputs := .handled event :: effect.outputs }
    else ⟨h, [], []⟩
  | [] => ⟨h, [], []⟩

def tick (h : Hub) : Effect :=
  match h.watcher with
  | .polling poller =>
    match poller.due? with
    | some due =>
      if due ≤ h.clock then
        ⟨{ h with watcher := .polling poller.advance }, h.pollTasks, [.remark .probing]⟩
      else ⟨h, [], []⟩
    | none => ⟨h, [], []⟩
  | .external _ => ⟨h, [], []⟩

def wake (h : Hub) (id : RequestId) : Effect :=
  match h.requests.find? fun r => r.id = id with
  | none => ⟨h, [], []⟩
  | some r =>
    match h.conclude? r with
    | none => ⟨h, [], []⟩
    | some (outcome, h, rs) =>
      ⟨{ h with requests := h.requests.filter fun r => r.id ≠ id }, [],
        remarks rs ++ [.finished id outcome]⟩

/-- Lets time pass, but never beyond an instant at which something is due. -/
def elapse (h : Hub) (milliseconds : Nat) : Effect :=
  if h.dueInstants.all fun due => h.clock + milliseconds ≤ due then
    ⟨{ h with clock := h.clock + milliseconds }, [], []⟩
  else ⟨h, [], []⟩

end Hub

end PreviewHub
