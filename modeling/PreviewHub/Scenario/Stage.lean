import PreviewHub.Hub.Machine
import PreviewHub.Scenario.Step

/-! Where a scenario stands: the hub at work, the participants, and what was written down since the
last step. -/

namespace PreviewHub.Scenario

structure Stage where
  machine : Machine
  cast : Cast Step := {}
  devices : List (Handle × Device) := []
  watcher : Option ScriptedWatcher := none
  /-- The requests that are not over, by the slots that wait for them. -/
  slots : List (String × RequestId) := []
  /-- Whether the owner still has the hub. -/
  owned : Bool := true
  /-- Whether the listener has taken leave. -/
  listenerEnded : Bool := false
  /-- Whether those who act now have a runtime. -/
  runtime : Bool := true
  /-- What was written down, the last first. -/
  journal : List Entry := []
  /-- What was remarked, the last first. -/
  remarks : List Remark := []
  done : List (String × Outcome) := []

abbrev Play := StateM Stage

/-- The hub is no more when its owner has let go of it, no operation is in progress and no request
holds it. -/
def Stage.gone (s : Stage) : Bool :=
  !s.owned && s.machine.isIdle && s.machine.hub.requests.isEmpty

def Stage.device (s : Stage) (handle : Handle) : Device :=
  ((s.devices.find? fun entry => entry.1 = handle).map (·.2)).getD (.localPreview {})

def Stage.setDevice (s : Stage) (handle : Handle) (device : Device) : Stage :=
  { s with devices :=
      if s.devices.any fun entry => entry.1 = handle then
        s.devices.map fun entry => if entry.1 = handle then (handle, device) else entry
      else s.devices ++ [(handle, device)] }

def note (entry : Entry) : Play Unit := modify fun s => { s with journal := entry :: s.journal }

def remark (remarks : List Remark) : Play Unit :=
  modify fun s => { s with remarks := remarks.reverse ++ s.remarks }

def remarksOf (outputs : List Output) : List Remark :=
  outputs.filterMap fun
    | .remark r => some r
    | _ => none

def answerOf (outputs : List Output) : Option Answer :=
  outputs.findSome? fun
    | .answered a => some a
    | _ => none

def Stage.finish (s : Stage) (id : RequestId) (outcome : Outcome) : Stage :=
  match s.slots.find? fun entry => entry.2 = id with
  | some (slot, _) =>
    { s with
      done := s.done ++ [(slot, outcome)]
      slots := s.slots.filter fun entry => entry.2 ≠ id }
  | none => s

def progress (go : Machine → Machine × List Output) : Play (List Output) := do
  let s ← get
  let (machine, outputs) := go s.machine
  let s := { s with machine, remarks := (remarksOf outputs).reverse ++ s.remarks }
  set (outputs.foldl (fun s output =>
    match output with
    | .finished id outcome => s.finish id outcome
    | _ => s) s)
  return outputs

def move (m : Move) : Play (List Output) := progress fun machine => machine.step m

/-- The call that is under way returns. A subscriber that panics is passed over; where anyone else
panics, the operation that called breaks off. -/
def returnCall (call : Call) (reply : Reply) : Play (List Output) :=
  match call, reply with
  | .notify _ _, reply => move (.reply reply)
  | _, .panicked => progress Machine.breakOff
  | _, reply => move (.reply reply)

/-- Acts without a runtime. All that this leads to has none either. -/
def withoutRuntime {α : Type} (action : Play α) : Play α := do
  let runtime := (← get).runtime
  modify fun s => { s with runtime := false }
  let result ← action
  modify fun s => { s with runtime }
  return result

def onLocal (handle : Handle) (change : LocalPreview → LocalPreview) : Play Unit :=
  modify fun s =>
    match s.device handle with
    | .localPreview p => s.setDevice handle (.localPreview (change p))
    | _ => s

def handleCue (handle : Handle) (cue : HandleCue) : Play (List Step) := do
  let s ← get
  match s.device handle with
  | .scripted d =>
    let (steps, reactions) := react cue d.reactions
    set (s.setDevice handle (.scripted { d with reactions }))
    return steps
  | _ => return []

def watcherCue (cue : WatcherCue) : Play (List Step) := do
  let s ← get
  match s.watcher with
  | some w =>
    let (steps, reactions) := react cue w.reactions
    set { s with watcher := some { w with reactions } }
    return steps
  | none => return []

def endListener : Play Unit :=
  modify fun s =>
    if s.machine.hub.started && !s.listenerEnded then
      { s with listenerEnded := true, remarks := .listenerEnded :: s.remarks }
    else s

structure Status where
  started : Bool
  origin : Option String
  ids : List PreviewId
  count : Nat
  pending : Nat
  watching : Bool

def Stage.status (s : Stage) : Option Status :=
  if s.owned then
    let h := s.machine.hub
    some ⟨h.started, h.channel.origin.map (·.text), h.registry.list, h.registry.size,
      h.pending.size, h.isWatching⟩
  else none

structure Report where
  result : Result
  journal : List Entry
  remarks : List Remark
  posted : List (Handle × List Posted)
  /-- The requests that are over, in the order of their slots. -/
  done : List (String × Outcome)
  status : Option Status

def collectPosts : List (Handle × Device) → List (Handle × List Posted) × List (Handle × Device)
  | [] => ([], [])
  | (handle, .localPreview p) :: rest =>
    let (posts, devices) := collectPosts rest
    let (received, p) := p.receiveAll
    (if received.isEmpty then posts else (handle, received) :: posts,
      (handle, .localPreview p) :: devices)
  | entry :: rest =>
    let (posts, devices) := collectPosts rest
    (posts, entry :: devices)

def report (result : Result) : Play Report := do
  let s ← get
  let (posted, devices) := collectPosts s.devices
  set { s with devices, journal := [], remarks := [], done := [] }
  let done := s.done.mergeSort fun a b => a.1 ≤ b.1
  return ⟨result, s.journal.reverse, s.remarks.reverse, posted, done, s.status⟩

end PreviewHub.Scenario
