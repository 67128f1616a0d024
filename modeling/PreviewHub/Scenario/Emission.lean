import PreviewHub.Bus.Machine
import PreviewHub.Scenario.Participant

/-! Scripts for a bus alone, and how they are played. -/

namespace PreviewHub.Scenario.Emission

inductive Step where
  | subscribe (name : String) (silent : Bool) (panics : List NoticeKind) (times : Nat)
      (on : List (NoticeKind × List Step))
  /-- Subscribes the subscriber of another subscription once more. -/
  | subscribeAgain (name other : String)
  | unsubscribe (name : String)
  | emit (notice : Notice)
  /-- Emits a message that has yet to be read. -/
  | emitMessage (id : PreviewId) (data : String)
  | size
  /-- The owner of the bus lets go of it. -/
  | letGo

instance : Inhabited Step := ⟨.size⟩

inductive Result where
  | none
  | done
  | gone
  | unknown
  | failed (error : Error)
  | flag (value : Bool)
  | size (n : Nat)
  | subscribed (id : SubscriptionId)

inductive Entry where
  | notified (name : String) (notice : Notice)
  | acted (step : Step) (result : Result)

structure Stage where
  machine : Bus.Machine := {}
  cast : Cast Step := {}
  /-- What was written down, the last first. -/
  journal : List Entry := []
  /-- What was remarked, the last first. -/
  remarks : List Remark := []

abbrev Play := StateM Stage

def note (entry : Entry) : Play Unit := modify fun s => { s with journal := entry :: s.journal }

def move (m : Bus.Move) : Play (List Bus.Output) := do
  let s ← get
  let (machine, outputs) := s.machine.step m
  let remarks := outputs.filterMap fun
    | .remark r => some r
    | _ => none
  set { s with machine, remarks := remarks.reverse ++ s.remarks }
  return outputs

def subscribeAs (name : String) (listener : Listener) : Play Result := do
  let outputs ← move (.subscribe listener)
  let id? := outputs.findSome? fun
    | .subscribed id => some id
    | _ => none
  match id? with
  | some id =>
    modify fun s => { s with cast := s.cast.bind name ⟨id, listener⟩ }
    return .subscribed id
  | none => return .none

def isFinish : Bus.Output → Bool
  | .finished => true
  | _ => false

mutual

def drive : Nat → Play Unit
  | 0 => return ()
  | fuel + 1 => do
    match (← get).machine.agenda with
    | [] => return ()
    | .waiting subscription notice :: _ =>
      let panicked ← answerCall fuel subscription notice
      let _ ← move (.reply panicked)
      drive fuel
    | _ :: _ =>
      let outputs ← move .proceed
      if outputs.any isFinish then return () else drive fuel

def answerCall : Nat → Subscription → Notice → Play Bool
  | 0, _, _ => return false
  | fuel + 1, subscription, notice => do
    match (← get).cast.subscribers[subscription.listener]? with
    | none => return false
    | some subscriber =>
      if subscriber.silent then return false
      note (.notified subscriber.name notice)
      let (steps, cast) := (← get).cast.cue subscription.listener notice.kind
      modify fun s => { s with cast }
      act fuel steps
      return decide (notice.kind ∈ subscriber.panics)

def act : Nat → List Step → Play Unit
  | 0, _ => return ()
  | _, [] => return ()
  | fuel + 1, step :: steps => do
    let result ← take fuel step
    note (.acted step result)
    act fuel steps

def take : Nat → Step → Play Result
  | 0, _ => return .none
  | _ + 1, .subscribe name silent panics times on => do
    if (← get).machine.owned then
      let reactions := on.map fun (kind, steps) => ⟨kind, times, steps⟩
      let (listener, cast) := (← get).cast.add { name, silent, panics, reactions }
      modify fun s => { s with cast }
      subscribeAs name listener
    else return .gone
  | _ + 1, .subscribeAgain name other => do
    if (← get).machine.owned then
      match (← get).cast.find? other with
      | some subscription => subscribeAs name subscription.listener
      | none => return .unknown
    else return .gone
  | _ + 1, .unsubscribe name => do
    match (← get).cast.find? name with
    | none => return .unknown
    | some subscription =>
      let _ ← move (.unsubscribe subscription.id)
      return .done
  | fuel + 1, .emit notice => do
    if (← get).machine.owned then
      let _ ← move (.emit notice)
      drive fuel
      return .done
    else return .gone
  | fuel + 1, .emitMessage id data => do
    if (← get).machine.owned then
      match decodePayload data with
      | .ok payload =>
        let _ ← move (.emit (.message id payload))
        drive fuel
        return .done
      | .error e => return .failed e
    else return .gone
  | _ + 1, .size => do
    let m := (← get).machine
    return if m.owned then .size m.bus.size else .none
  | _ + 1, .letGo => do
    let owned := (← get).machine.owned
    let _ ← move .letGo
    return .flag owned

end

structure Report where
  result : Result
  journal : List Entry
  remarks : List Remark

def playStep (fuel : Nat) (step : Step) : Play Report := do
  let result ← take fuel step
  let s ← get
  set { s with journal := [], remarks := [] }
  return ⟨result, s.journal.reverse, s.remarks.reverse⟩

/-- More moves than any script takes. -/
def patience : Nat := 100000000

def play (steps : List Step) : List Report := ((steps.mapM (playStep patience)).run {}).1

end PreviewHub.Scenario.Emission
