import PreviewHub.Scenario.Stage

/-! Playing a scenario. The participants answer the calls of the hub, and their reactions use the
hub in turn. After every step all that can go on does: the listener takes the events in the queue,
and requests that are over finish. Every reaction can happen only so many times, so a scenario comes
to an end; fuel bounds its length. -/

namespace PreviewHub.Scenario

def postLocally (handle : Handle) (p : LocalPreview) (data : String) (origin : Origin) :
    Play Reply := do
  match p.post data origin.text with
  | .ok p =>
    modify fun s => s.setDevice handle (.localPreview p)
    remark [.postedLocally data.utf8ByteSize]
    return .done
  | .error e => return .failed e

def replyOf (error : Option Error) : Reply :=
  match error with
  | some e => .failed e
  | none => .done

/-- How a call to a scripted handle returns, as its script stands then. -/
def scriptedReply (handle : Handle) (reply : ScriptedHandle → Reply) : Play Reply := do
  match (← get).device handle with
  | .scripted d => return reply d
  | _ => return .done

def resultOf : Answer → Option Result
  | .done => some .done
  | .window id => some (.window id)
  | .count n => some (.count n)
  | .subscribed id => some (.subscribed id)
  | .queued accepted => some (.flag accepted)
  | .awaiting _ => some .awaiting
  | .over outcome => some (.over outcome)
  | .failed e => some (.failed e)
  | .panicked => none

mutual

/-- Lets the hub go on until the operation begun last has its answer, or nothing is left to do. -/
def drive : Nat → Play (Option Answer)
  | 0 => return none
  | fuel + 1 => do
    match (← get).machine.agenda with
    | [] => return none
    | .waiting call :: _ =>
      let reply ← answerCall fuel call
      match answerOf (← returnCall call reply) with
      | some answer => return some answer
      | none => drive fuel
    | _ :: _ =>
      match answerOf (← move .proceed) with
      | some answer => return some answer
      | none => drive fuel

/-- Takes the steps of a reaction, writes down what each gives, and then answers. A step that panics
takes the reaction with it. -/
def act : Nat → List Step → Play Reply → Play Reply
  | 0, _, _ => return .done
  | _, [], answer => answer
  | fuel + 1, step :: steps, answer => do
    match ← take fuel step with
    | some result =>
      note (.acted step result)
      act fuel steps answer
    | none => return .panicked

def answerCall : Nat → Call → Play Reply
  | 0, _ => return .done
  | fuel + 1, .notify subscription notice => do
    match (← get).cast.subscribers[subscription.listener]? with
    | none => return .done
    | some subscriber =>
      if subscriber.silent then return .done
      note (.notified subscriber.name notice)
      let (steps, cast) := (← get).cast.cue subscription.listener notice.kind
      modify fun s => { s with cast }
      act fuel steps (return if notice.kind ∈ subscriber.panics then .panicked else .done)
  | fuel + 1, .post _ handle data origin => do
    match (← get).device handle with
    | .localPreview p => postLocally handle p data origin
    | .plain => return .done
    | .scripted _ =>
      note (.posted handle data origin)
      act fuel (← handleCue handle .post) (scriptedReply handle (replyOf ·.postError))
  | fuel + 1, .probe _ handle => do
    match (← get).device handle with
    | .localPreview p => return if p.isClosed then .closed else .done
    | .plain => return .done
    | .scripted _ =>
      note (.probed handle)
      act fuel (← handleCue handle .probe) (scriptedReply handle fun d =>
        match d.probeError with
        | some e => .failed e
        | none => if d.closed then .closed else .done)
  | fuel + 1, .close _ handle => closeDevice fuel handle
  | fuel + 1, .startWatcher => do
    note .watcherStarted
    modify fun s => { s with watcher := s.watcher.map fun w => { w with hasTarget := true } }
    match ← act fuel (← watcherCue .start) (return .done) with
    | .panicked => return .panicked
    | _ =>
      if ((← get).watcher.map (·.eager)).getD false then
        match ← ask fuel .poll with
        | .panicked => return .panicked
        | _ => return .done
      else return .done
  | fuel + 1, .stopWatcher => do
    note .watcherStopped
    act fuel (← watcherCue .stop) (return .done)

def closeDevice : Nat → Handle → Play Reply
  | 0, _ => return .done
  | fuel + 1, handle => do
    match (← get).device handle with
    | .localPreview p =>
      match p.close with
      | .ok p =>
        modify fun s => s.setDevice handle (.localPreview p)
        return .done
      | .error e => return .failed e
    | .plain => return .done
    | .scripted _ =>
      note (.closed handle)
      act fuel (← handleCue handle .close) (scriptedReply handle (replyOf ·.closeError))

def ask : Nat → Op → Play Answer
  | 0, _ => return .done
  | fuel + 1, op => do
    let _ ← move (.call op)
    return (← drive fuel).getD .done

def askOwned : Nat → Op → Play (Option Result)
  | 0, _ => return none
  | fuel + 1, op => do
    if (← get).owned then return resultOf (← ask fuel op) else return some .gone

def take : Nat → Step → Play (Option Result)
  | 0, _ => return some .none
  | fuel + 1, .subscribe name silent panics times on => do
    if (← get).owned then
      let reactions := on.map fun (kind, steps) => ⟨kind, times, steps⟩
      let (listener, cast) := (← get).cast.add { name, silent, panics, reactions }
      modify fun s => { s with cast }
      subscribeAs fuel name listener
    else return some .gone
  | fuel + 1, .subscribeAgain name other => do
    if (← get).owned then
      match (← get).cast.find? other with
      | some subscription => subscribeAs fuel name subscription.listener
      | none => return some .unknown
    else return some .gone
  | fuel + 1, .unsubscribe name => do
    match (← get).cast.find? name with
    | none => return some .unknown
    | some subscription =>
      if (← get).gone then return some .done
      let _ ← ask fuel (.unsubscribe subscription.id)
      return some .done
  | fuel + 1, .start url => do askOwned fuel (.start url (← get).runtime)
  | fuel + 1, .registerWindow handle => do askOwned fuel (.registerWindow handle (← get).runtime)
  | fuel + 1, .registerFrame handle => askOwned fuel (.registerFrame handle)
  | fuel + 1, .unregisterFrame handle => askOwned fuel (.unregisterFrame handle)
  | fuel + 1, .send id message => do
    if (← get).owned then
      match Message.ofJson message with
      | .ok message => askOwned fuel (.send id message)
      | .error e => return some (.failed e)
    else return some .gone
  | fuel + 1, .broadcast message => do
    if (← get).owned then
      match Message.ofJson message with
      | .ok message => askOwned fuel (.broadcast message)
      | .error e => return some (.failed e)
    else return some .gone
  | fuel + 1, .request slot message timeout => do
    if (← get).owned then
      match Message.ofJson message with
      | .error e => return some (.failed e)
      | .ok message =>
        match ← ask fuel (.request message timeout (← get).runtime) with
        | .awaiting id =>
          let _ ← giveUp fuel slot
          modify fun s => { s with slots := s.slots ++ [(slot, id)] }
          return some .awaiting
        | answer => return resultOf answer
    else return some .gone
  | fuel + 1, .abandon slot => return some (.flag (← giveUp fuel slot))
  | fuel + 1, .dispatch event => do
    if (← get).gone then return some (.flag false)
    return resultOf (← ask fuel (.dispatch event))
  | fuel + 1, .closeAll => askOwned fuel .closeAll
  | _ + 1, .summary => do
    let s ← get
    return some (if s.owned then .text s.machine.hub.summary else .gone)
  | _ + 1, .nothing => return some (if (← get).owned then .none else .gone)
  | _ + 1, .markClosed handle => do
    onLocal handle LocalPreview.markClosed
    return some .done
  | _ + 1, .dropReceiver handle => do
    match (← get).device handle with
    | .localPreview p =>
      onLocal handle LocalPreview.dropReceiver
      return some (.flag p.receiving)
    | _ => return some (.flag false)
  | fuel + 1, .closeHandle handle => do
    match ← closeDevice fuel handle with
    | .failed e => return some (.failed e)
    | .panicked => return none
    | _ => return some .done
  | _ + 1, .setHandle handle change => do
    let s ← get
    match s.device handle with
    | .scripted d => set (s.setDevice handle (.scripted (d.change change)))
    | _ => return some .done
    return some .done
  | fuel + 1, .poll => do
    let s ← get
    if (s.watcher.map (·.hasTarget)).getD false && !s.gone then
      return resultOf (← ask fuel .poll)
    else return some .noTarget
  | _ + 1, .letGo => do
    let s ← get
    set { s with owned := false }
    return some (.flag s.owned)
  | _ + 1, .advance _ => return some .none
  | fuel + 1, .batch steps => do
    return some (.several (← takeAll fuel steps))
  | fuel + 1, .outside step => do
    return some ((← withoutRuntime (take fuel step)).getD .panicked)

def subscribeAs : Nat → String → Listener → Play (Option Result)
  | 0, _, _ => return none
  | fuel + 1, name, listener => do
    match ← ask fuel (.subscribe listener) with
    | .subscribed id =>
      modify fun s => { s with cast := s.cast.bind name ⟨id, listener⟩ }
      return some (.subscribed id)
    | answer => return resultOf answer

def giveUp : Nat → String → Play Bool
  | 0, _ => return false
  | fuel + 1, slot => do
    match (← get).slots.find? fun entry => entry.1 = slot with
    | none => return false
    | some (_, id) =>
      let _ ← ask fuel (.abandon id)
      modify fun s => { s with slots := s.slots.filter fun entry => entry.1 ≠ slot }
      return true

def takeAll : Nat → List Step → Play (List Result)
  | 0, _ => return []
  | _, [] => return []
  | fuel + 1, step :: steps => do
    let result := (← take fuel step).getD .panicked
    return result :: (← takeAll fuel steps)

end

/-- Lets all go on that can: first the events in the queue, then the requests that are over, in the
order in which they were sent. -/
def settle : Nat → Play Unit
  | 0 => return ()
  | fuel + 1 => do
    let s ← get
    let h := s.machine.hub
    if s.gone then endListener
    else if h.started && !h.inbox.isEmpty then
      let _ ← move .listen
      let _ ← drive fuel
      settle fuel
    else
      match h.requests.find? fun r => (h.conclude? r).isSome with
      | some r =>
        let _ ← move (.wake r.id)
        settle fuel
      | none => return ()

/-- Lets time pass until `goal`, from one due instant to the next. -/
def passUntil : Nat → Nat → Play Unit
  | 0, _ => return ()
  | fuel + 1, goal => do
    let s ← get
    let h := s.machine.hub
    if s.gone then return ()
    match h.nextDue? with
    | some due =>
      if due ≤ goal then
        let _ ← move (.elapse (due - h.clock))
        let _ ← move .tick
        let _ ← drive fuel
        settle fuel
        passUntil fuel goal
      else
        let _ ← move (.elapse (goal - h.clock))
    | none =>
      let _ ← move (.elapse (goal - h.clock))

def playStep (fuel : Nat) (step : Step) : Play Report := do
  let result ← match step with
    | .advance milliseconds => do
      settle fuel
      passUntil fuel ((← get).machine.hub.clock + milliseconds)
      pure Result.none
    | step => do pure ((← take fuel step).getD .panicked)
  settle fuel
  report result

structure Setup where
  options : Options := {}
  devices : List (Handle × Device) := []
  watcher : Option ScriptedWatcher := none

def patience : Nat := 100000000

def play (setup : Setup) (steps : List Step) : Except Error (List Report) :=
  match Hub.build setup.options setup.watcher.isSome with
  | .error e => .error e
  | .ok hub =>
    let stage : Stage :=
      { machine := ⟨hub, []⟩, devices := setup.devices, watcher := setup.watcher }
    .ok ((steps.mapM (playStep patience)).run stage).1

end PreviewHub.Scenario
