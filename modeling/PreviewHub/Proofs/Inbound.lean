import PreviewHub.Proofs.Routine

/-! Inbound events. A dispatch puts an event into the queue and the listener takes one out; no other
work looks at the queue, and what an event leads to does not depend on those behind it. -/

namespace PreviewHub

def Hub.withInbox (h : Hub) (inbox : List Inbound) : Hub := { h with inbox }

@[simp]
theorem Hub.inbox_withInbox (h : Hub) (inbox : List Inbound) :
    (h.withInbox inbox).inbox = inbox := rfl

@[simp]
theorem Hub.withInbox_withInbox (h : Hub) (first second : List Inbound) :
    (h.withInbox first).withInbox second = h.withInbox second := rfl

@[simp]
theorem Hub.started_withInbox (h : Hub) (inbox : List Inbound) :
    (h.withInbox inbox).started = h.started := rfl

def Effect.withInbox (e : Effect) (inbox : List Inbound) : Effect :=
  { e with hub := e.hub.withInbox inbox }

namespace Hub

/-- What there is to tell about an event. One from elsewhere is passed over, and so is one that can
be read but does not come from a connected preview. -/
def tellings (h : Hub) (event : Inbound) : List Notice :=
  if h.channel.origin.map (·.text) = some event.origin then
    match Json.parse event.data with
    | .error cause => [.error (.json cause)]
    | .ok payload =>
      match event.source.bind h.registry.find? with
      | none => []
      | some id => [.message id payload]
  else []

def settledBy (h : Hub) (event : Inbound) : Pending :=
  match h.replyTo? event with
  | some (id, payload) => (h.pending.resolve id payload).2
  | none => h.pending

/-- An event settles a request and leaves the task to tell about it. -/
private theorem handle_eq (h : Hub) (event : Inbound) :
    ∃ rs, h.handle event =
      ⟨{ h with pending := h.settledBy event }, (h.tellings event).map .emit, remarks rs⟩ := by
  unfold handle settledBy tellings
  by_cases ha : h.channel.accepts event
  · have ho := (accepts_iff _ _).mp ha
    rw [if_pos ha, if_pos ho]
    cases hj : Json.parse event.data with
    | error cause =>
      have hd : decodePayload event.data = .error (.json cause) := by rw [decodePayload, hj]
      have hr : h.replyTo? event = none := by simp [replyTo?, hd]
      exact ⟨[.unreadable (Error.json cause).message], by rw [hr, hd]; rfl⟩
    | ok payload =>
      have hd : decodePayload event.data = .ok payload := by rw [decodePayload, hj]
      rw [hd]
      dsimp only
      cases hs : event.source.bind h.registry.find? with
      | none =>
        have hr : h.replyTo? event = none :=
          if_neg fun hc => (source_eq_none_iff h event.source).mp hs hc.2
        exact ⟨[.unknownSource], by rw [hr]; rfl⟩
      | some id =>
        have hr : h.replyTo? event = payload.requestId?.map fun id => (id, payload) := by
          have hsource : ∃ source ∈ event.source, source ∈ h.connected := by
            by_contra hn
            rw [(source_eq_none_iff h event.source).mpr hn] at hs
            cases hs
          unfold replyTo?
          rw [if_pos ⟨ho, hsource⟩, hd]
        rw [hr]
        dsimp only
        cases payload.requestId? with
        | none => exact ⟨[], rfl⟩
        | some request =>
          cases hm : (h.pending.resolve request payload).1 with
          | true => exact ⟨[.replyMatched request id], by simp [hm, remarks]⟩
          | false => exact ⟨[], by simp [hm, remarks]⟩
  · rw [if_neg ha, if_neg (mt (accepts_iff _ _).mpr ha)]
    have hr : h.replyTo? event = none := if_neg fun hc => ha ((accepts_iff _ _).mpr hc.1)
    exact ⟨[], by rw [hr]; rfl⟩

/-- The listener takes the oldest event, or there is none for it. -/
theorem listen_eq (h : Hub) :
    (h.inbox = [] ∨ h.started = false) ∧ h.listen = ⟨h, [], []⟩ ∨
      ∃ event inbox rs, h.inbox = event :: inbox ∧ h.started ∧
        h.listen = ⟨{ h with inbox, pending := h.settledBy event }, (h.tellings event).map .emit,
          .handled event :: remarks rs⟩ := by
  unfold listen
  cases hi : h.inbox with
  | nil => exact Or.inl ⟨Or.inl rfl, rfl⟩
  | cons event inbox =>
    by_cases hs : h.started
    · obtain ⟨rs, he⟩ := { h with inbox }.handle_eq event
      refine Or.inr ⟨event, inbox, rs, rfl, hs, ?_⟩
      simp only [if_pos hs, he]
      rfl
    · simp only [if_neg hs]
      exact Or.inl ⟨Or.inr (Bool.eq_false_iff.mpr hs), trivial⟩

/-- Whether an event is dispatched in vain: it comes from elsewhere, or it can be read and does not
come from a connected preview. -/
def IsForeign (h : Hub) (event : Inbound) : Prop :=
  h.channel.origin.map (·.text) ≠ some event.origin ∨
    (Json.parse event.data).toOption.isSome ∧ ¬ ∃ source ∈ event.source, source ∈ h.connected

instance (h : Hub) (event : Inbound) : Decidable (h.IsForeign event) :=
  inferInstanceAs (Decidable (_ ∨ _))

theorem IsForeign.replyTo?_eq {h : Hub} {event : Inbound} (hf : h.IsForeign event) :
    h.replyTo? event = none := by
  refine if_neg fun hc => ?_
  rcases hf with ho | ⟨-, hs⟩
  · exact ho hc.1
  · exact hs hc.2

theorem IsForeign.tellings_eq {h : Hub} {event : Inbound} (hf : h.IsForeign event) :
    h.tellings event = [] := by
  unfold tellings
  rcases hf with ho | ⟨hd, hs⟩
  · rw [if_neg ho]
  · rw [(source_eq_none_iff h event.source).mpr hs]
    cases hp : Json.parse event.data with
    | error cause =>
      rw [hp] at hd
      cases hd
    | ok payload => exact ite_self _

end Hub

/-! Work that has nothing to do with the queue goes the same way whatever is in it. -/

namespace Hub

section
variable (h : Hub) (inbox : List Inbound)

private theorem detach_withInbox (id : PreviewId) :
    (h.withInbox inbox).detach id =
      (h.detach id).map fun x => (x.1, x.2.1, x.2.2.withInbox inbox) := by
  simp only [detach, withInbox]
  split <;> rfl

private theorem conclude_withInbox (r : Request) :
    (h.withInbox inbox).conclude? r =
      (h.conclude? r).map fun x => (x.1, x.2.1.withInbox inbox, x.2.2) := by
  cases hc : h.pending.collect r.id with
  | mk glance pending =>
    cases glance with
    | waiting => by_cases hd : r.deadline ≤ h.clock <;> simp [conclude?, withInbox, hc, hd]
    | _ => simp [conclude?, withInbox, hc]

private theorem start_withInbox (url : String) (runtime : Bool) :
    (h.withInbox inbox).start url runtime = (h.start url runtime).withInbox inbox := by
  by_cases hs : h.started
  · simp [start, withInbox, Effect.withInbox, hs]
  · cases hp : Origin.parse url with
    | error e => simp [start, withInbox, Effect.withInbox, hs, hp]
    | ok origin =>
      by_cases hl : h.listening
      · simp [start, withInbox, Effect.withInbox, hs, hp, hl]
      · cases runtime <;> simp [start, withInbox, Effect.withInbox, hs, hp, hl]

private theorem request_withInbox (message : Message) (timeout : Option Nat) (runtime : Bool) :
    (h.withInbox inbox).request message timeout runtime =
      (h.request message timeout runtime).withInbox inbox := by
  by_cases hs : h.started
  · cases hr : h.pending.register with
    | error e => simp [request, withInbox, Effect.withInbox, hs, hr]
    | ok x => simp [request, postTasks, withInbox, Effect.withInbox, hs, hr]
  · simp [request, withInbox, Effect.withInbox, hs]

private theorem begin_withInbox {op : Op} (hop : ∀ event, op ≠ .dispatch event) :
    (h.withInbox inbox).begin op = (h.begin op).withInbox inbox := by
  cases op with
  | start url runtime => exact h.start_withInbox inbox url runtime
  | registerWindow handle runtime =>
    simp only [begin, registerWindow, apply_ite (Effect.withInbox · inbox)]
    rfl
  | registerFrame handle =>
    simp only [begin, registerFrame, withInbox]
    cases (h.registry.registerFrame handle).2 <;> rfl
  | unregisterFrame handle =>
    simp only [begin, unregisterFrame, withInbox]
    cases (h.registry.unregisterFrame handle).2 <;> rfl
  | closeAll => rfl
  | poll => rfl
  | send id message =>
    by_cases hs : h.started
    · cases hh : h.registry.handle? id <;>
        simp [begin, send, withInbox, Effect.withInbox, hs, hh]
    · simp [begin, send, withInbox, Effect.withInbox, hs]
  | broadcast message =>
    simp only [begin, broadcast, apply_ite (Effect.withInbox · inbox)]
    rfl
  | request message timeout runtime => exact h.request_withInbox inbox message timeout runtime
  | abandon id =>
    simp only [begin, abandon, apply_ite (Effect.withInbox · inbox)]
    rfl
  | dispatch event => exact absurd rfl (hop event)
  | subscribe listener => rfl
  | unsubscribe id => rfl

private theorem perform_withInbox (task : Task) :
    (h.withInbox inbox).perform task = (h.perform task).withInbox inbox := by
  cases task with
  | emit notice => rfl
  | deliver subscription notice => rfl
  | post id handle data =>
    simp only [perform, withInbox]
    split <;> rfl
  | probe id handle => rfl
  | startWatcher runtime =>
    simp only [perform, startWatcher, withInbox]
    split <;> rfl
  | stopWatcher =>
    simp only [perform, stopWatcher, withInbox]
    split <;> rfl
  | closeConnections => rfl
  | closeWindow id =>
    simp only [perform, detach_withInbox]
    cases h.detach id <;> rfl
  | closeFrame =>
    simp only [perform, detach_withInbox]
    cases h.detach .frame <;> rfl
  | rejectRequests => rfl
  | stopIdleWatcher =>
    simp only [perform, apply_ite (Effect.withInbox · inbox)]
    rfl
  | restartWatcher =>
    simp only [perform, apply_ite (Effect.withInbox · inbox)]
    rfl
  | awaitReply id timeout targets runtime =>
    have htimed : (h.withInbox inbox).timed id timeout = h.timed id timeout := rfl
    simp only [perform, awaitReply, conclude_withInbox, htimed]
    cases runtime with
    | true => cases h.conclude? (h.timed id timeout) <;> rfl
    | false => rfl
  | waiting call => rfl
  | answer answer => rfl

private theorem resume_withInbox (call : Call) (reply : Reply) :
    (h.withInbox inbox).resume call reply = (h.resume call reply).withInbox inbox := by
  unfold resume
  split
  · rfl
  · rfl
  · rfl
  · rw [detach_withInbox]
    cases h.detach _ <;> rfl
  · rfl
  · rfl
  · rfl

private theorem tick_withInbox : (h.withInbox inbox).tick = h.tick.withInbox inbox := by
  cases hw : h.watcher with
  | external running => simp [tick, withInbox, Effect.withInbox, hw]
  | polling poller =>
    cases hd : poller.due? with
    | none => simp [tick, withInbox, Effect.withInbox, hw, hd]
    | some due =>
      by_cases hc : due ≤ h.clock <;>
        simp [tick, pollTasks, withInbox, Effect.withInbox, hw, hd, hc]

private theorem wake_withInbox (id : RequestId) :
    (h.withInbox inbox).wake id = (h.wake id).withInbox inbox := by
  unfold wake
  rw [show (h.withInbox inbox).requests = h.requests from rfl]
  cases h.requests.find? fun r => r.id = id with
  | none => rfl
  | some r =>
    simp only [conclude_withInbox]
    cases h.conclude? r <;> rfl

private theorem elapse_withInbox (ms : Nat) :
    (h.withInbox inbox).elapse ms = (h.elapse ms).withInbox inbox := by
  simp only [elapse, apply_ite (Effect.withInbox · inbox)]
  rfl

private theorem handle_withInbox (event : Inbound) :
    (h.withInbox inbox).handle event = (h.handle event).withInbox inbox := by
  by_cases ha : h.channel.accepts event
  · cases hd : decodePayload event.data with
    | error e => simp [handle, withInbox, Effect.withInbox, ha, hd]
    | ok payload =>
      cases hs : event.source.bind h.registry.find? with
      | none => simp [handle, withInbox, Effect.withInbox, ha, hd, hs]
      | some id =>
        cases hr : payload.requestId? with
        | none => simp [handle, withInbox, Effect.withInbox, ha, hd, hs, hr]
        | some request =>
          cases hm : (h.pending.resolve request payload).1 <;>
            simp [handle, withInbox, Effect.withInbox, ha, hd, hs, hr, hm]
  · simp [handle, withInbox, Effect.withInbox, ha]

/-- What the listener does with an event does not depend on those behind it. -/
theorem listen_withInbox_cons (hs : h.started) (event : Inbound) (others : List Inbound) :
    (h.withInbox (event :: inbox)).listen =
      (h.withInbox (event :: others)).listen.withInbox inbox := by
  have hhandle : (h.withInbox inbox).handle event =
      ((h.withInbox others).handle event).withInbox inbox :=
    (h.withInbox others).handle_withInbox inbox event
  calc (h.withInbox (event :: inbox)).listen
    _ = ⟨((h.withInbox inbox).handle event).hub, ((h.withInbox inbox).handle event).tasks,
          .handled event :: ((h.withInbox inbox).handle event).outputs⟩ := if_pos hs
    _ = Effect.withInbox ⟨((h.withInbox others).handle event).hub,
          ((h.withInbox others).handle event).tasks,
          .handled event :: ((h.withInbox others).handle event).outputs⟩ inbox := by
        rw [hhandle]
        rfl
    _ = (h.withInbox (event :: others)).listen.withInbox inbox :=
        congrArg (Effect.withInbox · inbox) (if_pos hs).symm

end

/-- A dispatch puts the event at the end of the queue of a started hub. -/
theorem dispatch_eq (h : Hub) (event : Inbound) :
    h.begin (.dispatch event) =
      ⟨h.withInbox (h.inbox ++ if h.started then [event] else []), [.answer (.queued h.started)],
        if h.started then [] else [.remark .droppedBeforeStart]⟩ := by
  by_cases hs : h.started
  · rw [begin, dispatch, if_pos hs, if_pos hs, if_pos hs, withInbox, hs]
  · rw [begin, dispatch, if_neg hs, if_neg hs, if_neg hs, List.append_nil, Bool.eq_false_iff.mpr hs]
    rfl

end Hub

def Move.isMail : Move → Bool
  | .call (.dispatch _) => true
  | .listen => true
  | _ => false

namespace Machine

def withInbox (m : Machine) (inbox : List Inbound) : Machine :=
  { m with hub := m.hub.withInbox inbox }

section
variable {m : Machine} {move : Move} {e : Effect} {used rest : List Task}

private theorem Works.withInbox (w : Works m move e used rest) (hm : move.isMail = false)
    (inbox : List Inbound) : Works (m.withInbox inbox) move (e.withInbox inbox) used rest := by
  cases w with
  | call op h =>
    rw [← m.hub.begin_withInbox inbox fun event he => by rw [he] at hm; cases hm]
    exact .call op h
  | reply call reply rest h =>
    rw [← m.hub.resume_withInbox inbox]
    exact .reply call reply rest h
  | proceed task rest h =>
    rw [← m.hub.perform_withInbox inbox]
    exact .proceed task rest h
  | listen h => cases hm
  | tick h =>
    rw [← m.hub.tick_withInbox inbox]
    exact .tick h
  | wake id h =>
    rw [← m.hub.wake_withInbox inbox]
    exact .wake id h
  | elapse ms h =>
    rw [← m.hub.elapse_withInbox inbox]
    exact .elapse ms h

/-- Work that has nothing to do with the queue leaves it alone. -/
theorem Works.inbox_eq (w : Works m move e used rest) (hm : move.isMail = false) :
    e.hub.inbox = m.hub.inbox := by
  have hsame : take e rest = take (e.withInbox m.hub.inbox) rest :=
    w.step_eq.symm.trans (w.withInbox hm m.hub.inbox).step_eq
  exact congrArg (fun x => x.1.hub.inbox) hsame

/-- A step that has nothing to do with the queue is the same whatever is in it. -/
theorem step_withInbox (m : Machine) {move : Move} (hm : move.isMail = false)
    (inbox : List Inbound) :
    (m.withInbox inbox).step move = ((m.step move).1.withInbox inbox, (m.step move).2) := by
  by_cases hw : ∃ e used rest, Works m move e used rest
  · obtain ⟨e, used, rest, w⟩ := hw
    rw [w.step_eq, (w.withInbox hm inbox).step_eq]
    rfl
  · rw [(m.step_cases move).resolve_right hw]
    refine ((m.withInbox inbox).step_cases move).resolve_right ?_
    rintro ⟨e, used, rest, w⟩
    exact hw ⟨_, _, _, w.withInbox hm m.hub.inbox⟩

theorem inbox_step (m : Machine) {move : Move} (hm : move.isMail = false) :
    (m.step move).1.hub.inbox = m.hub.inbox := by
  rcases m.step_cases move with hn | ⟨e, used, rest, w⟩
  · rw [hn]
  · rw [w.step_eq]
    exact w.inbox_eq hm

/-- What a dispatch does to a machine that is open. -/
theorem step_dispatch (m : Machine) (hopen : m.isOpen) (event : Inbound) :
    m.step (.call (.dispatch event)) =
      (⟨m.hub.withInbox (m.hub.inbox ++ if m.hub.started then [event] else []),
          .answer (.queued m.hub.started) :: m.agenda⟩,
        if m.hub.started then [] else [.remark .droppedBeforeStart]) := by
  rw [(Works.call (.dispatch event) hopen).step_eq, m.hub.dispatch_eq event]
  rfl

end

end Machine

end PreviewHub
