import Mathlib.Tactic.ByContra
import PreviewHub.Hub.Machine

/-! Plain work: most of what a hub does is to pass things on, and leaves alone which previews are
connected, who is watched and which requests are open. It is told apart here once, so that what is
said about these has to speak of the other work only. -/

namespace PreviewHub

def Notice.isConnection : Notice → Bool
  | .opened _ _ => true
  | .closed _ _ => true
  | _ => false

def Task.isPlain : Task → Bool
  | .emit notice => !notice.isConnection
  | .deliver _ _ => true
  | .post _ _ _ => true
  | .probe _ _ => true
  | .stopIdleWatcher => true
  | .waiting _ => true
  | .answer _ => true
  | _ => false

def Output.isPlain : Output → Bool
  | .emitted notice => !notice.isConnection
  | .finished _ _ => false
  | _ => true

structure Effect.Plain (h : Hub) (e : Effect) : Prop where
  registry : e.hub.registry = h.registry
  watcher : e.hub.watcher = h.watcher
  pending : e.hub.pending = h.pending
  requests : e.hub.requests = h.requests
  clock : e.hub.clock = h.clock
  tasks : e.tasks.all Task.isPlain
  outputs : e.outputs.all Output.isPlain

def Op.isPlain : Op → Bool
  | .start _ _ => true
  | .poll => true
  | .send _ _ => true
  | .broadcast _ => true
  | .dispatch _ => true
  | .subscribe _ => true
  | .unsubscribe _ => true
  | _ => false

def Call.isIndifferent : Call → Bool
  | .post _ _ _ _ => false
  | .probe _ _ => false
  | _ => true

namespace Watcher

def start (now : Nat) (runtime : Bool) : Watcher → Watcher
  | .polling poller => .polling (poller.start now runtime ())
  | .external _ => .external true

def stop : Watcher → Watcher
  | .polling poller => .polling poller.stop
  | .external _ => .external false

def tick (now : Nat) : Watcher → Watcher
  | .polling poller =>
    if poller.due?.any (· ≤ now) then .polling poller.advance else .polling poller
  | .external running => .external running

end Watcher

namespace Hub

theorem remarks_plain (rs : List Remark) : (remarks rs).all Output.isPlain := by
  simp [remarks, Output.isPlain]

theorem postTasks_plain (h : Hub) (data : String) : (h.postTasks data).all Task.isPlain := by
  simp [postTasks, Task.isPlain]

private theorem pollTasks_plain (h : Hub) : h.pollTasks.all Task.isPlain := by
  simp [pollTasks, Task.isPlain]

/-- Work that leaves the hub as it is. -/
private theorem plain_same {h : Hub} {tasks : List Task} {outputs : List Output}
    (ht : tasks.all Task.isPlain) (ho : outputs.all Output.isPlain) :
    Effect.Plain h ⟨h, tasks, outputs⟩ :=
  ⟨rfl, rfl, rfl, rfl, rfl, ht, ho⟩

theorem begin_plain (h : Hub) {op : Op} (hop : op.isPlain) : (h.begin op).Plain h := by
  cases op with
  | start url runtime =>
    simp only [begin, start]
    split
    · exact plain_same rfl rfl
    · split
      · exact plain_same rfl rfl
      · split
        · exact plain_same rfl rfl
        · split <;> exact ⟨rfl, rfl, rfl, rfl, rfl, rfl, rfl⟩
  | poll => exact plain_same (by simp [pollTasks_plain, Task.isPlain]) rfl
  | send id message =>
    simp only [begin, send]
    split
    · split <;> exact plain_same rfl rfl
    · exact plain_same rfl rfl
  | broadcast message =>
    simp only [begin, broadcast]
    split
    · exact plain_same (by simp [postTasks_plain, Task.isPlain]) rfl
    · exact plain_same rfl rfl
  | dispatch event =>
    simp only [begin, dispatch]
    split <;> exact ⟨rfl, rfl, rfl, rfl, rfl, rfl, rfl⟩
  | subscribe listener => exact ⟨rfl, rfl, rfl, rfl, rfl, rfl, rfl⟩
  | unsubscribe id => exact ⟨rfl, rfl, rfl, rfl, rfl, rfl, remarks_plain _⟩
  | _ => cases hop

theorem deliver_plain (h : Hub) (subscription : Subscription) (notice : Notice) :
    (h.perform (.deliver subscription notice)).Plain h :=
  plain_same rfl rfl

theorem post_plain (h : Hub) (id : PreviewId) (handle : Handle) (data : String) :
    (h.perform (.post id handle data)).Plain h := by
  simp only [perform]
  split <;> exact plain_same rfl rfl

theorem probe_plain (h : Hub) (id : PreviewId) (handle : Handle) :
    (h.perform (.probe id handle)).Plain h :=
  plain_same rfl rfl

/-- To start the watcher is plain work, but for the watcher. -/
theorem startWatcher_plain (h : Hub) (runtime : Bool) :
    (h.startWatcher runtime).Plain { h with watcher := h.watcher.start h.clock runtime } := by
  unfold startWatcher
  cases h.watcher with
  | external running => exact plain_same rfl rfl
  | polling poller => exact plain_same rfl (remarks_plain _)

theorem stopWatcher_plain (h : Hub) :
    h.stopWatcher.Plain { h with watcher := h.watcher.stop } := by
  unfold stopWatcher
  cases h.watcher with
  | external running => exact plain_same rfl rfl
  | polling poller => exact plain_same rfl (remarks_plain _)

theorem tick_plain (h : Hub) : h.tick.Plain { h with watcher := h.watcher.tick h.clock } := by
  have idle (hw : h.watcher.tick h.clock = h.watcher) :
      Effect.Plain { h with watcher := h.watcher.tick h.clock } ⟨h, [], []⟩ :=
    ⟨rfl, hw.symm, rfl, rfl, rfl, rfl, rfl⟩
  unfold tick
  split
  · rename_i poller hw
    split
    · rename_i due hd
      split
      · rename_i hdue
        have hnext : h.watcher.tick h.clock = .polling poller.advance := by
          simp [Watcher.tick, hw, hd, hdue]
        exact ⟨rfl, hnext.symm, rfl, rfl, rfl, h.pollTasks_plain, rfl⟩
      · rename_i hdue
        exact idle (by simp [Watcher.tick, hw, hd, hdue])
    · rename_i hd
      exact idle (by simp [Watcher.tick, hw, hd])
  · rename_i hw
    exact idle (by rw [hw]; rfl)

/-- Time passes only as far as nothing is missed. -/
theorem elapse_plain (h : Hub) (ms : Nat) :
    (h.elapse ms).Plain { h with clock := (h.elapse ms).hub.clock } := by
  unfold elapse
  split <;> exact ⟨rfl, rfl, rfl, rfl, rfl, rfl, rfl⟩

/-- A call that returned is plain work, unless a window was found closed. -/
theorem resume_plain (h : Hub) (call : Call) (reply : Reply) :
    (h.resume call reply).Plain h ∨ ∃ id handle, call = .probe id handle ∧ reply = .closed := by
  unfold resume
  split
  · exact Or.inl (plain_same rfl rfl)
  · exact Or.inl (plain_same rfl rfl)
  · exact Or.inl (plain_same rfl rfl)
  · exact Or.inr ⟨_, _, rfl, rfl⟩
  · exact Or.inl (plain_same rfl rfl)
  · exact Or.inl (plain_same rfl rfl)
  · exact Or.inl (plain_same rfl rfl)

/-- However such a call returns, the hub stays as it is and has nothing more to do for it. -/
theorem resume_indifferent (h : Hub) (call : Call) (hc : call.isIndifferent) (reply : Reply) :
    ∃ rs, h.resume call reply = ⟨h, [], remarks rs⟩ := by
  cases call with
  | notify s notice =>
    cases reply with
    | panicked => exact ⟨[.subscriberPanicked s.id notice.kind], rfl⟩
    | _ => exact ⟨[], rfl⟩
  | close id handle =>
    cases reply with
    | failed e => exact ⟨[.goneWhileClosing id e.message], rfl⟩
    | _ => exact ⟨[], rfl⟩
  | startWatcher => cases reply <;> exact ⟨[], rfl⟩
  | stopWatcher => cases reply <;> exact ⟨[], rfl⟩
  | _ => cases hc

/-- What is detached is taken out of the registry, and nothing else happens. -/
theorem detach_eq {h h' : Hub} {id : PreviewId} {handle : Handle} {ids : List PreviewId}
    (hd : h.detach id = some (handle, ids, h')) :
    ∃ registry, h.registry.remove id = some (handle, registry) ∧ ids = registry.list ∧
      h' = { h with registry } := by
  unfold detach at hd
  split at hd
  · cases hd
  · rename_i hrem
    cases hd
    exact ⟨_, hrem, rfl, rfl⟩

/-- A request that is over has touched nothing but the pending ones. -/
theorem conclude_eq {h h' : Hub} {r : Request} {outcome : Outcome} {rs : List Remark}
    (hc : h.conclude? r = some (outcome, h', rs)) : ∃ pending, h' = { h with pending } := by
  unfold conclude? at hc
  split at hc
  · cases hc
    exact ⟨_, rfl⟩
  · split at hc
    · cases hc
      exact ⟨_, rfl⟩
    · cases hc

/-- To wait for a request, or to find it over at once, is plain work but for the requests. -/
theorem awaitReply_plain (h : Hub) (id : RequestId) (timeout targets : Nat) (runtime : Bool) :
    ∃ pending requests,
      (h.awaitReply id timeout targets runtime).Plain { h with pending, requests } := by
  unfold awaitReply
  split
  · split
    · rename_i hc
      obtain ⟨pending, rfl⟩ := conclude_eq hc
      exact ⟨pending, h.requests, plain_same rfl (remarks_plain _)⟩
    · exact ⟨h.pending, _, plain_same rfl rfl⟩
  · exact ⟨_, h.requests, plain_same rfl (remarks_plain _)⟩

theorem abandon_plain (h : Hub) (id : RequestId) :
    ∃ pending requests, (h.abandon id).Plain { h with pending, requests } := by
  unfold abandon
  split
  · exact ⟨_, _, plain_same rfl (remarks_plain _)⟩
  · exact ⟨h.pending, h.requests, plain_same rfl rfl⟩

/-- To look after a request leaves nothing to do, and emits nothing. -/
theorem wake_eq (h : Hub) (id : RequestId) :
    ∃ pending requests outputs, h.wake id = ⟨{ h with pending, requests }, [], outputs⟩ ∧
      ∀ notice, .emitted notice ∉ outputs := by
  unfold wake
  split
  · exact ⟨h.pending, h.requests, [], rfl, fun _ => List.not_mem_nil⟩
  · split
    · exact ⟨h.pending, h.requests, [], rfl, fun _ => List.not_mem_nil⟩
    · rename_i hc
      obtain ⟨pending, rfl⟩ := conclude_eq hc
      refine ⟨pending, _, _, rfl, fun notice hm => ?_⟩
      simp [remarks] at hm

def connected (h : Hub) : List Handle := h.registry.endpoints.map (·.2)

/-- The request that an event replies to, with the payload. The event has to come from the origin of
the channel and from a preview that is connected, and it has to be readable. -/
def replyTo? (h : Hub) (event : Inbound) : Option (RequestId × Json) :=
  if h.channel.origin.map (·.text) = some event.origin ∧
      ∃ source ∈ event.source, source ∈ h.connected
  then
    match decodePayload event.data with
    | .ok payload => payload.requestId?.map fun id => (id, payload)
    | .error _ => none
  else none

def nextReply? (h : Hub) : Option (RequestId × Json) :=
  if h.started then h.inbox.head?.bind h.replyTo? else none

theorem accepts_iff (c : Channel) (event : Inbound) :
    c.accepts event ↔ c.origin.map (·.text) = some event.origin := by
  unfold Channel.accepts
  cases c.origin with
  | none => simp
  | some origin => simp

private theorem find?_eq_none_iff (r : Registry) (handle : Handle) :
    r.find? handle = none ↔ handle ∉ r.endpoints.map (·.2) := by
  have hwindows : (r.windows.find? fun w => w.2 = handle) = none ↔
      handle ∉ r.windows.map (·.2) := by
    simp only [List.find?_eq_none, decide_eq_true_eq, List.mem_map, not_exists, not_and]
  unfold Registry.find? Registry.endpoints
  cases r.frame with
  | none => simpa using hwindows
  | some current =>
    by_cases hc : current = handle
    · simp [hc]
    · rw [if_neg (fun h => hc (Option.some.inj h)), List.map_cons, List.mem_cons, not_or]
      simpa [Ne.symm hc] using hwindows

theorem source_eq_none_iff (h : Hub) (source : Option Handle) :
    source.bind h.registry.find? = none ↔ ¬ ∃ handle ∈ source, handle ∈ h.connected := by
  cases source with
  | none => simp
  | some handle => simpa [connected] using find?_eq_none_iff h.registry handle

/-- An event that replies to no request is passed on, or passed over. -/
private theorem handle_cases (h : Hub) (event : Inbound) :
    (h.replyTo? event = none ∧ (h.handle event).Plain h) ∨
      ∃ id payload, h.replyTo? event = some (id, payload) ∧
        (h.handle event).Plain { h with pending := (h.pending.resolve id payload).2 } := by
  unfold handle
  by_cases ha : h.channel.accepts event
  · rw [if_pos ha]
    cases hd : decodePayload event.data with
    | error e => exact Or.inl ⟨by simp [replyTo?, hd], plain_same rfl rfl⟩
    | ok payload =>
      cases hs : event.source.bind h.registry.find? with
      | none =>
        have hs := (source_eq_none_iff h event.source).mp hs
        exact Or.inl ⟨if_neg fun hc => hs hc.2, plain_same rfl rfl⟩
      | some id =>
        have hs : ∃ handle ∈ event.source, handle ∈ h.connected := by
          by_contra hn
          rw [(source_eq_none_iff h event.source).mpr hn] at hs
          cases hs
        have hr : h.replyTo? event = payload.requestId?.map fun id => (id, payload) := by
          unfold replyTo?
          rw [if_pos ⟨(accepts_iff _ _).mp ha, hs⟩, hd]
        dsimp only
        rw [hr]
        cases payload.requestId? with
        | none => exact Or.inl ⟨rfl, plain_same rfl rfl⟩
        | some request =>
          refine Or.inr ⟨request, payload, rfl, plain_same rfl ?_⟩
          split <;> rfl
  · rw [if_neg ha]
    exact Or.inl ⟨if_neg fun hc => ha ((accepts_iff _ _).mpr hc.1), plain_same rfl rfl⟩

/-- To listen is plain work, but for the request that the event replies to. -/
theorem listen_cases (h : Hub) :
    (h.nextReply? = none ∧ h.listen.Plain h) ∨
      ∃ id payload, h.nextReply? = some (id, payload) ∧
        h.listen.Plain { h with pending := (h.pending.resolve id payload).2 } := by
  unfold listen nextReply?
  cases hi : h.inbox with
  | nil => exact Or.inl ⟨by simp, plain_same rfl rfl⟩
  | cons event inbox =>
    by_cases hs : h.started
    · simp only [if_pos hs]
      rcases { h with inbox }.handle_cases event with ⟨hn, hp⟩ | ⟨id, payload, hr, hp⟩
      · exact Or.inl ⟨hn, hp.1, hp.2, hp.3, hp.4, hp.5, hp.6, hp.7⟩
      · exact Or.inr ⟨id, payload, hr, hp.1, hp.2, hp.3, hp.4, hp.5, hp.6, hp.7⟩
    · simp only [if_neg hs]
      exact Or.inl ⟨trivial, plain_same rfl rfl⟩

end Hub

end PreviewHub
