import Mathlib.Data.List.Nodup
import PreviewHub.Proofs.Phase
import PreviewHub.Proofs.PlainWork
import PreviewHub.Proofs.Trace

/-! Requests in flight. From the call that sends it until it is over a request is held at one place,
first by the task that is to wait for it and then among the requests of the hub. Only a few kinds of
work deal with requests. -/

namespace PreviewHub

def Task.request? (now : Nat) : Task → Option Request
  | .awaitReply id timeout _ _ => some ⟨id, timeout, now + timeout⟩
  | _ => none

def outgoing (now : Nat) (tasks : List Task) : List Request := tasks.filterMap (Task.request? now)

def Machine.inFlight (m : Machine) : List Request :=
  outgoing m.hub.clock m.agenda ++ m.hub.requests

def Output.outcome? (id : RequestId) : Output → Option Outcome
  | .finished other outcome => if other = id then some outcome else none
  | _ => none

theorem outgoing_append (now : Nat) (first second : List Task) :
    outgoing now (first ++ second) = outgoing now first ++ outgoing now second :=
  List.filterMap_append

theorem mem_outgoing {tasks : List Task} {id : RequestId} {timeout targets : Nat} {runtime : Bool}
    (h : .awaitReply id timeout targets runtime ∈ tasks) (now : Nat) :
    ⟨id, timeout, now + timeout⟩ ∈ outgoing now tasks :=
  List.mem_filterMap.mpr ⟨_, h, rfl⟩

theorem outgoing_plain {tasks : List Task} (h : tasks.all Task.isPlain) (now : Nat) :
    outgoing now tasks = [] := by
  refine List.filterMap_eq_nil_iff.mpr fun t ht => ?_
  have hp := List.all_eq_true.mp h t ht
  cases t with
  | awaitReply id timeout targets runtime => cases hp
  | _ => rfl

structure Effect.Quiet (h : Hub) (e : Effect) : Prop where
  pending : e.hub.pending = h.pending
  requests : e.hub.requests = h.requests
  clock : e.hub.clock = h.clock
  outgoing : ∀ now, outgoing now e.tasks = []
  silent : ∀ id, e.outputs.findSome? (Output.outcome? id) = none

theorem silent_of_plain {outputs : List Output} (h : outputs.all Output.isPlain) (id : RequestId) :
    outputs.findSome? (Output.outcome? id) = none := by
  refine List.findSome?_eq_none_iff.mpr fun o ho => ?_
  have hp := List.all_eq_true.mp h o ho
  cases o with
  | finished other outcome => cases hp
  | _ => rfl

private theorem Effect.Plain.quiet {h : Hub} {e : Effect} {watcher : Watcher}
    (hp : e.Plain { h with watcher }) : e.Quiet h :=
  ⟨hp.pending, hp.requests, hp.clock, outgoing_plain hp.tasks, silent_of_plain hp.outputs⟩

def Task.isAloof : Task → Bool
  | .awaitReply _ _ _ _ => false
  | .rejectRequests => false
  | _ => true

theorem Task.request?_of_isAloof {t : Task} (h : t.isAloof) (now : Nat) :
    t.request? now = none := by
  cases t <;> first | rfl | cases h

def Hub.requestOf (h : Hub) (id : RequestId) (timeout : Option Nat) : Request :=
  h.timed id (timeout.getD h.options.responseTimeout)

def Hub.forget (h : Hub) (id : RequestId) : Hub :=
  { h with requests := h.requests.filter fun r => r.id ≠ id }

inductive Effect.Deals (h : Hub) : Move → List Task → Effect → Prop where
  | nothing {move : Move} {used : List Task} {e : Effect} (quiet : e.Quiet h)
      (aloof : used.all Task.isAloof)
      (unheard : move = .listen → h.nextReply? = none)
      (unready : ∀ id, move = .wake id → ∀ r, h.requests.find? (·.id = id) = some r →
        h.conclude? r = none) :
      Deals h move used e
  | issue (message : Message) (timeout : Option Nat) (runtime : Bool) {id : RequestId}
      {pending : Pending} {e : Effect} (room : h.pending.register = .ok (id, pending))
      (posts : List Task) (targets : Nat) (plain : posts.all Task.isPlain)
      (hub : e.hub = { h with pending })
      (tasks : e.tasks = posts ++
        [.awaitReply id (timeout.getD h.options.responseTimeout) targets runtime])
      (silent : ∀ id, e.outputs.findSome? (Output.outcome? id) = none) :
      Deals h (.call (.request message timeout runtime)) [] e
  | reply {id : RequestId} {payload : Json} {e : Effect} (heard : h.nextReply? = some (id, payload))
      (quiet : e.Quiet { h with pending := (h.pending.resolve id payload).2 }) :
      Deals h .listen [] e
  | reject {e : Effect} (quiet : e.Quiet { h with pending := (h.pending.rejectAll .closing).2 }) :
      Deals h .proceed [.rejectRequests] e
  | await (id : RequestId) (timeout targets : Nat) (runtime : Bool) :
      Deals h .proceed [.awaitReply id timeout targets runtime]
        (h.awaitReply id timeout targets runtime)
  | abandon {r : Request} {e : Effect} (held : r ∈ h.requests)
      (quiet : e.Quiet { h.forget r.id with pending := h.pending.discard r.id }) :
      Deals h (.call (.abandon r.id)) [] e
  | wake {r : Request} {outcome : Outcome} {h' : Hub} {rs : List Remark} {e : Effect}
      (held : r ∈ h.requests) (concluded : h.conclude? r = some (outcome, h', rs))
      (hub : e.hub = h'.forget r.id) (tasks : e.tasks = [])
      (outputs : e.outputs = Hub.remarks rs ++ [.finished r.id outcome]) :
      Deals h (.wake r.id) [] e
  | elapse {ms : Nat} {e : Effect} (early : ∀ r ∈ h.requests, h.clock + ms ≤ r.deadline)
      (quiet : e.Quiet { h with clock := h.clock + ms }) :
      Deals h (.elapse ms) [] e

namespace Hub

section
variable {h : Hub} {e : Effect}

private theorem deals_quiet {move : Move} {used : List Task} (quiet : e.Quiet h)
    (aloof : used.all Task.isAloof) (hl : move ≠ .listen)
    (hw : ∀ id, move ≠ .wake id) : e.Deals h move used :=
  .nothing quiet aloof (fun he => absurd he hl) fun id he => absurd he (hw id)

private theorem begin_deals (h : Hub) (op : Op) : (h.begin op).Deals h (.call op) [] := by
  have quiet {op : Op} {e : Effect} (hq : e.Quiet h) : e.Deals h (.call op) [] :=
    deals_quiet hq rfl nofun nofun
  cases op with
  | registerWindow handle runtime =>
    simp only [begin, registerWindow]
    split <;> exact quiet ⟨rfl, rfl, rfl, fun _ => rfl, fun _ => rfl⟩
  | registerFrame handle =>
    simp only [begin, registerFrame]
    split
    · exact quiet ⟨rfl, rfl, rfl, fun _ => rfl, fun _ => rfl⟩
    · exact quiet ⟨rfl, rfl, rfl, fun _ => rfl, silent_of_plain (remarks_plain _)⟩
  | unregisterFrame handle =>
    simp only [begin, unregisterFrame]
    split <;> exact quiet ⟨rfl, rfl, rfl, fun _ => rfl, fun _ => rfl⟩
  | closeAll => exact quiet ⟨rfl, rfl, rfl, fun _ => rfl, fun _ => rfl⟩
  | request message timeout runtime =>
    simp only [begin, request]
    split
    · split
      · exact quiet ⟨rfl, rfl, rfl, fun _ => rfl, fun _ => rfl⟩
      · rename_i hreg
        exact .issue message timeout runtime hreg _ _ (h.postTasks_plain _) rfl rfl fun _ => rfl
    · exact quiet ⟨rfl, rfl, rfl, fun _ => rfl, fun _ => rfl⟩
  | abandon id =>
    simp only [begin, abandon]
    split
    · rename_i hany
      obtain ⟨r, hr, hid⟩ := List.any_eq_true.mp hany
      obtain rfl := of_decide_eq_true hid
      exact .abandon hr ⟨rfl, rfl, rfl, fun _ => rfl, silent_of_plain (remarks_plain _)⟩
    · exact quiet ⟨rfl, rfl, rfl, fun _ => rfl, fun _ => rfl⟩
  | _ => exact quiet (h.begin_plain rfl).quiet

private theorem perform_deals (h : Hub) (task : Task) :
    (h.perform task).Deals h .proceed [task] := by
  have quiet {task : Task} {e : Effect} (hq : e.Quiet h) (ht : task.isAloof) :
      e.Deals h .proceed [task] :=
    deals_quiet hq (by simpa using ht) nofun nofun
  cases task with
  | emit notice =>
    refine quiet ⟨rfl, rfl, rfl, ?_, fun _ => rfl⟩ rfl
    exact outgoing_plain (by simp [perform, Task.isPlain])
  | deliver subscription notice => exact quiet (h.deliver_plain _ _).quiet rfl
  | post id handle data => exact quiet (h.post_plain _ _ _).quiet rfl
  | probe id handle => exact quiet (h.probe_plain _ _).quiet rfl
  | startWatcher runtime => exact quiet (h.startWatcher_plain runtime).quiet rfl
  | stopWatcher => exact quiet h.stopWatcher_plain.quiet rfl
  | closeConnections =>
    refine quiet ⟨rfl, rfl, rfl, fun now => ?_, fun _ => rfl⟩ rfl
    simp [perform, outgoing, Task.request?]
  | closeWindow id =>
    cases hd : h.detach id with
    | none =>
      simp only [perform, hd]
      exact quiet ⟨rfl, rfl, rfl, fun _ => rfl, fun _ => rfl⟩ rfl
    | some x =>
      obtain ⟨registry, -, -, hh⟩ := detach_eq hd
      simp only [perform, hd, hh]
      exact quiet ⟨rfl, rfl, rfl, fun _ => rfl, fun _ => rfl⟩ rfl
  | closeFrame =>
    cases hd : h.detach .frame with
    | none =>
      simp only [perform, hd]
      exact quiet ⟨rfl, rfl, rfl, fun _ => rfl, fun _ => rfl⟩ rfl
    | some x =>
      obtain ⟨registry, -, -, hh⟩ := detach_eq hd
      simp only [perform, hd, hh]
      exact quiet ⟨rfl, rfl, rfl, fun _ => rfl, fun _ => rfl⟩ rfl
  | rejectRequests =>
    exact .reject ⟨rfl, rfl, rfl, fun _ => rfl, silent_of_plain (remarks_plain _)⟩
  | stopIdleWatcher =>
    simp only [perform]
    split <;> exact quiet ⟨rfl, rfl, rfl, fun _ => rfl, fun _ => rfl⟩ rfl
  | restartWatcher =>
    simp only [perform]
    split <;> exact quiet ⟨rfl, rfl, rfl, fun _ => rfl, fun _ => rfl⟩ rfl
  | awaitReply id timeout targets runtime => exact .await id timeout targets runtime
  | waiting call => exact quiet ⟨rfl, rfl, rfl, fun _ => rfl, fun _ => rfl⟩ rfl
  | answer answer => exact quiet ⟨rfl, rfl, rfl, fun _ => rfl, fun _ => rfl⟩ rfl

private theorem resume_deals (h : Hub) (call : Call) (reply : Reply) :
    (h.resume call reply).Deals h (.reply reply) [.waiting call] := by
  refine deals_quiet ?_ rfl nofun nofun
  rcases h.resume_plain call reply with hp | ⟨id, handle, rfl, rfl⟩
  · exact hp.quiet
  · simp only [resume]
    cases hd : h.detach id with
    | none => exact ⟨rfl, rfl, rfl, fun _ => rfl, fun _ => rfl⟩
    | some x =>
      obtain ⟨registry, -, -, hh⟩ := detach_eq hd
      simp only [hh]
      exact ⟨rfl, rfl, rfl, fun _ => rfl, fun _ => rfl⟩

private theorem listen_deals (h : Hub) : h.listen.Deals h .listen [] := by
  rcases h.listen_cases with ⟨hn, hp⟩ | ⟨id, payload, hr, hp⟩
  · exact .nothing hp.quiet rfl (fun _ => hn) nofun
  · exact .reply hr hp.quiet

private theorem tick_deals (h : Hub) : h.tick.Deals h .tick [] :=
  deals_quiet h.tick_plain.quiet rfl nofun nofun

private theorem wake_deals (h : Hub) (id : RequestId) : (h.wake id).Deals h (.wake id) [] := by
  have idle (hn : ∀ r, h.requests.find? (·.id = id) = some r → h.conclude? r = none) :
      Effect.Deals h (.wake id) [] ⟨h, [], []⟩ := by
    refine .nothing ⟨rfl, rfl, rfl, fun _ => rfl, fun _ => rfl⟩ rfl nofun ?_
    rintro other he
    cases he
    exact hn
  unfold wake
  split
  · rename_i hf
    exact idle fun r hr => by rw [hf] at hr; cases hr
  · rename_i r hf
    split
    · rename_i hc
      refine idle fun r' hr => ?_
      rw [hf] at hr
      cases hr
      exact hc
    · rename_i hc
      obtain rfl : r.id = id := by simpa using List.find?_some hf
      exact .wake (List.mem_of_find?_eq_some hf) hc rfl rfl rfl

private theorem elapse_deals (h : Hub) (ms : Nat) : (h.elapse ms).Deals h (.elapse ms) [] := by
  unfold elapse
  split
  · rename_i hdue
    refine .elapse (fun r hr => ?_) ⟨rfl, rfl, rfl, fun _ => rfl, fun _ => rfl⟩
    refine of_decide_eq_true (List.all_eq_true.mp hdue r.deadline ?_)
    exact List.mem_append_right _ (List.mem_map_of_mem hr)
  · exact deals_quiet ⟨rfl, rfl, rfl, fun _ => rfl, fun _ => rfl⟩ rfl nofun nofun

end

end Hub

namespace Machine

theorem Works.deals {m : Machine} {move : Move} {e : Effect} {used rest : List Task}
    (w : Works m move e used rest) : e.Deals m.hub move used := by
  cases w with
  | call op h => exact m.hub.begin_deals op
  | reply call reply rest h => exact m.hub.resume_deals call reply
  | proceed task rest h => exact m.hub.perform_deals task
  | listen h => exact m.hub.listen_deals
  | tick h => exact m.hub.tick_deals
  | wake id h => exact m.hub.wake_deals id
  | elapse ms h => exact m.hub.elapse_deals ms

theorem Works.clock_eq {m : Machine} {move : Move} {e : Effect} {used rest : List Task}
    (w : Works m move e used rest) (hmove : ∀ ms, move ≠ .elapse ms) :
    e.hub.clock = m.hub.clock := by
  cases w.deals with
  | nothing quiet _ _ _ => exact quiet.clock
  | issue message timeout runtime room posts targets plain hub tasks silent => rw [hub]
  | reply heard quiet => exact quiet.clock
  | reject quiet => exact quiet.clock
  | await id timeout targets runtime =>
    obtain ⟨pending, requests, hp⟩ := m.hub.awaitReply_plain id timeout targets runtime
    exact hp.clock
  | abandon held quiet => exact quiet.clock
  | wake held concluded hub tasks outputs =>
    obtain ⟨pending, rfl⟩ := Hub.conclude_eq concluded
    rw [hub]
    rfl
  | elapse early quiet => exact absurd rfl (hmove _)

/-- No time passes while there is something to be done. -/
theorem Works.clock_eq_of_agenda {m : Machine} {move : Move} {e : Effect} {used rest : List Task}
    (w : Works m move e used rest) (h : m.agenda ≠ []) : e.hub.clock = m.hub.clock := by
  refine w.clock_eq ?_
  rintro ms rfl
  cases w with
  | elapse ms hidle => exact h hidle

end Machine

def Phase.isAlive : Phase → Bool
  | .waiting => true
  | .over _ => true
  | _ => false

private theorem Phase.isAlive_iff {phase : Phase} :
    phase.isAlive ↔ phase = .waiting ∨ ∃ outcome, phase = .over outcome := by
  cases phase <;> simp [isAlive]

theorem Phase.ne_unborn_of_isAlive {phase : Phase} (h : phase.isAlive) : phase ≠ .unborn := by
  rintro rfl
  cases h

private theorem Phase.isAlive_settle {phase : Phase} (h : phase.isAlive) (outcome : Outcome) :
    (phase.settle outcome).isAlive := by
  cases phase <;> first | rfl | cases h

namespace Pending

/-- The id of a new request is no other's, and the others are as before. -/
theorem register_others {p q : Pending} {id other : RequestId} (hp : p.Sound)
    (h : p.register = .ok (id, q)) (ho : p.phase other ≠ .unborn) :
    other ≠ id ∧ q.phase other = p.phase other := by
  obtain ⟨-, hid, -, -, hph⟩ := register_ok hp h
  have hne : other ≠ id := by
    rintro rfl
    exact ho ((phase_eq_unborn_iff hp).mpr fun hlt => Nat.lt_irrefl _ (hid ▸ hlt.2))
  exact ⟨hne, by rw [hph, if_neg hne]⟩

structure Released (p : Pending) (id : RequestId) (q : Pending) : Prop where
  sound : q.Sound
  gone : q.phase id = .gone
  others : ∀ other, other ≠ id → q.phase other = p.phase other

theorem discard_released {p : Pending} (hp : p.Sound) (id : RequestId) (h : p.phase id ≠ .unborn) :
    p.Released id (p.discard id) := by
  obtain ⟨hs, -, hph⟩ := discard_spec hp id
  refine ⟨hs, ?_, fun other ho => ?_⟩
  · rw [hph, if_pos rfl, Phase.discard_of_ne h]
  · rw [hph, if_neg ho]

private theorem collect_released {p : Pending} {id : RequestId} {o : Outcome} (hp : p.Sound)
    (h : p.phase id = .over o) : p.Released id ((p.collect id).2.discard id) := by
  obtain ⟨hs, -, -, hph⟩ := collect_spec hp id
  have hspent : (p.collect id).2.phase id = .spent := by rw [hph, if_pos rfl, h]; rfl
  obtain ⟨hs', hg, ho⟩ := discard_released hs id (by rw [hspent]; nofun)
  exact ⟨hs', hg, fun other hne => by rw [ho other hne, hph, if_neg hne]⟩

end Pending

/-- A request in flight is over with the outcome that it was settled with or, once its time is up,
for that reason; otherwise it waits. -/
theorem Hub.conclude_cases {h : Hub} {r : Request} (hp : h.pending.Sound)
    (ha : (h.pending.phase r.id).isAlive) :
    (∃ o q rs, h.conclude? r = some (o, { h with pending := q }, rs) ∧
      h.pending.Released r.id q ∧ (h.pending.phase r.id = .over o ∨
        h.pending.phase r.id = .waiting ∧ r.deadline ≤ h.clock ∧
          o = .failed (.timeout r.id r.timeout))) ∨
      h.conclude? r = none ∧ h.pending.phase r.id = .waiting ∧ h.clock < r.deadline := by
  obtain ⟨-, hg, -, -⟩ := Pending.collect_spec hp r.id
  unfold conclude?
  rcases Phase.isAlive_iff.mp ha with hph | ⟨o, hph⟩
  · rw [hph] at hg
    rw [show h.pending.collect r.id = (.waiting, (h.pending.collect r.id).2) from Prod.ext hg rfl]
    by_cases hd : r.deadline ≤ h.clock
    · have hrel := Pending.discard_released hp r.id (Phase.ne_unborn_of_isAlive ha)
      exact Or.inl ⟨_, _, _, if_pos hd, hrel, Or.inr ⟨hph, hd, rfl⟩⟩
    · exact Or.inr ⟨if_neg hd, hph, Nat.lt_of_not_le hd⟩
  · rw [hph] at hg
    rw [show h.pending.collect r.id = (.over o, (h.pending.collect r.id).2) from Prod.ext hg rfl]
    exact Or.inl ⟨o, _, _, rfl, Pending.collect_released hp hph, Or.inl hph⟩

/-- The same of a request that is over. -/
theorem Hub.conclude_some {h h' : Hub} {r : Request} {o : Outcome} {rs : List Remark}
    (hp : h.pending.Sound) (ha : (h.pending.phase r.id).isAlive)
    (hc : h.conclude? r = some (o, h', rs)) :
    ∃ q, h' = { h with pending := q } ∧ h.pending.Released r.id q ∧
      (h.pending.phase r.id = .over o ∨ h.pending.phase r.id = .waiting ∧ r.deadline ≤ h.clock ∧
        o = .failed (.timeout r.id r.timeout)) := by
  rcases conclude_cases hp ha with ⟨o', q, rs', hc', hq, hwhy⟩ | ⟨hn, -, -⟩
  · rw [hc'] at hc
    cases hc
    exact ⟨q, rfl, hq, hwhy⟩
  · rw [hn] at hc
    cases hc

/-- The requests in flight have ids of their own, none is lost, and no deadline has passed. -/
structure InOrder (p : Pending) (clock : Nat) (flight : List Request) : Prop where
  sound : p.Sound
  nodup : (flight.map (·.id)).Nodup
  alive : ∀ r ∈ flight, (p.phase r.id).isAlive
  timely : ∀ r ∈ flight, clock ≤ r.deadline

namespace InOrder

variable {p q : Pending} {clock : Nat} {flight flight' : List Request}

theorem eq_of_id (h : InOrder p clock flight) {r r' : Request} (hr : r ∈ flight) (hr' : r' ∈ flight)
    (he : r.id = r'.id) : r = r' :=
  List.inj_on_of_nodup_map h.nodup hr hr' he

private theorem perm (h : InOrder p clock flight) (hp : flight.Perm flight') :
    InOrder p clock flight' where
  sound := h.sound
  nodup := (hp.map _).nodup_iff.mp h.nodup
  alive r hr := h.alive r (hp.mem_iff.mpr hr)
  timely r hr := h.timely r (hp.mem_iff.mpr hr)

private theorem issue (h : InOrder p clock flight) {r : Request} (hr : p.register = .ok (r.id, q))
    (hd : clock ≤ r.deadline) : InOrder q clock (r :: flight) := by
  obtain ⟨hs, -, -, -, hph⟩ := Pending.register_ok h.sound hr
  have hold : ∀ r' ∈ flight, r'.id ≠ r.id ∧ q.phase r'.id = p.phase r'.id := fun r' hr' =>
    Pending.register_others h.sound hr (Phase.ne_unborn_of_isAlive (h.alive r' hr'))
  refine ⟨hs, ?_, ?_, ?_⟩
  · refine List.nodup_cons.mpr ⟨fun hm => ?_, h.nodup⟩
    obtain ⟨r', hr', he⟩ := List.mem_map.mp hm
    exact (hold r' hr').1 he
  · refine List.forall_mem_cons.mpr ⟨?_, fun r' hr' => ?_⟩
    · rw [hph, if_pos rfl]
      rfl
    · rw [(hold r' hr').2]
      exact h.alive r' hr'
  · exact List.forall_mem_cons.mpr ⟨hd, h.timely⟩

private theorem resolve (h : InOrder p clock flight) (id : RequestId) (payload : Json) :
    InOrder (p.resolve id payload).2 clock flight := by
  obtain ⟨hs, -, -, hph⟩ := Pending.resolve_spec h.sound id payload
  refine ⟨hs, h.nodup, fun r hr => ?_, h.timely⟩
  rw [hph]
  by_cases he : r.id = id
  · rw [if_pos he, ← he]
    exact Phase.isAlive_settle (h.alive r hr) _
  · rw [if_neg he]
    exact h.alive r hr

private theorem rejectAll (h : InOrder p clock flight) (error : Error) :
    InOrder (p.rejectAll error).2 clock flight := by
  obtain ⟨hs, -, hph⟩ := Pending.rejectAll_spec h.sound error
  refine ⟨hs, h.nodup, fun r hr => ?_, h.timely⟩
  rw [hph]
  exact Phase.isAlive_settle (h.alive r hr) _

theorem release (h : InOrder p clock flight) {id : RequestId} (hq : p.Released id q)
    (hsub : flight'.Sublist flight) (hne : ∀ r ∈ flight', r.id ≠ id) : InOrder q clock flight' where
  sound := hq.sound
  nodup := (hsub.map _).nodup h.nodup
  alive r hr := hq.others r.id (hne r hr) ▸ h.alive r (hsub.subset hr)
  timely r hr := h.timely r (hsub.subset hr)

/-- A request that the hub holds is forgotten, and with it no other. -/
private theorem forget {first requests : List Request} (h : InOrder p clock (first ++ requests))
    {r : Request} (hr : r ∈ requests) (hq : p.Released r.id q) :
    InOrder q clock (first ++ requests.filter fun r' => r'.id ≠ r.id) := by
  refine h.release hq ((List.Sublist.refl _).append List.filter_sublist) fun r' hr' he => ?_
  rcases List.mem_append.mp hr' with hm | hm
  · have hdisjoint := (List.nodup_append.mp (List.map_append ▸ h.nodup)).2.2
    exact hdisjoint _ (List.mem_map_of_mem hm) _ (List.mem_map_of_mem hr) he
  · exact of_decide_eq_true (List.mem_filter.mp hm).2 he

private theorem elapse (h : InOrder p clock flight) {clock' : Nat}
    (hd : ∀ r ∈ flight, clock' ≤ r.deadline) : InOrder p clock' flight :=
  ⟨h.sound, h.nodup, h.alive, hd⟩

end InOrder

namespace Machine

def Orderly (m : Machine) : Prop := InOrder m.hub.pending m.hub.clock m.inFlight

/-- A request that the hub holds is found by its id. -/
theorem Orderly.find?_eq {m : Machine} (hm : Orderly m) {r : Request} (hr : r ∈ m.hub.requests) :
    m.hub.requests.find? (·.id = r.id) = some r := by
  cases hf : m.hub.requests.find? (·.id = r.id) with
  | none => simpa using List.find?_eq_none.mp hf r hr
  | some q =>
    have hq := List.mem_append_right (outgoing m.hub.clock m.agenda) (List.mem_of_find?_eq_some hf)
    refine congrArg some (hm.eq_of_id hq (List.mem_append_right _ hr) ?_)
    simpa using List.find?_some hf

theorem Works.inFlight_eq {m : Machine} {move : Move} {e : Effect} {used rest : List Task}
    (w : Works m move e used rest) :
    m.inFlight =
      outgoing m.hub.clock used ++ (outgoing m.hub.clock rest ++ m.hub.requests) := by
  rw [inFlight, w.agenda_eq, outgoing_append, List.append_assoc]

theorem orderly_step {m : Machine} (hm : Orderly m) (move : Move) : Orderly (m.step move).1 := by
  rcases m.step_cases move with hn | ⟨e, used, rest, w⟩
  · rw [hn]
    exact hm
  · have hf := w.inFlight_eq
    have hd := w.deals
    rw [Orderly, hf] at hm
    rw [w.step_eq]
    show InOrder e.hub.pending e.hub.clock
      (outgoing e.hub.clock (e.tasks ++ rest) ++ e.hub.requests)
    rw [outgoing_append, List.append_assoc]
    cases hd with
    | nothing quiet aloof _ _ =>
      have hu : outgoing m.hub.clock used = [] := List.filterMap_eq_nil_iff.mpr fun t ht =>
        Task.request?_of_isAloof (List.all_eq_true.mp aloof t ht) _
      rw [quiet.pending, quiet.clock, quiet.requests, quiet.outgoing, ← hu]
      exact hm
    | issue message timeout runtime room posts targets plain hub tasks _ =>
      rw [hub, tasks, outgoing_append, outgoing_plain plain]
      exact hm.issue room (Nat.le_add_right _ _)
    | reply heard quiet =>
      rw [quiet.pending, quiet.clock, quiet.requests, quiet.outgoing]
      exact hm.resolve _ _
    | reject quiet =>
      rw [quiet.pending, quiet.clock, quiet.requests, quiet.outgoing]
      exact hm.rejectAll _
    | await id timeout targets runtime =>
      have ha := hm.alive (m.hub.timed id timeout) List.mem_cons_self
      have hnodup := List.nodup_cons.mp hm.nodup
      have hrel {q : Pending} (hq : m.hub.pending.Released id q) :
          InOrder q m.hub.clock (outgoing m.hub.clock rest ++ m.hub.requests) := by
        refine hm.release hq (List.sublist_cons_self _ _) fun r' hr' he => ?_
        exact hnodup.1 (List.mem_map.mpr ⟨r', hr', he⟩)
      unfold Hub.awaitReply
      cases runtime with
      | true =>
        rw [if_pos rfl]
        rcases Hub.conclude_cases hm.sound ha with ⟨o, q, rs, hc, hq, -⟩ | ⟨hc, -, -⟩
        · rw [hc]
          exact hrel hq
        · rw [hc]
          refine hm.perm ?_
          show (m.hub.timed id timeout :: (outgoing m.hub.clock rest ++ m.hub.requests)).Perm
            (outgoing m.hub.clock rest ++ (m.hub.requests ++ [m.hub.timed id timeout]))
          rw [← List.append_assoc]
          exact (List.perm_append_singleton _ _).symm
      | false =>
        rw [if_neg Bool.false_ne_true]
        exact hrel (Pending.discard_released hm.sound id (Phase.ne_unborn_of_isAlive ha))
    | @abandon r _ held quiet =>
      have hm : InOrder m.hub.pending m.hub.clock
          (outgoing m.hub.clock rest ++ m.hub.requests) := hm
      have ha := hm.alive r (List.mem_append_right _ held)
      have hq := Pending.discard_released hm.sound r.id (Phase.ne_unborn_of_isAlive ha)
      rw [quiet.pending, quiet.clock, quiet.requests, quiet.outgoing]
      exact hm.forget held hq
    | @wake r _ _ _ _ held concluded hub tasks _ =>
      have hm : InOrder m.hub.pending m.hub.clock
          (outgoing m.hub.clock rest ++ m.hub.requests) := hm
      have ha := hm.alive r (List.mem_append_right _ held)
      obtain ⟨q, rfl, hq, -⟩ := Hub.conclude_some hm.sound ha concluded
      rw [hub, tasks]
      exact hm.forget held hq
    | elapse early quiet =>
      have hrest : rest = [] := by cases w; rfl
      subst hrest
      rw [quiet.pending, quiet.clock, quiet.requests, quiet.outgoing]
      exact hm.elapse early

theorem orderly_new {options : Options} {own : Bool} {h : Hub}
    (hb : Hub.build options own = .ok h) : Orderly ⟨h, []⟩ := by
  obtain ⟨rfl, -⟩ := Hub.build_ok hb
  exact ⟨Pending.sound_new _, List.nodup_nil, nofun, nofun⟩

theorem orderly_run {m : Machine} (hm : Orderly m) (moves : List Move) : Orderly (m.run moves).1 :=
  run_keeps orderly_step hm moves

end Machine

end PreviewHub
