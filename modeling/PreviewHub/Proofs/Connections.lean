import PreviewHub.Proofs.PlainWork
import PreviewHub.Proofs.Registry
import PreviewHub.Proofs.Trace

/-! What a hub tells about its connections. A step that changes the registry leaves the task to tell
it, and nothing else does; the telling comes when the task is reached, however much happens before.
-/

namespace PreviewHub

def Task.owed? : Task → Option Notice
  | .emit notice => if notice.isConnection then some notice else none
  | _ => none

def Output.told? : Output → Option Notice
  | .emitted notice => if notice.isConnection then some notice else none
  | _ => none

def owed (tasks : List Task) : List Notice := tasks.filterMap Task.owed?

def told (outputs : List Output) : List Notice := outputs.filterMap Output.told?

theorem owed_append (first second : List Task) :
    owed (first ++ second) = owed first ++ owed second :=
  List.filterMap_append

theorem told_append (first second : List Output) :
    told (first ++ second) = told first ++ told second :=
  List.filterMap_append

theorem owed_eq_nil {tasks : List Task} (h : ∀ t ∈ tasks, t.owed? = none) : owed tasks = [] :=
  List.filterMap_eq_nil_iff.mpr h

theorem owed_plain {tasks : List Task} (h : tasks.all Task.isPlain) : owed tasks = [] := by
  refine List.filterMap_eq_nil_iff.mpr fun t ht => ?_
  have hp := List.all_eq_true.mp h t ht
  cases t with
  | emit notice =>
    simp only [Task.isPlain, Bool.not_eq_true'] at hp
    simp [Task.owed?, hp]
  | _ => rfl

theorem told_plain {outputs : List Output} (h : outputs.all Output.isPlain) :
    told outputs = [] := by
  refine List.filterMap_eq_nil_iff.mpr fun o ho => ?_
  have hp := List.all_eq_true.mp h o ho
  cases o with
  | emitted notice =>
    simp only [Output.isPlain, Bool.not_eq_true'] at hp
    simp [Output.told?, hp]
  | _ => rfl

def Task.opens : Task → Bool
  | .emit (.opened _ _) => true
  | _ => false

private theorem Task.opens_of_owed {t : Task} (h : t.owed? = none) : t.opens = false := by
  cases t with
  | emit notice =>
    cases notice with
    | opened id ids => cases h
    | _ => rfl
  | _ => rfl

/-- A piece of work on the tasks `used` changes the registry as `news` says, and tells what was owed
or leaves the task to tell it. That a preview was opened is told before anything else, and a frame
is opened only by whoever registers it. -/
structure Effect.Tells (h : Hub) (move : Move) (used : List Task) (e : Effect)
    (news : List Notice) : Prop where
  change : Registry.Change h.registry e.hub.registry news
  balance : told e.outputs ++ owed e.tasks = owed used ++ news
  first : ∀ t ∈ e.tasks.tail, t.opens = false
  framed : ∀ ids, .opened .frame ids ∈ news → ∃ handle, move = .call (.registerFrame handle)

namespace Hub

private theorem tells_nothing {h : Hub} {move : Move} {used : List Task} {e : Effect}
    (hr : e.hub.registry = h.registry) (ho : told e.outputs = []) (ht : owed e.tasks = [])
    (hu : owed used = []) : e.Tells h move used [] :=
  ⟨hr ▸ .nothing, by rw [ho, ht, hu], fun t hm =>
    Task.opens_of_owed (List.filterMap_eq_nil_iff.mp ht t (List.mem_of_mem_tail hm)), nofun⟩

private theorem tells_closed {h : Hub} {move : Move} {used : List Task} {e : Effect}
    {id : PreviewId} {ids : List PreviewId}
    (hc : Registry.Change h.registry e.hub.registry [.closed id ids])
    (ho : told e.outputs = []) (ht : owed e.tasks = [.closed id ids])
    (hf : ∀ t ∈ e.tasks.tail, t.opens = false) (hu : owed used = []) :
    e.Tells h move used [.closed id ids] :=
  ⟨hc, by rw [ho, ht, hu], hf, by simp⟩

private theorem tells_plain {h h' : Hub} {move : Move} {used : List Task} {e : Effect}
    (hp : e.Plain h') (hr : h'.registry = h.registry) (hu : owed used = []) :
    e.Tells h move used [] :=
  tells_nothing (hp.registry.trans hr) (told_plain hp.outputs) (owed_plain hp.tasks) hu

private theorem detach_tells {h h' : Hub} {id : PreviewId} {handle : Handle} {ids : List PreviewId}
    (hd : h.detach id = some (handle, ids, h')) :
    Registry.Change h.registry h'.registry [.closed id ids] := by
  obtain ⟨registry, hrem, rfl, rfl⟩ := detach_eq hd
  rcases Registry.remove_cases hrem with ⟨rfl, hf, hr⟩ | ⟨-, hm, hr⟩
  · exact .release handle hf hr
  · exact .remove id handle hm hr

private theorem begin_tells (h : Hub) (op : Op) :
    ∃ news, (h.begin op).Tells h (.call op) [] news := by
  cases op with
  | registerWindow handle runtime =>
    simp only [begin, registerWindow]
    rcases Registry.registerWindow_cases h.registry handle with ⟨id, hx⟩ | ⟨r', hx, hr'⟩
    · refine ⟨[], ?_⟩
      simp only [hx]
      exact tells_nothing rfl rfl rfl rfl
    · refine ⟨[.opened (.window h.registry.nextWindow) r'.list], ?_⟩
      simp only [hx]
      refine ⟨.window handle hr', rfl, by simp [Task.opens], ?_⟩
      simp [(PreviewId.window_ne_frame _).symm]
  | registerFrame handle =>
    simp only [begin, registerFrame]
    rcases Registry.registerFrame_cases h.registry handle with
      ⟨-, hx⟩ | ⟨r', change, hx, hne, hf, hr'⟩
    · refine ⟨[], ?_⟩
      simp only [hx]
      exact tells_nothing rfl rfl rfl rfl
    · refine ⟨[.opened .frame r'.list], ?_⟩
      simp only [hx]
      have hframed : ∀ ids, Notice.opened .frame ids ∈ [Notice.opened .frame r'.list] →
          ∃ handle', Move.call (.registerFrame handle) = .call (.registerFrame handle') :=
        fun _ _ => ⟨handle, rfl⟩
      cases change with
      | unchanged => exact absurd rfl hne
      | registered => exact ⟨.frame handle hf hr', rfl, by simp [Task.opens], hframed⟩
      | replaced => exact ⟨.frame handle hf hr', rfl, by simp [Task.opens], hframed⟩
  | unregisterFrame handle =>
    simp only [begin, unregisterFrame]
    rcases Registry.unregisterFrame_cases h.registry handle with
      ⟨release, hx, hne⟩ | ⟨r', hx, hf, hr'⟩
    · refine ⟨[], ?_⟩
      simp only [hx]
      cases release with
      | released => exact absurd rfl hne
      | notCurrent => exact tells_nothing rfl rfl rfl rfl
      | missing => exact tells_nothing rfl rfl rfl rfl
    · refine ⟨[.closed .frame r'.list], ?_⟩
      simp only [hx]
      exact tells_closed (.release handle hf hr') rfl rfl (by simp [Task.opens]) rfl
  | closeAll => exact ⟨[], tells_nothing rfl rfl rfl rfl⟩
  | request message timeout runtime =>
    refine ⟨[], ?_⟩
    simp only [begin, request]
    split
    · split
      · exact tells_nothing rfl rfl rfl rfl
      · refine tells_nothing rfl rfl ?_ rfl
        rw [owed_append, owed_plain (h.postTasks_plain _)]
        rfl
    · exact tells_nothing rfl rfl rfl rfl
  | abandon id =>
    obtain ⟨pending, requests, hp⟩ := h.abandon_plain id
    exact ⟨[], tells_plain hp rfl rfl⟩
  | _ => exact ⟨[], tells_plain (h.begin_plain rfl) rfl rfl⟩

private theorem owed_deliveries (subscriptions : List Subscription) (notice : Notice) :
    owed (subscriptions.map fun s => .deliver s notice) = [] :=
  owed_plain (by simp [Task.isPlain])

theorem perform_tells (h : Hub) (task : Task) :
    ∃ news, (h.perform task).Tells h .proceed [task] news := by
  cases task with
  | emit notice =>
    refine ⟨[], .nothing, ?_, ?_, fun _ h => absurd h List.not_mem_nil⟩
    · simp only [perform, owed_deliveries, List.append_nil]
      by_cases hc : notice.isConnection <;> simp [told, owed, Output.told?, Task.owed?, hc]
    · intro t ht
      exact Task.opens_of_owed
        (List.filterMap_eq_nil_iff.mp (owed_deliveries _ notice) t (List.mem_of_mem_tail ht))
  | deliver subscription notice => exact ⟨[], tells_plain (h.deliver_plain _ _) rfl rfl⟩
  | post id handle data => exact ⟨[], tells_plain (h.post_plain _ _ _) rfl rfl⟩
  | probe id handle => exact ⟨[], tells_plain (h.probe_plain _ _) rfl rfl⟩
  | startWatcher runtime => exact ⟨[], tells_plain (h.startWatcher_plain runtime) rfl rfl⟩
  | stopWatcher => exact ⟨[], tells_plain h.stopWatcher_plain rfl rfl⟩
  | closeConnections =>
    refine ⟨[], tells_nothing rfl rfl ?_ rfl⟩
    refine owed_eq_nil fun t ht => ?_
    rcases List.mem_append.mp ht with ht | ht
    · obtain ⟨w, -, rfl⟩ := List.mem_map.mp ht
      rfl
    · rcases List.mem_pair.mp ht with rfl | rfl <;> rfl
  | closeWindow id =>
    cases hd : h.detach id with
    | none =>
      refine ⟨[], ?_⟩
      simp only [perform, hd]
      exact tells_nothing rfl rfl rfl rfl
    | some x =>
      refine ⟨[.closed id x.2.1], ?_⟩
      simp only [perform, hd]
      exact tells_closed (detach_tells hd) rfl rfl (by simp [callOut, Task.opens]) rfl
  | closeFrame =>
    cases hd : h.detach .frame with
    | none =>
      refine ⟨[], ?_⟩
      simp only [perform, hd]
      exact tells_nothing rfl rfl rfl rfl
    | some x =>
      refine ⟨[.closed .frame x.2.1], ?_⟩
      simp only [perform, hd]
      exact tells_closed (detach_tells hd) rfl rfl (by simp) rfl
  | rejectRequests => exact ⟨[], tells_nothing rfl (told_plain (remarks_plain _)) rfl rfl⟩
  | stopIdleWatcher =>
    refine ⟨[], ?_⟩
    simp only [perform]
    split <;> exact tells_nothing rfl rfl rfl rfl
  | restartWatcher =>
    refine ⟨[], ?_⟩
    simp only [perform]
    split <;> exact tells_nothing rfl rfl rfl rfl
  | awaitReply id timeout targets runtime =>
    obtain ⟨pending, requests, hp⟩ := h.awaitReply_plain id timeout targets runtime
    exact ⟨[], tells_plain hp rfl rfl⟩
  | waiting call => exact ⟨[], tells_nothing rfl rfl rfl rfl⟩
  | answer answer => exact ⟨[], tells_nothing rfl rfl rfl rfl⟩

private theorem resume_tells (h : Hub) (call : Call) (reply : Reply) :
    ∃ news, (h.resume call reply).Tells h (.reply reply) [.waiting call] news := by
  rcases h.resume_plain call reply with hp | ⟨id, handle, rfl, rfl⟩
  · exact ⟨[], tells_plain hp rfl rfl⟩
  · simp only [resume]
    cases hd : h.detach id with
    | none => exact ⟨[], tells_nothing rfl rfl rfl rfl⟩
    | some x => exact ⟨[.closed id x.2.1], tells_closed (detach_tells hd) rfl rfl (by simp) rfl⟩

private theorem listen_tells (h : Hub) : h.listen.Tells h .listen [] [] := by
  rcases h.listen_cases with ⟨-, hp⟩ | ⟨id, payload, -, hp⟩
  · exact tells_plain hp rfl rfl
  · exact tells_plain hp rfl rfl

private theorem wake_tells (h : Hub) (id : RequestId) : (h.wake id).Tells h (.wake id) [] [] := by
  obtain ⟨pending, requests, outputs, hw, hn⟩ := h.wake_eq id
  rw [hw]
  refine tells_nothing rfl (List.filterMap_eq_nil_iff.mpr fun o ho => ?_) rfl rfl
  cases o with
  | emitted notice => exact absurd ho (hn notice)
  | _ => rfl

end Hub

/-- Every piece of work tells what it changes, now or by a task that it leaves. -/
theorem Machine.Works.tells {m : Machine} {move : Move} {e : Effect} {used rest : List Task}
    (w : Machine.Works m move e used rest) : ∃ news, e.Tells m.hub move used news := by
  cases w with
  | call op h => exact m.hub.begin_tells op
  | reply call reply rest h => exact m.hub.resume_tells call reply
  | proceed task rest h => exact m.hub.perform_tells task
  | listen h => exact ⟨[], m.hub.listen_tells⟩
  | tick h => exact ⟨[], Hub.tells_plain m.hub.tick_plain rfl rfl⟩
  | wake id h => exact ⟨[], m.hub.wake_tells id⟩
  | elapse ms h => exact ⟨[], Hub.tells_plain (m.hub.elapse_plain ms) rfl rfl⟩

end PreviewHub
