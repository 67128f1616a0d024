import PreviewHub.Proofs.Connections
import PreviewHub.Proofs.Polling

/-! Windows are watched. The watcher is stopped and started at many places, and between a stop and
the start that makes up for it anything can happen. What is left to do tells for each window whether
it will be watched or closed when all is done, and no step spoils that. -/

namespace PreviewHub

/-- Whether a window is seen to once a task is done: it is watched, or it is closed, or the task
leads to one of both. `own` says that the watcher is not the hub's own polling, so that it needs no
runtime. -/
def Task.seesTo (own : Bool) (id : PreviewId) (before : Bool) : Task → Bool
  | .startWatcher runtime => before || own || runtime
  | .restartWatcher => true
  | .closeConnections => true
  | .closeWindow other => before || other = id
  | .stopWatcher => false
  | _ => before

/-- Whether a window is seen to once the tasks are done one after the other. -/
def seenTo (own : Bool) (id : PreviewId) (before : Bool) (tasks : List Task) : Bool :=
  tasks.foldl (Task.seesTo own id) before

def Task.isNeutral : Task → Bool
  | .startWatcher _ => false
  | .restartWatcher => false
  | .closeConnections => false
  | .closeWindow _ => false
  | .stopWatcher => false
  | _ => true

section
variable {own : Bool} {id : PreviewId}

private theorem Task.seesTo_of_isNeutral {t : Task} (h : t.isNeutral) (before : Bool) :
    t.seesTo own id before = before := by
  cases t <;> first | rfl | cases h

private theorem seenTo_append (before : Bool) (first second : List Task) :
    seenTo own id before (first ++ second) = seenTo own id (seenTo own id before first) second :=
  List.foldl_append

private theorem seenTo_of_neutral {tasks : List Task} (h : tasks.all Task.isNeutral)
    (before : Bool) :
    seenTo own id before tasks = before := by
  induction tasks with
  | nil => rfl
  | cons t tasks ih =>
    obtain ⟨ht, htasks⟩ := Bool.and_eq_true_iff.mp h
    rw [seenTo, List.foldl_cons, Task.seesTo_of_isNeutral ht]
    exact ih htasks

private theorem Task.seesTo_mono (t : Task) {before before' : Bool} (h : before → before')
    (hs : t.seesTo own id before) : t.seesTo own id before' := by
  cases t with
  | startWatcher runtime =>
    simp only [Task.seesTo, Bool.or_eq_true] at hs ⊢
    exact hs.imp_left (Or.imp_left h)
  | closeWindow other =>
    simp only [Task.seesTo, Bool.or_eq_true] at hs ⊢
    exact hs.imp_left h
  | restartWatcher => rfl
  | closeConnections => rfl
  | stopWatcher => exact hs
  | _ => exact h hs

/-- It never does harm to be seen to before. -/
private theorem seenTo_mono {tasks : List Task} {before before' : Bool} (h : before → before')
    (hs : seenTo own id before tasks) : seenTo own id before' tasks := by
  induction tasks generalizing before before' with
  | nil => exact h hs
  | cons t tasks ih => exact ih (t.seesTo_mono h) hs

end

/-- A piece of work on the tasks `used` leaves no window without someone to see to it: what it
leaves to do does not undo what was seen to before, and each window is seen to by it or was
registered before and not seen to by `used` either. -/
structure Effect.Secures (own : Bool) (h : Hub) (used : List Task) (e : Effect) : Prop where
  lasting : ∀ id, seenTo own id true e.tasks
  covered : ∀ w ∈ e.hub.registry.windows, seenTo own w.1 e.hub.isWatching e.tasks ∨
    w ∈ h.registry.windows ∧ seenTo own w.1 h.isWatching used = false

namespace Hub

section
variable {own : Bool} {h : Hub} {used : List Task} {e : Effect}

private theorem secures_neutral (hw : e.hub.isWatching = h.isWatching)
    (hr : e.hub.registry.windows ⊆ h.registry.windows) (ht : e.tasks.all Task.isNeutral)
    (hu : used.all Task.isNeutral) : e.Secures own h used where
  lasting id := seenTo_of_neutral ht true
  covered w hm := by
    rw [seenTo_of_neutral ht, seenTo_of_neutral hu, hw]
    cases h.isWatching with
    | true => exact Or.inl rfl
    | false => exact Or.inr ⟨hr hm, rfl⟩

private theorem secures_all (ht : ∀ id before, seenTo own id before e.tasks) :
    e.Secures own h used :=
  ⟨fun id => ht id true, fun _ _ => Or.inl (ht _ _)⟩

private theorem secures_none (ht : ∀ id, seenTo own id true e.tasks)
    (hn : e.hub.registry.windowCount = 0) : e.Secures own h used := by
  refine ⟨ht, fun w hw => ?_⟩
  rw [List.eq_nil_of_length_eq_zero hn] at hw
  cases hw

/-- No plain task has a bearing on who is watched. -/
private theorem neutral_of_plain {tasks : List Task} (h : tasks.all Task.isPlain) :
    tasks.all Task.isNeutral := by
  refine List.all_eq_true.mpr fun t ht => ?_
  have hp := List.all_eq_true.mp h t ht
  cases t <;> first | rfl | cases hp

private theorem secures_plain {h' : Hub} (hp : e.Plain h') (hw : h'.isWatching = h.isWatching)
    (hr : h'.registry = h.registry) (hu : used.all Task.isNeutral) : e.Secures own h used :=
  secures_neutral ((congrArg Watcher.isRunning hp.watcher).trans hw)
    (hr ▸ hp.registry ▸ List.Subset.refl _) (neutral_of_plain hp.tasks) hu

private theorem begin_secures (op : Op)
    (hop : own = false → ∀ handle, op ≠ .registerWindow handle false) :
    (h.begin op).Secures own h [] := by
  have idle {e : Effect} (hw : e.hub.watcher = h.watcher)
      (hr : e.hub.registry.windows = h.registry.windows) (ht : e.tasks.all Task.isNeutral) :
      e.Secures own h [] :=
    secures_neutral (congrArg Watcher.isRunning hw) (hr ▸ List.Subset.refl _) ht rfl
  cases op with
  | registerWindow handle runtime =>
    have hrun : ∀ id before, seenTo own id before [.startWatcher runtime] := by
      intro id before
      cases own with
      | true => simp [seenTo, Task.seesTo]
      | false =>
        cases runtime with
        | true => simp [seenTo, Task.seesTo]
        | false => exact absurd rfl (hop rfl handle)
    simp only [begin, registerWindow]
    split <;> exact secures_all hrun
  | registerFrame handle =>
    simp only [begin, registerFrame]
    rcases Registry.registerFrame_cases h.registry handle with ⟨-, hx⟩ | ⟨r', change, hx, -, -, hr'⟩
    · simp only [hx]
      exact idle rfl rfl rfl
    · simp only [hx]
      cases change <;> exact idle rfl (hr' ▸ rfl) rfl
  | unregisterFrame handle =>
    simp only [begin, unregisterFrame]
    rcases Registry.unregisterFrame_cases h.registry handle with ⟨release, hx, -⟩ | ⟨r', hx, -, hr'⟩
    · simp only [hx]
      cases release <;> exact idle rfl rfl rfl
    · simp only [hx]
      exact idle rfl (hr' ▸ rfl) rfl
  | closeAll => exact secures_all fun _ _ => rfl
  | request message timeout runtime =>
    simp only [begin, request]
    split
    · split
      · exact idle rfl rfl rfl
      · refine idle rfl rfl ?_
        rw [List.all_append, neutral_of_plain (h.postTasks_plain _)]
        rfl
    · exact idle rfl rfl rfl
  | abandon id =>
    obtain ⟨pending, requests, hp⟩ := h.abandon_plain id
    exact secures_plain hp rfl rfl rfl
  | _ => exact secures_plain (h.begin_plain rfl) rfl rfl rfl

/-- What is detached leaves the other windows, and is not among them. -/
theorem detach_windows {h' : Hub} {id : PreviewId} {handle : Handle} {ids : List PreviewId}
    (hs : h.registry.Sound) (hd : h.detach id = some (handle, ids, h')) :
    h'.watcher = h.watcher ∧ ∀ w ∈ h'.registry.windows, w ∈ h.registry.windows ∧ w.1 ≠ id := by
  obtain ⟨registry, hrem, -, rfl⟩ := detach_eq hd
  refine ⟨rfl, fun w hw => ?_⟩
  rcases Registry.remove_cases hrem with ⟨rfl, -, rfl⟩ | ⟨-, -, rfl⟩
  · exact ⟨hw, hs.ne_frame hw⟩
  · rw [hs.eraseP_eq] at hw
    obtain ⟨hm, hne⟩ := List.mem_filter.mp hw
    exact ⟨hm, of_decide_eq_true hne⟩

theorem detach_none {id : PreviewId} (hs : h.registry.Sound) (hd : h.detach id = none) :
    ∀ w ∈ h.registry.windows, w.1 ≠ id := by
  unfold detach at hd
  split at hd
  · rename_i hrem
    exact fun w => hs.ne_of_remove_eq_none hrem
  · cases hd

private theorem secures_closeWindow {id : PreviewId} (hw : e.hub.isWatching = h.isWatching)
    (ht : e.tasks.all Task.isNeutral)
    (hr : ∀ w ∈ e.hub.registry.windows, w ∈ h.registry.windows ∧ w.1 ≠ id) :
    e.Secures own h [.closeWindow id] where
  lasting id := seenTo_of_neutral ht true
  covered w hm := by
    obtain ⟨hmem, hne⟩ := hr w hm
    rw [seenTo_of_neutral ht, hw]
    cases h.isWatching with
    | true => exact Or.inl rfl
    | false => exact Or.inr ⟨hmem, by simp [seenTo, Task.seesTo, hne.symm]⟩

private theorem seenTo_true_closeWindows {id : PreviewId} (windows : List Endpoint) :
    seenTo own id true (windows.map fun window => Task.closeWindow window.1) := by
  induction windows with
  | nil => rfl
  | cons w windows ih => exact ih

private theorem seenTo_closeWindows {windows : List Endpoint} {w : Endpoint} (hw : w ∈ windows)
    (before : Bool) :
    seenTo own w.1 before (windows.map fun window => Task.closeWindow window.1) := by
  obtain ⟨first, second, rfl⟩ := List.append_of_mem hw
  rw [List.map_append, seenTo_append, List.map_cons]
  have hseen : (Task.closeWindow w.1).seesTo own w.1
      (seenTo own w.1 before (first.map fun window => Task.closeWindow window.1)) = true := by
    simp [Task.seesTo]
  simp only [seenTo, List.foldl_cons] at hseen ⊢
  rw [hseen]
  exact seenTo_true_closeWindows second

private theorem startWatcher_secures (ha : h.watcher.Able own) (runtime : Bool) :
    (h.startWatcher runtime).Secures own h [.startWatcher runtime] := by
  have hp := h.startWatcher_plain runtime
  have htasks := neutral_of_plain hp.tasks
  have hwatch : (h.startWatcher runtime).hub.isWatching = (h.isWatching || own || runtime) :=
    (congrArg Watcher.isRunning hp.watcher).trans (ha.isRunning_start h.clock runtime)
  refine ⟨fun id => seenTo_of_neutral htasks true, fun w hw => ?_⟩
  rw [seenTo_of_neutral htasks, hwatch]
  show _ ∨ _ ∧ (h.isWatching || own || runtime) = false
  cases h.isWatching || own || runtime with
  | true => exact Or.inl rfl
  | false => exact Or.inr ⟨hp.registry ▸ hw, rfl⟩

private theorem stopWatcher_secures : h.stopWatcher.Secures own h [.stopWatcher] := by
  have hp := h.stopWatcher_plain
  exact ⟨fun id => seenTo_of_neutral (neutral_of_plain hp.tasks) true,
    fun w hw => Or.inr ⟨hp.registry ▸ hw, rfl⟩⟩

private theorem perform_secures (hs : h.registry.Sound) (ha : h.watcher.Able own) (task : Task) :
    (h.perform task).Secures own h [task] := by
  have idle {task : Task} {e : Effect} (hw : e.hub.watcher = h.watcher)
      (hr : e.hub.registry.windows ⊆ h.registry.windows) (ht : e.tasks.all Task.isNeutral)
      (hu : task.isNeutral) : e.Secures own h [task] :=
    secures_neutral (congrArg Watcher.isRunning hw) hr ht (by simpa using hu)
  have same : h.registry.windows ⊆ h.registry.windows := List.Subset.refl _
  cases task with
  | emit notice => exact idle rfl same (by simp [perform, Task.isNeutral]) rfl
  | deliver subscription notice => exact secures_plain (h.deliver_plain _ _) rfl rfl rfl
  | post id handle data => exact secures_plain (h.post_plain _ _ _) rfl rfl rfl
  | probe id handle => exact secures_plain (h.probe_plain _ _) rfl rfl rfl
  | startWatcher runtime => exact startWatcher_secures ha runtime
  | stopWatcher => exact stopWatcher_secures
  | closeConnections =>
    refine ⟨fun id => ?_, fun w hw => Or.inl ?_⟩
    · exact seenTo_append _ _ _ ▸ seenTo_true_closeWindows h.registry.windows
    · exact seenTo_append _ _ _ ▸ seenTo_closeWindows hw _
  | closeWindow id =>
    cases hd : h.detach id with
    | none =>
      simp only [perform, hd]
      exact secures_closeWindow rfl rfl fun w hw => ⟨hw, detach_none hs hd w hw⟩
    | some x =>
      obtain ⟨hw, hr⟩ := detach_windows hs hd
      simp only [perform, hd]
      exact secures_closeWindow (congrArg Watcher.isRunning hw) rfl hr
  | closeFrame =>
    cases hd : h.detach .frame with
    | none =>
      simp only [perform, hd]
      exact idle rfl same rfl rfl
    | some x =>
      obtain ⟨hw, hr⟩ := detach_windows hs hd
      simp only [perform, hd]
      exact idle hw (fun w hm => (hr w hm).1) rfl rfl
  | rejectRequests => exact idle rfl same rfl rfl
  | stopIdleWatcher =>
    simp only [perform]
    split
    · exact idle rfl same rfl rfl
    · rename_i hn
      exact secures_none (fun _ => rfl) (Nat.eq_zero_of_not_pos hn)
  | restartWatcher =>
    simp only [perform]
    split
    · exact secures_all fun _ _ => by simp [seenTo, Task.seesTo]
    · rename_i hn
      exact secures_none (fun _ => rfl) (Nat.eq_zero_of_not_pos hn)
  | awaitReply id timeout targets runtime =>
    obtain ⟨pending, requests, hp⟩ := h.awaitReply_plain id timeout targets runtime
    exact secures_plain hp rfl rfl rfl
  | waiting call => exact idle rfl same rfl rfl
  | answer answer => exact idle rfl same rfl rfl

private theorem resume_secures (hs : h.registry.Sound) (call : Call) (reply : Reply) :
    (h.resume call reply).Secures own h [.waiting call] := by
  rcases h.resume_plain call reply with hp | ⟨id, handle, rfl, rfl⟩
  · exact secures_plain hp rfl rfl rfl
  · simp only [resume]
    cases hd : h.detach id with
    | none => exact secures_neutral rfl (List.Subset.refl _) rfl rfl
    | some x =>
      obtain ⟨hw, hr⟩ := detach_windows hs hd
      exact secures_neutral (congrArg Watcher.isRunning hw) (fun w hm => (hr w hm).1) rfl rfl

private theorem listen_secures : h.listen.Secures own h [] := by
  rcases h.listen_cases with ⟨-, hp⟩ | ⟨id, payload, -, hp⟩
  · exact secures_plain hp rfl rfl rfl
  · exact secures_plain hp rfl rfl rfl

private theorem tick_secures : h.tick.Secures own h [] :=
  secures_plain h.tick_plain (h.watcher.isRunning_tick h.clock) rfl rfl

private theorem wake_secures (id : RequestId) : (h.wake id).Secures own h [] := by
  obtain ⟨pending, requests, outputs, hw, -⟩ := h.wake_eq id
  rw [hw]
  exact secures_neutral rfl (List.Subset.refl _) rfl rfl

private theorem elapse_secures (ms : Nat) : (h.elapse ms).Secures own h [] :=
  secures_plain (h.elapse_plain ms) rfl rfl rfl

end

end Hub

namespace Machine

/-- Every piece of work leaves each window to someone, if no window is registered without a runtime
for the hub's own polling. -/
private theorem Works.secures {own : Bool} {m : Machine} {move : Move} {e : Effect}
    {used rest : List Task}
    (w : Works m move e used rest) (hs : m.hub.registry.Sound) (ha : m.hub.watcher.Able own)
    (hr : own = false → ∀ handle, move ≠ .call (.registerWindow handle false)) :
    e.Secures own m.hub used := by
  cases w with
  | call op h => exact Hub.begin_secures op fun ho handle he => hr ho handle (congrArg _ he)
  | reply call reply rest h => exact Hub.resume_secures hs call reply
  | proceed task rest h => exact Hub.perform_secures hs ha task
  | listen h => exact Hub.listen_secures
  | tick h => exact Hub.tick_secures
  | wake id h => exact Hub.wake_secures id
  | elapse ms h => exact Hub.elapse_secures ms

structure Watched (own : Bool) (m : Machine) : Prop where
  sound : m.hub.registry.Sound
  able : m.hub.watcher.Able own
  lasting : ∀ id, seenTo own id true m.agenda
  covered : ∀ w ∈ m.hub.registry.windows, seenTo own w.1 m.hub.isWatching m.agenda

private theorem watched_step {own : Bool} {m : Machine} (hm : Watched own m) (move : Move)
    (hr : own = false → ∀ handle, move ≠ .call (.registerWindow handle false)) :
    Watched own (m.step move).1 := by
  rcases m.step_cases move with hn | ⟨e, used, rest, w⟩
  · rw [hn]
    exact hm
  · obtain ⟨news, ht⟩ := w.tells
    obtain ⟨hlasting, hcovered⟩ := w.secures hm.sound hm.able hr
    have hrest : ∀ id, seenTo own id true rest := by
      intro id
      have hall := hm.lasting id
      rw [w.agenda_eq, seenTo_append] at hall
      exact seenTo_mono (fun _ => rfl) hall
    rw [w.step_eq]
    refine ⟨ht.change.sound hm.sound, w.minds.able hm.able, fun id => ?_, fun v hv => ?_⟩
    · exact seenTo_append _ _ _ ▸ (hlasting id).symm ▸ hrest id
    · show seenTo own v.1 e.hub.isWatching (e.tasks ++ rest)
      rw [seenTo_append]
      rcases hcovered v hv with hseen | ⟨hmem, hunseen⟩
      · rw [hseen]
        exact hrest v.1
      · have hbefore := hm.covered v hmem
        rw [w.agenda_eq, seenTo_append, hunseen] at hbefore
        exact seenTo_mono (fun h : false = true => Bool.noConfusion h) hbefore

private theorem watched_run {options : Options} {own : Bool} {h : Hub}
    (hb : Hub.build options own = .ok h)
    {moves : List Move}
    (hr : own = false → ∀ handle, .call (.registerWindow handle false) ∉ moves) :
    Watched own (Machine.run ⟨h, []⟩ moves).1 := by
  induction moves using List.reverseRecOn with
  | nil =>
    obtain ⟨rfl, hpos⟩ := Hub.build_ok hb
    refine ⟨Registry.sound_new, ?_, fun _ => rfl, nofun⟩
    cases own with
    | true => rfl
    | false => exact ⟨rfl, hpos rfl⟩
  | append_singleton moves move ih =>
    rw [run_concat]
    refine watched_step (ih fun ho handle hm => ?_) move fun ho handle he => ?_
    · exact hr ho handle (List.mem_append_left _ hm)
    · exact hr ho handle (List.mem_append_right _ (he ▸ List.mem_singleton_self _))

/-- Whatever subscribers, handles and the watcher do when they are called, as long as no call to a
handle or the watcher panics: when no operation is in progress and there is a window, then the hub
watches. The hub's own polling needs a runtime wherever a window is registered; a watcher from
outside needs none. -/
theorem windows_are_watched (options : Options) (own : Bool) (h : Hub)
    (hb : Hub.build options own = .ok h) (moves : List Move)
    (hr : own = false → ∀ handle, .call (.registerWindow handle false) ∉ moves) :
    let m := (Machine.run ⟨h, []⟩ moves).1
    m.isIdle → 0 < m.hub.registry.windowCount → m.hub.isWatching := by
  intro m hidle hcount
  obtain ⟨w, hw⟩ := List.exists_mem_of_length_pos hcount
  have hseen := (watched_run hb hr).covered w hw
  rw [isIdle_iff.mp hidle] at hseen
  exact hseen

/-- A window that is registered while another one is being closed, after the watcher was stopped. -/
theorem windows_are_watched_while_closing :
    let moves : List Move :=
      [.call (.registerWindow ⟨"game"⟩ true), .proceed, .proceed, .proceed,
        .call .closeAll, .proceed, .proceed, .proceed, .call (.registerWindow ⟨"tool"⟩ true)] ++
        (List.replicate 12 [Move.proceed, .reply .done]).flatten
    let m := (Machine.run ⟨Hub.new {} (.polling {}), []⟩ moves).1
    m.isIdle ∧ m.hub.registry.windows = [(.window 1, ⟨"tool"⟩)] ∧ m.hub.isWatching := by
  intro moves m
  have hr : ∀ handle, .call (.registerWindow handle false) ∉ moves := by
    intro handle
    simp [moves]
  have hidle : m.isIdle := by decide +kernel
  have hwindows : m.hub.registry.windows = [(.window 1, ⟨"tool"⟩)] := by decide +kernel
  have hm : m = (Machine.run ⟨Hub.new {} (.polling {}), []⟩ moves).1 := rfl
  clear_value m moves
  subst hm
  have hcount :
      0 < (Machine.run ⟨Hub.new {} (.polling {}), []⟩ moves).1.hub.registry.windowCount := by
    rw [Registry.windowCount, hwindows]
    exact Nat.one_pos
  exact ⟨hidle, hwindows, windows_are_watched {} false _ rfl moves (fun _ => hr) hidle hcount⟩

end Machine

end PreviewHub
