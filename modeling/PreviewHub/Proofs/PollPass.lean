import PreviewHub.Proofs.Nesting
import PreviewHub.Proofs.Teardown

/-! One pass over the windows that nobody disturbs. Each window is asked once whether it is closed,
in the order of their registration. One that is closed is taken out at once and told about; one that
cannot be asked stays, and the pass goes on. If none is left the watcher is stopped. -/

namespace PreviewHub

def survives (respond : Call → Reply) (window : Endpoint) : Bool :=
  respond (.probe window.1 window.2) ≠ .closed

namespace Hub

def probed (h : Hub) (respond : Call → Reply) (window : Endpoint) (others : List Endpoint) :
    List Output :=
  .called (.probe window.1 window.2) ::
    if survives respond window then []
    else h.bus.announcement (.closed window.1 { h.registry with windows := others }.list)

/-- What is seen when all windows are asked. When it is the turn of one of them, those before it are
there that stayed, and all that come after it. -/
def probings (h : Hub) (respond : Call → Reply) : List Output :=
  let windows := h.registry.windows
  (windows.mapIdx fun j window =>
    h.probed respond window
      ((windows.take j).filter (survives respond) ++ windows.drop (j + 1))).flatten

def survivors (h : Hub) (respond : Call → Reply) : List Endpoint :=
  h.registry.windows.filter (survives respond)

def pass (h : Hub) (respond : Call → Reply) : List Output :=
  h.probings respond ++ if h.survivors respond = [] then h.watcher.stopCalls else []

def polled (h : Hub) (respond : Call → Reply) : Hub :=
  { h with
    registry := { h.registry with windows := h.survivors respond }
    watcher := if h.survivors respond = [] then h.watcher.stop else h.watcher }

end Hub

namespace Hub

section
variable {respond : Call → Reply} {h : Hub}

private theorem resume_survives (h : Hub) (id : PreviewId) (handle : Handle) {reply : Reply}
    (hr : reply ≠ .closed) : ∃ rs, h.resume (.probe id handle) reply = ⟨h, [], remarks rs⟩ := by
  cases reply with
  | closed => exact absurd rfl hr
  | failed error => exact ⟨[.probeFailed id error.message], rfl⟩
  | done => exact ⟨[], rfl⟩
  | panicked => exact ⟨[], rfl⟩

/-- A window that is asked stays where it is, or it is taken out and told about. -/
private theorem does_probe (hr : h.registry.Sound) {window : Endpoint} {kept left : List Endpoint}
    (hw : h.registry.windows = kept ++ window :: left) :
    Does respond h [.probe window.1 window.2] (h.probed respond window (kept ++ left))
      { h with registry :=
        { h.registry with windows := kept ++ [window].filter (survives respond) ++ left } } := by
  by_cases hs : survives respond window
  · obtain ⟨rs, he⟩ := h.resume_survives window.1 window.2 (of_decide_eq_true hs)
    have hsame : { h.registry with windows := kept ++ [window].filter (survives respond) ++ left } =
        h.registry := by
      rw [List.filter_cons_of_pos hs, List.filter_nil, List.append_assoc, List.singleton_append,
        ← hw]
    rw [probed, if_pos hs, hsame]
    exact Does.perform rfl rfl (Does.resume he does_nil (by rw [seen_remarks]; rfl)) rfl
  · let after : Hub := { h with registry := { h.registry with windows := kept ++ left } }
    have hclosed : respond (.probe window.1 window.2) = .closed := by
      simpa [survives] using hs
    have hdetach : h.detach window.1 = some (window.2, after.registry.list, after) := by
      simp only [detach, hr.remove_between hw, after]
    have he : h.resume (.probe window.1 window.2) (respond (.probe window.1 window.2)) =
        ⟨after, [.emit (.closed window.1 after.registry.list)],
          [.remark (.connectionClosed window.1 after.registry.list.length)]⟩ := by
      rw [hclosed]
      simp only [resume, hdetach]
    rw [probed, if_neg hs, List.filter_cons_of_neg hs, List.filter_nil, List.append_nil]
    exact Does.perform rfl rfl (Does.resume he (does_emit _) rfl) rfl

/-- The windows are asked one by one; `kept` are those before them that stayed. -/
private theorem does_probes {kept left : List Endpoint} (hr : h.registry.Sound)
    (hw : h.registry.windows = kept ++ left) :
    Does respond h (left.map fun window => .probe window.1 window.2)
      (left.mapIdx fun j window => h.probed respond window
        (kept ++ (left.take j).filter (survives respond) ++ left.drop (j + 1))).flatten
      { h with registry :=
        { h.registry with windows := kept ++ left.filter (survives respond) } } := by
  induction left generalizing h kept with
  | nil =>
    have hsame : { h.registry with windows := kept ++ [].filter (survives respond) } =
        h.registry := by rw [List.filter_nil, ← hw]
    rw [hsame]
    exact does_nil
  | cons window left ih =>
    let kept' := kept ++ [window].filter (survives respond)
    let next : Hub := { h with registry := { h.registry with windows := kept' ++ left } }
    have hfirst : Does respond h [.probe window.1 window.2]
        (h.probed respond window (kept ++ left)) next := does_probe hr hw
    have hsub : (kept' ++ left).Sublist h.registry.windows := by
      rw [hw, List.append_assoc]
      exact (List.filter_sublist.append (.refl left)).append_left kept
    have hrest : Does respond next _ _ _ := ih (hr.sublist hsub) rfl
    have hsplit (l : List Endpoint) : kept ++ (window :: l).filter (survives respond) =
        kept' ++ l.filter (survives respond) := by
      rw [List.append_assoc, ← List.filter_append]
      rfl
    rw [hsplit, List.mapIdx_cons, List.flatten_cons]
    simp only [List.take_succ_cons, List.drop_succ_cons, hsplit, List.take_zero, List.filter_nil,
      List.append_nil, List.drop_zero]
    exact hfirst.append hrest

private theorem does_stopIdleWatcher :
    Does respond h [.stopIdleWatcher]
      (if h.registry.windows = [] then h.watcher.stopCalls else [])
      { h with watcher := if h.registry.windows = [] then h.watcher.stop else h.watcher } := by
  by_cases hw : h.registry.windows = []
  · have hnone : h.registry.windowCount = 0 := by rw [Registry.windowCount, hw]; rfl
    have he : h.perform .stopIdleWatcher = ⟨h, [.stopWatcher, .restartWatcher], []⟩ := by
      simp only [perform, hnone, Nat.lt_irrefl, if_false]
    let stopped : Hub := { h with watcher := h.watcher.stop }
    have hrestart : stopped.perform .restartWatcher = ⟨stopped, [], []⟩ := by
      have hnone : stopped.registry.windowCount = 0 := hnone
      simp only [perform, hnone, Nat.lt_irrefl, if_false]
    rw [if_pos hw, if_pos hw]
    refine Does.perform he rfl (does_stopWatcher.append (Does.perform hrestart rfl does_nil rfl)) ?_
    simp [seen]
  · have hsome : 0 < h.registry.windowCount := List.length_pos_iff.mpr hw
    have he : h.perform .stopIdleWatcher = ⟨h, [], []⟩ := by
      simp only [perform, hsome, if_true]
    rw [if_neg hw, if_neg hw]
    exact Does.perform he rfl does_nil rfl

/-- A pass is put together from its tasks. -/
theorem does_pollTasks (hr : h.registry.Sound) :
    Does respond h h.pollTasks (h.pass respond) (h.polled respond) := by
  have hprobes : Does respond h (h.registry.windows.map fun window => .probe window.1 window.2)
      (h.probings respond)
      { h with registry := { h.registry with windows := h.survivors respond } } :=
    does_probes hr (List.nil_append _).symm
  exact hprobes.append does_stopIdleWatcher

end

end Hub

def Output.asked? : Output → Option Endpoint
  | .called (.probe id handle) => some (id, handle)
  | _ => none

def asked (outputs : List Output) : List Endpoint := outputs.filterMap Output.asked?

namespace Hub

private theorem asked_announcement (b : Bus) (notice : Notice) :
    asked (b.announcement notice) = [] := by
  simp [asked, Bus.announcement, Output.asked?]

private theorem asked_probed (h : Hub) (respond : Call → Reply) (window : Endpoint)
    (others : List Endpoint) : asked (h.probed respond window others) = [window] := by
  have hnone (outputs : List Output) (ho : asked outputs = []) :
      asked (.called (.probe window.1 window.2) :: outputs) = [window] := by
    rw [asked, List.filterMap_cons, Output.asked?]
    exact congrArg _ ho
  unfold probed
  split
  · exact hnone [] rfl
  · exact hnone _ (asked_announcement _ _)

/-- If each window is asked once in its turn, all of them are. -/
private theorem asked_mapIdx {windows : List Endpoint} {shown : Nat → Endpoint → List Output}
    (h : ∀ j window, asked (shown j window) = [window]) :
    asked (windows.mapIdx shown).flatten = windows := by
  induction windows generalizing shown with
  | nil => rfl
  | cons window windows ih =>
    have hrest := ih fun j => h (j + 1)
    rw [asked] at hrest ⊢
    rw [List.mapIdx_cons, List.flatten_cons, List.filterMap_append, hrest]
    exact congrArg (· ++ windows) (h 0 window)

/-- Each window is asked once, in the order of their registration, and nothing else is. -/
theorem asked_pass (h : Hub) (respond : Call → Reply) :
    asked (h.pass respond) = h.registry.windows := by
  have hprobings : asked (h.probings respond) = h.registry.windows :=
    asked_mapIdx fun _ window => h.asked_probed respond window _
  have hstop : asked (if h.survivors respond = [] then h.watcher.stopCalls else []) = [] := by
    split
    · cases h.watcher <;> rfl
    · rfl
  rw [asked, pass, List.filterMap_append]
  exact (congrArg₂ _ hprobings hstop).trans (List.append_nil _)

/-- The watcher is not started in a pass. -/
theorem startWatcher_notMem_pass (h : Hub) (respond : Call → Reply) :
    .called .startWatcher ∉ h.pass respond := by
  have hannounced (notice : Notice) : .called .startWatcher ∉ h.bus.announcement notice := by
    simp [Bus.announcement]
  unfold pass
  rw [List.mem_append, not_or]
  constructor
  · intro hm
    obtain ⟨part, hpart, hm⟩ := List.mem_flatten.mp hm
    obtain ⟨j, hj, rfl⟩ := List.mem_mapIdx.mp hpart
    unfold probed at hm
    rcases List.mem_cons.mp hm with he | hm
    · cases he
    · split at hm
      · cases hm
      · exact hannounced _ hm
  · split
    · cases h.watcher <;> simp [Watcher.stopCalls]
    · exact List.not_mem_nil

end Hub

namespace Machine

/-- In every state in which an operation can begin, and however the windows answer, a pass that
nobody disturbs takes one course and comes to its end. It asks each window once, in the order of
their registration, and the frame never. It takes out those that say they are closed and no others,
and tells of each with the list of those that are there at that moment. The watcher is stopped if no
window is left and only then, and it is not started. Nothing else changes. A pass that the hub makes
by itself, when its own polling is due, is the same but for the answer. -/
theorem poll_takes_out_closed_windows (options : Options) (own : Bool) (h : Hub)
    (hb : Hub.build options own = .ok h) (turns : List Turn) (respond : Call → Reply) :
    let m := Machine.after ⟨h, []⟩ turns
    let poll : Move := .call .poll
    (m.isOpen → ∃ moves,
      (m.step poll).1.Undisturbed respond moves ∧
      (∀ course, (m.step poll).1.Undisturbed respond course →
        course <+: moves ∨ moves <+: course) ∧
      (m.run (poll :: moves)).1 = ⟨m.hub.polled respond, m.agenda⟩ ∧
      seen (m.run (poll :: moves)).2 = m.hub.pass respond ++ [.answered .done]) ∧
    (∀ poller due, m.agenda = [] → m.hub.watcher = .polling poller → poller.due? = some due →
      due ≤ m.hub.clock →
      let advanced := { m.hub with watcher := .polling poller.advance }
      ∃ moves,
        (m.step .tick).1.Undisturbed respond moves ∧
        (∀ course, (m.step .tick).1.Undisturbed respond course →
          course <+: moves ∨ moves <+: course) ∧
        (m.run (.tick :: moves)).1 = ⟨advanced.polled respond, []⟩ ∧
        seen (m.run (.tick :: moves)).2 = advanced.pass respond) ∧
    asked (m.hub.pass respond) = m.hub.registry.windows ∧
    .called .startWatcher ∉ m.hub.pass respond ∧
    (m.hub.survivors respond = [] → (m.hub.polled respond).isWatching = false) := by
  intro m poll
  have hm : m.hub.registry.Sound := (numbered_after (numbered_new hb) turns).1.registry
  refine ⟨fun hopen => ?_, fun poller due hidle hw hdue hle => ?_, m.hub.asked_pass respond,
    m.hub.startWatcher_notMem_pass respond, fun hnone => ?_⟩
  · have hpass : Hub.Does respond m.hub (m.hub.begin .poll).tasks
        (m.hub.pass respond ++ [.answered .done]) (m.hub.polled respond) :=
      (Hub.does_pollTasks hm).append (Hub.does_answer .done)
    obtain ⟨moves, hu, hrun, hseen⟩ := exists_undisturbed hopen .poll hpass
    exact ⟨moves, hu, fun course hc => hc.comparable hu, hrun, hseen⟩
  · intro advanced
    have htick : m.hub.tick = ⟨advanced, advanced.pollTasks, [.remark .probing]⟩ := by
      simp only [Hub.tick, hw, hdue, if_pos hle]
      rfl
    have hstep : m.step .tick = take m.hub.tick [] := (Works.tick hidle).step_eq
    have hpass : Hub.Does respond advanced advanced.pollTasks (advanced.pass respond)
        (advanced.polled respond) := Hub.does_pollTasks hm
    rw [htick] at hstep
    obtain ⟨moves, hu, hrun, hseen⟩ := exists_undisturbed_after hstep hpass
    exact ⟨moves, hu, fun course hc => hc.comparable hu, hrun, hseen⟩
  · have hwatcher : (m.hub.polled respond).watcher = m.hub.watcher.stop := if_pos hnone
    rw [Hub.isWatching, hwatcher]
    exact m.hub.watcher.isRunning_stop

/-- Of three windows the second cannot be asked and the others are closed; in the hub's own pass all
of them are closed. -/
theorem poll_takes_out_closed_windows_mixed :
    let opening (handle : Handle) : List Move :=
      [.call (.registerWindow handle true), .proceed, .proceed, .reply .done, .proceed, .proceed]
    let before : List (List Move) :=
      [[.call (.subscribe 7), .proceed, .call (.registerFrame ⟨"game"⟩), .proceed, .proceed,
          .reply .done, .proceed],
        opening ⟨"menu"⟩, opening ⟨"shop"⟩, opening ⟨"tool"⟩, [.elapse 1000]]
    let mixed (call : Call) : Reply :=
      if call = .probe (.window 1) ⟨"shop"⟩ then .failed .notStarted else .closed
    let m := Machine.after ⟨Hub.new {} (.polling {}), []⟩ (before.flatten.map .move)
    let probe (n : Nat) (name : String) : List Output := [.called (.probe (.window n) ⟨name⟩)]
    let ending (n : Nat) (left : List PreviewId) : List Output :=
      [.emitted (.closed (.window n) left), .called (.notify ⟨0, 7⟩ (.closed (.window n) left))]
    let expected : List (List Output) :=
      [probe 0 "menu", ending 0 [.frame, .window 1, .window 2], probe 1 "shop", probe 2 "tool",
        ending 2 [.frame, .window 1], [.answered .done]]
    let expectedOwn : List (List Output) :=
      [probe 0 "menu", ending 0 [.frame, .window 1, .window 2], probe 1 "shop",
        ending 1 [.frame, .window 2], probe 2 "tool", ending 2 [.frame]]
    (∃ moves, (m.run (.call .poll :: moves)).1 = ⟨m.hub.polled mixed, []⟩ ∧
      seen (m.run (.call .poll :: moves)).2 = expected.flatten) ∧
    (m.hub.polled mixed).registry.list = [.frame, .window 1] ∧
    (m.hub.polled mixed).isWatching ∧
    ∃ moves, (m.run (.tick :: moves)).1.hub.isWatching = false ∧
      seen (m.run (.tick :: moves)).2 = expectedOwn.flatten := by
  intro opening before mixed m probe ending expected expectedOwn
  let poller : Poller Unit := { loop := .running { target := (), due := 1000 } }
  let closed (_ : Call) : Reply := .closed
  let advanced : Hub := { m.hub with watcher := .polling poller.advance }
  have hidle : m.isOpen ∧ m.agenda = [] ∧ m.hub.watcher = .polling poller ∧
      1000 ≤ m.hub.clock := by decide +kernel
  have hmixed : (m.hub.polled mixed).registry.list = [.frame, .window 1] ∧
      (m.hub.polled mixed).isWatching := by decide +kernel
  have hpass : m.hub.pass mixed ++ [.answered .done] = expected.flatten := by decide +kernel
  have hown : advanced.pass closed = expectedOwn.flatten ∧
      (advanced.polled closed).isWatching = false := by decide +kernel
  clear_value expected expectedOwn before mixed
  obtain ⟨hpoll, -⟩ := poll_takes_out_closed_windows {} false (Hub.new {} (.polling {})) rfl
    (before.flatten.map .move) mixed
  obtain ⟨-, htick, -⟩ := poll_takes_out_closed_windows {} false (Hub.new {} (.polling {})) rfl
    (before.flatten.map .move) closed
  obtain ⟨moves, -, -, hrun, hseen⟩ := hpoll hidle.1
  obtain ⟨moves', -, -, hrun', hseen'⟩ :=
    htick poller 1000 hidle.2.1 hidle.2.2.1 rfl hidle.2.2.2
  refine ⟨⟨moves, ?_, hseen.trans hpass⟩, hmixed.1, hmixed.2, moves', ?_, hseen'.trans hown.1⟩
  · rw [hrun, hidle.2.1]
  · rw [hrun']
    exact hown.2

/-- A window that panics when it is asked ends the pass, and the hub's own polling with it. -/
theorem polling_ends_with_its_pass {m : Machine} {poller : Poller Unit} {due : Nat}
    (hidle : m.agenda = []) (hwatcher : m.hub.watcher = .polling poller)
    (hdue : poller.due? = some due) (hle : due ≤ m.hub.clock)
    (hwindows : m.hub.registry.windows ≠ []) :
    m.after [.move .tick, .move .proceed, .breakOff] =
      ⟨{ m.hub with watcher := .polling poller.finish }, []⟩ := by
  obtain ⟨window, windows, hcons⟩ := List.exists_cons_of_ne_nil hwindows
  have hcollapse : poller.advance.collapse = poller.finish := by
    unfold Poller.due? at hdue
    split at hdue
    · rename_i watch hloop
      simp [Poller.advance, Poller.collapse, Poller.finish, hloop]
    · cases hdue
  let advanced : Hub := { m.hub with watcher := .polling poller.advance }
  have htick : m.hub.tick = ⟨advanced, m.hub.pollTasks, [.remark .probing]⟩ := by
    simp only [Hub.tick, hwatcher, hdue, if_pos hle]
    rfl
  have hunwind : advanced.unwind
      (windows.map (fun window => .probe window.1 window.2) ++ [.stopIdleWatcher]) =
        ⟨{ m.hub with watcher := .polling poller.finish }, [], []⟩ := by
    rw [Hub.unwind_append _ (List.forall_mem_map.mpr fun _ _ => rfl) (List.cons_ne_nil _ _)]
    simp [Hub.unwind, Watcher.collapse, advanced, hcollapse]
  simp only [after, turn, step, between, isIdle, hidle, List.isEmpty_nil, if_true, htick, take,
    Hub.pollTasks, hcons, List.map_cons, List.cons_append, List.append_nil, Hub.perform,
    Hub.callOut, breakOff]
  simp [hunwind]

end Machine

end PreviewHub
