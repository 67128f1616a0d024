import PreviewHub.Proofs.RegistryLookup
import PreviewHub.Proofs.SubscriberOrder
import PreviewHub.Proofs.Turns
import PreviewHub.Proofs.Undisturbed

/-! Tearing everything down. The windows are closed one after the other in the order of their
registration, each of them is taken out before its handle is called, and a handle that fails holds
up nothing. Then the frame is let go and all open requests are turned away. What remains is a hub
without connections that goes on counting where it was. -/

namespace PreviewHub

namespace Watcher

def stopCalls : Watcher → List Output
  | .polling _ => []
  | .external _ => [.called .stopWatcher]

private theorem stop_stop (w : Watcher) : w.stop.stop = w.stop := by
  cases w <;> rfl

theorem isRunning_stop (w : Watcher) : w.stop.isRunning = false := by
  cases w <;> rfl

private theorem stopCalls_stop (w : Watcher) : w.stop.stopCalls = w.stopCalls := by
  cases w <;> rfl

end Watcher

namespace Registry

variable {r : Registry}

/-- A window can be taken out from between the others. -/
theorem Sound.remove_between (hr : r.Sound) {w : Endpoint}
    {kept left : List Endpoint} (hw : r.windows = kept ++ w :: left) :
    r.remove w.1 = some (w.2, { r with windows := kept ++ left }) := by
  have hmem : w ∈ r.windows := hw ▸ List.mem_append_right _ List.mem_cons_self
  have hframe : w.1.isFrame = false := decide_eq_false (hr.ne_frame hmem)
  have hhandle : r.handle? w.1 = some w.2 :=
    hr.handle?_eq_some_iff.mpr (mem_endpoints.mpr (Or.inr hmem))
  have hothers : ∀ v ∈ kept, v.1 ≠ w.1 := by
    have hn := hr.nodup
    rw [hw, List.map_append, List.map_cons] at hn
    intro v hv
    exact (List.nodup_append.mp hn).2.2 _ (List.mem_map_of_mem hv) _ List.mem_cons_self
  have herase : (r.windows.eraseP fun v => v.1 = w.1) = kept ++ left := by
    rw [hw, List.eraseP_append_right _ (by simpa using hothers), List.eraseP_cons_of_pos (by simp)]
  simp only [remove, hhandle, hframe, herase, Bool.false_eq_true, if_false]

private theorem Sound.remove_first (hr : r.Sound) {w : Endpoint} {later : List Endpoint}
    (hw : r.windows = w :: later) : r.remove w.1 = some (w.2, { r with windows := later }) := by
  have hfirst : r.windows = [] ++ w :: later := hw
  exact hr.remove_between hfirst

/-- Fewer windows are as good. -/
theorem Sound.sublist (hr : r.Sound) {windows : List Endpoint} (h : windows.Sublist r.windows) :
    Sound { r with windows } where
  nodup := hr.nodup.sublist (h.map _)
  issued w hw := hr.issued w (h.subset hw)

private theorem Sound.tail (hr : r.Sound) {w : Endpoint} {later : List Endpoint}
    (hw : r.windows = w :: later) : Sound { r with windows := later } :=
  hr.sublist (hw ▸ List.sublist_cons_self w later)

/-- A number that was not given out belongs to no window. -/
theorem Sound.window_notMem (hr : r.Sound) {n : Nat} (hn : r.nextWindow ≤ n) :
    .window n ∉ r.list := by
  rw [mem_list_window]
  intro hm
  obtain ⟨w, hw, he⟩ := List.mem_map.mp hm
  obtain ⟨k, hk, hid⟩ := hr.issued w hw
  have hkn : k = n := PreviewId.window_injective (hid.symm.trans he)
  omega

end Registry

private theorem Pending.rejectAll_rejectAll (p : Pending) (error : Error) :
    ((p.rejectAll error).2.rejectAll error).2 = (p.rejectAll error).2 := by
  simp [rejectAll]

namespace Hub

def farewell (h : Hub) (window : Endpoint) (left : List Endpoint) : List Output :=
  .called (.close window.1 window.2) ::
    h.bus.announcement (.closed window.1 { h.registry with windows := left }.list)

/-- What is seen of the end of all connections. The windows come first, in the order of their
registration, each with the list of those that come after it; the frame, if there is one, is the
last. -/
def partings (h : Hub) : List Output :=
  (h.registry.windows.mapIdx fun j window =>
    h.farewell window (h.registry.windows.drop (j + 1))).flatten ++
    if h.registry.frame.isSome then h.bus.announcement (.closed .frame []) else []

def teardown (h : Hub) : List Output := h.watcher.stopCalls ++ h.partings ++ [.answered .done]

def tornDown (h : Hub) : Hub :=
  { h with
    registry := { h.registry with frame := none, windows := [] }
    pending := (h.pending.rejectAll .closing).2
    watcher := h.watcher.stop }

private theorem tornDown_tornDown (h : Hub) : h.tornDown.tornDown = h.tornDown := by
  simp only [tornDown, Pending.rejectAll_rejectAll, Watcher.stop_stop]

/-- There is nothing left that a second teardown could close. -/
theorem teardown_tornDown (h : Hub) :
    h.tornDown.teardown = h.watcher.stopCalls ++ [.answered .done] := by
  simp [teardown, partings, tornDown, Watcher.stopCalls_stop]

section
variable {respond : Call → Reply} {h : Hub}

theorem does_stopWatcher :
    Does respond h [.stopWatcher] h.watcher.stopCalls { h with watcher := h.watcher.stop } := by
  cases hw : h.watcher with
  | polling poller =>
    have he : h.perform .stopWatcher =
        ⟨{ h with watcher := .polling poller.stop }, [], remarks poller.stopRemarks⟩ := by
      simp only [perform, stopWatcher, hw]
    exact Does.perform he rfl does_nil (by rw [seen_remarks]; rfl)
  | external running =>
    have he : h.perform .stopWatcher =
        { h with watcher := .external false }.callOut .stopWatcher [] := by
      simp only [perform, stopWatcher, hw]
    exact Does.perform he rfl (does_call rfl) rfl

/-- However its handle returns, the first window is taken out, closed and told about. -/
private theorem does_closeWindow (hr : h.registry.Sound) {window : Endpoint} {later : List Endpoint}
    (hw : h.registry.windows = window :: later) :
    Does respond h [.closeWindow window.1] (h.farewell window later)
      { h with registry := { h.registry with windows := later } } := by
  let left : Hub := { h with registry := { h.registry with windows := later } }
  have hdetach : h.detach window.1 = some (window.2, left.registry.list, left) := by
    simp only [detach, hr.remove_first hw, left]
  have he : h.perform (.closeWindow window.1) =
      left.callOut (.close window.1 window.2) [.emit (.closed window.1 left.registry.list)] := by
    simp only [perform, hdetach]
  exact Does.perform he rfl ((does_call rfl).append (does_emit _)) rfl

/-- The windows go one by one, and each time the list of those that are left is told. -/
private theorem does_closeWindows {windows : List Endpoint} (hr : h.registry.Sound)
    (hw : h.registry.windows = windows) :
    Does respond h (windows.map fun window => .closeWindow window.1)
      (windows.mapIdx fun j window => h.farewell window (windows.drop (j + 1))).flatten
      { h with registry := { h.registry with windows := [] } } := by
  induction windows generalizing h with
  | nil =>
    have hsame : { h.registry with windows := [] } = h.registry := by rw [← hw]
    rw [hsame]
    exact does_nil
  | cons window later ih =>
    let left : Hub := { h with registry := { h.registry with windows := later } }
    have hrest : Does respond left _ _ _ := ih (hr.tail hw) rfl
    rw [List.mapIdx_cons, List.flatten_cons]
    exact (does_closeWindow hr hw).append hrest

/-- The frame is let go without a call of its handle. -/
private theorem does_closeFrame (hw : h.registry.windows = []) :
    Does respond h [.closeFrame]
      (if h.registry.frame.isSome then h.bus.announcement (.closed .frame []) else [])
      { h with registry := { h.registry with frame := none } } := by
  cases hf : h.registry.frame with
  | none =>
    have he : h.perform .closeFrame = ⟨h, [], []⟩ := by
      simp [perform, detach, Registry.remove, Registry.handle?, PreviewId.isFrame, hf]
    have hsame : { h.registry with frame := none } = h.registry := by rw [← hf]
    rw [hsame]
    exact Does.perform he rfl does_nil rfl
  | some handle =>
    let left : Hub := { h with registry := { h.registry with frame := none } }
    have he : h.perform .closeFrame =
        ⟨left, [.emit (.closed .frame [])], [.remark .frameDetached]⟩ := by
      simp [perform, detach, Registry.remove, Registry.handle?, PreviewId.isFrame, hf, hw, left,
        Registry.list]
    exact Does.perform he rfl (does_emit _) rfl

private theorem does_rejectRequests :
    Does respond h [.rejectRequests] [] { h with pending := (h.pending.rejectAll .closing).2 } :=
  Does.perform rfl rfl does_nil (by rw [List.append_nil]; exact seen_remarks _)

/-- A teardown is put together from its tasks. -/
theorem does_closeAll (hr : h.registry.Sound) :
    Does respond h (h.begin .closeAll).tasks h.teardown h.tornDown := by
  let stopped : Hub := { h with watcher := h.watcher.stop }
  let unwindowed : Hub := { stopped with registry := { h.registry with windows := [] } }
  let empty : Hub := { stopped with registry := { h.registry with frame := none, windows := [] } }
  have hwindows : Does respond stopped (h.registry.windows.map fun window => .closeWindow window.1)
      (h.registry.windows.mapIdx fun j window =>
        h.farewell window (h.registry.windows.drop (j + 1))).flatten unwindowed :=
    does_closeWindows hr rfl
  have hframe : Does respond unwindowed [.closeFrame]
      (if h.registry.frame.isSome then h.bus.announcement (.closed .frame []) else []) empty :=
    does_closeFrame rfl
  have hconnections : Does respond stopped [.closeConnections] h.partings h.tornDown :=
    Does.perform rfl rfl (hwindows.append (hframe.append does_rejectRequests))
      (by rw [List.append_nil]; rfl)
  rw [teardown, List.append_assoc]
  exact does_stopWatcher.append (hconnections.append (does_answer .done))

end

end Hub

/-! Numbers that are given out never come back. -/

private theorem Hub.nextId_conclude {h h' : Hub} {r : Request} {outcome : Outcome}
    {rs : List Remark}
    (hp : h.pending.Sound) (hc : h.conclude? r = some (outcome, h', rs)) :
    h'.pending.nextId = h.pending.nextId := by
  obtain ⟨-, -, hcollect, -⟩ := Pending.collect_spec hp r.id
  unfold conclude? at hc
  split at hc
  · rename_i hover
    rw [hover] at hcollect
    cases hc
    exact hcollect
  · split at hc
    · cases hc
      rfl
    · cases hc

namespace Machine

section
variable {m : Machine} {move : Move} {e : Effect} {used rest : List Task}

private theorem Works.nextId_le (w : Works m move e used rest) (hp : m.hub.pending.Sound) :
    m.hub.pending.nextId ≤ e.hub.pending.nextId := by
  cases w.deals with
  | nothing quiet _ _ _ => rw [quiet.pending]
  | issue message timeout runtime room posts targets plain hub tasks silent =>
    obtain ⟨-, -, -, hnext, -⟩ := Pending.register_ok hp room
    rw [hub, hnext]
    exact Nat.le_succ _
  | reply heard quiet =>
    rw [quiet.pending]
    exact Nat.le_of_eq (Pending.resolve_spec hp _ _).2.2.1.symm
  | reject quiet => rw [quiet.pending]; rfl
  | await r targets runtime =>
    unfold Hub.awaitReply
    split
    · split
      · rename_i hc
        exact Nat.le_of_eq (Hub.nextId_conclude hp hc).symm
      · exact Nat.le_refl _
    · exact Nat.le_refl _
  | abandon held quiet => rw [quiet.pending]; rfl
  | wake held concluded hub tasks outputs =>
    rw [hub]
    exact Nat.le_of_eq (Hub.nextId_conclude hp concluded).symm
  | elapse early quiet => rw [quiet.pending]

structure Numbered (m : Machine) : Prop where
  registry : m.hub.registry.Sound
  orderly : Orderly m

structure CountsOn (m m' : Machine) : Prop where
  nextWindow : m.hub.registry.nextWindow ≤ m'.hub.registry.nextWindow
  nextId : m.hub.pending.nextId ≤ m'.hub.pending.nextId

theorem CountsOn.refl (m : Machine) : CountsOn m m := ⟨Nat.le_refl _, Nat.le_refl _⟩

private theorem CountsOn.trans {m m' m'' : Machine} (h : CountsOn m m') (h' : CountsOn m' m'') :
    CountsOn m m'' :=
  ⟨Nat.le_trans h.nextWindow h'.nextWindow, Nat.le_trans h.nextId h'.nextId⟩

theorem numbered_turn (hm : Numbered m) (turn : Turn) :
    Numbered (m.turn turn).1 ∧ CountsOn m (m.turn turn).1 := by
  have horderly := orderly_turn hm.orderly turn
  cases turn with
  | move move =>
    rw [Machine.turn] at horderly ⊢
    rcases m.step_cases move with hn | ⟨e, used, rest, w⟩
    · rw [hn]
      exact ⟨hm, .refl m⟩
    · obtain ⟨ns, ht⟩ := w.tells
      rw [w.step_eq] at horderly ⊢
      exact ⟨⟨ht.change.sound hm.registry, horderly⟩, ht.change.nextWindow_le,
        w.nextId_le hm.orderly.sound⟩
  | breakOff =>
    have hhub := m.breakOff_breaks.hub
    rw [Machine.turn] at horderly ⊢
    refine ⟨⟨?_, horderly⟩, ?_, ?_⟩
    · rw [hhub]
      exact hm.registry
    · rw [hhub]
    · rw [hhub]
      cases m.brokenOff? <;> exact Nat.le_refl _

/-- Whatever happens, no number is given out again. -/
theorem numbered_after (hm : Numbered m) (turns : List Turn) :
    Numbered (m.after turns) ∧
      ∀ step ∈ m.course turns, Numbered step.1 ∧ CountsOn step.1 (m.after turns) := by
  induction turns using List.reverseRecOn with
  | nil => exact ⟨hm, List.forall_mem_nil _⟩
  | append_singleton turns turn ih =>
    obtain ⟨hnow, hbefore⟩ := ih
    obtain ⟨hnext, hcounts⟩ := numbered_turn hnow turn
    rw [after_concat, course_concat]
    refine ⟨hnext, List.forall_mem_append.mpr ⟨fun step hs => ?_, ?_⟩⟩
    · exact ⟨(hbefore step hs).1, (hbefore step hs).2.trans hcounts⟩
    · exact List.forall_mem_singleton.mpr ⟨hnow, hcounts⟩

end

theorem numbered_new {options : Options} {own : Bool} {h : Hub}
    (hb : Hub.build options own = .ok h) : Numbered ⟨h, []⟩ := by
  refine ⟨?_, orderly_new hb⟩
  rw [(Hub.build_ok hb).1]
  exact Registry.sound_new

/-- A window that is new has an id that no window has had. -/
theorem CountsOn.window_fresh {m m' : Machine} (h : CountsOn m m') (hm : Numbered m)
    {handle : Handle} (ha : (m'.hub.registry.registerWindow handle).added) :
    (m'.hub.registry.registerWindow handle).id ∉ m.hub.registry.list := by
  rcases m'.hub.registry.registerWindow_cases handle with ⟨id, hx⟩ | ⟨r', hx, -⟩
  · rw [hx] at ha
    cases ha
  · rw [hx]
    exact hm.registry.window_notMem h.nextWindow

/-- A request that finds room has an id that no request has had. -/
theorem CountsOn.request_fresh {m m' : Machine} (h : CountsOn m m') (hm : Numbered m)
    (hm' : Numbered m') {id : RequestId} {p : Pending}
    (hr : m'.hub.pending.register = .ok (id, p)) :
    m.hub.pending.phase id = .unborn := by
  obtain ⟨-, hid, -⟩ := Pending.register_ok hm'.orderly.sound hr
  apply (Pending.phase_eq_unborn_iff hm.orderly.sound).mpr
  have hle := h.nextId
  intro hlt
  rw [hid] at hlt
  exact Nat.not_lt.mpr hle hlt.2

/-- In every state in which an operation can begin, and however the calls return, a teardown that
nobody disturbs takes one course and comes to its end. It calls the handle of each window once, in
the order of their registration, and that of the frame never, and it tells the end of each
connection with the list of those that are left. All requests that wait are settled as the hub
closes. No connection, no open request and no watch remains, and nothing else has changed. A second
teardown closes nothing and tells nothing, and no number is given out again later. -/
theorem closing_all_tears_down (options : Options) (own : Bool) (h : Hub)
    (hb : Hub.build options own = .ok h) (turns : List Turn) (respond : Call → Reply) :
    let start : Machine := ⟨h, []⟩
    let m := start.after turns
    let close : Move := .call .closeAll
    let closed := m.hub.tornDown
    let after : Machine := ⟨closed, m.agenda⟩
    m.isOpen → ∃ moves,
      (m.step close).1.Undisturbed respond moves ∧
      (∀ course, (m.step close).1.Undisturbed respond course →
        course <+: moves ∨ moves <+: course) ∧
      (m.run (close :: moves)).1 = after ∧
      seen (m.run (close :: moves)).2 = m.hub.teardown ∧
      (∀ id, closed.pending.phase id =
        if id ∈ m.hub.pending.waiting then .over (.failed .closing) else m.hub.pending.phase id) ∧
      closed.registry.list = [] ∧ closed.pending.size = 0 ∧ closed.isWatching = false ∧
      closed.registry.nextWindow = m.hub.registry.nextWindow ∧
      closed.pending.nextId = m.hub.pending.nextId ∧
      (∀ respond', ∃ moves',
        (after.step close).1.Undisturbed respond' moves' ∧
        (after.run (close :: moves')).1 = after ∧
        seen (after.run (close :: moves')).2 = m.hub.watcher.stopCalls ++ [.answered .done]) ∧
      ∀ later,
        let all := turns ++ (close :: moves).map Turn.move ++ later
        let last := (start.after all).hub
        (∀ handle, (last.registry.registerWindow handle).added → ∀ step ∈ start.course all,
          (last.registry.registerWindow handle).id ∉ step.1.hub.registry.list) ∧
        ∀ id p, last.pending.register = .ok (id, p) → ∀ step ∈ start.course all,
          step.1.hub.pending.phase id = .unborn := by
  intro start m close closed after hopen
  have hm : Numbered m := (numbered_after (numbered_new hb) turns).1
  have hclose : Hub.Does respond m.hub (m.hub.begin .closeAll).tasks m.hub.teardown closed :=
    Hub.does_closeAll hm.registry
  obtain ⟨moves, hu, hrun, hseen⟩ := exists_undisturbed hopen .closeAll hclose
  obtain ⟨-, hnext, hphase⟩ := Pending.rejectAll_spec hm.orderly.sound .closing
  refine ⟨moves, hu, fun course hc => hc.comparable hu, hrun, hseen, ?_, rfl, rfl,
    m.hub.watcher.isRunning_stop, rfl, hnext, ?_, ?_⟩
  · intro id
    have hwaiting : m.hub.pending.phase id = .waiting ↔ id ∈ m.hub.pending.waiting :=
      Pending.phase_eq_waiting_iff hm.orderly.sound
    by_cases hw : id ∈ m.hub.pending.waiting
    · rw [if_pos hw]
      exact (hphase id).trans (by rw [hwaiting.mpr hw]; rfl)
    · rw [if_neg hw]
      exact (hphase id).trans (Phase.settle_of_ne (mt hwaiting.mp hw) _)
  · intro respond'
    have hempty : closed.registry.Sound := ⟨List.nodup_nil, List.forall_mem_nil _⟩
    have hagain : Hub.Does respond' closed (closed.begin .closeAll).tasks
        (m.hub.watcher.stopCalls ++ [.answered .done]) closed := by
      have hd : Hub.Does respond' closed _ _ _ := Hub.does_closeAll hempty
      rwa [Hub.teardown_tornDown, Hub.tornDown_tornDown] at hd
    exact exists_undisturbed (m := after) (isOpen_iff.mpr (isOpen_iff.mp hopen)) .closeAll hagain
  · intro later all last
    obtain ⟨hlast, hcourse⟩ := numbered_after (numbered_new hb) all
    refine ⟨fun handle ha step hs => ?_, fun id p hr step hs => ?_⟩
    · exact (hcourse step hs).2.window_fresh (hcourse step hs).1 ha
    · exact (hcourse step hs).2.request_fresh (hcourse step hs).1 hlast hr

/-- Two windows and a frame are connected and a request waits. Every handle fails. -/
theorem closing_all_tears_down_failing :
    let opening (handle : Handle) : List Move :=
      [.call (.registerWindow handle true), .proceed, .proceed, .reply .done, .proceed,
        .reply .done, .proceed]
    let before : List (List Move) :=
      [[.call (.start "https://a" true), .proceed, .proceed, .call (.subscribe 7), .proceed,
          .call (.registerFrame ⟨"game"⟩), .proceed, .proceed, .reply .done, .proceed],
        opening ⟨"menu"⟩, opening ⟨"shop"⟩,
        [.call (.request {} none true), .proceed, .reply .done, .proceed, .reply .done, .proceed,
          .reply .done, .proceed, .proceed]]
    let m := Machine.after ⟨Hub.new {} (.external false), []⟩ (before.flatten.map .move)
    let ending (id : PreviewId) (left : List PreviewId) : List Output :=
      [.emitted (.closed id left), .called (.notify ⟨0, 7⟩ (.closed id left))]
    let expected : List (List Output) :=
      [[.called .stopWatcher], [.called (.close (.window 0) ⟨"menu"⟩)],
        ending (.window 0) [.frame, .window 1], [.called (.close (.window 1) ⟨"shop"⟩)],
        ending (.window 1) [.frame], ending .frame [], [.answered .done]]
    m.hub.pending.waiting = [1] ∧ m.hub.tornDown.pending.phase 1 = .over (.failed .closing) ∧
      ∃ moves, (m.run (.call .closeAll :: moves)).1 = ⟨m.hub.tornDown, []⟩ ∧
        seen (m.run (.call .closeAll :: moves)).2 = expected.flatten := by
  intro opening before m ending expected
  have hwaiting : m.hub.pending.waiting = [1] := by decide +kernel
  have hidle : m.isOpen ∧ m.agenda = [] := by decide +kernel
  have hteardown : m.hub.teardown = expected.flatten := by decide +kernel
  clear_value expected before
  obtain ⟨last, -, -, hrun, hseen, hphase, -⟩ := closing_all_tears_down {} true
    (Hub.new {} (.external false)) rfl (before.flatten.map .move) (fun _ => .failed .notStarted)
    hidle.1
  refine ⟨hwaiting, ?_, last, ?_, hseen.trans hteardown⟩
  · refine (hphase 1).trans (if_pos ?_)
    rw [hwaiting]
    exact List.mem_singleton_self 1
  · rw [hrun, hidle.2]

end Machine

end PreviewHub
