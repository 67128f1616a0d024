import PreviewHub.Proofs.Nesting
import PreviewHub.Proofs.Teardown
import PreviewHub.Proofs.Watching

/-! Tearing everything down while those who are called use the hub. They may register windows, close
them, send messages, begin requests or tear everything down themselves. Each window that was there
at the beginning has a task that closes it, unless it is gone already, and it is taken out before
its handle is called. So none of them is there at the end, and no handle is called twice for one id.
-/

namespace PreviewHub

def Output.closes? (id : PreviewId) : Output → Option Handle
  | .called (.close other handle) => if other = id then some handle else none
  | _ => none

def closings (id : PreviewId) (outputs : List Output) : List Handle :=
  outputs.filterMap (Output.closes? id)

private theorem closings_append (id : PreviewId) (first second : List Output) :
    closings id (first ++ second) = closings id first ++ closings id second :=
  List.filterMap_append

private theorem closings_eq_nil {id : PreviewId} {outputs : List Output}
    (h : ∀ call, .called call ∉ outputs) : closings id outputs = [] := by
  refine List.filterMap_eq_nil_iff.mpr fun o ho => ?_
  cases o with
  | called call => exact absurd ho (h call)
  | _ => rfl

private theorem not_called_of_seen {outputs : List Output} (h : seen outputs = []) (call : Call) :
    .called call ∉ outputs :=
  fun hc => List.filter_eq_nil_iff.mp h _ hc rfl

namespace Registry

variable {r r' : Registry} {ns : List Notice}

/-- No window comes back under an id that was given out. -/
theorem Change.mem_of_mem (hr : r.Sound) (h : Change r r' ns) {n : Nat} (hn : n < r.nextWindow)
    (hm : .window n ∈ r'.list) : .window n ∈ r.list := by
  rcases h.window_cases hr hn with ⟨hin, -⟩ | ⟨hiff, -⟩
  · exact hin
  · exact hiff.mp hm

/-- A window keeps its handle as long as it is there. -/
theorem Change.stays_or_gone (hr : r.Sound) (h : Change r r' ns) {w : Endpoint}
    (hw : w ∈ r.windows) : w ∈ r'.windows ∨ w.1 ∉ r'.list := by
  obtain ⟨n, hn, hid⟩ := hr.issued w hw
  cases h with
  | nothing => exact Or.inl hw
  | window handle h =>
    rw [h]
    exact Or.inl (List.mem_append_left _ hw)
  | frame handle hne h =>
    rw [h]
    exact Or.inl hw
  | release handle hf h =>
    rw [h]
    exact Or.inl hw
  | remove id handle hm h =>
    by_cases he : w.1 = id
    · right
      rw [hid, mem_list_window, ← hid, hr.removed_iff h]
      exact fun hc => hc.2 he
    · left
      rw [h]
      exact (List.mem_eraseP_of_neg (by simpa using he)).mpr hw

/-- A window that is there was there before, or it has the number that came next. -/
theorem Change.known_or_next (h : Change r r' ns) {w : Endpoint} (hw : w ∈ r'.windows) :
    w ∈ r.windows ∨ w.1 = .window r.nextWindow := by
  cases h with
  | nothing => exact Or.inl hw
  | window handle h =>
    rw [h] at hw
    rcases List.mem_append.mp hw with hw | hw
    · exact Or.inl hw
    · exact Or.inr (congrArg Prod.fst (List.mem_singleton.mp hw))
  | frame handle hne h =>
    rw [h] at hw
    exact Or.inl hw
  | release handle hf h =>
    rw [h] at hw
    exact Or.inl hw
  | remove id handle hm h =>
    rw [h] at hw
    exact Or.inl (List.mem_of_mem_eraseP hw)

theorem Sound.mem_list (hr : r.Sound) {w : Endpoint} (hw : w ∈ r.windows) : w.1 ∈ r.list := by
  obtain ⟨n, -, hid⟩ := hr.issued w hw
  rw [hid, mem_list_window, ← hid]
  exact List.mem_map_of_mem hw

/-- An id belongs to one handle. -/
theorem Sound.handle_unique (hr : r.Sound) {v w : Endpoint} (hv : v ∈ r.windows)
    (hw : w ∈ r.windows) (he : v.1 = w.1) : v = w :=
  List.inj_on_of_nodup_map hr.nodup hv hw he

/-- A window that is taken out is there before, and is not there after. -/
private theorem Sound.removed (hr : r.Sound) {n : Nat} {handle : Handle}
    (h : r.remove (.window n) = some (handle, r')) :
    (.window n, handle) ∈ r.windows ∧ .window n ∉ r'.list := by
  rcases remove_cases h with ⟨hf, -⟩ | ⟨-, hm, hr'⟩
  · exact absurd hf (PreviewId.window_ne_frame n)
  · refine ⟨hm, ?_⟩
    rw [mem_list_window, hr.removed_iff hr']
    exact fun hc => hc.2 rfl

end Registry

/-- A handle is called to close a window only after the window was taken out. -/
private theorem Hub.perform_closings (h : Hub) (id : PreviewId) (task : Task) :
    closings id (h.perform task).outputs = [] ∨ ∃ handle,
      h.registry.remove id = some (handle, (h.perform task).hub.registry) ∧
        closings id (h.perform task).outputs = [handle] := by
  have silent {e : Effect} (hs : ∀ call, .called call ∉ e.outputs) : closings id e.outputs = [] :=
    closings_eq_nil hs
  cases task with
  | closeWindow other =>
    cases hd : h.detach other with
    | none =>
      left
      simp only [perform, hd]
      rfl
    | some x =>
      obtain ⟨handle, ids, left⟩ := x
      obtain ⟨registry, hrem, -, rfl⟩ := detach_eq hd
      by_cases he : other = id
      · subst he
        refine Or.inr ⟨handle, ?_, ?_⟩
        · simpa only [perform, hd, callOut] using hrem
        · simp only [perform, hd, callOut, closings, List.filterMap_cons, Output.closes?, if_pos,
            List.filterMap_nil]
      · left
        simp only [perform, hd, callOut, closings, List.filterMap_cons, Output.closes?, if_neg he,
          List.filterMap_nil]
  | post other handle data =>
    left
    simp only [perform]
    split <;> rfl
  | startWatcher runtime =>
    left
    simp only [perform, startWatcher]
    split
    · exact silent (not_called_of_seen (seen_remarks _))
    · rfl
  | stopWatcher =>
    left
    simp only [perform, stopWatcher]
    split
    · exact silent (not_called_of_seen (seen_remarks _))
    · rfl
  | closeFrame =>
    left
    simp only [perform]
    split <;> rfl
  | rejectRequests => exact Or.inl (silent (not_called_of_seen (seen_remarks _)))
  | stopIdleWatcher =>
    left
    simp only [perform]
    split <;> rfl
  | restartWatcher =>
    left
    simp only [perform]
    split <;> rfl
  | awaitReply id timeout targets runtime =>
    left
    simp only [perform, awaitReply]
    split
    · split
      · exact silent (not_called_of_seen (seen_remarks (.requestSent id targets :: _)))
      · rfl
    · exact silent (not_called_of_seen (seen_remarks (.requestSent id targets :: _)))
  | _ => exact Or.inl rfl

private theorem Hub.listen_calls (h : Hub) (call : Call) : .called call ∉ h.listen.outputs := by
  have remarked (rs : List Remark) (event : Inbound) :
      .called call ∉ Output.handled event :: remarks rs := by simp [remarks]
  unfold listen handle
  split
  · rename_i event inbox _
    split
    · split
      · split
        · exact remarked [_] event
        · split
          · exact remarked [_] event
          · split
            · exact remarked [] event
            · dsimp only
              split
              · exact remarked [_] event
              · exact remarked [] event
      · exact remarked [] event
    · exact List.not_mem_nil
  · exact List.not_mem_nil

private theorem Hub.wake_calls (h : Hub) (id : RequestId) (call : Call) :
    .called call ∉ (h.wake id).outputs := by
  unfold wake
  split
  · exact List.not_mem_nil
  · split
    · exact List.not_mem_nil
    · simp [remarks]

private theorem Hub.unwind_calls (h : Hub) (tasks : List Task) (call : Call) :
    .called call ∉ (h.unwind tasks).outputs := by
  intro hc
  rcases Hub.mem_unwind_outputs hc with ⟨remark, ho⟩ | ho <;> cases ho

namespace Machine

def outputs (steps : List (Machine × Turn)) : List Output :=
  steps.flatMap fun step => (step.1.turn step.2).2

private theorem outputs_append (first second : List (Machine × Turn)) :
    outputs (first ++ second) = outputs first ++ outputs second :=
  List.flatMap_append

private theorem outputs_singleton (m : Machine) (turn : Turn) :
    outputs [(m, turn)] = (m.turn turn).2 :=
  List.flatMap_singleton ..

section
variable {m : Machine}

/-- Whoever does something to the connections, each turn changes the registry once at most. -/
theorem change_turn (m : Machine) (turn : Turn) :
    ∃ ns, m.hub.registry.Change (m.turn turn).1.hub.registry ns := by
  cases turn with
  | move move =>
    rw [Machine.turn]
    rcases m.step_cases move with hn | ⟨e, used, rest, w⟩
    · rw [hn]
      exact ⟨[], .nothing⟩
    · obtain ⟨ns, ht⟩ := w.tells
      rw [w.step_eq]
      exact ⟨ns, ht.change⟩
  | breakOff =>
    rw [Machine.turn, m.breakOff_breaks.hub]
    exact ⟨[], .nothing⟩

private theorem Works.closings_cases {move : Move} {e : Effect} {used rest : List Task}
    (w : Works m move e used rest) (id : PreviewId) :
    closings id e.outputs = [] ∨ ∃ handle,
      m.hub.registry.remove id = some (handle, e.hub.registry) ∧
        closings id e.outputs = [handle] := by
  cases w with
  | call op h => exact Or.inl (closings_eq_nil (not_called_of_seen (m.hub.begin_begins op).silent))
  | reply call reply rest h =>
    exact Or.inl (closings_eq_nil (not_called_of_seen (m.hub.seen_resume call reply)))
  | proceed task rest h => exact m.hub.perform_closings id task
  | listen h => exact Or.inl (closings_eq_nil m.hub.listen_calls)
  | tick h =>
    left
    unfold Hub.tick
    split
    · split
      · split <;> rfl
      · rfl
    · rfl
  | wake request h => exact Or.inl (closings_eq_nil (m.hub.wake_calls request))
  | elapse ms h =>
    left
    unfold Hub.elapse
    split <;> rfl

/-- The handle that is called to close a window is the one it was registered with, and the window is
not there any more. -/
private theorem closings_turn (hm : m.hub.registry.Sound) (turn : Turn) (n : Nat) :
    closings (.window n) (m.turn turn).2 = [] ∨ ∃ handle,
      (.window n, handle) ∈ m.hub.registry.windows ∧
        .window n ∉ (m.turn turn).1.hub.registry.list ∧
        closings (.window n) (m.turn turn).2 = [handle] := by
  cases turn with
  | move move =>
    rw [Machine.turn]
    rcases m.step_cases move with hn | ⟨e, used, rest, w⟩
    · rw [hn]
      exact Or.inl rfl
    · rw [w.step_eq]
      rcases w.closings_cases (.window n) with hnil | ⟨handle, hrem, hone⟩
      · exact Or.inl hnil
      · obtain ⟨hin, hout⟩ := hm.removed hrem
        exact Or.inr ⟨handle, hin, hout, hone⟩
  | breakOff =>
    left
    rw [Machine.turn, breakOff]
    split
    · exact closings_eq_nil (m.hub.unwind_calls _)
    · rfl

end

structure Unclosed (m : Machine) (shown : List Output) : Prop where
  standing : ∀ w ∈ m.hub.registry.windows, closings w.1 shown = []
  coming : ∀ n, m.hub.registry.nextWindow ≤ n → closings (.window n) shown = []

private theorem unclosed_turn {m : Machine} {shown : List Output} (hm : m.hub.registry.Sound)
    (hu : Unclosed m shown) (turn : Turn) :
    Unclosed (m.turn turn).1 (shown ++ (m.turn turn).2) := by
  obtain ⟨ns, hchange⟩ := m.change_turn turn
  have hm' := hchange.sound hm
  constructor
  · intro w hw
    obtain ⟨n, -, hid⟩ := hm'.issued w hw
    have hnow : closings w.1 (m.turn turn).2 = [] := by
      rcases closings_turn hm turn n with hnil | ⟨handle, -, hout, -⟩
      · rwa [hid]
      · exact absurd (hid ▸ hm'.mem_list hw) hout
    have hbefore : closings w.1 shown = [] := by
      rcases hchange.known_or_next hw with hold | hnew
      · exact hu.standing w hold
      · rw [hnew]
        exact hu.coming _ (Nat.le_refl _)
    rw [closings_append, hbefore, hnow, List.append_nil]
  · intro n hn
    have hle : m.hub.registry.nextWindow ≤ n := Nat.le_trans hchange.nextWindow_le hn
    have hnow : closings (.window n) (m.turn turn).2 = [] := by
      rcases closings_turn hm turn n with hnil | ⟨handle, hin, -⟩
      · exact hnil
      · exact absurd (hm.mem_list hin) (hm.window_notMem hle)
    rw [closings_append, hu.coming n hle, hnow, List.append_nil]

private theorem unclosed_after {m : Machine} (hm : Numbered m) (turns : List Turn) :
    Unclosed (m.after turns) (outputs (m.course turns)) := by
  induction turns using List.reverseRecOn with
  | nil => exact ⟨fun _ _ => rfl, fun _ _ => rfl⟩
  | append_singleton turns turn ih =>
    rw [after_concat, course_concat, outputs_append, outputs_singleton]
    exact unclosed_turn (numbered_after hm turns).1.registry ih turn

/-- A window stays there and its handle is not called, or it is gone and its handle was called once
at most. -/
inductive Bygone (w : Endpoint) (m : Machine) (shown : List Output) : Prop where
  | standing (there : w ∈ m.hub.registry.windows) (uncalled : closings w.1 shown = [])
  | gone {n : Nat} (id : w.1 = .window n) (issued : n < m.hub.registry.nextWindow)
      (absent : w.1 ∉ m.hub.registry.list)
      (called : closings w.1 shown = [] ∨ closings w.1 shown = [w.2])

private theorem Bygone.closings_le {w : Endpoint} {m : Machine} {shown : List Output}
    (hb : Bygone w m shown) : closings w.1 shown = [] ∨ closings w.1 shown = [w.2] := by
  cases hb with
  | standing there uncalled => exact Or.inl uncalled
  | gone id issued absent called => exact called

private theorem bygone_turn {w : Endpoint} {m : Machine} {shown : List Output}
    (hm : m.hub.registry.Sound)
    (hb : Bygone w m shown) (turn : Turn) :
    Bygone w (m.turn turn).1 (shown ++ (m.turn turn).2) := by
  obtain ⟨ns, hchange⟩ := m.change_turn turn
  cases hb with
  | standing there uncalled =>
    obtain ⟨n, hn, hid⟩ := hm.issued w there
    have hn' := Nat.lt_of_lt_of_le hn hchange.nextWindow_le
    rcases closings_turn hm turn n with hnil | ⟨handle, hin, hout, hone⟩
    · have hsame : closings w.1 (shown ++ (m.turn turn).2) = [] := by
        rw [closings_append, uncalled, hid, hnil, List.append_nil]
      rcases hchange.stays_or_gone hm there with hstays | hgone
      · exact .standing hstays hsame
      · exact .gone hid hn' hgone (Or.inl hsame)
    · obtain rfl : (.window n, handle) = w := hm.handle_unique hin there hid.symm
      refine .gone hid hn' hout (Or.inr ?_)
      rw [closings_append, uncalled]
      exact hone
  | gone id issued absent called =>
    rename_i n
    rw [id] at absent
    have hnil : closings w.1 (m.turn turn).2 = [] := by
      rcases closings_turn hm turn n with hnil | ⟨handle, hin, -⟩
      · rwa [id]
      · exact absurd (hm.mem_list hin) absent
    refine .gone id (Nat.lt_of_lt_of_le issued hchange.nextWindow_le) ?_ ?_
    · rw [id]
      exact fun hback => absent (hchange.mem_of_mem hm issued hback)
    · rwa [closings_append, hnil, List.append_nil]

/-- However a window comes to its end, its handle is called once at most to close it. -/
theorem closings_course {m : Machine} (hm : Numbered m) (before later : List Turn) {w : Endpoint}
    (hw : w ∈ (m.after before).hub.registry.windows) :
    closings w.1 (outputs (m.course (before ++ later))) = [] ∨
      closings w.1 (outputs (m.course (before ++ later))) = [w.2] := by
  have hb : Bygone w (m.after (before ++ later)) (outputs (m.course (before ++ later))) := by
    induction later using List.reverseRecOn with
    | nil =>
      rw [List.append_nil]
      exact .standing hw ((unclosed_after hm before).standing w hw)
    | append_singleton later turn ih =>
      rw [← List.append_assoc, after_concat, course_concat, outputs_append, outputs_singleton]
      exact bygone_turn (numbered_after hm (before ++ later)).1.registry ih turn
  exact hb.closings_le

end Machine

/-- How far a teardown has come with the windows whose numbers are below `bound`: it has not begun
with them, each of those that are left has a task that closes it, or all is done. -/
inductive Hub.Clearing (bound : Nat) (h : Hub) : List Task → Prop where
  | ahead (front : List Task) : Clearing bound h (front ++ [.closeConnections])
  | closing (front : List Task)
      (listed : ∀ n < bound, .window n ∈ h.registry.list → .closeWindow (.window n) ∈ front) :
      Clearing bound h (front ++ [.rejectRequests])
  | done (gone : ∀ n < bound, .window n ∉ h.registry.list) (settled : h.pending.size = 0) :
      Clearing bound h []

namespace Hub

section
variable {bound : Nat} {h h' : Hub} {t : Task} {later : List Task}

/-- What comes first is one of the two tasks that end a stage, or it stands in front of one. -/
private theorem Clearing.split (hc : Clearing bound h (t :: later)) :
    (t = .closeConnections ∧ later = []) ∨ (∃ front, later = front ++ [.closeConnections]) ∨
      (t = .rejectRequests ∧ later = [] ∧ ∀ n < bound, .window n ∉ h.registry.list) ∨
      ∃ front, later = front ++ [.rejectRequests] ∧
        ∀ n < bound, .window n ∈ h.registry.list → .closeWindow (.window n) ∈ t :: front := by
  generalize hbody : t :: later = body at hc
  cases hc with
  | ahead front =>
    cases front with
    | nil => exact Or.inl (List.cons.inj hbody)
    | cons first front => exact Or.inr (Or.inl ⟨front, (List.cons.inj hbody).2⟩)
  | closing front listed =>
    right; right
    cases front with
    | nil =>
      obtain ⟨ht, hlater⟩ := List.cons.inj hbody
      exact Or.inl ⟨ht, hlater, fun n hn hin => List.not_mem_nil (listed n hn hin)⟩
    | cons first front =>
      obtain ⟨rfl, hlater⟩ := List.cons.inj hbody
      exact Or.inr ⟨front, hlater, listed⟩
  | done gone settled => cases hbody

/-- What a task leaves comes before the rest, and a window that has its task later keeps it. -/
private theorem Clearing.ahead_of (front tasks : List Task) :
    Clearing bound h' (tasks ++ (front ++ [.closeConnections])) := by
  rw [← List.append_assoc]
  exact .ahead _

private theorem Clearing.closing_of {front : List Task}
    (listed : ∀ n < bound, .window n ∈ h.registry.list → .closeWindow (.window n) ∈ t :: front)
    (hback : ∀ n < bound, .window n ∈ h'.registry.list →
      .window n ∈ h.registry.list ∧ t ≠ .closeWindow (.window n)) (tasks : List Task) :
    Clearing bound h' (tasks ++ (front ++ [.rejectRequests])) := by
  rw [← List.append_assoc]
  refine .closing _ fun n hn hin => List.mem_append_right _ ?_
  obtain ⟨hin, hne⟩ := hback n hn hin
  exact (List.mem_cons.mp (listed n hn hin)).resolve_left hne.symm

/-- While a call is under way others may take windows out, but bring none of them back. -/
private theorem Clearing.waiting {call : Call} (hc : Clearing bound h (.waiting call :: later))
    (hback : ∀ n < bound, .window n ∈ h'.registry.list → .window n ∈ h.registry.list)
    (tasks : List Task) : Clearing bound h' (tasks ++ later) := by
  rcases hc.split with ⟨ht, -⟩ | ⟨front, rfl⟩ | ⟨ht, -⟩ | ⟨front, rfl, listed⟩
  · cases ht
  · exact .ahead_of front tasks
  · cases ht
  · exact .closing_of listed (fun n hn hin => ⟨hback n hn hin, by rintro ⟨⟩⟩) tasks

/-- After its closing a window is not there, whether it was before or not. -/
private theorem closeWindow_gone (hr : h.registry.Sound) (n : Nat) :
    .window n ∉ (h.perform (.closeWindow (.window n))).hub.registry.list := by
  rw [Registry.mem_list_window]
  intro hin
  obtain ⟨w, hw, hid⟩ := List.mem_map.mp hin
  cases hd : h.detach (.window n) with
  | none =>
    simp only [perform, hd] at hw
    exact detach_none hr hd w hw hid
  | some x =>
    simp only [perform, hd, callOut] at hw
    exact ((detach_windows hr hd).2 w hw).2 hid

private theorem Clearing.perform (hr : h.registry.Sound) (hb : bound ≤ h.registry.nextWindow)
    (hc : Clearing bound h (t :: later)) :
    Clearing bound (h.perform t).hub ((h.perform t).tasks ++ later) := by
  obtain ⟨ns, htells⟩ := h.perform_tells t
  rcases hc.split with ⟨rfl, rfl⟩ | ⟨front, rfl⟩ | ⟨rfl, rfl, gone⟩ | ⟨front, rfl, listed⟩
  · have htasks : (h.perform .closeConnections).tasks ++ [] =
        h.registry.windows.map (fun window => Task.closeWindow window.1) ++ [.closeFrame] ++
          [.rejectRequests] := by
      simp [Hub.perform]
    rw [htasks]
    refine .closing _ fun n _ hin => List.mem_append_left _ ?_
    obtain ⟨w, hw, hid⟩ := List.mem_map.mp (Registry.mem_list_window.mp hin)
    exact List.mem_map.mpr ⟨w, hw, by rw [hid]⟩
  · exact .ahead_of front _
  · exact .done gone rfl
  · refine .closing_of listed (fun n hn hin => ⟨?_, ?_⟩) _
    · exact htells.change.mem_of_mem hr (Nat.lt_of_lt_of_le hn hb) hin
    · rintro rfl
      exact closeWindow_gone hr n hin

end

end Hub

namespace Machine

/-- What a teardown keeps, whatever others do while it waits for a call. -/
private theorem kept_clearing (bound : Nat) (base : List Task) :
    Kept base fun body m _ =>
      Numbered m ∧ bound ≤ m.hub.registry.nextWindow ∧ m.hub.Clearing bound body where
  idle := by
    intro body m steps turn h _ _
    exact h
  aside := by
    rintro call later m steps turn ⟨hm, hb, hc⟩ -
    obtain ⟨hm', hcounts⟩ := numbered_turn hm turn
    obtain ⟨ns, hchange⟩ := m.change_turn turn
    refine ⟨hm', Nat.le_trans hb hcounts.nextWindow, ?_⟩
    exact hc.waiting (fun n hn => hchange.mem_of_mem hm.registry (Nat.lt_of_lt_of_le hn hb))
      [.waiting call]
  proceed := by
    rintro t later m steps ⟨hm, hb, hc⟩ agenda - -
    obtain ⟨hm', hcounts⟩ := numbered_turn hm (.move .proceed)
    refine ⟨hm', Nat.le_trans hb hcounts.nextWindow, ?_⟩
    rw [(Works.proceed t _ agenda).step_eq]
    exact hc.perform hm.registry hb
  reply := by
    rintro call later m steps reply ⟨hm, hb, hc⟩ agenda -
    obtain ⟨hm', hcounts⟩ := numbered_turn hm (.move (.reply reply))
    obtain ⟨ns, hchange⟩ := m.change_turn (.move (.reply reply))
    refine ⟨hm', Nat.le_trans hb hcounts.nextWindow, ?_⟩
    have hstep := (Works.reply call reply _ agenda).step_eq
    rw [Machine.turn, hstep] at hchange
    rw [hstep]
    exact hc.waiting (fun n hn => hchange.mem_of_mem hm.registry (Nat.lt_of_lt_of_le hn hb)) _

/-- When a teardown is over but for its answer, no window of its beginning is left. -/
theorem clearing_complete {m : Machine} (hm : Numbered m) (hopen : m.isOpen) {during : List Turn}
    (hc : (m.step (.call .closeAll)).1.Completes m.agenda during) :
    let last := (m.step (.call .closeAll)).1.after during
    last.agenda = .answer .done :: m.agenda ∧ Numbered last ∧
      (∀ n < m.hub.registry.nextWindow, .window n ∉ last.hub.registry.list) ∧
      last.hub.pending.size = 0 := by
  intro last
  have hbegan : m.step (.call .closeAll) =
      (⟨m.hub, [.stopWatcher, .closeConnections] ++ .answer .done :: m.agenda⟩, []) :=
    (Works.call .closeAll hopen).step_eq
  have hbegin : Numbered (m.step (.call .closeAll)).1 :=
    (numbered_turn hm (.move (.call .closeAll))).1
  have hpursues : Pursues (.answer .done :: m.agenda) [.stopWatcher, .closeConnections]
      (m.step (.call .closeAll)).1 := by
    rw [hbegan]
    exact .level (by simp [Task.isFinal]) rfl
  obtain ⟨hagenda, hlast, -, hclear⟩ :=
    (kept_clearing m.hub.registry.nextWindow (.answer .done :: m.agenda)).complete hpursues
      ⟨hbegin, by rw [hbegan], .ahead [.stopWatcher]⟩ hc
  refine ⟨hagenda, hlast, ?_⟩
  generalize hbody : ([] : List Task) = body at hclear
  cases hclear with
  | ahead front => cases front <;> cases hbody
  | closing front listed => cases front <;> cases hbody
  | done gone settled => exact ⟨gone, settled⟩

/-- Whatever those who are called do meanwhile, when a teardown returns no request waits and none of
the windows is there that were registered when it was called; those that are there have later
numbers. For none of these windows a handle is called more than once to close it, be it before,
meanwhile or later, and the handle is its own. However far the teardown has come, it returns if the
calls return that are under way. -/
theorem closing_all_while_called_back (options : Options) (own : Bool) (h : Hub)
    (hb : Hub.build options own = .ok h) (before : List Turn) :
    let start : Machine := ⟨h, []⟩
    let m := start.after before
    let close : Move := .call .closeAll
    let began := (m.step close).1
    m.isOpen →
      (∀ during, began.Completes m.agenda during →
        let last := began.after during
        last.step .proceed = (⟨last.hub, m.agenda⟩, [.answered .done]) ∧
        last.hub.pending.size = 0 ∧
        (∀ w ∈ m.hub.registry.windows, w.1 ∉ last.hub.registry.list) ∧
        ∀ w ∈ last.hub.registry.windows, ∃ n, m.hub.registry.nextWindow ≤ n ∧ w.1 = .window n) ∧
      (∀ during, ∀ w ∈ m.hub.registry.windows,
        let called := closings w.1 (outputs (start.course (before ++ .move close :: during)))
        called = [] ∨ called = [w.2]) ∧
      ∀ during, began.Lasts m.agenda during → ∃ moves : List Move, moves.all Move.goesOn ∧
        began.Completes m.agenda (during ++ moves.map .move) := by
  intro start m close began hopen
  have hm : Numbered m := (numbered_after (numbered_new hb) before).1
  refine ⟨fun during hc => ?_, fun during w hw => ?_, fun during hl => hl.exists_completion⟩
  · intro last
    obtain ⟨hagenda, hlast, hgone, hsettled⟩ := clearing_complete hm hopen hc
    refine ⟨(Works.proceed _ _ hagenda).step_eq, hsettled, fun w hw => ?_, fun w hw => ?_⟩
    · obtain ⟨n, hn, hid⟩ := hm.registry.issued w hw
      rw [hid]
      exact hgone n hn
    · obtain ⟨n, -, hid⟩ := hlast.registry.issued w hw
      refine ⟨n, Nat.le_of_not_lt fun hn => hgone n hn ?_, hid⟩
      rw [← hid]
      exact hlast.registry.mem_list hw
  · exact closings_course (numbered_new hb) before (.move close :: during) hw

/-- The watcher registers a window when it is stopped. The handle of the first window tears all down
itself; a subscriber who hears of that begins a request, whose post panics, and later registers the
first window again and begins another request. -/
theorem closing_all_while_called_back_nested :
    let opening (handle : Handle) : List Move :=
      [.call (.registerWindow handle true), .proceed, .proceed, .reply .done, .proceed,
        .reply .done, .proceed]
    let asking : List Move := [.call (.request {} none true), .proceed]
    let before : List (List Move) :=
      [[.call (.start "https://a" true), .proceed, .proceed, .call (.subscribe 7), .proceed],
        opening ⟨"menu"⟩, opening ⟨"shop"⟩, asking,
        [.reply .done, .proceed, .reply .done, .proceed, .proceed]]
    let panicking : List (List Move) :=
      [[.proceed], opening ⟨"late"⟩, [.reply .done, .proceed, .proceed],
        [.call .closeAll, .proceed, .reply .done, .proceed, .proceed],
        [.reply (.failed .notStarted), .proceed, .proceed], asking]
    let ending : List (List Move) :=
      [[.reply .done, .proceed, .reply .done, .proceed, .proceed], opening ⟨"menu"⟩, asking,
        [.reply .done, .proceed, .proceed], [.reply .panicked, .proceed, .proceed, .proceed],
        [.reply .done, .proceed, .proceed, .reply .done, .proceed, .proceed, .proceed, .proceed]]
    let start : Machine := ⟨Hub.new {} (.external false), []⟩
    let turns := before.flatten.map Turn.move
    let m := start.after turns
    let during := panicking.flatten.map Turn.move ++ .breakOff :: ending.flatten.map Turn.move
    let last := (m.step (.call .closeAll)).1.after during
    m.hub.registry.windows = [(.window 0, ⟨"menu"⟩), (.window 1, ⟨"shop"⟩)] ∧
      m.hub.pending.size = 1 ∧ last.hub.registry.windows = [(.window 3, ⟨"menu"⟩)] ∧
      last.step .proceed = (⟨last.hub, []⟩, [.answered .done]) ∧ last.hub.pending.size = 0 := by
  intro opening asking before panicking ending start turns m during last
  have hopen : m.isOpen ∧ m.agenda = [] := by decide +kernel
  have hbefore : m.hub.registry.windows = [(.window 0, ⟨"menu"⟩), (.window 1, ⟨"shop"⟩)] ∧
      m.hub.pending.size = 1 := by decide +kernel
  have hlast : last.hub.registry.windows = [(.window 3, ⟨"menu"⟩)] := by decide +kernel
  have hcompletes : (m.step (.call .closeAll)).1.Completes m.agenda during :=
    ⟨by decide +kernel, by decide +kernel⟩
  clear_value turns during
  obtain ⟨hstep, hsize, -⟩ := (closing_all_while_called_back {} true
    (Hub.new {} (.external false)) rfl turns hopen.1).1 during hcompletes
  refine ⟨hbefore.1, hbefore.2, hlast, ?_, hsize⟩
  rw [hstep, hopen.2]

end Machine

end PreviewHub
