import Mathlib
import PreviewHub.Bus.Notice
import PreviewHub.Preview.Registry

/-! Registries that grow from the empty one, and what there is to tell when one changes. -/

namespace PreviewHub

namespace PreviewId

theorem window_injective {m n : Nat} (h : window m = window n) : m = n := by
  have ht : "preview-window-" ++ toString m = "preview-window-" ++ toString n := congrArg text h
  exact Nat.repr_injective ((String.append_right_inj _).mp ht)

theorem window_ne_frame (n : Nat) : window n ≠ frame := by
  intro h
  have ht := congrArg (fun id => id.text.toList.head?) h
  simp [window, frame] at ht

end PreviewId

namespace Registry

structure Sound (r : Registry) : Prop where
  nodup : (r.windows.map (·.1)).Nodup
  issued : ∀ w ∈ r.windows, ∃ n < r.nextWindow, w.1 = .window n

theorem sound_new : Sound {} where
  nodup := List.nodup_nil
  issued _ h := absurd h List.not_mem_nil

section
variable {r : Registry}

theorem Sound.ne_frame (hr : r.Sound) {w : Endpoint} (hw : w ∈ r.windows) : w.1 ≠ .frame := by
  obtain ⟨n, -, hn⟩ := hr.issued w hw
  exact hn ▸ PreviewId.window_ne_frame n

/-- The next id is new. -/
theorem Sound.fresh (hr : r.Sound) {w : Endpoint} (hw : w ∈ r.windows) :
    w.1 ≠ .window r.nextWindow := by
  obtain ⟨n, hlt, hn⟩ := hr.issued w hw
  intro h
  exact absurd (PreviewId.window_injective (hn.symm.trans h)) (Nat.ne_of_lt hlt)

/-- A window is known and nothing changes, or it is new and goes to the end. -/
theorem registerWindow_cases (r : Registry) (handle : Handle) :
    (∃ id, r.registerWindow handle = ⟨r, id, false⟩) ∨
      ∃ r', r.registerWindow handle = ⟨r', .window r.nextWindow, true⟩ ∧
        r' = { r with
          windows := r.windows ++ [(.window r.nextWindow, handle)]
          nextWindow := r.nextWindow + 1 } := by
  unfold registerWindow
  split
  · exact Or.inl ⟨_, rfl⟩
  · exact Or.inr ⟨_, rfl, rfl⟩

/-- The frame is known and nothing changes, or the handle takes its place. -/
theorem registerFrame_cases (r : Registry) (handle : Handle) :
    r.frame = some handle ∧ r.registerFrame handle = (r, .unchanged) ∨
      ∃ r' change, r.registerFrame handle = (r', change) ∧ change ≠ .unchanged ∧
        r.frame ≠ some handle ∧ r' = { r with frame := some handle } := by
  unfold registerFrame
  cases r.frame with
  | none => exact Or.inr ⟨_, _, rfl, nofun, nofun, rfl⟩
  | some current =>
    by_cases h : current = handle
    · exact Or.inl ⟨congrArg some h, if_pos h⟩
    · exact Or.inr ⟨_, _, if_neg h, nofun, fun e => h (Option.some.inj e), rfl⟩

theorem unregisterFrame_cases (r : Registry) (handle : Handle) :
    (∃ release, r.unregisterFrame handle = (r, release) ∧ release ≠ .released) ∨
      ∃ r', r.unregisterFrame handle = (r', .released) ∧ r.frame = some handle ∧
        r' = { r with frame := none } := by
  unfold unregisterFrame
  cases r.frame with
  | none => exact Or.inl ⟨_, rfl, nofun⟩
  | some current =>
    by_cases h : current = handle
    · exact Or.inr ⟨_, if_pos h, congrArg some h, rfl⟩
    · exact Or.inl ⟨_, if_neg h, nofun⟩

/-- What can be removed is the frame or a window. -/
theorem remove_cases {r' : Registry} {id : PreviewId} {handle : Handle}
    (h : r.remove id = some (handle, r')) :
    id = .frame ∧ r.frame = some handle ∧ r' = { r with frame := none } ∨
      id ≠ .frame ∧ (id, handle) ∈ r.windows ∧
        r' = { r with windows := r.windows.eraseP fun w => w.1 = id } := by
  unfold remove handle? at h
  by_cases hf : id = .frame
  · left
    simp only [PreviewId.isFrame, hf, decide_true, if_true] at h
    cases he : r.frame with
    | none => simp [he] at h
    | some current =>
      simp only [he, Option.some.injEq, Prod.mk.injEq] at h
      exact ⟨hf, congrArg some h.1, h.2.symm⟩
  · right
    simp only [PreviewId.isFrame, hf, decide_false, Bool.false_eq_true, if_false] at h
    cases he : r.windows.find? fun w => w.1 = id with
    | none => simp [he] at h
    | some w =>
      simp only [he, Option.map_some, Option.some.injEq, Prod.mk.injEq] at h
      have hid : w.1 = id := by simpa using List.find?_some he
      refine ⟨hf, ?_, h.2.symm⟩
      rw [← h.1, ← hid]
      exact List.mem_of_find?_eq_some he

/-- What cannot be removed is no window. -/
theorem Sound.ne_of_remove_eq_none (hr : r.Sound) {id : PreviewId} (h : r.remove id = none)
    {w : Endpoint} (hw : w ∈ r.windows) : w.1 ≠ id := by
  rintro rfl
  have hfind : r.handle? w.1 = none := by
    unfold remove at h
    split at h
    · assumption
    · split at h <;> cases h
  simp only [handle?, PreviewId.isFrame, hr.ne_frame hw, decide_false, Bool.false_eq_true, if_false,
    Option.map_eq_none_iff, List.find?_eq_none] at hfind
  exact hfind w hw (decide_eq_true rfl)

/-- Ids are unique, so that removing one removes it. -/
theorem Sound.eraseP_eq (hr : r.Sound) (id : PreviewId) :
    (r.windows.eraseP fun w => w.1 = id) = r.windows.filter fun w => w.1 ≠ id := by
  have hn := hr.nodup
  generalize r.windows = windows at hn ⊢
  induction windows with
  | nil => rfl
  | cons w ws ih =>
    obtain ⟨hw, hn⟩ := List.nodup_cons.mp hn
    by_cases he : w.1 = id
    · have hall : ∀ v ∈ ws, v.1 ≠ id := by
        intro v hv h
        exact hw (List.mem_map.mpr ⟨v, hv, h.trans he.symm⟩)
      rw [List.eraseP_cons_of_pos (by simpa using he), List.filter_cons_of_neg (by simpa using he)]
      exact (List.filter_eq_self.mpr (by simpa using hall)).symm
    · rw [List.eraseP_cons_of_neg (by simpa using he), List.filter_cons_of_pos (by simpa using he),
        ih hn]

end

inductive Change (r : Registry) : Registry → List Notice → Prop where
  | nothing : Change r r []
  | window (handle : Handle) {r' : Registry}
      (h : r' = { r with
        windows := r.windows ++ [(.window r.nextWindow, handle)]
        nextWindow := r.nextWindow + 1 }) :
      Change r r' [.opened (.window r.nextWindow) r'.list]
  | frame (handle : Handle) (hne : r.frame ≠ some handle) {r' : Registry}
      (h : r' = { r with frame := some handle }) : Change r r' [.opened .frame r'.list]
  | release (handle : Handle) (hr : r.frame = some handle) {r' : Registry}
      (h : r' = { r with frame := none }) : Change r r' [.closed .frame r'.list]
  | remove (id : PreviewId) (handle : Handle) (hm : (id, handle) ∈ r.windows) {r' : Registry}
      (h : r' = { r with windows := r.windows.eraseP fun w => w.1 = id }) :
      Change r r' [.closed id r'.list]

/-- What there is to tell about two registries, the second being what became of the first: the
windows that are new, those that are gone, and a frame that is another one or gone. -/
def news (r r' : Registry) : List Notice :=
  (r'.windows.filter fun w => w.1 ∉ r.windows.map (·.1)).map (fun w => .opened w.1 r'.list) ++
  (r.windows.filter fun w => w.1 ∉ r'.windows.map (·.1)).map (fun w => .closed w.1 r'.list) ++
  if r'.frame = r.frame then []
  else [if r'.frame.isSome then .opened .frame r'.list else .closed .frame r'.list]

theorem Change.sound {r r' : Registry} {ns : List Notice} (hr : r.Sound) (h : Change r r' ns) :
    r'.Sound := by
  cases h with
  | nothing => exact hr
  | window handle h =>
    subst h
    constructor
    · simp only [List.map_append, List.map_cons, List.map_nil]
      refine List.nodup_append.mpr ⟨hr.nodup, List.nodup_singleton _, ?_⟩
      intro a ha b hb
      obtain ⟨w, hw, rfl⟩ := List.mem_map.mp ha
      rw [List.mem_singleton.mp hb]
      exact hr.fresh hw
    · intro w hw
      rcases List.mem_append.mp hw with hw | hw
      · obtain ⟨n, hlt, hn⟩ := hr.issued w hw
        exact ⟨n, Nat.lt_succ_of_lt hlt, hn⟩
      · rw [List.mem_singleton.mp hw]
        exact ⟨r.nextWindow, Nat.lt_succ_self _, rfl⟩
  | frame handle hne h => exact h ▸ ⟨hr.nodup, hr.issued⟩
  | release handle hf h => exact h ▸ ⟨hr.nodup, hr.issued⟩
  | remove id handle hm h =>
    subst h
    exact ⟨hr.nodup.sublist (List.eraseP_sublist.map _), fun w hw =>
      hr.issued w (List.mem_of_mem_eraseP hw)⟩

private theorem filter_known (ws : List Endpoint) :
    (ws.filter fun w => w.1 ∉ ws.map (·.1)) = [] := by
  rw [List.filter_eq_nil_iff]
  intro w hw
  simpa using ⟨w.2, hw⟩

private theorem filter_key {ws : List Endpoint} (hn : (ws.map (·.1)).Nodup) {id : PreviewId}
    {handle : Handle} (hm : (id, handle) ∈ ws) :
    (ws.filter fun w => w.1 = id) = [(id, handle)] := by
  induction ws with
  | nil => cases hm
  | cons w ws ih =>
    obtain ⟨hw, hn⟩ := List.nodup_cons.mp hn
    rcases List.mem_cons.mp hm with rfl | hm
    · have hall : ∀ v ∈ ws, v.1 ≠ id := fun v hv h => hw (List.mem_map.mpr ⟨v, hv, h⟩)
      rw [List.filter_cons_of_pos (by simp), List.filter_eq_nil_iff.mpr (by simpa using hall)]
    · have hne : w.1 ≠ id := fun h => hw (List.mem_map.mpr ⟨_, hm, h.symm⟩)
      rw [List.filter_cons_of_neg (by simpa using hne), ih hn hm]

/-- A step tells exactly the news. -/
theorem Change.news_eq {r r' : Registry} {ns : List Notice} (hr : r.Sound) (h : Change r r' ns) :
    news r r' = ns := by
  unfold news
  cases h with
  | nothing => rw [filter_known]; simp
  | window handle h =>
    have hnew : PreviewId.window r.nextWindow ∉ r.windows.map (·.1) := by
      intro hm
      obtain ⟨w, hw, he⟩ := List.mem_map.mp hm
      exact hr.fresh hw he
    have hold : (r.windows.filter fun w => w.1 ∉ r'.windows.map (·.1)) = [] := by
      rw [List.filter_eq_nil_iff]
      intro w hw
      simp only [h, List.map_append, List.mem_append, decide_not, Bool.not_eq_true',
        decide_eq_false_iff_not, not_not]
      exact Or.inl (List.mem_map_of_mem hw)
    have hadd : (r'.windows.filter fun w => w.1 ∉ r.windows.map (·.1)) =
        [(.window r.nextWindow, handle)] := by
      rw [h, List.filter_append, filter_known, List.nil_append]
      exact List.filter_cons_of_pos (by simpa using hnew)
    rw [hold, hadd, if_pos (by rw [h])]
    simp
  | frame handle hne h =>
    have hw : r'.windows = r.windows := by rw [h]
    have hf : r'.frame = some handle := by rw [h]
    rw [hw, filter_known, hf, if_neg fun e => hne e.symm]
    simp
  | release handle hr' h =>
    have hw : r'.windows = r.windows := by rw [h]
    have hf : r'.frame = none := by rw [h]
    rw [hw, filter_known, hf, hr', if_neg nofun]
    simp
  | remove id handle hm h =>
    have hw : r'.windows = r.windows.filter fun w => w.1 ≠ id := by rw [h, hr.eraseP_eq]
    have hold : (r'.windows.filter fun w => w.1 ∉ r.windows.map (·.1)) = [] := by
      rw [List.filter_eq_nil_iff]
      intro w hmem
      rw [hw] at hmem
      simpa using ⟨w.2, (List.mem_filter.mp hmem).1⟩
    have hgone : (r.windows.filter fun w => w.1 ∉ r'.windows.map (·.1)) = [(id, handle)] := by
      rw [← filter_key hr.nodup hm]
      refine List.filter_congr fun w hmem => ?_
      simp only [decide_eq_decide, hw]
      constructor
      · intro hno
        by_contra hne
        exact hno (List.mem_map_of_mem (List.mem_filter.mpr ⟨hmem, by simpa using hne⟩))
      · intro he hin
        obtain ⟨v, hv, hve⟩ := List.mem_map.mp hin
        exact absurd (hve.trans he) (by simpa using (List.mem_filter.mp hv).2)
    rw [hold, hgone, if_pos (by rw [h])]
    simp

end Registry

end PreviewHub
