import PreviewHub.Proofs.RegistryLookup

/-! A registry is what its history says. The windows are those that were added and not taken out
since, the numbers are given out one after the other and never again, and the frame is the last one
registered, unless it was removed or unregistered since. -/

namespace PreviewHub

namespace Registry

def history (r : Registry) : List Act → List (Act × Response)
  | [] => []
  | a :: acts => (a, (r.act a).1) :: (r.act a).2.history acts

def added? : Act × Response → Option Endpoint
  | (.registerWindow handle, .window id true) => some (id, handle)
  | _ => none

def additions (entries : List (Act × Response)) : List Endpoint := entries.filterMap added?

def takesOut (id : PreviewId) : Act × Response → Bool
  | (.remove target, .removed (some _)) => target = id
  | _ => false

/-- The windows that were added and not taken out later, in the order in which they were added. -/
def standing : List (Act × Response) → List Endpoint
  | [] => []
  | entry :: later =>
    ((added? entry).toList.filter fun w => !later.any (takesOut w.1)) ++ standing later

/-- An act that leaves the frame `handle` in its place: it registers no frame, does not remove the
frame and does not unregister `handle`. -/
def Act.sparesFrame (handle : Handle) : Act → Bool
  | .registerWindow _ => true
  | .registerFrame _ => false
  | .unregisterFrame other => other ≠ handle
  | .remove id => id ≠ .frame

section
variable {r r' : Registry} {a : Act} {x : Response}

/-! What one act enters into the history. -/

private theorem Acts.windows_eq (h : Acts r a x r') (hr : r.Sound) :
    r'.windows = (r.windows.filter fun w => !takesOut w.1 (a, x)) ++ (added? (a, x)).toList := by
  have keep (hx : ∀ w ∈ r.windows, takesOut w.1 (a, x) = false) :
      (r.windows.filter fun w => !takesOut w.1 (a, x)) = r.windows :=
    List.filter_eq_self.mpr fun w hw => by rw [hx w hw]; rfl
  cases h with
  | added hn => rw [keep fun _ _ => rfl]; rfl
  | vacated hf =>
    rw [keep fun w hw => decide_eq_false (hr.ne_frame hw).symm]
    exact (List.append_nil _).symm
  | @removed id handle hne hm =>
    change (r.windows.eraseP fun w => w.1 = id) = _
    rw [hr.eraseP_eq]
    simp [takesOut, added?, eq_comm]
  | known | framed | released | refused | missing =>
    rw [keep fun _ _ => rfl]
    exact (List.append_nil _).symm

/-- A window that is added gets the next number. -/
private theorem Acts.numbers_eq (h : Acts r a x r') :
    (added? (a, x)).toList.map (·.1) =
      (List.range' r.nextWindow (added? (a, x)).toList.length).map .window ∧
    r'.nextWindow = r.nextWindow + (added? (a, x)).toList.length := by
  cases h <;> exact ⟨rfl, rfl⟩

private theorem Acts.frame_eq_some_iff (h : Acts r a x r') {handle : Handle} :
    r'.frame = some handle ↔
      a = .registerFrame handle ∨ r.frame = some handle ∧ a.sparesFrame handle := by
  cases h with
  | @released other hf =>
    have himp : r.frame = some handle → other = handle := fun he =>
      Option.some.inj (hf.symm.trans he)
    simpa [Act.sparesFrame] using himp
  | @refused other release hf =>
    have himp : r.frame = some handle → other ≠ handle := fun he hn => hf (hn ▸ he)
    simpa [Act.sparesFrame] using himp
  | @missing id hn =>
    have himp : r.frame = some handle → id ≠ .frame := by
      rintro he rfl
      exact Option.some_ne_none _ (he.symm.trans hn)
    simpa [Act.sparesFrame] using himp
  | removed hne hm => simp [Act.sparesFrame, hne]
  | known | added | framed | vacated => simp [Act.sparesFrame]

/-- To remove an id takes it out with its handle, and nothing else. -/
theorem Acts.removes {id : PreviewId} (h : Acts r (.remove id) x r') (hr : r.Sound) :
    (∀ handle, x = .removed (some handle) ↔ (id, handle) ∈ r.endpoints) ∧
      r'.endpoints = r.endpoints.filter fun w => w.1 ≠ id := by
  have lookup {handle : Handle} : (id, handle) ∈ r.endpoints ↔ r.handle? id = some handle :=
    hr.handle?_eq_some_iff.symm
  have windows : (r.windows.filter fun w => w.1 ≠ .frame) = r.windows :=
    List.filter_eq_self.mpr fun w hw => decide_eq_true (hr.ne_frame hw)
  cases h with
  | @vacated handle hf =>
    refine ⟨fun other => ?_, ?_⟩
    · rw [lookup]
      simp [handle?, PreviewId.isFrame, hf]
    · simp only [endpoints, hf]
      rw [List.filter_cons_of_neg (by simp), windows]
  | @removed _ handle hne hm =>
    have hin : r.handle? id = some handle :=
      hr.handle?_eq_some_iff.mpr (mem_endpoints.mpr (Or.inr hm))
    refine ⟨fun other => ?_, ?_⟩
    · rw [lookup, hin]
      simp
    · unfold endpoints
      cases r.frame with
      | none => exact hr.eraseP_eq id
      | some current =>
        rw [List.filter_cons_of_pos (by simpa using hne.symm), ← hr.eraseP_eq]
  | missing hn =>
    refine ⟨fun other => ?_, ?_⟩
    · rw [lookup, hn]
      simp
    · refine (List.filter_eq_self.mpr fun w hw => decide_eq_true ?_).symm
      rintro rfl
      exact Option.some_ne_none _ ((hr.handle?_eq_some_iff.mpr hw).symm.trans hn)

end

/-! What a sequence of acts leaves. -/

section
variable {r : Registry} {numbers : List Nat}

private theorem Regular.windows_after (hr : r.Regular numbers) (acts : List Act) :
    (r.after acts).windows =
      (r.windows.filter fun w => !(r.history acts).any (takesOut w.1)) ++
        standing (r.history acts) := by
  induction acts generalizing r numbers with
  | nil => simp [after, history, standing]
  | cons a acts ih =>
    have hacts := r.act_acts a
    obtain ⟨numbers', hr'⟩ := hr.acts hacts
    rw [after, ih hr', hacts.windows_eq hr.sound, List.filter_append, List.filter_filter,
      List.append_assoc]
    simp only [history, standing, List.any_cons, Bool.not_or, Bool.and_comm]

private theorem additions_after (r : Registry) (acts : List Act) :
    (additions (r.history acts)).map (·.1) =
      (List.range' r.nextWindow (additions (r.history acts)).length).map .window ∧
    (r.after acts).nextWindow = r.nextWindow + (additions (r.history acts)).length := by
  induction acts generalizing r with
  | nil => exact ⟨rfl, rfl⟩
  | cons a acts ih =>
    obtain ⟨hids, hnext⟩ := (r.act_acts a).numbers_eq
    obtain ⟨hids', hnext'⟩ := ih (r.act a).2
    have hsplit : additions (r.history (a :: acts)) =
        (added? (a, (r.act a).1)).toList ++ additions ((r.act a).2.history acts) := by
      simp only [additions, history, List.filterMap_cons]
      cases added? (a, (r.act a).1) <;> rfl
    rw [hsplit, List.map_append, List.length_append, hids, hids', hnext, after, hnext', hnext,
      ← List.map_append, List.range'_append_1]
    exact ⟨rfl, Nat.add_assoc _ _ _⟩

private theorem frame_after (r : Registry) (acts : List Act) (handle : Handle) :
    (r.after acts).frame = some handle ↔
      (∃ before later, acts = before ++ .registerFrame handle :: later ∧
        ∀ a ∈ later, a.sparesFrame handle) ∨
      r.frame = some handle ∧ ∀ a ∈ acts, a.sparesFrame handle := by
  induction acts generalizing r with
  | nil => simp [after]
  | cons a acts ih =>
    rw [after, ih, (r.act_acts a).frame_eq_some_iff, List.forall_mem_cons]
    constructor
    · rintro (⟨before, later, rfl, hl⟩ | ⟨rfl | ⟨hf, ha⟩, hl⟩)
      · exact Or.inl ⟨a :: before, later, rfl, hl⟩
      · exact Or.inl ⟨[], acts, rfl, hl⟩
      · exact Or.inr ⟨hf, ha, hl⟩
    · rintro (⟨before, later, he, hl⟩ | ⟨hf, ha, hl⟩)
      · cases before with
        | nil =>
          cases he
          exact Or.inr ⟨Or.inl rfl, hl⟩
        | cons first before =>
          cases he
          exact Or.inl ⟨before, later, rfl, hl⟩
      · exact Or.inr ⟨Or.inr ⟨hf, ha⟩, hl⟩

private theorem Regular.act_known (hr : r.Regular numbers) {id : PreviewId} {handle : Handle}
    (hm : (id, handle) ∈ r.windows) : r.act (.registerWindow handle) = (.window id false, r) := by
  have h := r.act_acts (.registerWindow handle)
  generalize r.act (.registerWindow handle) = x at h ⊢
  obtain ⟨response, r'⟩ := x
  cases h with
  | known hk =>
    cases List.inj_on_of_nodup_map hr.handles hk hm rfl
    rfl
  | added hn => exact absurd (List.mem_map_of_mem hm) hn

private theorem act_unknown (r : Registry) {handle : Handle} (hn : handle ∉ r.windows.map (·.2)) :
    (r.act (.registerWindow handle)).1 = .window (.window r.nextWindow) true := by
  have h := r.act_acts (.registerWindow handle)
  generalize r.act (.registerWindow handle) = x at h ⊢
  obtain ⟨response, r'⟩ := x
  cases h with
  | known hk => exact absurd (List.mem_map_of_mem hk) hn
  | added hn => rfl

/-- A window that is removed is no longer known by its handle, and no number was given out. -/
theorem Regular.act_removed (hr : r.Regular numbers) {id : PreviewId} {handle : Handle}
    (hm : (id, handle) ∈ r.windows) :
    handle ∉ (r.act (.remove id)).2.windows.map (·.2) ∧
      (r.act (.remove id)).2.nextWindow = r.nextWindow := by
  have h := r.act_acts (.remove id)
  have hin : (id, handle) ∈ r.endpoints := mem_endpoints.mpr (Or.inr hm)
  have hout := (h.removes hr.sound).2
  generalize r.act (.remove id) = x at h hout ⊢
  obtain ⟨response, r'⟩ := x
  cases h with
  | vacated hf => exact absurd rfl (hr.sound.ne_frame hm)
  | missing hn =>
    exact absurd ((hr.sound.handle?_eq_some_iff.mpr hin).symm.trans hn) (Option.some_ne_none _)
  | removed hne hm' =>
    refine ⟨fun hk => ?_, rfl⟩
    obtain ⟨w, hw, he⟩ := List.mem_map.mp hk
    obtain rfl := List.inj_on_of_nodup_map hr.handles (List.mem_of_mem_eraseP hw) hm he
    have hleft : (id, handle) ∈ r.endpoints.filter fun w => w.1 ≠ id :=
      hout ▸ mem_endpoints.mpr (Or.inr hw)
    simp at hleft

end

/-- Whatever is done to a registry that was empty: the windows are given the numbers from zero on,
each once; those that are registered are those that were added and not taken out since; a known
window keeps its id, and any other handle, also one whose window was removed, gets a number that no
window had; to remove an id takes it out with its handle and leaves the rest; and the frame is the
last one registered, if it was neither removed nor unregistered since. -/
theorem registry_is_its_history (acts : List Act) :
    let r := after {} acts
    let entries := history {} acts
    let next := PreviewId.window (additions entries).length
    ((additions entries).map (·.1) = (List.range (additions entries).length).map .window ∧
      ((additions entries).map (·.1)).Nodup) ∧
    r.windows = standing entries ∧
    (∀ id handle, (id, handle) ∈ r.windows →
      r.act (.registerWindow handle) = (.window id false, r)) ∧
    (∀ handle, handle ∉ r.windows.map (·.2) →
      (r.act (.registerWindow handle)).1 = .window next true) ∧
    next ∉ (additions entries).map (·.1) ∧
    (∀ id handle, (id, handle) ∈ r.windows →
      ((r.act (.remove id)).2.act (.registerWindow handle)).1 = .window next true) ∧
    (∀ id,
      (∀ handle, (r.act (.remove id)).1 = .removed (some handle) ↔ (id, handle) ∈ r.endpoints) ∧
      (r.act (.remove id)).2.endpoints = r.endpoints.filter fun w => w.1 ≠ id) ∧
    ∀ handle, r.frame = some handle ↔
      ∃ before later, acts = before ++ .registerFrame handle :: later ∧
        ∀ a ∈ later, a.sparesFrame handle := by
  intro r entries next
  obtain ⟨numbers, hr⟩ : ∃ numbers, r.Regular numbers := regular_after regular_new acts
  obtain ⟨hids, hnext⟩ := additions_after {} acts
  have hnext : r.nextWindow = (additions entries).length := hnext.trans (Nat.zero_add _)
  have hids : (additions entries).map (·.1) =
      (List.range (additions entries).length).map .window := by
    rw [List.range_eq_range']
    exact hids
  refine ⟨⟨hids, ?_⟩, ?_, fun _ _ => hr.act_known, fun handle hn => ?_, ?_, fun id handle hm => ?_,
    fun id => (r.act_acts _).removes hr.sound, fun handle => ?_⟩
  · rw [hids]
    exact List.nodup_range.map fun _ _ => PreviewId.window_injective
  · exact regular_new.windows_after acts
  · rw [r.act_unknown hn, hnext]
  · rw [hids]
    intro hm
    obtain ⟨n, hn, he⟩ := List.mem_map.mp hm
    exact Nat.ne_of_lt (List.mem_range.mp hn) (PreviewId.window_injective he)
  · obtain ⟨hgone, hsame⟩ := hr.act_removed hm
    rw [act_unknown _ hgone, hsame, hnext]
  · refine (frame_after {} acts handle).trans (or_iff_left ?_)
    exact fun h => Option.some_ne_none _ h.1.symm

/-- A window is removed from the middle and registered again, and a frame that was replaced is
unregistered in vain. -/
theorem registry_is_its_history_second_window :
    let acts : List Act := [.registerWindow ⟨"a"⟩, .registerWindow ⟨"b"⟩, .registerWindow ⟨"c"⟩,
      .registerFrame ⟨"a"⟩, .remove (.window 1), .remove (.window 1), .registerFrame ⟨"d"⟩,
      .unregisterFrame ⟨"a"⟩, .registerWindow ⟨"a"⟩]
    let r := after {} acts
    standing (history {} acts) = [(.window 0, ⟨"a"⟩), (.window 2, ⟨"c"⟩)] ∧
      r.windows = [(.window 0, ⟨"a"⟩), (.window 2, ⟨"c"⟩)] ∧
      (r.act (.registerWindow ⟨"b"⟩)).1 = .window (.window 3) true ∧
      r.act (.registerWindow ⟨"c"⟩) = (.window (.window 2) false, r) ∧ r.frame = some ⟨"d"⟩ := by
  intro acts r
  have hstanding : standing (history {} acts) = [(.window 0, ⟨"a"⟩), (.window 2, ⟨"c"⟩)] := by
    decide +kernel
  have hlength : (additions (history {} acts)).length = 3 := by decide +kernel
  obtain ⟨-, hwindows, hknown, hunknown, -, -, -, hframe⟩ := registry_is_its_history acts
  have hwindows : r.windows = [(.window 0, ⟨"a"⟩), (.window 2, ⟨"c"⟩)] := hwindows.trans hstanding
  refine ⟨hstanding, hwindows, ?_, hknown _ _ ?_, (hframe _).mpr ?_⟩
  · rw [hlength] at hunknown
    exact hunknown _ (by change _ ∉ r.windows.map (·.2); rw [hwindows]; decide)
  · change _ ∈ r.windows
    rw [hwindows]
    exact List.mem_cons_of_mem _ List.mem_cons_self
  · exact ⟨acts.take 6, acts.drop 7, rfl, by decide⟩

end Registry

end PreviewHub
