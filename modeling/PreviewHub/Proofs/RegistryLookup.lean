import PreviewHub.Proofs.Registry

/-! Registries that come from the empty one by any sequence of acts. Their windows stand in the
order of their numbers and no two have the same handle, so the first match of a search is the only
one, and the look-ups by id and by handle agree. -/

namespace PreviewHub

namespace Registry

inductive Act where
  | registerWindow (handle : Handle)
  | registerFrame (handle : Handle)
  | unregisterFrame (handle : Handle)
  | remove (id : PreviewId)
  deriving DecidableEq, Repr

inductive Response where
  | window (id : PreviewId) (added : Bool)
  | frame (change : FrameChange)
  | release (release : FrameRelease)
  | removed (handle : Option Handle)
  deriving DecidableEq, Repr

def act (r : Registry) : Act → Response × Registry
  | .registerWindow handle =>
    let x := r.registerWindow handle
    (.window x.id x.added, x.registry)
  | .registerFrame handle =>
    let (r', change) := r.registerFrame handle
    (.frame change, r')
  | .unregisterFrame handle =>
    let (r', release) := r.unregisterFrame handle
    (.release release, r')
  | .remove id =>
    match r.remove id with
    | some (handle, r') => (.removed (some handle), r')
    | none => (.removed none, r)

def after (r : Registry) : List Act → Registry
  | [] => r
  | a :: acts => (r.act a).2.after acts

inductive Acts (r : Registry) : Act → Response → Registry → Prop where
  | known {id : PreviewId} {handle : Handle} (hm : (id, handle) ∈ r.windows) :
      Acts r (.registerWindow handle) (.window id false) r
  | added {handle : Handle} (hn : handle ∉ r.windows.map (·.2)) :
      Acts r (.registerWindow handle) (.window (.window r.nextWindow) true)
        { r with
          windows := r.windows ++ [(.window r.nextWindow, handle)]
          nextWindow := r.nextWindow + 1 }
  | framed {handle : Handle} (change : FrameChange) :
      Acts r (.registerFrame handle) (.frame change) { r with frame := some handle }
  | released {handle : Handle} (hf : r.frame = some handle) :
      Acts r (.unregisterFrame handle) (.release .released) { r with frame := none }
  | refused {handle : Handle} (release : FrameRelease) (hf : r.frame ≠ some handle) :
      Acts r (.unregisterFrame handle) (.release release) r
  | vacated {handle : Handle} (hf : r.frame = some handle) :
      Acts r (.remove .frame) (.removed (some handle)) { r with frame := none }
  | removed {id : PreviewId} {handle : Handle} (hne : id ≠ .frame) (hm : (id, handle) ∈ r.windows) :
      Acts r (.remove id) (.removed (some handle))
        { r with windows := r.windows.eraseP fun w => w.1 = id }
  | missing {id : PreviewId} (hn : r.handle? id = none) : Acts r (.remove id) (.removed none) r

theorem act_acts (r : Registry) (a : Act) : Acts r a (r.act a).1 (r.act a).2 := by
  cases a with
  | registerWindow handle =>
    simp only [act, registerWindow]
    split
    · rename_i id known hf
      have hk : known = handle := by simpa using List.find?_some hf
      exact .known (hk ▸ List.mem_of_find?_eq_some hf)
    · rename_i hf
      refine .added fun hm => ?_
      obtain ⟨w, hw, he⟩ := List.mem_map.mp hm
      exact List.find?_eq_none.mp hf w hw (decide_eq_true he)
  | registerFrame handle =>
    simp only [act]
    rcases r.registerFrame_cases handle with ⟨hf, hx⟩ | ⟨r', change, hx, -, -, rfl⟩
    · rw [hx]
      have hsame : { r with frame := some handle } = r := by rw [← hf]
      have hacts : Acts r (.registerFrame handle) _ _ := .framed .unchanged
      rwa [hsame] at hacts
    · rw [hx]
      exact .framed change
  | unregisterFrame handle =>
    simp only [act, unregisterFrame]
    cases hf : r.frame with
    | none => exact .refused _ (by rw [hf]; exact (Option.some_ne_none _).symm)
    | some current =>
      by_cases hc : current = handle
      · simp only [if_pos hc]
        exact .released (hc ▸ hf)
      · simp only [if_neg hc]
        exact .refused _ fun he => hc (Option.some.inj (hf.symm.trans he))
  | remove id =>
    simp only [act]
    cases hx : r.remove id with
    | some x =>
      obtain ⟨handle, r'⟩ := x
      rcases remove_cases hx with ⟨rfl, hf, rfl⟩ | ⟨hne, hm, rfl⟩
      · exact .vacated hf
      · exact .removed hne hm
    | none =>
      refine .missing ?_
      unfold remove at hx
      split at hx
      · assumption
      · split at hx <;> cases hx

/-- The windows are numbered by `numbers`, which rise and are below the next one, and no two windows
have the same handle. -/
structure Regular (r : Registry) (numbers : List Nat) : Prop where
  ids : r.windows.map (·.1) = numbers.map .window
  rising : numbers.Pairwise (· < ·)
  below : ∀ n ∈ numbers, n < r.nextWindow
  handles : (r.windows.map (·.2)).Nodup

theorem regular_new : Regular {} [] where
  ids := rfl
  rising := .nil
  below := List.forall_mem_nil _
  handles := .nil

section
variable {r r' : Registry} {numbers : List Nat}

theorem Regular.sound (hr : r.Regular numbers) : r.Sound where
  nodup := by
    rw [hr.ids]
    exact (hr.rising.imp Nat.ne_of_lt).map PreviewId.window fun a b hne he =>
      hne (PreviewId.window_injective he)
  issued w hw := by
    have hid : w.1 ∈ numbers.map PreviewId.window := hr.ids ▸ List.mem_map_of_mem hw
    obtain ⟨n, hn, he⟩ := List.mem_map.mp hid
    exact ⟨n, hr.below n hn, he.symm⟩

/-- An act on a regular registry leaves a regular one. -/
theorem Regular.acts (hr : r.Regular numbers) {a : Act} {x : Response} (h : Acts r a x r') :
    ∃ numbers', r'.Regular numbers' := by
  cases h with
  | @added handle hn =>
    refine ⟨numbers ++ [r.nextWindow], ?_, ?_, ?_, ?_⟩
    · simp [hr.ids]
    · refine List.pairwise_append.mpr ⟨hr.rising, List.pairwise_singleton _ _, ?_⟩
      intro n hm k hk
      rw [List.mem_singleton.mp hk]
      exact hr.below n hm
    · intro n hm
      rcases List.mem_append.mp hm with hm | hm
      · exact Nat.lt_succ_of_lt (hr.below n hm)
      · rw [List.mem_singleton.mp hm]
        exact Nat.lt_succ_self _
    · rw [List.map_append]
      refine List.nodup_append.mpr ⟨hr.handles, List.nodup_singleton _, ?_⟩
      rintro known hk other ho rfl
      obtain rfl : known = handle := List.mem_singleton.mp ho
      exact hn hk
  | @removed id handle hne hm =>
    refine ⟨numbers.filter fun n => PreviewId.window n ≠ id, ?_, ?_, ?_, ?_⟩
    · change (r.windows.eraseP fun w => w.1 = id).map (·.1) = _
      rw [hr.sound.eraseP_eq]
      calc (r.windows.filter fun w => w.1 ≠ id).map (·.1)
        _ = (r.windows.map (·.1)).filter fun other => other ≠ id := by rw [List.filter_map]; rfl
        _ = _ := by rw [hr.ids, List.filter_map]; rfl
    · exact hr.rising.filter _
    · exact fun n hn => hr.below n (List.mem_of_mem_filter hn)
    · exact hr.handles.sublist (List.eraseP_sublist.map _)
  | known | refused | missing => exact ⟨numbers, hr⟩
  | framed | released | vacated => exact ⟨numbers, hr.ids, hr.rising, hr.below, hr.handles⟩

theorem regular_after (hr : r.Regular numbers) (acts : List Act) :
    ∃ numbers', (r.after acts).Regular numbers' := by
  induction acts generalizing r numbers with
  | nil => exact ⟨numbers, hr⟩
  | cons a acts ih =>
    obtain ⟨numbers', hr'⟩ := hr.acts (r.act_acts a)
    exact ih hr'

end

/-! Look-ups. -/

private theorem find?_eq_some_iff_of_nodup {α β : Type} [DecidableEq β] {f : α → β} {l : List α}
    (hn : (l.map f).Nodup) {key : β} {a : α} :
    (l.find? fun b => f b = key) = some a ↔ a ∈ l ∧ f a = key := by
  constructor
  · intro h
    exact ⟨List.mem_of_find?_eq_some h, by simpa using List.find?_some h⟩
  · rintro ⟨ha, rfl⟩
    cases hf : l.find? fun b => f b = f a with
    | none => exact absurd (decide_eq_true rfl) (List.find?_eq_none.mp hf a ha)
    | some b =>
      have he : f b = f a := by simpa using List.find?_some hf
      rw [List.inj_on_of_nodup_map hn (List.mem_of_find?_eq_some hf) ha he]

section
variable {r : Registry}

theorem mem_endpoints {w : Endpoint} :
    w ∈ r.endpoints ↔ (∃ handle, r.frame = some handle ∧ w = (.frame, handle)) ∨ w ∈ r.windows := by
  unfold endpoints
  cases r.frame with
  | none => simp
  | some current => simp

private theorem Sound.nodup_list (hr : r.Sound) : r.list.Nodup := by
  have hframe : PreviewId.frame ∉ r.windows.map (·.1) := fun hm => by
    obtain ⟨w, hw, he⟩ := List.mem_map.mp hm
    exact hr.ne_frame hw he
  unfold list
  cases r.frame with
  | none => exact hr.nodup
  | some current => exact List.nodup_cons.mpr ⟨hframe, hr.nodup⟩

theorem Sound.handle?_eq_some_iff (hr : r.Sound) {id : PreviewId} {handle : Handle} :
    r.handle? id = some handle ↔ (id, handle) ∈ r.endpoints := by
  rw [mem_endpoints, handle?, PreviewId.isFrame]
  by_cases hid : id = .frame
  · have hw : (id, handle) ∉ r.windows := fun hm => hr.ne_frame hm hid
    simp [hid, hid ▸ hw]
  · have hf : ¬ ∃ current, r.frame = some current ∧ (id, handle) = (.frame, current) := by
      rintro ⟨_, _, he⟩
      exact hid (congrArg Prod.fst he)
    simp only [hid, decide_false, Bool.false_eq_true, if_false, hf, false_or,
      Option.map_eq_some_iff, find?_eq_some_iff_of_nodup hr.nodup]
    constructor
    · rintro ⟨w, ⟨hw, rfl⟩, rfl⟩
      exact hw
    · exact fun hm => ⟨_, ⟨hm, rfl⟩, rfl⟩

theorem Sound.contains_iff (hr : r.Sound) {id : PreviewId} : r.contains id ↔ id ∈ r.list := by
  rw [contains, Option.isSome_iff_exists, list_eq_map_endpoints]
  simp only [hr.handle?_eq_some_iff, List.mem_map, Prod.exists, exists_and_right, exists_eq_right]

/-- The frame is found first, and a window only by its own handle. -/
theorem find?_of_mem (hn : (r.windows.map (·.2)).Nodup) {id : PreviewId} {handle : Handle}
    (hm : (id, handle) ∈ r.endpoints) :
    r.find? handle = some (if r.frame = some handle then .frame else id) := by
  unfold find?
  by_cases hf : r.frame = some handle
  · rw [if_pos hf, if_pos hf]
  · rw [if_neg hf, if_neg hf]
    rcases mem_endpoints.mp hm with ⟨current, hc, he⟩ | hw
    · cases he
      exact absurd hc hf
    · rw [(find?_eq_some_iff_of_nodup hn).mpr ⟨hw, rfl⟩]
      rfl

private theorem mem_of_find? {id : PreviewId} {handle : Handle} (h : r.find? handle = some id) :
    (id, handle) ∈ r.endpoints := by
  unfold find? at h
  split at h
  · rename_i hf
    cases h
    exact mem_endpoints.mpr (Or.inl ⟨handle, hf, rfl⟩)
  · obtain ⟨w, hw, rfl⟩ := Option.map_eq_some_iff.mp h
    have he : w.2 = handle := by simpa using List.find?_some hw
    exact mem_endpoints.mpr (Or.inr (he ▸ List.mem_of_find?_eq_some hw))

end

/-- Whatever is done to a registry that was empty: its windows rise in number, have ids and handles
of their own and are not the frame. The list has the ids of all endpoints, each once, and all
look-ups agree with it; one by handle gives the frame if that is its handle, and else the window. -/
theorem lookups_agree (acts : List Act) :
    let r := after {} acts
    (∃ numbers : List Nat, r.windows.map (·.1) = numbers.map .window ∧
      numbers.Pairwise (· < ·) ∧ ∀ n ∈ numbers, n < r.nextWindow) ∧
    (r.windows.map (·.1)).Nodup ∧ .frame ∉ r.windows.map (·.1) ∧ (r.windows.map (·.2)).Nodup ∧
    r.list.Nodup ∧ r.list = r.endpoints.map (·.1) ∧ r.size = r.list.length ∧
    (∀ id, r.contains id ↔ id ∈ r.list) ∧
    (∀ id handle, r.handle? id = some handle ↔ (id, handle) ∈ r.endpoints) ∧
    (∀ id handle, r.find? handle = some id → r.handle? id = some handle) ∧
    ∀ id handle, (id, handle) ∈ r.endpoints →
      r.find? handle = some (if r.frame = some handle then .frame else id) := by
  intro r
  obtain ⟨numbers, hr⟩ : ∃ numbers, r.Regular numbers := regular_after regular_new acts
  have hs := hr.sound
  refine ⟨⟨numbers, hr.ids, hr.rising, hr.below⟩, hs.nodup, ?_, hr.handles, hs.nodup_list,
    r.list_eq_map_endpoints, r.size_eq_length_list, fun _ => hs.contains_iff,
    fun _ _ => hs.handle?_eq_some_iff, fun _ _ h => hs.handle?_eq_some_iff.mpr (mem_of_find? h),
    fun _ _ => find?_of_mem hr.handles⟩
  intro hm
  obtain ⟨w, hw, he⟩ := List.mem_map.mp hm
  exact hs.ne_frame hw he

/-- A handle that is both the frame and the second of three windows, of which the first is gone. -/
theorem lookups_agree_frame_and_window :
    let r := after {} [.registerWindow ⟨"a"⟩, .registerWindow ⟨"b"⟩, .registerWindow ⟨"c"⟩,
      .registerFrame ⟨"a"⟩, .remove (.window 0), .registerFrame ⟨"b"⟩]
    (PreviewId.window 1, Handle.mk "b") ∈ r.endpoints ∧ r.find? ⟨"b"⟩ = some .frame ∧
      (PreviewId.window 2, Handle.mk "c") ∈ r.endpoints ∧ r.find? ⟨"c"⟩ = some (.window 2) := by
  intro r
  have hb : (PreviewId.window 1, Handle.mk "b") ∈ r.endpoints := by decide +kernel
  have hc : (PreviewId.window 2, Handle.mk "c") ∈ r.endpoints := by decide +kernel
  have hframe : r.frame = some ⟨"b"⟩ := by decide +kernel
  obtain ⟨-, -, -, -, -, -, -, -, -, -, hfind⟩ := lookups_agree [.registerWindow ⟨"a"⟩,
    .registerWindow ⟨"b"⟩, .registerWindow ⟨"c"⟩, .registerFrame ⟨"a"⟩, .remove (.window 0),
    .registerFrame ⟨"b"⟩]
  refine ⟨hb, (hfind _ _ hb).trans ?_, hc, (hfind _ _ hc).trans ?_⟩
  · exact congrArg some (if_pos hframe)
  · refine congrArg some (if_neg fun he => ?_)
    exact absurd (Option.some.inj (hframe.symm.trans he)) (by decide)

end Registry

end PreviewHub
