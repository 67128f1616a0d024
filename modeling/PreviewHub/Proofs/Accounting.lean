import PreviewHub.Proofs.Connections

/-! Every opening and every closing of a preview is told once, with the list of previews as it was
right after the change. Calls back into the hub may put any number of other changes between a change
and its telling; the account below is kept through all of them. -/

namespace PreviewHub

def Notice.opens (id : PreviewId) : Notice → Bool
  | .opened target _ => target = id
  | _ => false

def Notice.closes (id : PreviewId) : Notice → Bool
  | .closed target _ => target = id
  | _ => false

def Notice.about (id : PreviewId) (n : Notice) : Bool := n.opens id || n.closes id

theorem Notice.eq_opened_of_opens {id : PreviewId} {n : Notice} (h : n.opens id) :
    ∃ ids, n = .opened id ids := by
  cases n with
  | opened target ids => exact ⟨ids, by rw [of_decide_eq_true h]⟩
  | _ => cases h

/-- A notice about connections that fits the registry `r`: it carries the ids of `r`, and what was
opened is among them, and what was closed is not. -/
def Notice.Fits (r : Registry) : Notice → Prop
  | .opened id ids => ids = r.list ∧ id ∈ ids
  | .closed id ids => ids = r.list ∧ id ∉ ids
  | _ => False

namespace Registry

theorem mem_list_window {r : Registry} {n : Nat} :
    PreviewId.window n ∈ r.list ↔ PreviewId.window n ∈ r.windows.map (·.1) := by
  unfold list
  cases r.frame with
  | none => exact Iff.rfl
  | some handle => simp [PreviewId.window_ne_frame]

private theorem frame_mem_list {r : Registry} (hr : r.Sound) :
    PreviewId.frame ∈ r.list ↔ r.frame.isSome := by
  have hw : PreviewId.frame ∉ r.windows.map (·.1) := by
    intro h
    obtain ⟨w, hw, he⟩ := List.mem_map.mp h
    exact hr.ne_frame hw he
  unfold list
  cases r.frame with
  | none => simpa using hw
  | some handle => simp

/-- The ids of the windows after one was removed. -/
theorem Sound.removed_iff {r r' : Registry} (hr : r.Sound) {id : PreviewId}
    (h : r' = { r with windows := r.windows.eraseP fun w => w.1 = id }) (other : PreviewId) :
    other ∈ r'.windows.map (·.1) ↔ other ∈ r.windows.map (·.1) ∧ other ≠ id := by
  rw [h]
  change other ∈ (r.windows.eraseP fun w => w.1 = id).map (·.1) ↔ _
  rw [hr.eraseP_eq]
  simp only [List.mem_map, List.mem_filter, decide_eq_true_eq]
  constructor
  · rintro ⟨w, ⟨hw, hne⟩, rfl⟩
    exact ⟨⟨w, hw, rfl⟩, hne⟩
  · rintro ⟨⟨w, hw, rfl⟩, hne⟩
    exact ⟨w, ⟨hw, hne⟩, rfl⟩

theorem Change.fits {r r' : Registry} {ns : List Notice} (hr : r.Sound) (h : Change r r' ns) :
    ∀ n ∈ ns, n.Fits r' := by
  have hr' := h.sound hr
  cases h with
  | nothing => nofun
  | window handle h =>
    simp only [List.forall_mem_singleton]
    refine ⟨rfl, mem_list_window.mpr ?_⟩
    rw [h]
    simp
  | frame handle hne h =>
    simp only [List.forall_mem_singleton]
    refine ⟨rfl, (frame_mem_list hr').mpr ?_⟩
    rw [h]
    rfl
  | release handle hf h =>
    simp only [List.forall_mem_singleton]
    refine ⟨rfl, fun hm => ?_⟩
    have := (frame_mem_list hr').mp hm
    rw [h] at this
    cases this
  | remove id handle hm h =>
    simp only [List.forall_mem_singleton]
    refine ⟨rfl, fun hin => ?_⟩
    obtain ⟨n, -, hn⟩ := hr.issued _ hm
    change id = _ at hn
    subst hn
    exact ((hr.removed_iff h _).mp (mem_list_window.mp hin)).2 rfl

/-- The frame is told to be opened when another handle is in its place. -/
private theorem Change.countP_opens {r r' : Registry} {ns : List Notice} (h : Change r r' ns) :
    ns.countP (Notice.opens .frame) =
      if r'.frame.isSome ∧ r'.frame ≠ r.frame then 1 else 0 := by
  cases h with
  | nothing => simp
  | window handle h =>
    have hf : r'.frame = r.frame := by rw [h]
    simp [hf, Notice.opens, PreviewId.window_ne_frame]
  | frame handle hne h =>
    have hf : r'.frame = some handle := by rw [h]
    simp [hf, Notice.opens, hne.symm]
  | release handle hr h =>
    have hf : r'.frame = none := by rw [h]
    simp [hf, Notice.opens]
  | remove id handle hm h =>
    have hf : r'.frame = r.frame := by rw [h]
    simp [hf, Notice.opens]

/-- The frame is told to be closed when its place is left empty. -/
private theorem Change.countP_closes {r r' : Registry} {ns : List Notice} (hr : r.Sound)
    (h : Change r r' ns) :
    ns.countP (Notice.closes .frame) = if r.frame.isSome ∧ r'.frame = none then 1 else 0 := by
  cases h with
  | nothing => cases r.frame <;> simp
  | window handle h =>
    have hf : r'.frame = r.frame := by rw [h]
    cases he : r.frame <;> simp [hf, he, Notice.closes]
  | frame handle hne h =>
    have hf : r'.frame = some handle := by rw [h]
    simp [hf, Notice.closes]
  | release handle hr' h =>
    have hf : r'.frame = none := by rw [h]
    simp [hf, hr', Notice.closes]
  | remove id handle hm h =>
    have hf : r'.frame = r.frame := by rw [h]
    have hne : id ≠ .frame := hr.ne_frame hm
    cases he : r.frame <;> simp [hf, he, Notice.closes, hne]

/-- What was and will be told about the window `n`: nothing before its id is given out; then that it
was opened; and after that, once it is gone, that it was closed. -/
def Chronicle (r : Registry) (n : Nat) (heard : List Notice) : Prop :=
  if n < r.nextWindow then
    if .window n ∈ r.list then ∃ ids, heard = [.opened (.window n) ids]
    else ∃ ids ids', heard = [.opened (.window n) ids, .closed (.window n) ids']
  else heard = []

private theorem chronicle_new (n : Nat) : Chronicle {} n [] := by simp [Chronicle]

private theorem Chronicle.transfer {r r' : Registry} {n : Nat} {heard : List Notice}
    (hc : r.Chronicle n heard) (hn : n < r'.nextWindow ↔ n < r.nextWindow)
    (hw : .window n ∈ r'.windows.map (·.1) ↔ .window n ∈ r.windows.map (·.1)) :
    r'.Chronicle n heard := by
  unfold Chronicle at *
  simpa only [mem_list_window, hn, hw] using hc

/-- A change is entered after what was heard and before what is owed from earlier. Nothing owed from
earlier is an opening, so that the chronicle of a window that closes has its opening already. -/
private theorem Change.chronicle {r r' : Registry} {ns heard later : List Notice} (hr : r.Sound)
    (h : Change r r' ns) (n : Nat) (hl : ∀ id ids, .opened id ids ∉ later)
    (hc : r.Chronicle n ((heard ++ later).filter (Notice.about (.window n)))) :
    r'.Chronicle n ((heard ++ ns ++ later).filter (Notice.about (.window n))) := by
  have skip (hs : ns.filter (Notice.about (.window n)) = []) :
      (heard ++ ns ++ later).filter (Notice.about (.window n)) =
        (heard ++ later).filter (Notice.about (.window n)) := by
    simp only [List.filter_append, hs, List.append_nil]
  have hf : PreviewId.frame ≠ .window n := (PreviewId.window_ne_frame n).symm
  cases h with
  | nothing => simpa using hc
  | window handle h =>
    by_cases he : n = r.nextWindow
    · have hnone : (heard ++ later).filter (Notice.about (.window n)) = [] := by
        unfold Chronicle at hc
        rwa [if_neg (by omega)] at hc
      rw [List.filter_append, List.append_eq_nil_iff] at hnone
      have hin : PreviewId.window n ∈ r'.list := by
        rw [mem_list_window, h, he]
        simp
      unfold Chronicle
      rw [if_pos (by rw [h]; exact he ▸ Nat.lt_succ_self _), if_pos hin]
      refine ⟨r'.list, ?_⟩
      rw [← he]
      simp [List.filter_append, hnone, Notice.about, Notice.opens]
    · have hne : PreviewId.window r.nextWindow ≠ .window n := fun e =>
        he (PreviewId.window_injective e).symm
      rw [skip (by simp [Notice.about, Notice.opens, Notice.closes, hne])]
      refine hc.transfer ?_ ?_
      · rw [h]
        change n < r.nextWindow + 1 ↔ _
        omega
      · rw [h]
        simp [hne.symm]
  | frame handle hne h =>
    rw [skip (by simp [Notice.about, Notice.opens, Notice.closes, hf])]
    exact hc.transfer (by rw [h]) (by rw [h])
  | release handle hr' h =>
    rw [skip (by simp [Notice.about, Notice.opens, Notice.closes, hf])]
    exact hc.transfer (by rw [h]) (by rw [h])
  | remove id handle hm h =>
    obtain ⟨k, hk, hid⟩ := hr.issued _ hm
    change id = _ at hid
    subst hid
    have hin : PreviewId.window k ∈ r.windows.map (·.1) := List.mem_map.mpr ⟨_, hm, rfl⟩
    by_cases he : n = k
    · subst he
      unfold Chronicle at hc
      rw [if_pos hk, if_pos (mem_list_window.mpr hin), List.filter_append] at hc
      obtain ⟨ids, hc⟩ := hc
      have hout : PreviewId.window n ∉ r'.list := fun hm' =>
        ((hr.removed_iff h _).mp (mem_list_window.mp hm')).2 rfl
      unfold Chronicle
      rw [if_pos (by rw [h]; exact hk), if_neg hout]
      refine ⟨ids, r'.list, ?_⟩
      rcases List.append_eq_singleton_iff.mp hc with ⟨-, hlater⟩ | ⟨hheard, hlater⟩
      · have : Notice.opened (.window n) ids ∈ later.filter (Notice.about (.window n)) := by
          rw [hlater]
          exact List.mem_singleton_self _
        exact absurd (List.mem_filter.mp this).1 (hl _ _)
      · simp [List.filter_append, hheard, hlater, Notice.about, Notice.closes]
    · have hne : PreviewId.window k ≠ .window n := fun e =>
        he (PreviewId.window_injective e).symm
      rw [skip (by simp [Notice.about, Notice.opens, Notice.closes, hne])]
      refine hc.transfer (by rw [h]) ?_
      rw [hr.removed_iff h]
      exact and_iff_left hne.symm

end Registry

namespace Machine

def registryAfter (s : Machine × Move) : Registry := (s.1.step s.2).1.hub.registry

def news (s : Machine × Move) : List Notice := s.1.hub.registry.news (registryAfter s)

/-- The account of a run that told `spoken` and came to `m`, after steps with `changes` to tell. -/
structure Account (m : Machine) (spoken changes : List Notice) : Prop where
  sound : m.hub.registry.Sound
  balance : (spoken ++ owed m.agenda).Perm changes
  first : ∀ t ∈ m.agenda.tail, t.opens = false
  windows : ∀ n, m.hub.registry.Chronicle n
    ((spoken ++ owed m.agenda).filter (Notice.about (.window n)))

private theorem account_new (options : Options) (watcher : Watcher) :
    Account ⟨Hub.new options watcher, []⟩ [] [] where
  sound := Registry.sound_new
  balance := .refl _
  first := nofun
  windows n := Registry.chronicle_new n

private theorem Works.rest_opens {m : Machine} {move : Move} {e : Effect} {used rest : List Task}
    (w : Works m move e used rest) (hf : ∀ t ∈ m.agenda.tail, t.opens = false) :
    ∀ t ∈ rest, t.opens = false := by
  cases w with
  | call op h =>
    rcases isOpen_iff.mp h with ha | ⟨call, rest, ha⟩
    · rw [ha]
      nofun
    · rw [ha] at hf ⊢
      exact List.forall_mem_cons.mpr ⟨rfl, hf⟩
  | reply call reply rest h =>
    rw [h] at hf
    exact hf
  | proceed task rest h =>
    rw [h] at hf
    exact hf
  | _ => nofun

private theorem opened_notMem_owed {tasks : List Task} (h : ∀ t ∈ tasks, t.opens = false)
    (id : PreviewId) (ids : List PreviewId) : .opened id ids ∉ owed tasks := by
  intro hm
  obtain ⟨t, ht, ho⟩ := List.mem_filterMap.mp hm
  have hop := h t ht
  cases t with
  | emit notice =>
    by_cases hc : notice.isConnection
    · rw [Task.owed?, if_pos hc] at ho
      rw [Option.some.inj ho] at hop
      cases hop
    · rw [Task.owed?, if_neg hc] at ho
      cases ho
  | _ => cases ho

/-- A step keeps the account. -/
private theorem account_step {m : Machine} {spoken changes : List Notice}
    (ha : Account m spoken changes)
    (move : Move) :
    Account (m.step move).1 (spoken ++ told (m.step move).2) (changes ++ news (m, move)) := by
  rcases step_cases m move with hs | ⟨e, used, rest, w⟩
  · have hn : news (m, move) = [] := by
      unfold news registryAfter
      rw [hs]
      exact (Registry.Change.nothing).news_eq ha.sound
    rw [hn, hs]
    simpa [told] using ha
  · obtain ⟨ns, ht⟩ := w.tells
    have hn : news (m, move) = ns := by
      unfold news registryAfter
      rw [w.step_eq]
      exact ht.change.news_eq ha.sound
    have hlist : spoken ++ told e.outputs ++ owed (e.tasks ++ rest) =
        (spoken ++ owed used) ++ ns ++ owed rest := by
      rw [owed_append, List.append_assoc spoken, ← List.append_assoc (told _), ht.balance]
      simp only [List.append_assoc]
    have hold : spoken ++ owed m.agenda = (spoken ++ owed used) ++ owed rest := by
      rw [w.agenda_eq, owed_append, List.append_assoc]
    have hrest := w.rest_opens ha.first
    rw [hn, w.step_eq]
    refine ⟨ht.change.sound ha.sound, ?_, ?_, fun n => ?_⟩
    · change (spoken ++ told e.outputs ++ owed (e.tasks ++ rest)).Perm _
      rw [hlist]
      refine List.Perm.trans ?_ (ha.balance.append_right ns)
      rw [hold, List.append_assoc, List.append_assoc _ (owed rest)]
      exact List.perm_append_comm.append_left _
    · intro t hm
      change t ∈ (e.tasks ++ rest).tail at hm
      cases he : e.tasks with
      | nil =>
        rw [he] at hm
        exact hrest t (List.mem_of_mem_tail hm)
      | cons task tasks =>
        rw [he] at hm
        rcases List.mem_append.mp hm with hm | hm
        · exact ht.first t (by rw [he]; exact hm)
        · exact hrest t hm
    · change Registry.Chronicle _ n ((spoken ++ told e.outputs ++ owed (e.tasks ++ rest)).filter _)
      rw [hlist]
      refine ht.change.chronicle ha.sound n (opened_notMem_owed hrest) ?_
      rw [← hold]
      exact ha.windows n

private theorem account_run (options : Options) (watcher : Watcher) (moves : List Move) :
    let start : Machine := ⟨Hub.new options watcher, []⟩
    Account (start.run moves).1 (told (start.run moves).2) ((start.trace moves).flatMap news) := by
  intro start
  refine run_induction (motive := fun moves m outputs =>
    Account m (told outputs) ((start.trace moves).flatMap news)) start ?_ ?_ moves
  · exact account_new options watcher
  · intro moves move ih
    rw [trace_concat, List.flatMap_append, told_append, List.flatMap_singleton]
    exact account_step ih move

def registersFrame : Machine × Move → Bool
  | (m, .call (.registerFrame handle)) =>
    m.isOpen && (m.hub.registry.registerFrame handle).2 ≠ .unchanged
  | _ => false

def vacatesFrame (s : Machine × Move) : Bool :=
  s.1.hub.registry.frame.isSome && (registryAfter s).frame.isNone

private theorem registryAfter_registerFrame {m : Machine} (ho : m.isOpen) (handle : Handle) :
    registryAfter (m, .call (.registerFrame handle)) = (m.hub.registry.registerFrame handle).1 := by
  unfold registryAfter
  rw [(Works.call _ ho).step_eq]
  cases hx : m.hub.registry.registerFrame handle with
  | mk r' change => cases change <;> simp [take, Hub.begin, Hub.registerFrame, hx]

/-- A step changes the registry as its news say, and a frame is opened by registering it. -/
theorem news_change {s : Machine × Move} (hs : s.1.hub.registry.Sound) :
    Registry.Change s.1.hub.registry (registryAfter s) (news s) ∧
      ∀ ids, .opened .frame ids ∈ news s →
        ∃ handle, s.2 = .call (.registerFrame handle) ∧ s.1.isOpen := by
  obtain ⟨m, move⟩ := s
  rcases step_cases m move with hn | ⟨e, used, rest, w⟩
  · have hr : registryAfter (m, move) = m.hub.registry := by rw [registryAfter, hn]
    have hnews : news (m, move) = [] := by
      rw [news, hr]
      exact Registry.Change.nothing.news_eq hs
    rw [hnews, hr]
    exact ⟨.nothing, nofun⟩
  · obtain ⟨ns, ht⟩ := w.tells
    have hr : registryAfter (m, move) = e.hub.registry := by rw [registryAfter, w.step_eq]; rfl
    have hnews : news (m, move) = ns := by
      rw [news, hr]
      exact ht.change.news_eq hs
    rw [hnews, hr]
    refine ⟨ht.change, fun ids hm => ?_⟩
    obtain ⟨handle, rfl⟩ := ht.framed ids hm
    cases w with
    | call op ho => exact ⟨handle, rfl, ho⟩

/-- A frame is told to be opened at the steps that register one. -/
theorem countP_news_opens {s : Machine × Move} (hs : s.1.hub.registry.Sound) :
    (news s).countP (Notice.opens .frame) = if registersFrame s then 1 else 0 := by
  obtain ⟨hc, hopen⟩ := news_change hs
  have hcount := hc.countP_opens
  rw [hcount]
  refine if_congr ?_ rfl rfl
  constructor
  · intro h
    rw [if_pos h] at hcount
    obtain ⟨n, hn, hop⟩ := List.countP_pos_iff.mp (hcount ▸ Nat.one_pos)
    obtain ⟨ids, rfl⟩ := Notice.eq_opened_of_opens hop
    obtain ⟨handle, hmove, ho⟩ := hopen ids hn
    obtain ⟨m, move⟩ := s
    subst hmove
    rw [registryAfter_registerFrame ho] at h
    rcases m.hub.registry.registerFrame_cases handle with ⟨-, hx⟩ | ⟨r', change, hx, hne, -, -⟩
    · rw [hx] at h
      exact absurd rfl h.2
    · simp [registersFrame, ho, hx, hne]
  · intro h
    obtain ⟨m, move⟩ := s
    unfold registersFrame at h
    split at h
    · rename_i handle heq
      cases heq
      obtain ⟨ho, hne⟩ := Bool.and_eq_true_iff.mp h
      rw [registryAfter_registerFrame ho]
      rcases m.hub.registry.registerFrame_cases handle with ⟨-, hx⟩ | ⟨r', change, hx, -, hf, hr'⟩
      · simp [hx] at hne
      · rw [hx, hr']
        exact ⟨rfl, fun e => hf e.symm⟩
    · cases h

private theorem countP_news_closes {s : Machine × Move} (hs : s.1.hub.registry.Sound) :
    (news s).countP (Notice.closes .frame) = if vacatesFrame s then 1 else 0 := by
  rw [(news_change hs).1.countP_closes hs]
  refine if_congr ?_ rfl rfl
  simp [vacatesFrame]

private theorem countP_flatMap_eq {α β : Type} {l : List α} {f : α → List β} {p : β → Bool}
    {q : α → Bool} (h : ∀ a ∈ l, (f a).countP p = if q a then 1 else 0) :
    (l.flatMap f).countP p = l.countP q := by
  induction l with
  | nil => rfl
  | cons a l ih =>
    obtain ⟨ha, hl⟩ := List.forall_mem_cons.mp h
    rw [List.flatMap_cons, List.countP_append, ha, ih hl, List.countP_cons, Nat.add_comm]

/-- Whatever subscribers, handles and the watcher do when they are called, as long as no call to a
handle or the watcher panics: each notice that a preview was opened or closed fits the registry
right after a step that changed it so, and when no operation is in progress each such change was
told once. Of a window whose id was given out it was told that it was opened and, if it is gone,
then that it was closed; the frame was told to be opened as often as another one was registered, and
to be closed as often as its place was left empty. -/
theorem connections_told_once (options : Options) (own : Bool) (h : Hub)
    (hb : Hub.build options own = .ok h) (moves : List Move) :
    let start : Machine := ⟨h, []⟩
    let m := (start.run moves).1
    let emissions := told (start.run moves).2
    (∀ n ∈ emissions, ∃ s ∈ start.trace moves, n ∈ news s ∧ n.Fits (registryAfter s)) ∧
    (m.isIdle →
      emissions.Perm ((start.trace moves).flatMap news) ∧
      (∀ n, m.hub.registry.Chronicle n (emissions.filter (Notice.about (.window n)))) ∧
      emissions.countP (Notice.opens .frame) = (start.trace moves).countP registersFrame ∧
      emissions.countP (Notice.closes .frame) = (start.trace moves).countP vacatesFrame) := by
  obtain ⟨rfl, -⟩ := Hub.build_ok hb
  intro start m emissions
  have ha : Account m emissions _ := account_run options _ moves
  have hsound : ∀ s ∈ start.trace moves, s.1.hub.registry.Sound := by
    intro s hs
    obtain ⟨before, -, -, hrun⟩ := exists_of_mem_trace hs
    exact hrun ▸ (account_run options _ before).sound
  constructor
  · intro n hn
    obtain ⟨s, hs, hmem⟩ := List.mem_flatMap.mp
      (ha.balance.subset (List.mem_append_left _ hn))
    exact ⟨s, hs, hmem, (news_change (hsound s hs)).1.fits (hsound s hs) n hmem⟩
  · intro hidle
    have howed : owed m.agenda = [] := by rw [isIdle_iff.mp hidle]; rfl
    have hperm := ha.balance
    have hwin := ha.windows
    rw [howed, List.append_nil] at hperm hwin
    refine ⟨hperm, hwin, ?_, ?_⟩
    · rw [hperm.countP_eq]
      exact countP_flatMap_eq fun s hs => countP_news_opens (hsound s hs)
    · rw [hperm.countP_eq]
      exact countP_flatMap_eq fun s hs => countP_news_closes (hsound s hs)

/-- A subscriber that closes everything as soon as it hears of a window. -/
theorem connections_told_once_nested :
    let moves : List Move :=
      [.call (.subscribe 0), .proceed, .call (.registerWindow ⟨"game"⟩ true), .proceed, .proceed,
        .call .closeAll] ++ (List.replicate 12 [Move.proceed, .reply .done]).flatten
    let last := Machine.run ⟨Hub.new {} (.external false), []⟩ moves
    last.1.isIdle ∧ last.1.hub.registry.nextWindow = 1 ∧ .window 0 ∉ last.1.hub.registry.list ∧
      last.1.hub.registry.Chronicle 0 ((told last.2).filter (Notice.about (.window 0))) := by
  intro moves last
  have hidle : last.1.isIdle := by decide +kernel
  have hnext : last.1.hub.registry.nextWindow = 1 := by decide +kernel
  have hgone : .window 0 ∉ last.1.hub.registry.list := by decide +kernel
  have hlast : last = Machine.run ⟨Hub.new {} (.external false), []⟩ moves := rfl
  clear_value last moves
  subst hlast
  exact ⟨hidle, hnext, hgone, ((connections_told_once {} true _ rfl moves).2 hidle).2.1 0⟩

end Machine

end PreviewHub
