import PreviewHub.Proofs.Publication

/-! The list of connections as it is told. Each notice about a connection carries the list of all
previews right after the change that it tells. As long as subscribers and handles leave the registry
alone while they are called, each change is told, to all who are to hear of it, before the next one
happens. So the list that was told last is the real one, and whoever takes over each list that comes
along has the real one too. -/

namespace PreviewHub

def Notice.ids : Notice → List PreviewId
  | .opened _ ids => ids
  | .closed _ ids => ids
  | _ => []

def lastList (notices : List Notice) : List PreviewId := notices.getLast?.elim [] Notice.ids

/-- The list of a subscriber that overwrites it with that of each notice about connections. -/
def shown (notices : List Notice) : List PreviewId :=
  notices.foldl (fun list notice => if notice.isConnection then notice.ids else list) []

private theorem lastList_concat (notices : List Notice) (notice : Notice) :
    lastList (notices ++ [notice]) = notice.ids := by
  rw [lastList, List.getLast?_concat, Option.elim_some]

private theorem shown_eq (notices : List Notice) :
    shown notices = lastList (notices.filter Notice.isConnection) := by
  induction notices using List.reverseRecOn with
  | nil => rfl
  | append_singleton notices notice ih =>
    rw [shown, List.foldl_append, ← shown, List.filter_append]
    by_cases hc : notice.isConnection
    · rw [List.filter_cons_of_pos hc, List.filter_nil, lastList_concat]
      exact if_pos hc
    · rw [List.filter_cons_of_neg hc, List.filter_nil, List.append_nil, ← ih]
      exact if_neg hc

namespace Registry

variable {r r' : Registry} {ns : List Notice}

private theorem Change.isConnection (h : Change r r' ns) : ∀ notice ∈ ns, notice.isConnection := by
  cases h <;> simp [Notice.isConnection]

/-- A change is told with the list that it leads to. -/
private theorem Change.list_eq (h : Change r r' ns) {notices : List Notice}
    (hl : r.list = lastList notices) :
    r'.list = lastList (notices ++ ns) := by
  cases h with
  | nothing => rwa [List.append_nil]
  | _ => rw [lastList_concat, Notice.ids]

/-- A registry that stays as it is gives nothing to tell. -/
private theorem Change.news_eq_nil (hr : r.Sound) (h : Change r r' ns) (he : r' = r) : ns = [] := by
  subst he
  rw [← h.news_eq hr]
  exact Change.nothing.news_eq hr

end Registry

private theorem Untold.unowed {tasks : List Task} (h : Untold Notice.isConnection tasks) :
    owed tasks = [] := by
  apply owed_eq_nil
  intro t ht
  cases t with
  | emit notice =>
    have hno : notice.isConnection = false := h _ ht notice rfl
    simp [Task.owed?, hno]
  | _ => rfl

private theorem Untold.coming_eq_nil {p : Notice → Bool} {tasks : List Task} (h : Untold p tasks)
    (s : Subscription) : (coming s tasks).filter p = [] := by
  apply List.filter_eq_nil_iff.mpr
  intro notice hm
  rw [h.not_coming hm]
  exact Bool.false_ne_true

private theorem Untold.dropWhile {p : Notice → Bool} {tasks : List Task} (h : Untold p tasks)
    (q : Task → Bool) : Untold p (tasks.dropWhile q) := by
  intro t ht
  exact h t ((List.dropWhile_sublist q).subset ht)

/-- Behind the calm tasks in front, a change that is made known leaves nothing else to be told. -/
private theorem Publishes.untold_dropWhile {tasks rest : List Task} (h : Publishes tasks)
    (hr : Untold Notice.isConnection rest) :
    Untold Notice.isConnection ((tasks ++ rest).dropWhile Task.isCalm) := by
  cases h with
  | now notice idle =>
    rw [List.cons_append, List.dropWhile_cons_of_pos rfl]
    apply Untold.dropWhile
    refine untold_append.mpr ⟨fun t ht notice hn => ?_, hr⟩
    cases (idle t ht).symm.trans hn
  | closing id handle notice =>
    rw [List.cons_append, List.dropWhile_cons_of_pos rfl, List.singleton_append,
      List.dropWhile_cons_of_pos rfl]
    exact hr.dropWhile _

namespace Machine

section
variable {m : Machine} {outputs : List Output} {move : Move} {e : Effect} {used rest : List Task}
  {ns : List Notice} {s : Subscription}

/-- If news come only when all that went before is told, they come last. -/
private theorem Works.told_owed_eq (w : Works m move e used rest) (ht : e.Tells m.hub move used ns)
    (hclear : ns = [] ∨ Untold Notice.isConnection m.agenda) (outputs : List Output) :
    told (outputs ++ e.outputs) ++ owed (e.tasks ++ rest) =
      told outputs ++ owed m.agenda ++ ns := by
  have hlast : ns ++ owed rest = owed rest ++ ns := by
    rcases hclear with rfl | hu
    · rw [List.append_nil, List.nil_append]
    · rw [w.agenda_eq] at hu
      rw [(untold_append.mp hu).2.unowed, List.append_nil, List.nil_append]
  calc told (outputs ++ e.outputs) ++ owed (e.tasks ++ rest)
      = told outputs ++ (told e.outputs ++ owed e.tasks) ++ owed rest := by
        simp only [told_append, owed_append, List.append_assoc]
    _ = told outputs ++ owed used ++ (ns ++ owed rest) := by
        rw [ht.balance]
        simp only [List.append_assoc]
    _ = told outputs ++ owed m.agenda ++ ns := by
        rw [hlast, w.agenda_eq, owed_append]
        simp only [List.append_assoc]

private theorem Works.heard_coming_eq (w : Works m move e used rest)
    (ht : e.Tells m.hub move used ns)
    (hclear : ns = [] ∨ Untold Notice.isConnection m.agenda) (hb : m.hub.bus.Sound)
    (hs : s ∈ m.hub.bus.subscriptions) (outputs : List Output) :
    (heard s (outputs ++ e.outputs) ++ coming s (e.tasks ++ rest)).filter Notice.isConnection =
      (heard s outputs ++ coming s m.agenda).filter Notice.isConnection ++ ns := by
  have hears := w.hears ht hb hs (p := Notice.isConnection) fun _ h => h
  have hns : ns.filter Notice.isConnection = ns :=
    List.filter_eq_self.mpr ht.change.isConnection
  have hlast : ns ++ (coming s rest).filter Notice.isConnection =
      (coming s rest).filter Notice.isConnection ++ ns := by
    rcases hclear with rfl | hu
    · rw [List.append_nil, List.nil_append]
    · rw [w.agenda_eq] at hu
      rw [(untold_append.mp hu).2.coming_eq_nil s, List.append_nil, List.nil_append]
  rw [List.filter_append, List.filter_append, hns] at hears
  calc (heard s (outputs ++ e.outputs) ++ coming s (e.tasks ++ rest)).filter Notice.isConnection
      = (heard s outputs).filter Notice.isConnection ++
          ((heard s e.outputs).filter Notice.isConnection ++
            (coming s e.tasks).filter Notice.isConnection) ++
          (coming s rest).filter Notice.isConnection := by
        simp only [heard_append, coming_append, List.filter_append, List.append_assoc]
    _ = (heard s outputs).filter Notice.isConnection ++
          (coming s used).filter Notice.isConnection ++
          (ns ++ (coming s rest).filter Notice.isConnection) := by
        rw [hears]
        simp only [List.append_assoc]
    _ = (heard s outputs ++ coming s m.agenda).filter Notice.isConnection ++ ns := by
        rw [hlast, w.agenda_eq, coming_append]
        simp only [List.filter_append, List.append_assoc]

structure Mirrors (m : Machine) (outputs : List Output) : Prop where
  registry : m.hub.registry.Sound
  bus : m.hub.bus.Sound
  list : m.hub.registry.list = lastList (told outputs ++ owed m.agenda)
  settled : Untold Notice.isConnection (m.agenda.dropWhile Task.isCalm)
  owes : Owes m.agenda
  unheard : told outputs ++ owed m.agenda = [] → Untold Notice.isConnection m.agenda ∧
    ∀ s, ∀ notice ∈ heard s outputs, notice.isConnection = false

/-- Unless a calm task comes first, nothing about connections is left to be passed on. -/
theorem Mirrors.untold (hm : Mirrors m outputs) (hc : ∀ t ∈ m.agenda.head?, t.isCalm = false) :
    Untold Notice.isConnection m.agenda := by
  have hsettled := hm.settled
  cases hagenda : m.agenda with
  | nil => exact List.forall_mem_nil _
  | cons t later =>
    have ht : t.isCalm = false := hc t (by rw [hagenda]; rfl)
    rwa [hagenda, List.dropWhile_cons_of_neg (by rw [ht]; exact Bool.false_ne_true)] at hsettled

/-- The first task is calm and the registry stays as it is, or all that went before is told. -/
private theorem Mirrors.cases (hm : Mirrors m outputs) (w : Works m move e used rest)
    (hi : interferes (m, move) = false) :
    (e.hub.registry = m.hub.registry ∧
        (e.tasks ++ rest).dropWhile Task.isCalm = m.agenda.dropWhile Task.isCalm) ∨
      Untold Notice.isConnection m.agenda := by
  by_cases hc : ∀ t ∈ m.agenda.head?, t.isCalm = false
  · exact Or.inr (hm.untold hc)
  · obtain ⟨t, ht⟩ := not_forall.mp hc
    obtain ⟨hhead, hcalm⟩ := Classical.not_imp.mp ht
    obtain ⟨later, hagenda⟩ := List.head?_eq_some_iff.mp hhead
    exact Or.inl (w.stays_calm hi hagenda (Bool.eq_true_of_not_eq_false hcalm))

private theorem Mirrors.clear (hm : Mirrors m outputs) (w : Works m move e used rest)
    (ht : e.Tells m.hub move used ns) (hi : interferes (m, move) = false) :
    ns = [] ∨ Untold Notice.isConnection m.agenda := by
  rcases hm.cases w hi with ⟨hsame, -⟩ | hu
  · exact Or.inl (ht.change.news_eq_nil hm.registry hsame)
  · exact Or.inr hu

/-- A step in which nobody interferes keeps the lists together. -/
private theorem mirrors_step (hm : Mirrors m outputs) (hi : interferes (m, move) = false) :
    Mirrors (m.step move).1 (outputs ++ (m.step move).2) := by
  rcases m.step_cases move with hn | ⟨e, used, rest, w⟩
  · rw [hn, List.append_nil]
    exact hm
  obtain ⟨ns, ht⟩ := w.tells
  have hclear := hm.clear w ht hi
  have hrecord := w.told_owed_eq ht hclear outputs
  have hnews (hn : ns = []) : Untold Notice.isConnection used →
      Untold Notice.isConnection e.tasks ∧ ∀ s, ∀ notice ∈ heard s e.outputs,
        notice.isConnection = false := by
    intro hu
    apply w.untold ht (fun _ h => h) hu
    rw [hn]
    exact List.forall_mem_nil _
  rw [w.step_eq]
  refine ⟨ht.change.sound hm.registry, w.bus_change.sound hm.bus, ?_, ?_, ?_, ?_⟩
  · rw [take, hrecord]
    exact ht.change.list_eq hm.list
  · rw [take]
    rcases hm.cases w hi with ⟨-, hdrop⟩ | hu
    · rw [hdrop]
      exact hm.settled
    · rw [w.agenda_eq] at hu
      obtain ⟨hused, hrest⟩ := untold_append.mp hu
      rcases w.publishes with hsame | ha
      · have htasks := (hnews (ht.change.news_eq_nil hm.registry hsame) hused).1
        exact (untold_append.mpr ⟨htasks, hrest⟩).dropWhile _
      · exact ha.untold_dropWhile hrest
  · rw [take]
    rcases w.publishes with hsame | ha
    · rw [ht.change.news_eq_nil hm.registry hsame] at ht
      exact w.owes ht hm.owes
    · rcases hclear with hn | hu
      · rw [hn] at ht
        exact w.owes ht hm.owes
      · rw [w.agenda_eq] at hu
        exact .of_publishes ha (untold_append.mp hu).2.unowed
  · intro hnone
    rw [take, hrecord] at hnone
    obtain ⟨hbefore, hn⟩ := List.append_eq_nil_iff.mp hnone
    obtain ⟨hu, hheard⟩ := hm.unheard hbefore
    rw [w.agenda_eq] at hu
    obtain ⟨hused, hrest⟩ := untold_append.mp hu
    obtain ⟨htasks, hlater⟩ := hnews hn hused
    refine ⟨untold_append.mpr ⟨htasks, hrest⟩, fun s => ?_⟩
    rw [take, heard_append]
    exact List.forall_mem_append.mpr ⟨hheard s, hlater s⟩

private theorem mirrors_run {options : Options} {own : Bool} {h : Hub}
    (hb : Hub.build options own = .ok h)
    (moves : List Move) (hi : ∀ step ∈ trace ⟨h, []⟩ moves, interferes step = false) :
    Mirrors (run ⟨h, []⟩ moves).1 (run ⟨h, []⟩ moves).2 := by
  induction moves using List.reverseRecOn with
  | nil =>
    rw [(Hub.build_ok hb).1]
    exact ⟨Registry.sound_new, Bus.sound_new, rfl, List.forall_mem_nil _, .nothing rfl,
      fun _ => ⟨List.forall_mem_nil _, fun _ => List.forall_mem_nil _⟩⟩
  | append_singleton moves move ih =>
    rw [trace_concat] at hi
    obtain ⟨hbefore, hlast⟩ := List.forall_mem_append.mp hi
    rw [run_concat]
    exact mirrors_step (ih hbefore) (hlast _ List.mem_cons_self)

structure Follows (s : Subscription) (m : Machine) (outputs : List Output) : Prop where
  subscribed : s ∈ m.hub.bus.subscriptions
  line : (heard s outputs ++ coming s m.agenda).filter Notice.isConnection =
    told outputs ++ owed m.agenda

private theorem follows_step (hf : Follows s m outputs) (hm : Mirrors m outputs)
    (hi : interferes (m, move) = false) (hstay : move ≠ .call (.unsubscribe s.id)) :
    Follows s (m.step move).1 (outputs ++ (m.step move).2) := by
  rcases m.step_cases move with hn | ⟨e, used, rest, w⟩
  · rw [hn, List.append_nil]
    exact hf
  obtain ⟨ns, ht⟩ := w.tells
  have hclear := hm.clear w ht hi
  rw [w.step_eq]
  refine ⟨w.bus_change.subscribed hf.subscribed hstay, ?_⟩
  rw [take, w.heard_coming_eq ht hclear hm.bus hf.subscribed, w.told_owed_eq ht hclear, hf.line]

/-- Whoever is subscribed before anything was told about connections hears it all. -/
theorem follows_run {options : Options} {own : Bool} {h : Hub} (hb : Hub.build options own = .ok h)
    (first later : List Move)
    (hi : ∀ step ∈ trace ⟨h, []⟩ (first ++ later), interferes step = false)
    (hidle : (run ⟨h, []⟩ first).1.isIdle) (htold : told (run ⟨h, []⟩ first).2 = [])
    (hs : s ∈ (run ⟨h, []⟩ first).1.hub.bus.subscriptions)
    (hstay : .call (.unsubscribe s.id) ∉ later) :
    Follows s (run ⟨h, []⟩ (first ++ later)).1 (run ⟨h, []⟩ (first ++ later)).2 := by
  induction later using List.reverseRecOn with
  | nil =>
    rw [List.append_nil] at hi ⊢
    have hm := mirrors_run hb first hi
    have hagenda := isIdle_iff.mp hidle
    refine ⟨hs, ?_⟩
    have hnone : told (run ⟨h, []⟩ first).2 ++ owed (run ⟨h, []⟩ first).1.agenda = [] := by
      rw [htold, hagenda]
      rfl
    rw [hnone, hagenda]
    apply List.filter_eq_nil_iff.mpr
    intro notice hmem
    rw [(hm.unheard hnone).2 s notice (by simpa [coming] using hmem)]
    exact Bool.false_ne_true
  | append_singleton later move ih =>
    rw [← List.append_assoc] at hi ⊢
    rw [trace_concat] at hi
    obtain ⟨hbefore, hlast⟩ := List.forall_mem_append.mp hi
    rw [run_concat]
    apply follows_step
    · exact ih hbefore fun hm => hstay (List.mem_append_left _ hm)
    · exact mirrors_run hb _ hbefore
    · exact hlast _ List.mem_cons_self
    · intro he
      exact hstay (he ▸ List.mem_append_right _ List.mem_cons_self)

end

/-- In every run in which no subscriber and no handle calls back to change the registry, the list
that was told last is the list of connections whenever others have the turn, within calls too,
unless a window is just being closed. After each operation and each tick, and whenever the watcher
is called, the list that a subscriber shows is that list as well, if it has been subscribed since
before anything was told and takes over each list that it hears. -/
theorem connections_mirrored (options : Options) (own : Bool) (h : Hub)
    (hb : Hub.build options own = .ok h) (moves : List Move)
    (hi : ∀ step ∈ trace ⟨h, []⟩ moves, interferes step = false) :
    let start : Machine := ⟨h, []⟩
    let m := (start.run moves).1
    let outputs := (start.run moves).2
    (m.isOpen → (∀ id handle, .waiting (.close id handle) ∉ m.agenda) →
      lastList (told outputs) = m.hub.registry.list) ∧
    (m.isOpen → m.call?.any Call.isForGuest = false → ∀ first later, moves = first ++ later →
      (start.run first).1.isIdle → told (start.run first).2 = [] →
      ∀ s ∈ (start.run first).1.hub.bus.subscriptions, .call (.unsubscribe s.id) ∉ later →
        shown (heard s outputs) = m.hub.registry.list) := by
  intro start m outputs
  have hm : Mirrors m outputs := mirrors_run hb moves hi
  constructor
  · intro hopen hclose
    have hlist := hm.list
    rw [hm.owes.eq_nil hopen hclose, List.append_nil] at hlist
    exact hlist.symm
  · rintro hopen hguest first later rfl hidle htold s hs hstay
    have hf : Follows s m outputs := follows_run hb first later hi hidle htold hs hstay
    have hu : Untold Notice.isConnection m.agenda := by
      apply hm.untold
      intro t ht
      rcases isOpen_iff.mp hopen with hn | ⟨call, rest, hc⟩
      · rw [hn] at ht
        cases ht
      · rw [call?, hc] at hguest
        rw [hc] at ht
        cases ht
        cases call with
        | startWatcher => rfl
        | stopWatcher => rfl
        | _ => cases hguest
    have hline := hf.line
    rw [List.filter_append, hu.coming_eq_nil s, List.append_nil] at hline
    rw [shown_eq, hline, hm.list]

/-- A subscriber subscribes another one while it is told of a window, and panics at the next one.
The watcher polls as soon as it is started and finds the first window closed. -/
theorem connections_mirrored_polled :
    let start : Machine := ⟨Hub.new {} (.external false), []⟩
    let first : List Move := [.call (.subscribe 7), .proceed]
    let later : List Move :=
      [.call (.registerWindow ⟨"menu"⟩ true), .proceed, .proceed, .call (.subscribe 8), .proceed,
        .reply .done, .proceed, .reply .done, .proceed,
        .call (.registerWindow ⟨"game"⟩ true), .proceed, .proceed, .reply .panicked, .proceed,
        .reply .done, .proceed, .call .poll, .proceed, .reply .closed, .proceed, .proceed,
        .reply .done, .proceed, .reply .done, .proceed, .reply .done, .proceed, .proceed,
        .reply .done, .proceed]
    let last := start.run (first ++ later)
    lastList (told last.2) = [.window 1] ∧ shown (heard ⟨0, 7⟩ last.2) = [.window 1] := by
  intro start first later last
  have hi : ∀ step ∈ start.trace (first ++ later), interferes step = false := by decide +kernel
  have hidle : (start.run first).1.isIdle := by decide +kernel
  have hnone : told (start.run first).2 = [] := by decide +kernel
  have hs : ⟨0, 7⟩ ∈ (start.run first).1.hub.bus.subscriptions := by decide +kernel
  have hstay : .call (.unsubscribe 0) ∉ later := by decide +kernel
  have hlist : last.1.hub.registry.list = [.window 1] := by decide +kernel
  have hopen : last.1.isOpen ∧ last.1.agenda = [] ∧ last.1.call?.any Call.isForGuest = false := by
    decide +kernel
  have hlast : last = start.run (first ++ later) := rfl
  clear_value last later first
  obtain ⟨htold, hshown⟩ := connections_mirrored {} true (Hub.new {} (.external false)) rfl
    (first ++ later) hi
  rw [← hlast, hlist] at htold hshown
  constructor
  · apply htold hopen.1
    intro id handle
    rw [hopen.2.1]
    exact List.not_mem_nil
  · exact hshown hopen.1 hopen.2.2 first later rfl hidle hnone ⟨0, 7⟩ hs hstay

end Machine

end PreviewHub
