import PreviewHub.Proofs.Spreading

/-! In which order a subscriber hears of a window. That it was opened is told to one subscriber
after the other, and each of them may call back into the hub before the next one is called. If such
a call has the window closed, those who still wait hear of the closing first. In any other run they
hear of the opening first. -/

namespace PreviewHub

namespace Registry

section
variable {r r' : Registry} {ns : List Notice} {n : Nat}

theorem Change.nextWindow_le (h : Change r r' ns) : r.nextWindow ≤ r'.nextWindow := by
  cases h with
  | nothing => exact Nat.le_refl _
  | window handle h => exact h ▸ Nat.le_succ _
  | frame handle hne h => exact h ▸ Nat.le_refl _
  | release handle hf h => exact h ▸ Nat.le_refl _
  | remove id handle hm h => exact h ▸ Nat.le_refl _

/-- News are about windows whose id was given out. -/
private theorem Change.lt_nextWindow (hr : r.Sound) (h : Change r r' ns) {notice : Notice}
    (hm : notice ∈ ns) (ha : notice.about (.window n)) : n < r'.nextWindow := by
  have hf : PreviewId.frame ≠ .window n := (PreviewId.window_ne_frame n).symm
  cases h with
  | nothing => cases hm
  | window handle h =>
    rw [List.mem_singleton.mp hm] at ha
    have he : PreviewId.window r.nextWindow = .window n := by
      simpa [Notice.about, Notice.opens, Notice.closes] using ha
    rw [h, ← PreviewId.window_injective he]
    exact Nat.lt_succ_self _
  | frame handle hne h =>
    rw [List.mem_singleton.mp hm] at ha
    simp [Notice.about, Notice.opens, Notice.closes, hf] at ha
  | release handle hr' h =>
    rw [List.mem_singleton.mp hm] at ha
    simp [Notice.about, Notice.opens, Notice.closes, hf] at ha
  | remove id handle hin h =>
    rw [List.mem_singleton.mp hm] at ha
    obtain ⟨k, hk, hid⟩ := hr.issued _ hin
    have he : id = .window n := by simpa [Notice.about, Notice.opens, Notice.closes] using ha
    rw [h, ← PreviewId.window_injective (hid.symm.trans he)]
    exact hk

/-- Of a window whose id was given out before there is to tell that it is gone, or nothing. -/
theorem Change.window_cases (hr : r.Sound) (h : Change r r' ns) (hn : n < r.nextWindow) :
    (.window n ∈ r.list ∧ .window n ∉ r'.list ∧ ns = [.closed (.window n) r'.list]) ∨
      (.window n ∈ r'.list ↔ .window n ∈ r.list) ∧
        ∀ notice ∈ ns, notice.about (.window n) = false := by
  have hf : PreviewId.frame ≠ .window n := (PreviewId.window_ne_frame n).symm
  cases h with
  | nothing => exact Or.inr ⟨Iff.rfl, List.forall_mem_nil _⟩
  | window handle h =>
    have hne : PreviewId.window r.nextWindow ≠ .window n := fun he =>
      Nat.ne_of_gt hn (PreviewId.window_injective he)
    refine Or.inr ⟨?_, by simp [Notice.about, Notice.opens, Notice.closes, hne]⟩
    rw [mem_list_window, mem_list_window, h]
    simp [hne.symm]
  | frame handle hne h =>
    refine Or.inr ⟨?_, by simp [Notice.about, Notice.opens, Notice.closes, hf]⟩
    rw [mem_list_window, mem_list_window, h]
  | release handle hr' h =>
    refine Or.inr ⟨?_, by simp [Notice.about, Notice.opens, Notice.closes, hf]⟩
    rw [mem_list_window, mem_list_window, h]
  | remove id handle hm h =>
    obtain ⟨k, hk, hid⟩ := hr.issued _ hm
    change id = _ at hid
    subst hid
    by_cases he : k = n
    · subst he
      refine Or.inl ⟨mem_list_window.mpr (List.mem_map.mpr ⟨_, hm, rfl⟩), fun hin => ?_, rfl⟩
      exact ((hr.removed_iff h _).mp (mem_list_window.mp hin)).2 rfl
    · have hne : PreviewId.window k ≠ .window n := fun h => he (PreviewId.window_injective h)
      refine Or.inr ⟨?_, by simp [Notice.about, Notice.opens, Notice.closes, hne]⟩
      rw [mem_list_window, mem_list_window, hr.removed_iff h]
      exact and_iff_left hne.symm

/-- An id that was given out is not given out again. -/
private theorem Change.not_opens (hr : r.Sound) (h : Change r r' ns) (hn : n < r.nextWindow)
    {notice : Notice} (hm : notice ∈ ns) : notice.opens (.window n) = false := by
  rcases h.window_cases hr hn with ⟨-, -, hns⟩ | ⟨-, hns⟩
  · rw [hns] at hm
    rw [List.mem_singleton.mp hm]
    rfl
  · exact (Bool.or_eq_false_iff.mp (hns notice hm)).1

end

end Registry

namespace Machine

/-- The step takes the preview out while a subscriber that comes before `s` is being told that it
was opened. -/
def overtakes (s : Subscription) (id : PreviewId) (step : Machine × Move) : Bool :=
  step.1.hub.registry.list.contains id && !(registryAfter step).list.contains id &&
    step.1.agenda.any (Task.tellsBefore s id)

def line (s : Subscription) (id : PreviewId) (m : Machine) (outputs : List Output) : List Notice :=
  (heard s outputs ++ coming s m.agenda).filter (Notice.about id)

/-- What there is to hear: that the preview was opened and, once it is gone, that it was closed,
where an opening that was overtaken comes last. -/
inductive Story (s : Subscription) (id : PreviewId) (o : Notice) (m : Machine)
    (outputs : List Output) : Bool → Prop where
  | present (here : id ∈ m.hub.registry.list) (line : line s id m outputs = [o]) :
      Story s id o m outputs false
  | gone {overtaken : Bool} (c : Notice) (gone : id ∉ m.hub.registry.list)
      (kind : c.kind = .closed)
      (line : line s id m outputs = if overtaken then [c, o] else [o, c]) :
      Story s id o m outputs overtaken

section
variable {m : Machine} {move : Move} {e : Effect} {used rest : List Task} {ns : List Notice}
  {id : PreviewId} {o : Notice} {s : Subscription} {outputs : List Output} {overtaken : Bool}

/-- The news enter the line where the present is. -/
private theorem Works.line_eq (w : Works m move e used rest) (ht : e.Tells m.hub move used ns)
    (hb : m.hub.bus.Sound) (hs : s ∈ m.hub.bus.subscriptions) (id : PreviewId)
    (outputs : List Output) :
    line s id m outputs = (heard s outputs).filter (Notice.about id) ++
      ((coming s used).filter (Notice.about id) ++ (coming s rest).filter (Notice.about id)) ∧
    line s id (take e rest).1 (outputs ++ e.outputs) =
      (heard s outputs).filter (Notice.about id) ++
        ((coming s used).filter (Notice.about id) ++ (ns.filter (Notice.about id) ++
          (coming s rest).filter (Notice.about id))) := by
  constructor
  · rw [line, w.agenda_eq, coming_append, List.filter_append, List.filter_append]
  · have hears := w.hears ht hb hs (p := Notice.about id) fun _ => Notice.isConnection_of_about
    rw [List.filter_append, List.filter_append] at hears
    rw [line, take, heard_append, coming_append]
    simp only [List.filter_append, List.append_assoc]
    rw [← List.append_assoc ((heard s e.outputs).filter _), hears, List.append_assoc]

/-- Where there are news, no notice is to be passed on next. -/
private theorem Works.passes_of_idle (w : Works m move e used rest)
    (hi : ∀ t ∈ used, t.notice? = none)
    {t : Task} (ht : m.agenda.head? = some t) : t.passes = false := by
  rcases w.used_cases with ⟨-, hopen⟩ | ⟨u, rfl⟩
  · exact passes_of_isOpen hopen ht
  · rw [w.agenda_eq] at ht
    cases ht
    have hnone := hi t List.mem_cons_self
    cases t with
    | emit notice => cases hnone
    | deliver x notice => cases hnone
    | _ => rfl

/-- A closing enters the line behind the opening if the subscription has heard of it, and before it
otherwise. -/
private theorem Works.line_closed (w : Works m move e used rest) {c : Notice}
    (ht : e.Tells m.hub move used [c]) (hb : m.hub.bus.Sound) (hs : s ∈ m.hub.bus.subscriptions)
    (hc : c.about id) (ho : o.opens id) (hsp : Spread id o s m.agenda)
    (hline : line s id m outputs = [o]) :
    line s id (take e rest).1 (outputs ++ e.outputs) =
      if m.agenda.any (Task.tellsBefore s id) then [c, o] else [o, c] := by
  obtain ⟨hold, hnew⟩ := w.line_eq ht hb hs id outputs
  obtain ⟨hidle, -, -⟩ := (w.idle_of_news ht).resolve_left (List.cons_ne_nil _ _)
  have hwaits := hsp.mem_coming_iff ho fun t => w.passes_of_idle hidle
  rw [w.agenda_eq, coming_append, coming_idle hidle, List.nil_append, ← w.agenda_eq] at hwaits
  rw [hline, coming_idle hidle, List.filter_nil, List.nil_append] at hold
  rw [coming_idle hidle, List.filter_nil, List.nil_append, List.filter_singleton, hc] at hnew
  rcases List.append_eq_singleton_iff.mp hold.symm with ⟨hpast, hlater⟩ | ⟨hpast, hlater⟩
  · have hm : o ∈ coming s rest := List.mem_of_mem_filter (hlater ▸ List.mem_cons_self)
    rw [hnew, hpast, hlater, hwaits.mp hm]
    rfl
  · have hm : o ∉ coming s rest := by
      intro hm
      have hin := List.mem_filter.mpr ⟨hm, Notice.about_of_opens ho⟩
      rw [hlater] at hin
      cases hin
    rw [hnew, hpast, hlater, Bool.eq_false_iff.mpr (mt hwaits.mpr hm)]
    rfl

private theorem Story.congr {m' : Machine} {outputs' : List Output}
    (h : Story s id o m outputs overtaken)
    (hlist : id ∈ m'.hub.registry.list ↔ id ∈ m.hub.registry.list)
    (hline : line s id m' outputs' = line s id m outputs) : Story s id o m' outputs' overtaken := by
  cases h with
  | present here line => exact .present (hlist.mpr here) (hline.trans line)
  | gone c gone kind line => exact .gone c (mt hlist.mp gone) kind (hline.trans line)

end

/-- What a run that put out `outputs` has come to: nothing was told about windows whose id is not
given out. -/
structure Tidy (m : Machine) (outputs : List Output) : Prop where
  registry : m.hub.registry.Sound
  bus : m.hub.bus.Sound
  agenda : ∀ n, m.hub.registry.nextWindow ≤ n → Untold (Notice.about (.window n)) m.agenda
  heard : ∀ n, m.hub.registry.nextWindow ≤ n →
    ∀ s, ∀ notice ∈ heard s outputs, notice.about (.window n) = false

private theorem tidy_step {m : Machine} {outputs : List Output} (h : Tidy m outputs) (move : Move) :
    Tidy (m.step move).1 (outputs ++ (m.step move).2) := by
  rcases m.step_cases move with hn | ⟨e, used, rest, w⟩
  · rw [hn, List.append_nil]
    exact h
  · obtain ⟨ns, ht⟩ := w.tells
    have hle := ht.change.nextWindow_le
    have hnew {n : Nat} (hn : e.hub.registry.nextWindow ≤ n) :
        Untold (Notice.about (.window n)) e.tasks ∧
          ∀ s, ∀ notice ∈ heard s e.outputs, notice.about (.window n) = false := by
      have hold := h.agenda n (Nat.le_trans hle hn)
      rw [w.agenda_eq] at hold
      refine w.untold ht (fun _ => Notice.isConnection_of_about) (untold_append.mp hold).1 ?_
      intro notice hm
      refine Bool.eq_false_iff.mpr fun ha => ?_
      exact Nat.not_lt.mpr hn (ht.change.lt_nextWindow h.registry hm ha)
    rw [w.step_eq]
    refine ⟨ht.change.sound h.registry, w.bus_change.sound h.bus, fun n hn => ?_, fun n hn s => ?_⟩
    · have hold := h.agenda n (Nat.le_trans hle hn)
      rw [w.agenda_eq] at hold
      exact untold_append.mpr ⟨(hnew hn).1, (untold_append.mp hold).2⟩
    · rw [take, heard_append]
      exact List.forall_mem_append.mpr ⟨h.heard n (Nat.le_trans hle hn) s, (hnew hn).2 s⟩

private theorem tidy_run {options : Options} {own : Bool} {h : Hub}
    (hb : Hub.build options own = .ok h)
    (moves : List Move) : Tidy (run ⟨h, []⟩ moves).1 (run ⟨h, []⟩ moves).2 := by
  refine run_induction (motive := fun _ m outputs => Tidy m outputs) ⟨h, []⟩ ?_ ?_ moves
  · rw [(Hub.build_ok hb).1]
    exact ⟨Registry.sound_new, Bus.sound_new, fun _ _ => List.forall_mem_nil _,
      fun _ _ _ => List.forall_mem_nil _⟩
  · exact fun moves move ih => tidy_step ih move

/-- Nothing is heard about a window whose id is not given out. -/
private theorem Tidy.line_eq_nil {m : Machine} {outputs : List Output} (h : Tidy m outputs)
    {n : Nat}
    (hn : m.hub.registry.nextWindow ≤ n) (s : Subscription) :
    line s (.window n) m outputs = [] := by
  refine List.filter_eq_nil_iff.mpr fun notice hm => Bool.eq_false_iff.mp ?_
  rcases List.mem_append.mp hm with hm | hm
  · exact h.heard n hn s notice hm
  · exact (h.agenda n hn).not_coming hm

structure Attends (s : Subscription) (n : Nat) (o : Notice) (m : Machine) (outputs : List Output)
    (overtaken : Bool) : Prop where
  tidy : Tidy m outputs
  issued : n < m.hub.registry.nextWindow
  subscribed : s ∈ m.hub.bus.subscriptions
  spread : Spread (.window n) o s m.agenda
  story : Story s (.window n) o m outputs overtaken

section
variable {m : Machine} {n : Nat} {o : Notice} {s : Subscription} {outputs : List Output}
  {overtaken : Bool}

/-- The story goes on when the window is taken out, and stays as it is otherwise. -/
private theorem Works.story {move : Move} {e : Effect} {used rest : List Task} {ns : List Notice}
    (w : Works m move e used rest) (ht : e.Tells m.hub move used ns)
    (h : Attends s n o m outputs overtaken) (ho : o.opens (.window n)) :
    Story s (.window n) o (take e rest).1 (outputs ++ e.outputs)
      (overtaken || overtakes s (.window n) (m, move)) := by
  have hafter : registryAfter (m, move) = e.hub.registry := by
    rw [registryAfter, w.step_eq]
    rfl
  rcases ht.change.window_cases h.tidy.registry h.issued with ⟨hin, hout, rfl⟩ | ⟨hkept, hns⟩
  · have hover : overtakes s (.window n) (m, move) =
        m.agenda.any (Task.tellsBefore s (.window n)) := by
      simp [overtakes, hafter, hin, hout]
    have hclosed : (Notice.closed (.window n) e.hub.registry.list).about (.window n) := by
      simp [Notice.about, Notice.closes]
    cases h.story with
    | gone c gone kind line => exact absurd hin gone
    | present here line =>
      rw [hover]
      exact .gone _ hout rfl
        (w.line_closed ht h.tidy.bus h.subscribed hclosed ho h.spread line)
  · have hover : overtakes s (.window n) (m, move) = false := by
      by_cases hin : .window n ∈ m.hub.registry.list
      · simp [overtakes, hafter, hkept.mpr hin]
      · simp [overtakes, hin]
    have hnone : ns.filter (Notice.about (.window n)) = [] :=
      List.filter_eq_nil_iff.mpr fun notice hm => Bool.eq_false_iff.mp (hns notice hm)
    obtain ⟨hold, hnew⟩ := w.line_eq ht h.tidy.bus h.subscribed (.window n) outputs
    rw [hnone, List.nil_append, ← hold] at hnew
    rw [hover, Bool.or_false]
    exact h.story.congr hkept hnew

private theorem attends_step (h : Attends s n o m outputs overtaken) (ho : o.opens (.window n))
    {move : Move} (hm : move ≠ .call (.unsubscribe s.id)) :
    Attends s n o (m.step move).1 (outputs ++ (m.step move).2)
      (overtaken || overtakes s (.window n) (m, move)) := by
  rcases m.step_cases move with hn | ⟨e, used, rest, w⟩
  · have hover : overtakes s (.window n) (m, move) = false := by
      simp [overtakes, registryAfter, hn]
    rw [hover, Bool.or_false, hn, List.append_nil]
    exact h
  · obtain ⟨ns, ht⟩ := w.tells
    have htidy := tidy_step h.tidy move
    rw [w.step_eq] at htidy ⊢
    refine ⟨htidy, Nat.lt_of_lt_of_le h.issued ht.change.nextWindow_le,
      w.bus_change.subscribed h.subscribed hm, ?_, w.story ht h ho⟩
    refine w.spread ht h.tidy.bus h.subscribed (fun notice hmem => ?_) h.spread
    exact ht.change.not_opens h.tidy.registry h.issued hmem

private theorem attends_run (h : Attends s n o m outputs overtaken) (ho : o.opens (.window n))
    {moves : List Move} (hm : .call (.unsubscribe s.id) ∉ moves) :
    Attends s n o (m.run moves).1 (outputs ++ (m.run moves).2)
      (overtaken || (m.trace moves).any (overtakes s (.window n))) := by
  induction moves generalizing m outputs overtaken with
  | nil =>
    rw [run, trace, List.any_nil, List.append_nil, Bool.or_false]
    exact h
  | cons move moves ih =>
    obtain ⟨hne, hm⟩ := not_or.mp (List.mem_cons.not.mp hm)
    rw [run_cons, trace, List.any_cons, ← List.append_assoc, ← Bool.or_assoc]
    exact ih (attends_step h ho (Ne.symm hne)) hm

/-- Those who are subscribed when a window is registered are to hear of it. -/
theorem attends_registered (h : Tidy m outputs) (hopen : m.isOpen) {handle : Handle}
    (runtime : Bool) (hadded : (m.hub.registry.registerWindow handle).added)
    (hs : s ∈ m.hub.bus.subscriptions) :
    let id := (m.hub.registry.registerWindow handle).id
    let next := m.step (.call (.registerWindow handle runtime))
    ∃ n o, id = .window n ∧ id ∉ m.hub.registry.list ∧ o.opens id ∧
      Attends s n o next.1 (outputs ++ next.2) false := by
  intro id next
  rcases m.hub.registry.registerWindow_cases handle with ⟨other, hx⟩ | ⟨r', hx, hr'⟩
  · rw [hx] at hadded
    cases hadded
  · have hid : id = .window m.hub.registry.nextWindow := congrArg Registry.Registration.id hx
    have htidy : Tidy next.1 (outputs ++ next.2) := tidy_step h _
    have hnew : id ∉ m.hub.registry.list := by
      rw [hid, Registry.mem_list_window]
      intro hm
      obtain ⟨w, hw, he⟩ := List.mem_map.mp hm
      exact h.registry.fresh hw he
    have hnext : next = _ := (Works.call (.registerWindow handle runtime) hopen).step_eq
    simp only [Hub.begin, Hub.registerWindow, hx, if_true] at hnext
    clear_value next
    subst hnext
    have hopens : (Notice.opened (.window m.hub.registry.nextWindow) r'.list).opens
        (.window m.hub.registry.nextWindow) := decide_eq_true rfl
    refine ⟨_, _, hid, hnew, hid ▸ hopens, htidy, hr' ▸ Nat.lt_succ_self _, hs, .announced ?_,
      .present (Registry.mem_list_window.mpr (by simp [take, hr'])) ?_⟩
    · have hfresh := h.agenda _ (Nat.le_refl _)
      refine (untold_cons_idle rfl).mpr ((untold_cons_idle rfl).mpr fun t ht notice hn => ?_)
      exact (Bool.or_eq_false_iff.mp (hfresh t ht notice hn)).1
    · have hline := h.line_eq_nil (Nat.le_refl _) s
      rw [line, List.filter_append] at hline
      obtain ⟨hpast, hlater⟩ := List.append_eq_nil_iff.mp hline
      rw [line, List.filter_append, heard_append, List.filter_append, hpast]
      exact (List.filter_cons_of_pos (Notice.about_of_opens hopens)).trans (congrArg _ hlater)

end

/-- What has been heard is the first part of the story, and all of it once nothing is to be done. -/
theorem Story.heard_prefix {s : Subscription} {id : PreviewId} {o : Notice} {m : Machine}
    {outputs : List Output} {overtaken : Bool} (h : Story s id o m outputs overtaken)
    (ho : o.kind = .opened) :
    let story := ((heard s outputs).filter (Notice.about id)).map Notice.kind
    (story <+: if overtaken then [.closed, .opened] else [.opened, .closed]) ∧
      (m.isIdle → story.length = if id ∈ m.hub.registry.list then 1 else 2) := by
  intro story
  have hpart : story <+: (line s id m outputs).map Notice.kind := by
    rw [line, List.filter_append]
    exact (List.prefix_append _ _).map _
  have hall (hidle : m.isIdle) : story.length = (line s id m outputs).length := by
    rw [line, isIdle_iff.mp hidle, List.length_map]
    simp [coming]
  cases h with
  | present here line =>
    rw [line] at hpart hall
    rw [List.map_singleton, ho] at hpart
    rw [if_pos here]
    exact ⟨hpart.trans ⟨[.closed], rfl⟩, hall⟩
  | gone c gone kind line =>
    rw [line] at hpart hall
    rw [if_neg gone]
    cases overtaken with
    | true =>
      rw [if_pos rfl, List.map_cons, List.map_singleton, kind, ho] at hpart
      exact ⟨hpart, hall⟩
    | false =>
      rw [if_neg Bool.false_ne_true, List.map_cons, List.map_singleton, kind, ho] at hpart
      exact ⟨hpart, hall⟩

/-- In every run, a subscription that was there when a window was registered and is not taken out
hears once that the window was opened and then, once it is gone, that it was closed. Only if the
window is taken out while a subscriber that comes before is being told that it was opened, the
closing is heard before the opening. -/
theorem connections_heard_in_order (options : Options) (own : Bool) (h : Hub)
    (hb : Hub.build options own = .ok h) (before after : List Move) (handle : Handle)
    (runtime : Bool) (s : Subscription) :
    let start : Machine := ⟨h, []⟩
    let m := (start.run before).1
    let register := Move.call (.registerWindow handle runtime)
    let last := start.run (before ++ register :: after)
    let id := (m.hub.registry.registerWindow handle).id
    let story := ((heard s last.2).filter (Notice.about id)).map Notice.kind
    m.isOpen → (m.hub.registry.registerWindow handle).added → s ∈ m.hub.bus.subscriptions →
      .call (.unsubscribe s.id) ∉ after →
      (story <+: if (m.trace (register :: after)).any (overtakes s id) then [.closed, .opened]
        else [.opened, .closed]) ∧
      (last.1.isIdle → story.length = if id ∈ last.1.hub.registry.list then 1 else 2) := by
  intro start m register last id story hopen hadded hs hstay
  have htidy : Tidy m (start.run before).2 := tidy_run hb before
  obtain ⟨n, o, hid, hnew, ho, hattends⟩ : ∃ n o, id = .window n ∧ id ∉ m.hub.registry.list ∧
      o.opens id ∧ Attends s n o (m.step register).1 ((start.run before).2 ++ (m.step register).2)
        false :=
    attends_registered htidy hopen runtime hadded hs
  have hlast : last = (((m.step register).1.run after).1,
      (start.run before).2 ++ (m.step register).2 ++ ((m.step register).1.run after).2) := by
    rw [List.append_assoc]
    exact run_append start before (register :: after)
  have hover : (m.trace (register :: after)).any (overtakes s id) =
      ((m.step register).1.trace after).any (overtakes s id) := by
    simp [trace, overtakes, hnew]
  have hstory : Story s id o last.1 last.2
      ((m.trace (register :: after)).any (overtakes s id)) := by
    have hrun := (attends_run hattends (hid ▸ ho) hstay).story
    rw [← hid, Bool.false_or] at hrun
    rw [hover, hlast]
    exact hrun
  have hkind : o.kind = .opened := by
    obtain ⟨ids, rfl⟩ := Notice.eq_opened_of_opens ho
    rfl
  exact hstory.heard_prefix hkind

/-- The first of two subscribers closes everything as soon as it hears of the window. -/
theorem connections_heard_in_order_nested :
    let start : Machine := ⟨Hub.new {} (.polling {}), []⟩
    let before : List Move := [.call (.subscribe 0), .proceed, .call (.subscribe 1), .proceed]
    let after : List Move :=
      [.proceed, .proceed, .call .closeAll] ++
        (List.replicate 12 [Move.proceed, .reply .done]).flatten
    let last := start.run (before ++ .call (.registerWindow ⟨"game"⟩ true) :: after)
    let story := fun s => ((heard s last.2).filter (Notice.about (.window 0))).map Notice.kind
    story ⟨0, 0⟩ = [.opened, .closed] ∧ story ⟨1, 1⟩ = [.closed, .opened] := by
  intro start before after last story
  let m := (start.run before).1
  let steps := m.trace (.call (.registerWindow ⟨"game"⟩ true) :: after)
  have hopen : m.isOpen := by decide +kernel
  have hadded : (m.hub.registry.registerWindow ⟨"game"⟩).added := by decide +kernel
  have hid : (m.hub.registry.registerWindow ⟨"game"⟩).id = .window 0 := by decide +kernel
  have hmem : ⟨0, 0⟩ ∈ m.hub.bus.subscriptions ∧ ⟨1, 1⟩ ∈ m.hub.bus.subscriptions := by
    decide +kernel
  have hstay : .call (.unsubscribe 0) ∉ after ∧ .call (.unsubscribe 1) ∉ after := by decide +kernel
  have hover : steps.any (overtakes ⟨0, 0⟩ (.window 0)) = false ∧
      steps.any (overtakes ⟨1, 1⟩ (.window 0)) = true := by
    decide +kernel
  have hidle : last.1.isIdle := by decide +kernel
  have hgone : .window 0 ∉ last.1.hub.registry.list := by decide +kernel
  have hlast : last = start.run (before ++ .call (.registerWindow ⟨"game"⟩ true) :: after) := rfl
  clear_value last after before
  have hheard (s : Subscription) :=
    connections_heard_in_order {} false (Hub.new {} (.polling {})) rfl before after ⟨"game"⟩ true s
      hopen hadded
  rw [← hlast, hid] at hheard
  obtain ⟨hfirst, hall⟩ := hheard ⟨0, 0⟩ hmem.1 hstay.1
  obtain ⟨hsecond, hall'⟩ := hheard ⟨1, 1⟩ hmem.2 hstay.2
  rw [hover.1] at hfirst
  rw [hover.2] at hsecond
  have htwo := hall hidle
  have htwo' := hall' hidle
  rw [if_neg hgone] at htwo htwo'
  exact ⟨hfirst.eq_of_length htwo, hsecond.eq_of_length htwo'⟩

/-- So it is not true that an opening is always heard first. -/
theorem closing_heard_before_opening :
    let start : Machine := ⟨Hub.new {} (.polling {}), []⟩
    let before : List Move := [.call (.subscribe 0), .proceed, .call (.subscribe 1), .proceed]
    let after : List Move :=
      [.proceed, .proceed, .call .closeAll] ++
        (List.replicate 12 [Move.proceed, .reply .done]).flatten
    let last := start.run (before ++ .call (.registerWindow ⟨"game"⟩ true) :: after)
    ⟨1, 1⟩ ∈ (start.run before).1.hub.bus.subscriptions ∧ .call (.unsubscribe 1) ∉ after ∧
      ((heard ⟨1, 1⟩ last.2).filter (Notice.about (.window 0))).map Notice.kind =
        [.closed, .opened] := by
  decide +kernel

end Machine

end PreviewHub
