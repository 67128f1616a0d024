import PreviewHub.Proofs.Hearing

/-! How an opening spreads. It is told to one subscriber after the other, in the order of their
subscriptions, and each of them may call back into the hub before the next one is called. While one
is being told, those that come after it wait, and nobody else does. -/

namespace PreviewHub

structure Queue (s : Subscription) (left : List Subscription) : Prop where
  rising : left.Pairwise (·.id < ·.id)
  joined : ∀ x ∈ left, x.id < s.id → s ∈ left

namespace Queue

variable {s x : Subscription} {left : List Subscription}

/-- Whoever comes after the first is still in the queue, and no one else. -/
private theorem mem_iff (h : Queue s (x :: left)) : s ∈ left ↔ x.id < s.id := by
  constructor
  · exact List.rel_of_pairwise_cons h.rising
  · intro hlt
    rcases List.mem_cons.mp (h.joined x List.mem_cons_self hlt) with rfl | hs
    · exact absurd hlt (Nat.lt_irrefl _)
    · exact hs

private theorem tail (h : Queue s (x :: left)) : Queue s left where
  rising := h.rising.of_cons
  joined _ hy hlt := h.mem_iff.mpr (Nat.lt_trans (List.rel_of_pairwise_cons h.rising hy) hlt)

private theorem nodup (h : Queue s left) : left.Nodup :=
  h.rising.imp fun hlt he => Nat.ne_of_lt hlt (congrArg Subscription.id he)

end Queue

private theorem Bus.Sound.queue {b : Bus} (hb : b.Sound) {s : Subscription}
    (hs : s ∈ b.subscriptions) :
    Queue s b.subscriptions :=
  ⟨hb.rising, fun _ _ _ => hs⟩

abbrev deliveries (left : List Subscription) (notice : Notice) : List Task :=
  left.map fun s => .deliver s notice

/-- How far the telling of the opening `o` of the preview `id` has come: it is next, some are still
to be told, or one is being told and the hub is at work for it. -/
inductive Spread (id : PreviewId) (o : Notice) (s : Subscription) : List Task → Prop where
  | announced {rest : List Task} (clear : Untold (Notice.opens id) rest) :
      Spread id o s (.emit o :: rest)
  | told {left : List Subscription} {rest : List Task} (queue : Queue s left)
      (clear : Untold (Notice.opens id) rest) : Spread id o s (deliveries left o ++ rest)
  | telling {front : List Task} {x : Subscription} {left : List Subscription} {rest : List Task}
      (queue : Queue s (x :: left)) (before : Untold (Notice.opens id) front)
      (clear : Untold (Notice.opens id) rest) :
      Spread id o s (front ++ .waiting (.notify x o) :: (deliveries left o ++ rest))

def Task.tellsBefore (s : Subscription) (id : PreviewId) : Task → Bool
  | .waiting (.notify x notice) => x.id < s.id && notice.opens id
  | _ => false

def Task.passes : Task → Bool
  | .emit _ => true
  | .deliver _ _ => true
  | _ => false

theorem Notice.about_of_opens {id : PreviewId} {notice : Notice} (h : notice.opens id) :
    notice.about id := by
  rw [about, h]
  rfl

private theorem Notice.isConnection_of_opens {id : PreviewId} {notice : Notice}
    (h : notice.opens id) :
    notice.isConnection := by
  obtain ⟨ids, rfl⟩ := eq_opened_of_opens h
  rfl

section
variable {id : PreviewId} {o : Notice} {s : Subscription}

private theorem Untold.any_tellsBefore {tasks : List Task} (h : Untold (Notice.opens id) tasks)
    (s : Subscription) : tasks.any (Task.tellsBefore s id) = false := by
  refine List.any_eq_false.mpr fun t ht hyes => ?_
  cases t with
  | waiting call =>
    cases call with
    | notify x notice =>
      have hopens := (Bool.and_eq_true_iff.mp hyes).2
      rw [h _ ht notice rfl] at hopens
      cases hopens
    | _ => cases hyes
  | _ => cases hyes

private theorem any_tellsBefore_deliveries (left : List Subscription) (notice : Notice) :
    (deliveries left notice).any (Task.tellsBefore s id) = false :=
  List.any_eq_false.mpr fun t ht => by
    obtain ⟨x, -, rfl⟩ := List.mem_map.mp ht
    exact Bool.false_ne_true

private theorem Spread.finished {rest : List Task} (queue : Queue s [])
    (clear : Untold (Notice.opens id) rest) : Spread id o s rest :=
  .told queue clear

private theorem Spread.called {x : Subscription} {left : List Subscription} {rest : List Task}
    (queue : Queue s (x :: left)) (clear : Untold (Notice.opens id) rest) :
    Spread id o s ([.waiting (.notify x o)] ++ (deliveries left o ++ rest)) :=
  .telling queue (List.forall_mem_nil _) clear

/-- What is begun by those who have the turn is done before the telling goes on. -/
private theorem Spread.interrupt {tasks new : List Task} (h : Spread id o s tasks)
    (hhead : ∀ t, tasks.head? = some t → t.passes = false)
    (hnew : Untold (Notice.opens id) new) : Spread id o s (new ++ tasks) := by
  cases h with
  | announced clear => cases hhead _ rfl
  | @told left rest queue clear =>
    cases left with
    | nil => exact .finished queue (untold_append.mpr ⟨hnew, clear⟩)
    | cons x left => cases hhead _ rfl
  | telling queue before clear =>
    rw [← List.append_assoc]
    exact .telling queue (untold_append.mpr ⟨hnew, before⟩) clear

/-- Unless a notice is to be passed on next, a subscriber still waits to hear of the opening just
when one that comes before it is being told. -/
theorem Spread.mem_coming_iff {tasks : List Task} (h : Spread id o s tasks) (ho : o.opens id)
    (hhead : ∀ t, tasks.head? = some t → t.passes = false) :
    o ∈ coming s tasks ↔ tasks.any (Task.tellsBefore s id) := by
  have absent {tasks : List Task} (hu : Untold (Notice.opens id) tasks) : o ∉ coming s tasks :=
    fun hm => by
      rw [hu.not_coming hm] at ho
      cases ho
  cases h with
  | announced clear => cases hhead _ rfl
  | @told left rest queue clear =>
    cases left with
    | nil => exact iff_of_false (absent clear) (by simp [clear.any_tellsBefore])
    | cons x left => cases hhead _ rfl
  | @telling front x left rest queue before clear =>
    have hline : coming s (front ++ .waiting (.notify x o) :: (deliveries left o ++ rest)) =
        coming s front ++ (coming s (deliveries left o) ++ coming s rest) := by
      rw [coming_append, ← coming_append s (deliveries left o)]
      rfl
    rw [hline, List.any_append, List.any_cons, List.any_append, before.any_tellsBefore,
      clear.any_tellsBefore, any_tellsBefore_deliveries, Task.tellsBefore, ho]
    simp only [List.mem_append, absent before, absent clear, false_or, or_false, Bool.false_or,
      Bool.or_false, Bool.and_true, decide_eq_true_eq]
    rw [← queue.mem_iff]
    constructor
    · intro hm
      by_contra hn
      rw [coming_deliveries_of_notMem hn] at hm
      cases hm
    · intro hs
      rw [coming_deliveries queue.tail.nodup hs]
      exact List.mem_cons_self

end

namespace Machine

section
variable {m : Machine} {move : Move} {e : Effect} {used rest : List Task} {ns : List Notice}
  {id : PreviewId} {o : Notice} {s : Subscription}

/-- Work uses the first task up, or it is the turn of those outside. -/
theorem Works.used_cases (w : Works m move e used rest) :
    used = [] ∧ m.isOpen ∨ ∃ t, used = [t] := by
  cases w with
  | call op h => exact Or.inl ⟨rfl, h⟩
  | reply call reply rest h => exact Or.inr ⟨_, rfl⟩
  | proceed task rest h => exact Or.inr ⟨_, rfl⟩
  | listen h => exact Or.inl ⟨rfl, isOpen_iff.mpr (Or.inl h)⟩
  | tick h => exact Or.inl ⟨rfl, isOpen_iff.mpr (Or.inl h)⟩
  | wake id h => exact Or.inl ⟨rfl, isOpen_iff.mpr (Or.inl h)⟩
  | elapse ms h => exact Or.inl ⟨rfl, isOpen_iff.mpr (Or.inl h)⟩

/-- Those who have the turn do not see a notice that is to be passed on next. -/
theorem passes_of_isOpen (h : m.isOpen) {t : Task} (ht : m.agenda.head? = some t) :
    t.passes = false := by
  rcases isOpen_iff.mp h with hn | ⟨call, rest, hc⟩
  · rw [hn] at ht
    cases ht
  · rw [hc] at ht
    cases ht
    rfl

/-- The telling goes on from one subscriber to the next, once all is done for the one that is being
told. -/
private theorem Works.spread_first {t : Task} (w : Works m move e [t] rest) (hb : m.hub.bus.Sound)
    (hs : s ∈ m.hub.bus.subscriptions) (h : Spread id o s m.agenda)
    (clears : Untold (Notice.opens id) [t] → Untold (Notice.opens id) e.tasks) :
    Spread id o s (e.tasks ++ rest) := by
  rw [w.agenda_eq] at h
  generalize htasks : [t] ++ rest = tasks at h
  cases h with
  | announced clear =>
    cases htasks
    cases w.speaks with
    | emit notice => exact .told (hb.queue hs) clear
    | aside bus idle tasks outputs => cases idle _ List.mem_cons_self
  | @told left rest' queue clear =>
    cases left with
    | nil =>
      subst htasks
      obtain ⟨hfirst, hrest⟩ := untold_append.mp clear
      exact .finished queue (untold_append.mpr ⟨clears hfirst, hrest⟩)
    | cons x left =>
      cases htasks
      cases w.speaks with
      | deliver s notice => exact .called queue clear
      | aside bus idle tasks outputs => cases idle _ List.mem_cons_self
  | @telling front x left rest' queue before clear =>
    cases front with
    | nil =>
      cases htasks
      cases w.speaks with
      | hold s notice => exact .called queue clear
      | back s notice reply mute => exact .told queue.tail clear
      | aside bus idle tasks outputs => cases idle _ List.mem_cons_self
    | cons first front =>
      obtain ⟨rfl, hrest⟩ : t = first ∧
          rest = front ++ .waiting (.notify x o) :: (deliveries left o ++ rest') :=
        List.cons.inj htasks
      obtain ⟨hfirst, hfront⟩ := untold_cons.mp before
      have hused : Untold (Notice.opens id) [t] := untold_cons.mpr ⟨hfirst, List.forall_mem_nil _⟩
      rw [hrest, ← List.append_assoc]
      exact .telling queue (untold_append.mpr ⟨clears hused, hfront⟩) clear

theorem Works.spread (w : Works m move e used rest) (ht : e.Tells m.hub move used ns)
    (hb : m.hub.bus.Sound) (hs : s ∈ m.hub.bus.subscriptions)
    (hn : ∀ notice ∈ ns, notice.opens id = false) (h : Spread id o s m.agenda) :
    Spread id o s (e.tasks ++ rest) := by
  have clears (hu : Untold (Notice.opens id) used) : Untold (Notice.opens id) e.tasks :=
    (w.untold ht (fun _ => Notice.isConnection_of_opens) hu hn).1
  rcases w.used_cases with ⟨rfl, hopen⟩ | ⟨t, rfl⟩
  · have hrest : m.agenda = rest := w.agenda_eq
    rw [← hrest]
    exact h.interrupt (fun t => passes_of_isOpen hopen) (clears (List.forall_mem_nil _))
  · exact w.spread_first hb hs h clears

end

end Machine

end PreviewHub
