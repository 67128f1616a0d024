import PreviewHub.Proofs.Subscriptions

/-! Emissions. Each calls the subscribers that are on the list when it begins, once for each
subscription and in the order of the list. Those that are called may change the list, panic or emit
in turn, and so on to any depth: the emission goes on where it was. -/

namespace PreviewHub.Bus

def Output.call? : Output → Option (Subscription × Notice)
  | .called s notice => some (s, notice)
  | _ => none

def called (outputs : List Output) : List (Subscription × Notice) :=
  outputs.filterMap Output.call?

def deliveries (notice : Notice) (subscriptions : List Subscription) : List Task :=
  subscriptions.map fun s => .deliver s notice

namespace Machine

/-- The number of emissions under way. One that begins while another is under way is over before
that one goes on, so whatever is called is called by the one that began last. -/
def depth (m : Machine) : Nat := m.agenda.count .finish

/-- The calls that are made with `depth` emissions under way, until fewer are. -/
def callsAt (depth : Nat) (m : Machine) : List Move → List (Subscription × Notice)
  | [] => []
  | move :: moves =>
    if m.depth < depth then []
    else
      (if m.depth = depth then called (m.step move).2 else []) ++
        (m.step move).1.callsAt depth moves

def isOver (depth : Nat) (m : Machine) : List Move → Bool
  | [] => m.depth < depth
  | move :: moves => m.depth < depth || (m.step move).1.isOver depth moves

/-- How a move can change what is left to do, and the calls that it makes: it may have to do with
something else, begin an emission, make the next call, end an emission or return from a call. -/
inductive Goes (m : Machine) : List Task → List (Subscription × Notice) → Prop where
  | idle : Goes m m.agenda []
  | begins (notice : Notice) (isOpen : m.isOpen) :
      Goes m (deliveries notice m.bus.subscriptions ++ .finish :: m.agenda) []
  | calls {s : Subscription} {notice : Notice} {rest : List Task}
      (agenda : m.agenda = .deliver s notice :: rest) :
      Goes m (.waiting s notice :: rest) [(s, notice)]
  | ends {rest : List Task} (agenda : m.agenda = .finish :: rest) : Goes m rest []
  | returns {s : Subscription} {notice : Notice} {rest : List Task}
      (agenda : m.agenda = .waiting s notice :: rest) : Goes m rest []

private theorem step_goes (m : Machine) (move : Move) :
    Goes m (m.step move).1.agenda (called (m.step move).2) := by
  cases move with
  | subscribe listener =>
    simp only [step]
    split <;> exact .idle
  | unsubscribe id =>
    simp only [step]
    split
    · unfold unsubscribeRemarks
      split <;> exact .idle
    · exact .idle
  | emit notice =>
    simp only [step]
    split
    · exact .begins notice ‹_›
    · exact .idle
  | letGo =>
    simp only [step]
    split <;> exact .idle
  | reply panicked =>
    simp only [step, reply]
    split
    · rename_i s notice rest hm
      cases panicked <;> exact .returns hm
    · exact .idle
  | proceed =>
    simp only [step, proceed]
    split
    · exact .calls ‹_›
    · exact .ends ‹_›
    · exact .idle

/-- Work of emissions that are under way above something else: the last of it ends the first of
them. -/
def Stacked (tasks : List Task) : Prop := tasks = [] ∨ ∃ above, tasks = above ++ [.finish]

section
variable {tasks : List Task} {t : Task}

private theorem Stacked.tail (h : Stacked (t :: tasks)) : Stacked tasks := by
  obtain h | ⟨above, h⟩ := h
  · cases h
  · cases above with
    | nil => exact .inl (List.cons.inj h).2
    | cons first above => exact .inr ⟨above, (List.cons.inj h).2⟩

private theorem Stacked.append (h : Stacked tasks) (above : List Task) :
    Stacked (above ++ .finish :: tasks) := by
  obtain rfl | ⟨lower, rfl⟩ := h
  · exact .inr ⟨above, rfl⟩
  · exact .inr ⟨above ++ .finish :: lower, by rw [List.append_assoc]; rfl⟩

/-- The task on top may be replaced, unless it is all there is. -/
private theorem Stacked.replace (h : Stacked (t :: tasks)) (ht : t ≠ .finish) (other : Task) :
    Stacked (other :: tasks) := by
  obtain h | ⟨above, h⟩ := h
  · cases h
  · cases above with
    | nil => exact absurd (List.cons.inj h).1 ht
    | cons first above =>
      refine .inr ⟨other :: above, ?_⟩
      rw [(List.cons.inj h).2]
      rfl

private theorem Stacked.count_pos (h : Stacked tasks) (hne : tasks ≠ []) :
    0 < tasks.count .finish := by
  obtain h | ⟨above, rfl⟩ := h
  · exact absurd h hne
  · exact List.count_pos_iff.mpr (List.mem_append_right _ List.mem_cons_self)

end

/-- Where an emission stands that has still to call `left` and is followed by `base`: it is at work
itself, or it waits for a call, and others may be under way within this call. -/
inductive Spreads (base : List Task) (notice : Notice) (left : List Subscription)
    (agenda : List Task) : Prop where
  | level (tasks : agenda = deliveries notice left ++ .finish :: base)
  | within (s : Subscription) (nested : List Task) (stacked : Stacked nested)
      (tasks : agenda = nested ++ .waiting s notice :: (deliveries notice left ++ .finish :: base))

section
variable {m : Machine} {base : List Task} {notice : Notice} {left : List Subscription}

private theorem isOpen_level (hm : m.agenda = deliveries notice left ++ .finish :: base) :
    m.isOpen = false := by
  unfold isOpen
  rw [hm]
  cases left <;> rfl

private theorem depth_level (hm : m.agenda = deliveries notice left ++ .finish :: base) :
    m.depth = base.count .finish + 1 := by
  have hnone : (deliveries notice left).count .finish = 0 := by
    refine List.count_eq_zero.mpr fun hf => ?_
    obtain ⟨s, -, hs⟩ := List.mem_map.mp hf
    cases hs
  rw [depth, hm, List.count_append, hnone, List.count_cons_self, Nat.zero_add]

/-- An emission makes its next call, something else happens, or it is over. -/
private theorem Spreads.goes {agenda : List Task} {calls : List (Subscription × Notice)}
    (hs : Spreads base notice left m.agenda) (hg : Goes m agenda calls) :
    (∃ s later, left = s :: later ∧ m.depth = base.count .finish + 1 ∧ calls = [(s, notice)] ∧
      Spreads base notice later agenda) ∨
    ((m.depth = base.count .finish + 1 → calls = []) ∧ Spreads base notice left agenda) ∨
    (left = [] ∧ calls = [] ∧ agenda = base) := by
  cases hs with
  | level tasks =>
    have hdepth := depth_level tasks
    cases hg with
    | idle => exact .inr (.inl ⟨fun _ => rfl, .level tasks⟩)
    | begins other isOpen =>
      rw [isOpen_level tasks] at isOpen
      cases isOpen
    | calls hm =>
      rw [tasks] at hm
      cases left with
      | nil => cases hm
      | cons s later =>
        cases hm
        exact .inl ⟨_, later, rfl, hdepth, rfl, .within _ [] (.inl rfl) rfl⟩
    | ends hm =>
      rw [tasks] at hm
      cases left with
      | nil =>
        cases hm
        exact .inr (.inr ⟨rfl, rfl, rfl⟩)
      | cons s later => cases hm
    | returns hm =>
      rw [tasks] at hm
      cases left <;> cases hm
  | within s nested stacked tasks =>
    refine .inr (.inl ?_)
    cases nested with
    | nil =>
      cases hg with
      | idle => exact ⟨fun _ => rfl, .within s [] stacked tasks⟩
      | begins other isOpen =>
        refine ⟨fun _ => rfl,
          .within s (deliveries other m.bus.subscriptions ++ [.finish]) (.inr ⟨_, rfl⟩) ?_⟩
        rw [tasks, List.append_assoc]
        rfl
      | calls hm =>
        rw [tasks] at hm
        cases hm
      | ends hm =>
        rw [tasks] at hm
        cases hm
      | returns hm =>
        rw [tasks] at hm
        cases hm
        exact ⟨fun _ => rfl, .level rfl⟩
    | cons t nested =>
      have hdeep : m.depth ≠ base.count .finish + 1 := by
        have hpos := stacked.count_pos (List.cons_ne_nil t nested)
        have hbelow : (Task.waiting s notice :: (deliveries notice left ++ .finish :: base)).count
            .finish = base.count .finish + 1 := by
          rw [List.count_cons_of_ne Task.noConfusion]
          exact depth_level (m := { agenda := _ }) rfl
        rw [depth, tasks, List.count_append, hbelow]
        omega
      refine ⟨fun h => absurd h hdeep, ?_⟩
      cases hg with
      | idle => exact .within s _ stacked tasks
      | begins other isOpen =>
        refine .within s _ (stacked.append (deliveries other m.bus.subscriptions)) ?_
        rw [tasks, List.append_assoc]
        rfl
      | calls hm =>
        rw [tasks] at hm
        cases hm
        exact .within s _ (stacked.replace Task.noConfusion _) rfl
      | ends hm =>
        rw [tasks] at hm
        cases hm
        exact .within s nested stacked.tail rfl
      | returns hm =>
        rw [tasks] at hm
        cases hm
        exact .within s nested stacked.tail rfl

private theorem Spreads.depth_le {agenda : List Task} (h : Spreads base notice left agenda) :
    base.count .finish + 1 ≤ agenda.count .finish := by
  cases h with
  | level tasks =>
    rw [tasks, List.count_append, List.count_cons_self]
    exact Nat.le_add_left _ _
  | within s nested stacked tasks =>
    rw [tasks, List.count_append, List.count_cons_of_ne Task.noConfusion, List.count_append,
      List.count_cons_self, ← Nat.add_assoc]
    exact Nat.le_add_left _ _

private theorem callsAt_over {depth : Nat} (h : m.depth < depth) (moves : List Move) :
    m.callsAt depth moves = [] := by
  cases moves with
  | nil => rfl
  | cons move moves => exact if_pos h

/-- Whatever happens, an emission calls those that it has still to call, one after the other, and
when it is over it has called them all. -/
theorem Spreads.calls (hs : Spreads base notice left m.agenda) (moves : List Move) :
    ∃ rest, left.map (·, notice) = m.callsAt (base.count .finish + 1) moves ++ rest ∧
      (m.isOver (base.count .finish + 1) moves → rest = []) := by
  induction moves generalizing m left with
  | nil =>
    refine ⟨left.map (·, notice), rfl, fun hover => ?_⟩
    exact absurd (of_decide_eq_true hover) (Nat.not_lt.mpr hs.depth_le)
  | cons move moves ih =>
    have hunder : ¬ m.depth < base.count .finish + 1 := Nat.not_lt.mpr hs.depth_le
    have hover : m.isOver (base.count .finish + 1) (move :: moves) =
        (m.step move).1.isOver (base.count .finish + 1) moves := by
      rw [isOver, decide_eq_false hunder, Bool.false_or]
    rw [callsAt, if_neg hunder, hover]
    rcases hs.goes (m.step_goes move) with
      ⟨s, later, rfl, hdepth, hcalls, hnext⟩ | ⟨hsilent, hnext⟩ | ⟨rfl, hcalls, hbase⟩
    · obtain ⟨rest, heq, hrest⟩ := ih hnext
      refine ⟨rest, ?_, hrest⟩
      rw [if_pos hdepth, hcalls, List.map_cons, heq]
      rfl
    · obtain ⟨rest, heq, hrest⟩ := ih hnext
      refine ⟨rest, ?_, hrest⟩
      rw [heq, ite_eq_right_iff.mpr hsilent]
      rfl
    · have hdepth : (m.step move).1.depth < base.count .finish + 1 := by
        rw [depth, hbase]
        exact Nat.lt_succ_self _
      refine ⟨[], ?_, fun _ => rfl⟩
      rw [hcalls, ite_self, callsAt_over hdepth]
      rfl

private theorem isOver_of_run {depth : Nat} (moves : List Move)
    (h : (m.run moves).1.depth < depth) :
    m.isOver depth moves := by
  induction moves generalizing m with
  | nil => exact decide_eq_true h
  | cons move moves ih => exact Bool.or_eq_true_iff.mpr (.inr (ih h))

theorem run_append (m : Machine) (first second : List Move) :
    m.run (first ++ second) =
      (((m.run first).1.run second).1, (m.run first).2 ++ ((m.run first).1.run second).2) := by
  induction first generalizing m with
  | nil => rfl
  | cons move first ih => rw [List.cons_append, run_cons, ih, run_cons, List.append_assoc]

/-- If all that are called return, everything comes to an end. -/
theorem exists_completion (m : Machine) :
    ∃ moves : List Move, (∀ move ∈ moves, move = .proceed ∨ move = .reply false) ∧
      (m.run moves).1.agenda = [] := by
  obtain ⟨bus, agenda, owned⟩ := m
  induction agenda with
  | nil => exact ⟨[], List.forall_mem_nil _, rfl⟩
  | cons t agenda ih =>
    obtain ⟨moves, hmoves, hend⟩ := ih
    cases t with
    | deliver s notice =>
      refine ⟨.proceed :: .reply false :: moves, ?_, hend⟩
      exact List.forall_mem_cons.mpr ⟨.inl rfl, List.forall_mem_cons.mpr ⟨.inr rfl, hmoves⟩⟩
    | waiting s notice =>
      exact ⟨.reply false :: moves, List.forall_mem_cons.mpr ⟨.inr rfl, hmoves⟩, hend⟩
    | finish => exact ⟨.proceed :: moves, List.forall_mem_cons.mpr ⟨.inl rfl, hmoves⟩, hend⟩

/-- Wherever an emission begins, also within calls of others: with the subscriptions that are on the
list at this moment it makes its calls, in their order and one for each, also if a listener has
several. Whatever those that are called do, they panic, subscribe, end subscriptions or emit: at
every moment the calls made so far are the first of these, when the emission is over they are all of
these, and it comes to its end if those that are called return. -/
theorem emission_calls_snapshot (before : List Move) (notice : Notice) :
    let m := (run {} before).1
    let list := m.bus.subscriptions
    let began := (m.step (.emit notice)).1
    m.isOpen → (list.Nodup ∧ began.bus = m.bus ∧ began.depth = m.depth + 1) ∧
      ∀ during,
        let calls := began.callsAt (m.depth + 1) during
        calls.IsPrefix (list.map (·, notice)) ∧
        (began.isOver (m.depth + 1) during → calls = list.map (·, notice) ∧
          ∀ s, calls.count (s, notice) = if s ∈ list then 1 else 0) ∧
        ∃ returning : List Move, (∀ move ∈ returning, move = .proceed ∨ move = .reply false) ∧
          began.isOver (m.depth + 1) (during ++ returning) := by
  intro m list began hopen
  have hnodup : list.Nodup := (sound_run sound_new before).nodup
  have hbegan : began = { m with agenda := deliveries notice list ++ .finish :: m.agenda } :=
    congrArg Prod.fst (if_pos hopen)
  have hspreads : Spreads m.agenda notice list began.agenda := .level (by rw [hbegan])
  refine ⟨⟨hnodup, by rw [hbegan], depth_level (by rw [hbegan])⟩, fun during => ?_⟩
  intro calls
  obtain ⟨rest, hcalls, hrest⟩ := hspreads.calls during
  refine ⟨⟨rest, hcalls.symm⟩, fun hover => ?_, ?_⟩
  · have hall : calls = list.map (·, notice) := by
      rw [hcalls, hrest hover, List.append_nil]
      rfl
    have honce : (list.map (·, notice)).Nodup :=
      List.pairwise_map.mpr (hnodup.imp fun hne he => hne (congrArg Prod.fst he))
    refine ⟨hall, fun s => ?_⟩
    have hmem : (s, notice) ∈ list.map (·, notice) ↔ s ∈ list := by simp
    rw [hall, honce.count]
    simp only [hmem]
  · obtain ⟨returning, hreturning, hend⟩ := (began.run during).1.exists_completion
    refine ⟨returning, hreturning, isOver_of_run _ ?_⟩
    rw [run_append, depth, hend]
    exact Nat.succ_pos _

/-- One listener has the first two of three subscriptions. On its first call it ends both,
subscribes another listener, emits in turn and panics; the second call is made nevertheless. -/
theorem emission_calls_snapshot_nested :
    let before : List Move := [.subscribe 7, .subscribe 7, .subscribe 9]
    let reaction : List Move := [.proceed, .unsubscribe 1, .unsubscribe 0, .subscribe 5]
    let within : List Move := [.proceed, .reply false, .proceed, .reply true, .proceed]
    let later : List Move := [.reply true, .proceed, .reply false, .proceed, .reply false, .proceed]
    let outer := ((run {} before).1.step (.emit .stateChanged)).1
    let inner := ((run {} (before ++ .emit .stateChanged :: reaction)).1.step
      (.emit (.error .closing))).1
    outer.callsAt 1 (reaction ++ .emit (.error .closing) :: (within ++ later)) =
        [(⟨0, 7⟩, .stateChanged), (⟨1, 7⟩, .stateChanged), (⟨2, 9⟩, .stateChanged)] ∧
      inner.callsAt 2 (within ++ later) =
        [(⟨2, 9⟩, .error .closing), (⟨3, 5⟩, .error .closing)] := by
  intro before reaction within later outer inner
  constructor
  · exact (((emission_calls_snapshot before .stateChanged (by decide)).2 _).2.1 (by decide)).1
  · exact (((emission_calls_snapshot (before ++ .emit .stateChanged :: reaction) (.error .closing)
      (by decide)).2 _).2.1 (by decide)).1

end

end Machine

end PreviewHub.Bus
