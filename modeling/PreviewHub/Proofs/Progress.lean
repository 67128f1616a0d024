import Mathlib.Logic.Hydra
import PreviewHub.Proofs.Polling
import PreviewHub.Proofs.RequestOutcome

/-! Requests do not wait for ever. What a hub has to do comes to an end when its calls return, and
then time can pass until a deadline, whatever else comes due on the way. -/

namespace PreviewHub

namespace Task

/-- How deep the tasks are nested that a task leads to. -/
def depth : Task → Nat
  | .answer _ => 0
  | .rejectRequests => 0
  | .deliver _ _ => 1
  | .startWatcher _ => 1
  | .stopWatcher => 1
  | .awaitReply _ _ _ _ => 1
  | .emit _ => 2
  | .restartWatcher => 2
  | .waiting (.post _ _ _ _) => 3
  | .waiting (.probe _ _) => 3
  | .waiting _ => 0
  | .post _ _ _ => 4
  | .probe _ _ => 4
  | .closeWindow _ => 3
  | .closeFrame => 3
  | .stopIdleWatcher => 3
  | .closeConnections => 4

inductive Descends : List Task → List Task → Prop where
  | intro {t : Task} {tasks : List Task} (rest : List Task) (h : ∀ t' ∈ tasks, t'.depth < t.depth) :
      Descends (tasks ++ rest) (t :: rest)

theorem Descends.length_le {later earlier : List Task} (h : Descends later earlier) :
    earlier.length ≤ later.length + 1 := by
  cases h with
  | intro rest h =>
    rw [List.length_append, List.length_cons]
    omega

/-- However many tasks one gives way to, there is an end to it, as with the heads of a hydra. -/
theorem wellFounded_descends : WellFounded Descends := by
  have hcut : WellFounded (Relation.CutExpand fun a b : Nat => a < b) := Nat.lt_wfRel.wf.cutExpand
  refine Subrelation.wf (fun h => ?_)
    (InvImage.wf (fun tasks : List Task => (tasks.map depth : Multiset Nat)) hcut)
  cases h with
  | @intro t tasks rest h =>
    refine ⟨tasks.map depth, t.depth, fun d hd => ?_, ?_⟩
    · obtain ⟨t', ht', rfl⟩ := List.mem_map.mp (Multiset.mem_coe.mp hd)
      exact h t' ht'
    · have hperm : ((tasks ++ rest).map depth ++ [t.depth]).Perm
          ((t :: rest).map depth ++ tasks.map depth) := by
        rw [List.map_append]
        exact (List.perm_append_singleton _ _).trans (.cons _ List.perm_append_comm)
      exact Multiset.coe_eq_coe.mpr hperm

end Task

namespace Hub

private theorem depth_perform (h : Hub) {task : Task} (hw : ∀ call, task ≠ .waiting call) :
    ∀ t ∈ (h.perform task).tasks, t.depth < task.depth := by
  cases task with
  | emit notice => simp [perform, Task.depth]
  | deliver subscription notice => simp [perform, callOut, Task.depth]
  | post id handle data =>
    simp only [perform]
    split <;> simp [callOut, postFailed, Task.depth]
  | probe id handle => simp [perform, callOut, Task.depth]
  | startWatcher runtime =>
    simp only [perform, startWatcher]
    split <;> simp [callOut, Task.depth]
  | stopWatcher =>
    simp only [perform, stopWatcher]
    split <;> simp [callOut, Task.depth]
  | closeConnections =>
    intro t ht
    rcases List.mem_append.mp ht with ht | ht
    · obtain ⟨w, -, rfl⟩ := List.mem_map.mp ht
      exact Nat.lt_succ_self 3
    · rcases List.mem_pair.mp ht with rfl | rfl
      · exact Nat.lt_succ_self 3
      · exact Nat.zero_lt_succ 3
  | closeWindow id =>
    simp only [perform]
    split <;> simp [callOut, Task.depth]
  | closeFrame =>
    simp only [perform]
    split <;> simp [Task.depth]
  | rejectRequests => simp [perform]
  | stopIdleWatcher =>
    simp only [perform]
    split <;> simp [Task.depth]
  | restartWatcher =>
    simp only [perform]
    split <;> simp [Task.depth]
  | awaitReply id timeout targets runtime =>
    simp only [perform, awaitReply]
    split
    · split <;> simp [Task.depth]
    · simp [Task.depth]
  | waiting call => exact absurd rfl (hw call)
  | answer answer => simp [perform]

private theorem depth_resume (h : Hub) (call : Call) (reply : Reply) :
    ∀ t ∈ (h.resume call reply).tasks, t.depth < (Task.waiting call).depth := by
  cases call with
  | post id handle data origin => cases reply <;> simp [resume, postFailed, Task.depth]
  | probe id handle =>
    cases reply with
    | closed =>
      simp only [resume]
      split <;> simp [Task.depth]
    | _ => exact List.forall_mem_nil _
  | _ => cases reply <;> exact List.forall_mem_nil _

end Hub

def Move.goesOn : Move → Bool
  | .proceed => true
  | .reply .done => true
  | _ => false

namespace Machine

/-- What is to be done next leads to less, whatever a call gives. -/
theorem step_descends {m : Machine} (hm : m.agenda ≠ []) :
    (∃ call, m.call? = some call ∧
      ∀ reply, Task.Descends (m.step (.reply reply)).1.agenda m.agenda) ∨
    m.call? = none ∧ Task.Descends (m.step .proceed).1.agenda m.agenda := by
  obtain ⟨t, rest, hagenda⟩ := List.exists_cons_of_ne_nil hm
  by_cases hw : ∃ call, t = .waiting call
  · obtain ⟨call, rfl⟩ := hw
    refine .inl ⟨call, by simp only [call?, hagenda], fun reply => ?_⟩
    rw [(Works.reply call reply rest hagenda).step_eq, hagenda]
    exact .intro rest (m.hub.depth_resume call reply)
  · refine .inr ⟨?_, ?_⟩
    · rw [call?, hagenda]
      cases t with
      | waiting call => exact absurd ⟨call, rfl⟩ hw
      | _ => rfl
    · rw [(Works.proceed t rest hagenda).step_eq, hagenda]
      exact .intro rest (m.hub.depth_perform fun call hc => hw ⟨call, hc⟩)

/-- Whatever there is to do comes to an end once all calls return. -/
theorem exists_idle (m : Machine) :
    ∃ moves : List Move, moves.all Move.goesOn ∧ (m.run moves).1.isIdle := by
  induction hagenda : m.agenda using Task.wellFounded_descends.induction generalizing m with
  | _ agenda ih =>
    subst hagenda
    by_cases hm : m.agenda = []
    · exact ⟨[], rfl, isIdle_iff.mpr hm⟩
    · obtain ⟨move, hmove, hless⟩ : ∃ move : Move, move.goesOn ∧
          Task.Descends (m.step move).1.agenda m.agenda := by
        rcases step_descends hm with ⟨call, -, hless⟩ | ⟨-, hless⟩
        · exact ⟨_, rfl, hless .done⟩
        · exact ⟨_, rfl, hless⟩
      obtain ⟨moves, hmoves, hidle⟩ := ih _ hless (m.step move).1 rfl
      exact ⟨move :: moves, by rw [List.all_cons, hmove, hmoves]; rfl, hidle⟩

end Machine

def Move.isPrompt : Move → Bool
  | .call _ => false
  | .elapse _ => false
  | _ => true

private theorem Move.isPrompt_of_goesOn {move : Move} (h : move.goesOn) : move.isPrompt := by
  cases move <;> first | rfl | cases h

private theorem Hub.elapse_cases (h : Hub) (ms : Nat) :
    h.elapse ms = ⟨h, [], []⟩ ∨
      (∀ due ∈ h.dueInstants, h.clock + ms ≤ due) ∧
        h.elapse ms = ⟨{ h with clock := h.clock + ms }, [], []⟩ := by
  unfold elapse
  split
  · rename_i hdue
    exact Or.inr ⟨fun due hm => of_decide_eq_true (List.all_eq_true.mp hdue due hm), rfl⟩
  · exact Or.inl rfl

private theorem Watcher.DueFrom.le_due {w : Watcher} {instant due : Nat} (h : w.DueFrom instant)
    (hd : w.due? = some due) : instant ≤ due := by
  cases w with
  | external running => cases hd
  | polling poller => exact h.2 due hd

private theorem Watcher.DueFrom.of_due? {w : Watcher} {instant instant' : Nat}
    (h : w.DueFrom instant)
    (hd : ∀ due, w.due? = some due → instant' ≤ due) : w.DueFrom instant' := by
  cases w with
  | external running => trivial
  | polling poller => exact ⟨h.1, hd⟩

namespace Machine

/-- Without time, the polling does not come due again. -/
theorem prompt_run {m : Machine} {moves : List Move} (hm : moves.all Move.isPrompt) :
    (m.run moves).1.hub.clock = m.hub.clock ∧ ∀ instant ≤ m.hub.clock + 1,
      m.hub.watcher.DueFrom instant → (m.run moves).1.hub.watcher.DueFrom instant := by
  induction moves generalizing m with
  | nil => exact ⟨rfl, fun _ _ => id⟩
  | cons move moves ih =>
    obtain ⟨hmove, hmoves⟩ := Bool.and_eq_true_iff.mp hm
    have key : (m.step move).1.hub.clock = m.hub.clock ∧ ∀ instant ≤ m.hub.clock + 1,
        m.hub.watcher.DueFrom instant → (m.step move).1.hub.watcher.DueFrom instant := by
      rcases m.step_cases move with hn | ⟨e, used, rest, w⟩
      · rw [hn]
        exact ⟨rfl, fun _ _ => id⟩
      · rw [w.step_eq]
        refine ⟨w.clock_eq ?_, fun _ hle hd => w.minds.dueFrom hd hle⟩
        rintro ms rfl
        cases hmove
    obtain ⟨hclock, hdue⟩ := ih (m := (m.step move).1) hmoves
    refine ⟨hclock.trans key.1, fun instant hle hd => ?_⟩
    exact hdue instant (key.1.symm ▸ hle) (key.2 instant hle hd)

def Punctual (m : Machine) : Prop := m.hub.watcher.DueFrom m.hub.clock

private theorem punctual_new {options : Options} {own : Bool} {h : Hub}
    (hb : Hub.build options own = .ok h) : Punctual ⟨h, []⟩ := by
  obtain ⟨rfl, hpos⟩ := Hub.build_ok hb
  cases own with
  | true => trivial
  | false => exact ⟨hpos rfl, nofun⟩

private theorem punctual_step {m : Machine} (hm : Punctual m) (move : Move) :
    Punctual (m.step move).1 := by
  rcases m.step_cases move with hn | ⟨e, used, rest, w⟩
  · rw [hn]
    exact hm
  · rw [w.step_eq]
    show e.hub.watcher.DueFrom e.hub.clock
    by_cases hmove : ∃ ms, move = .elapse ms
    · obtain ⟨ms, rfl⟩ := hmove
      cases w
      rcases m.hub.elapse_cases ms with he | ⟨hdue, he⟩
      · rw [he]
        exact hm
      · rw [he]
        refine hm.of_due? fun due hd => hdue due (List.mem_append_left _ ?_)
        exact Option.mem_toList.mpr hd
    · rw [w.clock_eq fun ms he => hmove ⟨ms, he⟩]
      exact w.minds.dueFrom hm (Nat.le_succ _)

private theorem punctual_run {m : Machine} (hm : Punctual m) (moves : List Move) :
    Punctual (m.run moves).1 :=
  run_keeps punctual_step hm moves

/-- No operation is begun, so the request ends or is still held. -/
theorem holds_run {m : Machine} {r : Request} (hm : Orderly m) (hr : m.Holds r) {moves : List Move}
    (hc : ∀ op, .call op ∉ moves) :
    (∃ s ∈ m.trace moves, (ending? r s).isSome) ∨ (m.run moves).1.Holds r := by
  induction moves generalizing m with
  | nil => exact Or.inr hr
  | cons move moves ih =>
    have hd : ¬ Drops r (m, move) := fun h => hc _ (List.mem_cons.mpr (Or.inl h.1.symm))
    rcases request_step hm hr hd with hk | ⟨outcome, he⟩
    · rcases ih (orderly_step hm move) hk.held fun op h => hc op (List.mem_cons_of_mem _ h) with
        ⟨s, hs, hend⟩ | hheld
      · exact Or.inl ⟨s, List.mem_cons_of_mem _ hs, hend⟩
      · exact Or.inr hheld
    · exact Or.inl ⟨_, List.mem_cons_self, by rw [he.ending]; rfl⟩

/-- A request that is looked after and still held is not due. -/
private theorem wake_step {m : Machine} (hm : Orderly m) (hidle : m.agenda = []) (id : RequestId) :
    (m.step (.wake id)).1.agenda = [] ∧
      (m.step (.wake id)).1.hub.requests ⊆ m.hub.requests ∧
      ∀ q ∈ (m.step (.wake id)).1.hub.requests, q.id = id → m.hub.clock < q.deadline := by
  rw [(Works.wake id hidle).step_eq]
  show (m.hub.wake id).tasks ++ [] = [] ∧ (m.hub.wake id).hub.requests ⊆ m.hub.requests ∧
    ∀ q ∈ (m.hub.wake id).hub.requests, q.id = id → m.hub.clock < q.deadline
  unfold Hub.wake
  split
  · rename_i hf
    refine ⟨rfl, List.Subset.refl _, fun q hq he => ?_⟩
    exact absurd (decide_eq_true he) (List.find?_eq_none.mp hf q hq)
  · rename_i r hf
    have hr : r ∈ m.inFlight := List.mem_append_right _ (List.mem_of_find?_eq_some hf)
    have hid : r.id = id := by simpa using List.find?_some hf
    rcases Hub.conclude_cases hm.sound (hm.alive r hr) with ⟨o, p, rs, hc, -⟩ | ⟨hc, -, hlt⟩
    · rw [hc]
      refine ⟨rfl, List.filter_sublist.subset, fun q hq he => ?_⟩
      exact absurd he (of_decide_eq_true (List.mem_filter.mp hq).2)
    · rw [hc]
      refine ⟨rfl, List.Subset.refl _, fun q hq he => ?_⟩
      obtain rfl := hm.eq_of_id (List.mem_append_right _ hq) hr (he.trans hid.symm)
      exact hlt

/-- Once all requests were looked after, none that is held is due. -/
theorem wake_run {m : Machine} (hm : Orderly m) (hidle : m.agenda = []) (ids : List RequestId) :
    (m.run (ids.map .wake)).1.agenda = [] ∧
      (m.run (ids.map .wake)).1.hub.requests ⊆ m.hub.requests ∧
      ∀ q ∈ (m.run (ids.map .wake)).1.hub.requests, q.id ∈ ids → m.hub.clock < q.deadline := by
  induction ids generalizing m with
  | nil => exact ⟨hidle, List.Subset.refl _, fun _ _ h => absurd h List.not_mem_nil⟩
  | cons id ids ih =>
    obtain ⟨hidle', hsub', hlt'⟩ := wake_step hm hidle id
    obtain ⟨hidle'', hsub'', hlt''⟩ := ih (orderly_step hm (.wake id)) hidle'
    have hclock : (m.step (.wake id)).1.hub.clock = m.hub.clock := by
      rw [(Works.wake id hidle).step_eq]
      exact (Works.wake id hidle).clock_eq nofun
    refine ⟨hidle'', fun q hq => hsub' (hsub'' hq), fun q hq hmem => ?_⟩
    rcases List.mem_cons.mp hmem with he | hmem
    · exact hlt' q (hsub'' hq) he
    · exact hclock ▸ hlt'' q hq hmem

def Leads (m m' : Machine) : Prop :=
  ∃ moves : List Move, moves.all Move.isPrompt ∧ (m.run moves).1 = m'

section
variable {m m' m'' : Machine}

private theorem Leads.trans (h : Leads m m') (h' : Leads m' m'') : Leads m m'' := by
  obtain ⟨moves, hm, rfl⟩ := h
  obtain ⟨moves', hm', rfl⟩ := h'
  exact ⟨moves ++ moves', by rw [List.all_append, hm, hm']; rfl, by rw [run_append]⟩

private theorem Leads.orderly (h : Leads m m') (hm : Orderly m) : Orderly m' := by
  obtain ⟨moves, -, rfl⟩ := h
  exact orderly_run hm moves

private theorem Leads.punctual (h : Leads m m') (hp : Punctual m) : Punctual m' := by
  obtain ⟨moves, -, rfl⟩ := h
  exact punctual_run hp moves

private theorem Leads.clock_eq (h : Leads m m') : m'.hub.clock = m.hub.clock := by
  obtain ⟨moves, hmoves, rfl⟩ := h
  exact (prompt_run hmoves).1

private theorem Leads.dueFrom (h : Leads m m') {instant : Nat} (hle : instant ≤ m.hub.clock + 1)
    (hd : m.hub.watcher.DueFrom instant) : m'.hub.watcher.DueFrom instant := by
  obtain ⟨moves, hmoves, rfl⟩ := h
  exact (prompt_run hmoves).2 instant hle hd

private theorem leads_idle (m : Machine) : ∃ m', Leads m m' ∧ m'.agenda = [] := by
  obtain ⟨moves, hmoves, hidle⟩ := m.exists_idle
  refine ⟨_, ⟨moves, List.all_eq_true.mpr fun move hmem => ?_, rfl⟩, isIdle_iff.mp hidle⟩
  exact Move.isPrompt_of_goesOn (List.all_eq_true.mp hmoves move hmem)

end

/-- Without time and operations from outside, all comes to rest, and nothing is due then. -/
private theorem leads_rest {m : Machine} (hm : Orderly m) (hp : Punctual m) :
    ∃ m', Leads m m' ∧ m'.agenda = [] ∧ ∀ due ∈ m'.hub.dueInstants, m'.hub.clock < due := by
  obtain ⟨m₁, h₁, hidle₁⟩ := m.leads_idle
  have hp₁ : m₁.hub.watcher.DueFrom m₁.hub.clock := h₁.punctual hp
  have h₂ : Leads m₁ (m₁.step .tick).1 := ⟨[.tick], rfl, rfl⟩
  have hp₂ : (m₁.step .tick).1.hub.watcher.DueFrom (m₁.hub.clock + 1) := by
    rw [(Works.tick hidle₁).step_eq]
    exact m₁.hub.tick_plain.watcher ▸ hp₁.tick_ahead
  obtain ⟨m₃, h₃, hidle₃⟩ := (m₁.step .tick).1.leads_idle
  have hp₃ : m₃.hub.watcher.DueFrom (m₁.hub.clock + 1) :=
    h₃.dueFrom (h₂.clock_eq ▸ Nat.le_refl _) hp₂
  have hm₃ : Orderly m₃ := h₃.orderly (h₂.orderly (h₁.orderly hm))
  obtain ⟨hidle₄, hsub, hlt⟩ := wake_run hm₃ hidle₃ (m₃.hub.requests.map (·.id))
  have h₄ : Leads m₃ (m₃.run ((m₃.hub.requests.map (·.id)).map .wake)).1 :=
    ⟨_, by simp [Move.isPrompt], rfl⟩
  have hclock := (h₂.trans (h₃.trans h₄)).clock_eq
  refine ⟨_, h₁.trans (h₂.trans (h₃.trans h₄)), hidle₄, fun due hdue => ?_⟩
  rcases List.mem_append.mp hdue with hdue | hdue
  · have hle : m₁.hub.clock + 1 ≤ m₃.hub.clock + 1 :=
      Nat.le_of_eq (by rw [h₃.clock_eq, h₂.clock_eq])
    rw [hclock]
    exact (h₄.dueFrom hle hp₃).le_due (Option.mem_toList.mp hdue)
  · obtain ⟨q, hq, rfl⟩ := List.mem_map.mp hdue
    rw [h₄.clock_eq]
    exact hlt q hq (List.mem_map_of_mem (hsub hq))

/-- When nothing is due, time can pass. -/
private theorem elapse_one {m : Machine} (hidle : m.agenda = [])
    (hdue : ∀ due ∈ m.hub.dueInstants, m.hub.clock < due) :
    (m.step (.elapse 1)).1 = ⟨{ m.hub with clock := m.hub.clock + 1 }, []⟩ := by
  have hall : m.hub.dueInstants.all fun due => m.hub.clock + 1 ≤ due :=
    List.all_eq_true.mpr fun due hmem => decide_eq_true (hdue due hmem)
  rw [(Works.elapse 1 hidle).step_eq]
  unfold Hub.elapse
  rw [if_pos hall]
  rfl

/-- A request in flight can be brought to its end without any operation from outside. -/
theorem exists_ending {m : Machine} {r : Request} (hm : Orderly m) (hp : Punctual m)
    (hr : m.Holds r) :
    ∃ moves, (∀ op, .call op ∉ moves) ∧ ∃ s ∈ m.trace moves, (ending? r s).isSome := by
  induction hn : r.deadline - m.hub.clock using Nat.strongRecOn generalizing m with
  | ind n ih =>
    obtain ⟨m', hleads, hidle, hdue⟩ := leads_rest hm hp
    have hm' := hleads.orderly hm
    have hp' := hleads.punctual hp
    have hclock := hleads.clock_eq
    obtain ⟨moves, hprompt, rfl⟩ := hleads
    have hc : ∀ op, .call op ∉ moves := by
      intro op hmem
      cases List.all_eq_true.mp hprompt _ hmem
    rcases holds_run hm hr hc with hend | hheld
    · exact ⟨moves, hc, hend⟩
    · have hmem := mem_requests_of_idle hheld.mem_inFlight hidle
      have hlt := hdue r.deadline (List.mem_append_right _ (List.mem_map_of_mem hmem))
      have hstep := elapse_one hidle hdue
      have hless : r.deadline - ((m.run moves).1.step (.elapse 1)).1.hub.clock < n := by
        rw [hstep]
        simp only
        omega
      obtain ⟨moves', hc', s, hs, hend⟩ := ih _ hless (orderly_step hm' _) (punctual_step hp' _)
        (by rw [hstep]; exact Or.inr hmem) rfl
      refine ⟨moves ++ .elapse 1 :: moves', ?_, s, ?_, hend⟩
      · intro op hmem
        rcases List.mem_append.mp hmem with hmem | hmem
        · exact hc op hmem
        · rcases List.mem_cons.mp hmem with he | hmem
          · cases he
          · exact hc' op hmem
      · rw [trace_append]
        exact List.mem_append_right _ (List.mem_cons_of_mem _ hs)

/-- Once a decision was taken, the request ends with it as soon as it is looked after. -/
theorem Fate.wake {m : Machine} {r : Request} {steps : List (Machine × Move)} (hf : Fate m r steps)
    (hm : Orderly m) (hidle : m.isIdle) {outcome : Outcome}
    (hv : verdict? r (steps ++ [(m, .wake r.id)]) = some outcome) :
    endings r (steps ++ [(m, .wake r.id)]) = [outcome] := by
  have hd : ¬ Drops r (m, .wake r.id) := fun h => nomatch h.1
  cases fate_step hm hf hd with
  | ended outcome' _ hverdict hend =>
    rw [hv] at hverdict
    cases hverdict
    exact hend
  | held _ _ hend =>
    rw [endings_concat, List.append_eq_nil_iff] at hend
    cases hf with
    | ended outcome' _ _ hended =>
      rw [hended] at hend
      cases hend.1
    | held held phase _ =>
      have hsome : (ending? r (m, .wake r.id)).isSome := by
        refine wake_ends hm (isIdle_iff.mp hidle) held fun hwait => ?_
        rw [phase] at hwait
        cases hbefore : verdict? r steps with
        | some outcome' =>
          rw [hbefore] at hwait
          cases hwait
        | none =>
          rw [verdict_concat, hbefore, Option.none_or] at hv
          by_cases hc : m.isIdle ∧ r.id = r.id ∧ r.deadline ≤ m.hub.clock
          · exact hc.2.2
          · rw [decision?, if_neg hc] at hv
            cases hv
      rw [Option.toList_eq_nil_iff.mp hend.2] at hsome
      cases hsome

private theorem not_drops_of_no_call {m : Machine} {r : Request} {moves : List Move}
    (hc : ∀ op, .call op ∉ moves) : ∀ s ∈ m.trace moves, ¬ Drops r s := by
  intro s hs hd
  obtain ⟨first, last, hmoves, -⟩ := exists_of_mem_trace hs
  refine hc (.abandon r.id) ?_
  rw [hmoves, hd.1]
  exact List.mem_append_right _ List.mem_cons_self

/-- A request that was sent with a runtime and is not given up ends once, and its outcome is what
was decided first: by the first reply that the listener took, by the rejection of all open requests,
or by its deadline. As long as it has not ended its deadline has not passed, it ends with the
decision, once there is one, when it is looked after between operations, and it can end without
anyone's doing. -/
theorem request_has_one_outcome (options : Options) (own : Bool) (h : Hub)
    (hb : Hub.build options own = .ok h) (before : List Move) (message : Message)
    (timeout : Option Nat) (id : RequestId) (pending : Pending) :
    let m := (Machine.run ⟨h, []⟩ before).1
    let d := timeout.getD m.hub.options.responseTimeout
    let r : Request := ⟨id, d, m.hub.clock + d⟩
    let sent := (m.step (.call (.request message timeout true))).1
    m.isOpen → m.hub.started → m.hub.pending.register = .ok (id, pending) →
    ∀ after, (∀ s ∈ sent.trace after, ¬ Drops r s) →
      (∃ outcome, endings r (sent.trace after) = [outcome] ∧
        verdict? r (sent.trace after) = some outcome) ∨
      endings r (sent.trace after) = [] ∧
        (sent.run after).1.hub.clock ≤ m.hub.clock + d ∧
        ((sent.run after).1.isIdle → ∀ outcome,
          verdict? r (sent.trace (after ++ [.wake id])) = some outcome →
          endings r (sent.trace (after ++ [.wake id])) = [outcome]) ∧
        ∃ more outcome, (∀ op, .call op ∉ more) ∧
          endings r (sent.trace (after ++ more)) = [outcome] := by
  intro m d r sent hopen hstarted hreg after hd
  have hm : Orderly m := orderly_run (orderly_new hb) before
  have hsent : Orderly sent := orderly_step hm _
  have hf : Fate sent r [] := fate_sent hm hopen hstarted hreg
  have hnow : Orderly (sent.run after).1 := orderly_run hsent after
  have hfate := fate_run hsent hf hd
  cases hfate with
  | ended outcome phase hv hend => exact Or.inl ⟨outcome, hend, hv⟩
  | held held phase hend =>
    refine Or.inr ⟨hend, hnow.timely r held.mem_inFlight, fun hidle outcome hv => ?_, ?_⟩
    · rw [trace_concat] at hv ⊢
      exact Fate.wake (.held held phase hend) hnow hidle hv
    · have hpsent : Punctual sent := punctual_step (punctual_run (punctual_new hb) before) _
      obtain ⟨more, hc, s, hs, hsome⟩ := exists_ending hnow (punctual_run hpsent after) held
      have hd' : ∀ s ∈ sent.trace (after ++ more), ¬ Drops r s := by
        intro s hs
        rw [trace_append] at hs
        rcases List.mem_append.mp hs with hs | hs
        · exact hd s hs
        · exact not_drops_of_no_call hc s hs
      cases fate_run hsent hf hd' with
      | ended outcome _ _ hended => exact ⟨more, outcome, hc, hended⟩
      | held _ _ hnone =>
        have hmem : s ∈ sent.trace (after ++ more) := by
          rw [trace_append]
          exact List.mem_append_right _ hs
        rw [List.filterMap_eq_nil_iff.mp hnone s hmem] at hsome
        cases hsome

/-- Two replies come while the request is on its way, and a third after it ended. -/
theorem request_has_one_outcome_first_reply :
    let reply (n : Nat) : Move := .call (.dispatch
      ⟨"https://a", some ⟨"game"⟩, "\x7b\"messageId\":1,\"n\":" ++ toString n ++ "\x7d"⟩)
    let before : List Move :=
      [.call (.start "https://a" true), .proceed, .proceed, .call (.registerWindow ⟨"game"⟩ true),
        .proceed, .proceed, .reply .done, .proceed]
    let after : List Move :=
      [.proceed, reply 1, .proceed, reply 2, .proceed, .reply .done, .proceed, .proceed, .listen,
        .proceed, .listen, .proceed, .wake 1, reply 3, .proceed, .listen, .proceed, .wake 1]
    let m := (Machine.run ⟨Hub.new {} (.external false), []⟩ before).1
    let steps := (m.step (.call (.request {} none true))).1.trace after
    let r : Request := ⟨1, 1000, 1000⟩
    let outcome : Outcome := .reply (.obj [("messageId", .num (.int 1)), ("n", .num (.int 1))])
    m.isOpen ∧ m.hub.started ∧ endings r steps = [outcome] ∧ verdict? r steps = some outcome := by
  intro reply before after m steps r outcome
  have hopen : m.isOpen := by decide +kernel
  have hstarted : m.hub.started := by decide +kernel
  have hroom : ¬ m.hub.pending.limit ≤ m.hub.pending.size := by decide +kernel
  have hnext : m.hub.pending.nextId = 1 := by decide +kernel
  have hr : r =
      ⟨1, m.hub.options.responseTimeout, m.hub.clock + m.hub.options.responseTimeout⟩ := by
    decide +kernel
  have hd : ∀ s ∈ steps, ¬ Drops r s := by decide +kernel
  have hend : endings r steps = [outcome] := by decide +kernel
  have hm : m = (Machine.run ⟨Hub.new {} (.external false), []⟩ before).1 := rfl
  have hsteps : steps = (m.step (.call (.request {} none true))).1.trace after := rfl
  clear_value outcome r steps m after before
  obtain ⟨pending, hreg⟩ : ∃ pending, m.hub.pending.register = .ok (1, pending) := by
    rw [Pending.register, if_neg hroom, hnext]
    exact ⟨_, rfl⟩
  subst hm hsteps hr
  rcases request_has_one_outcome {} true _ rfl before {} none 1 pending hopen hstarted hreg after hd
    with ⟨first, hfirst, hv⟩ | ⟨hnone, -⟩
  · cases hend.symm.trans hfirst
    exact ⟨hopen, hstarted, hend, hv⟩
  · cases hend.symm.trans hnone

end Machine

end PreviewHub
