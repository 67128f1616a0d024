import PreviewHub.Proofs.Phase

/-! A set of requests behaves as one small machine for each request. The machines share nothing:
what is done to one request is not seen by another. -/

namespace PreviewHub

namespace Pending

inductive Act where
  | register
  | resolve (id : RequestId) (reply : Json)
  | remove (id : RequestId)
  | rejectAll (error : Error)
  | look (id : RequestId)
  | drop (id : RequestId)
  deriving DecidableEq, Repr

inductive Response where
  | registered (id : RequestId)
  | refused (error : Error)
  | taken (flag : Bool)
  | rejected (count : Nat)
  | seen (glance : Glance)
  | dropped
  deriving DecidableEq, Repr

def act (p : Pending) : Act → Response × Pending
  | .register =>
    match p.register with
    | .ok (id, q) => (.registered id, q)
    | .error e => (.refused e, p)
  | .resolve id reply => (.taken (p.resolve id reply).1, (p.resolve id reply).2)
  | .remove id => (.taken (p.remove id).1, (p.remove id).2)
  | .rejectAll error => (.rejected (p.rejectAll error).1, (p.rejectAll error).2)
  | .look id => (.seen (p.collect id).1, (p.collect id).2)
  | .drop id => (.dropped, p.discard id)

def after (p : Pending) : List Act → Pending
  | [] => p
  | a :: acts => (p.act a).2.after acts

def history (p : Pending) : List Act → List (Act × Response)
  | [] => []
  | a :: acts => (a, (p.act a).1) :: (p.act a).2.history acts

private theorem after_append (p : Pending) (first second : List Act) :
    p.after (first ++ second) = (p.after first).after second := by
  induction first generalizing p with
  | nil => rfl
  | cons a acts ih => exact ih (p.act a).2

end Pending

open Pending

/-- The machine of the request `id`. It sees what is done to `id` and to all, and which id a
registration gives out. -/
def Phase.next (id : RequestId) (phase : Phase) : Act × Response → Phase
  | (.register, .registered given) => if id = given then .waiting else phase
  | (.register, _) => phase
  | (.resolve target reply, _) => if id = target then phase.settle (.reply reply) else phase
  | (.remove target, _) => if id = target then phase.settle (.failed .channelClosed) else phase
  | (.rejectAll error, _) => phase.settle (.failed error)
  | (.look target, _) => if id = target then phase.collect else phase
  | (.drop target, _) => if id = target then phase.discard else phase

def Phase.along (id : RequestId) (history : List (Act × Response)) : Phase :=
  history.foldl (Phase.next id) .unborn

namespace Pending

/-- The responses that the machines allow. Only whether there is room for one more request is not
theirs to say. -/
def Answers (machine : RequestId → Phase) : Act → Response → Prop
  | .register, .registered id => machine id = .unborn
  | .register, .refused _ => True
  | .resolve id _, .taken flag => flag = decide (machine id = .waiting)
  | .remove id, .taken flag => flag = decide (machine id = .waiting)
  | .rejectAll _, .rejected count =>
    ∃ ids : List RequestId,
      ids.Nodup ∧ (∀ id, id ∈ ids ↔ machine id = .waiting) ∧ count = ids.length
  | .look id, .seen glance => glance = (machine id).glance id
  | .drop _, .dropped => True
  | _, _ => False

/-- One act moves every machine by its own step, and is answered as the machines say. -/
theorem act_simulates {p : Pending} (hp : p.Sound) (a : Act) :
    (p.act a).2.Sound ∧ (∀ id, (p.act a).2.phase id = (p.phase id).next id (a, (p.act a).1)) ∧
      Answers p.phase a (p.act a).1 := by
  cases a with
  | register =>
    cases h : p.register with
    | error e =>
      simp only [act, h]
      exact ⟨hp, fun _ => rfl, trivial⟩
    | ok given =>
      obtain ⟨hs, hn, -, -, hph⟩ := register_ok hp h
      simp only [act, h]
      refine ⟨hs, ?_, ?_⟩
      · intro id
        rw [hph]
        simp only [Phase.next]
      · change p.phase given.1 = .unborn
        rw [hn]
        exact (phase_eq_unborn_iff hp).mpr fun h => Nat.lt_irrefl _ h.2
  | resolve target reply =>
    obtain ⟨hs, hf, -, hph⟩ := resolve_spec hp target reply
    refine ⟨hs, fun id => ?_, hf⟩
    rw [show (p.act (.resolve target reply)).2.phase id = _ from hph id]
    by_cases he : id = target <;> simp [Phase.next, he]
  | remove target =>
    obtain ⟨hs, hf, -, hph⟩ := remove_spec hp target
    refine ⟨hs, fun id => ?_, hf⟩
    rw [show (p.act (.remove target)).2.phase id = _ from hph id]
    by_cases he : id = target <;> simp [Phase.next, he]
  | rejectAll error =>
    obtain ⟨hs, -, hph⟩ := rejectAll_spec hp error
    exact ⟨hs, hph, p.waiting, hp.nodup, fun id => (phase_eq_waiting_iff hp).symm, rfl⟩
  | look target =>
    obtain ⟨hs, hg, -, hph⟩ := collect_spec hp target
    refine ⟨hs, fun id => ?_, hg⟩
    rw [show (p.act (.look target)).2.phase id = _ from hph id]
    by_cases he : id = target <;> simp [Phase.next, he]
  | drop target =>
    obtain ⟨hs, -, hph⟩ := discard_spec hp target
    refine ⟨hs, fun id => ?_, trivial⟩
    rw [show (p.act (.drop target)).2.phase id = _ from hph id]
    by_cases he : id = target <;> simp [Phase.next, he]

/-- A sequence of acts moves every machine along what it sees of it. -/
theorem after_simulates {p : Pending} (hp : p.Sound) (acts : List Act) :
    (p.after acts).Sound ∧
      ∀ id, (p.after acts).phase id = (p.history acts).foldl (Phase.next id) (p.phase id) := by
  induction acts generalizing p with
  | nil => exact ⟨hp, fun _ => rfl⟩
  | cons a acts ih =>
    obtain ⟨hs, hph, -⟩ := act_simulates hp a
    obtain ⟨hs', hph'⟩ := ih hs
    refine ⟨hs', fun id => ?_⟩
    rw [history, List.foldl_cons, ← hph id]
    exact hph' id

def Act.takes (id : RequestId) : Act → Bool
  | .resolve target _ => target = id
  | .remove target => target = id
  | .rejectAll _ => true
  | .drop target => target = id
  | _ => false

def Act.outcome? : Act → Option Outcome
  | .resolve _ reply => some (.reply reply)
  | .remove _ => some (.failed .channelClosed)
  | .rejectAll error => some (.failed error)
  | _ => none

section
variable {p : Pending} {id : RequestId}

private theorem phase_untaken (hp : p.Sound) {a : Act} (hw : p.phase id = .waiting)
    (ht : a.takes id = false) : (p.act a).2.phase id = .waiting := by
  rw [(act_simulates hp a).2.1 id, hw]
  cases a with
  | register =>
    cases hr : (p.act .register).1 with
    | registered given => exact if h : id = given then if_pos h else if_neg h
    | _ => rfl
  | resolve target reply => exact if_neg fun h => by simp [Act.takes, h] at ht
  | remove target => exact if_neg fun h => by simp [Act.takes, h] at ht
  | rejectAll error => cases ht
  | look target => exact if h : id = target then if_pos h else if_neg h
  | drop target => exact if_neg fun h => by simp [Act.takes, h] at ht

private theorem phase_taken (hp : p.Sound) {a : Act} (hw : p.phase id = .waiting)
    (ht : a.takes id = true) :
    (p.act a).2.phase id = match a.outcome? with
      | some outcome => .over outcome
      | none => .gone := by
  rw [(act_simulates hp a).2.1 id, hw]
  cases a with
  | register => cases ht
  | resolve target reply => exact if_pos (of_decide_eq_true ht).symm
  | remove target => exact if_pos (of_decide_eq_true ht).symm
  | rejectAll error => rfl
  | look target => cases ht
  | drop target => exact if_pos (of_decide_eq_true ht).symm

private theorem phase_past (hp : p.Sound) (a : Act) {phase : Phase} (h : p.phase id = phase)
    (hu : phase ≠ .unborn) (hw : phase ≠ .waiting) :
    (p.act a).2.phase id =
      if a = .drop id then .gone else if a = .look id then phase.collect else phase := by
  obtain ⟨-, hph, hans⟩ := act_simulates hp a
  rw [hph id, h]
  cases a with
  | register =>
    simp only [reduceCtorEq, if_false]
    cases hr : (p.act .register).1 with
    | registered given =>
      rw [hr] at hans
      have hne : id ≠ given := fun e => hu (h ▸ e ▸ hans)
      exact if_neg hne
    | _ => rfl
  | resolve target reply => simp [Phase.next, Phase.settle_of_ne hw]
  | remove target => simp [Phase.next, Phase.settle_of_ne hw]
  | rejectAll error => simp [Phase.next, Phase.settle_of_ne hw]
  | look target => by_cases he : id = target <;> simp [Phase.next, he, eq_comm]
  | drop target =>
    by_cases he : id = target
    · simp [Phase.next, he, Phase.discard_of_ne hu]
    · have hne : target ≠ id := fun e => he e.symm
      simp [Phase.next, he, hne]

/-- As long as nothing takes it out a request waits, however often it is looked at. -/
theorem after_untaken (hp : p.Sound) (hw : p.phase id = .waiting) (acts : List Act)
    (ht : ∀ a ∈ acts, a.takes id = false) : (p.after acts).phase id = .waiting := by
  induction acts generalizing p with
  | nil => exact hw
  | cons a acts ih =>
    obtain ⟨ha, ht⟩ := List.forall_mem_cons.mp ht
    exact ih (act_simulates hp a).1 (phase_untaken hp hw ha) ht

private theorem after_gone (hp : p.Sound) (hg : p.phase id = .gone) (acts : List Act) :
    (p.after acts).phase id = .gone := by
  induction acts generalizing p with
  | nil => exact hg
  | cons a acts ih =>
    refine ih (act_simulates hp a).1 ?_
    rw [phase_past hp a hg (by simp) (by simp)]
    split
    · rfl
    · split <;> rfl

private theorem after_spent (hp : p.Sound) (hs : p.phase id = .spent) (acts : List Act) :
    (p.after acts).phase id = if .drop id ∈ acts then .gone else .spent := by
  induction acts generalizing p with
  | nil => exact hs
  | cons a acts ih =>
    have hn := phase_past hp a hs (by simp) (by simp)
    by_cases hd : a = .drop id
    · rw [if_pos hd] at hn
      rw [if_pos (by simp [hd])]
      exact after_gone (act_simulates hp a).1 hn acts
    · have hn' : (p.act a).2.phase id = .spent := by
        rw [hn, if_neg hd]
        split <;> rfl
      have hm : Act.drop id ∈ a :: acts ↔ Act.drop id ∈ acts := by simp [Ne.symm hd]
      simp only [hm]
      exact ih (act_simulates hp a).1 hn'

/-- What was taken out with an outcome gives it to the first look, and to no other. -/
theorem after_over (hp : p.Sound) {outcome : Outcome} (ho : p.phase id = .over outcome)
    (acts : List Act) :
    (p.after acts).phase id =
      if .drop id ∈ acts then .gone else if .look id ∈ acts then .spent else .over outcome := by
  induction acts generalizing p with
  | nil => exact ho
  | cons a acts ih =>
    have hs := (act_simulates hp a).1
    have hn := phase_past hp a ho (by simp) (by simp)
    by_cases hd : a = .drop id
    · rw [if_pos hd] at hn
      rw [if_pos (by simp [hd])]
      exact after_gone hs hn acts
    · rw [if_neg hd] at hn
      have hm : Act.drop id ∈ a :: acts ↔ Act.drop id ∈ acts := by simp [Ne.symm hd]
      simp only [hm]
      by_cases hl : a = .look id
      · rw [if_pos hl] at hn
        have hl' : Act.look id ∈ a :: acts := by simp [hl]
        simp only [hl', if_true]
        exact after_spent hs hn acts
      · rw [if_neg hl] at hn
        have hl' : Act.look id ∈ a :: acts ↔ Act.look id ∈ acts := by simp [Ne.symm hl]
        simp only [hl']
        exact ih hs hn

end

private theorem phase_after_new (limit : Nat) (acts : List Act) (id : RequestId) :
    (after { limit } acts).phase id = Phase.along id (history { limit } acts) := by
  rw [(after_simulates (sound_new limit) acts).2 id, phase_new]
  rfl

private theorem after_register {p q : Pending} {id : RequestId} (h : p.register = .ok (id, q))
    (later : List Act) : p.after (.register :: later) = q.after later := by
  simp [after, act, h]

/-- What became of a request, by the first act that took it out. -/
theorem after_first_taken {q : Pending} (hq : q.Sound) {id : RequestId} (hw : q.phase id = .waiting)
    {early rest : List Act} {a : Act} (he : ∀ e ∈ early, e.takes id = false)
    (ha : a.takes id = true) :
    (q.after (early ++ a :: rest)).phase id =
      match a.outcome? with
      | some outcome =>
        if .drop id ∈ rest then .gone else if .look id ∈ rest then .spent else .over outcome
      | none => .gone := by
  have hs := (after_simulates hq early).1
  have ht := phase_taken hs (after_untaken hq hw early he) ha
  rw [after_append]
  change (((q.after early).act a).2.after rest).phase id = _
  cases ho : a.outcome? with
  | some outcome =>
    rw [ho] at ht
    exact after_over (act_simulates hs a).1 ht rest
  | none =>
    rw [ho] at ht
    exact after_gone (act_simulates hs a).1 ht rest

/-- Whatever is done, in any order: the ids that wait are those whose machine waits, and every act
is answered as the machines say. A request that was registered waits until the first act that takes
it out. After that it never waits again; the first look at its ticket gives the outcome of that act,
and every later one that it was collected before. -/
theorem one_machine_per_request (limit : Nat) (acts : List Act) :
    let p := after { limit } acts
    let machine := fun id => Phase.along id (history { limit } acts)
    (∀ id, id ∈ p.waiting ↔ machine id = .waiting) ∧
    (∀ a, Answers machine a (p.act a).1) ∧
    ∀ before later id q, acts = before ++ .register :: later →
      (after { limit } before).register = .ok (id, q) →
      (id ∈ p.waiting ↔ ∀ a ∈ later, a.takes id = false) ∧
      ∀ early a rest outcome, later = early ++ a :: rest → (∀ e ∈ early, e.takes id = false) →
        a.takes id = true → a.outcome? = some outcome → .drop id ∉ rest →
        (p.collect id).1 =
          .over (if .look id ∈ rest then .failed (spentError id) else outcome) := by
  intro p machine
  have hp : p.Sound := (after_simulates (sound_new limit) acts).1
  have hm : p.phase = machine := funext (phase_after_new limit acts)
  refine ⟨fun id => ?_, fun a => hm ▸ (act_simulates hp a).2.2, ?_⟩
  · rw [← hm]
    exact (phase_eq_waiting_iff hp).symm
  intro before later id q hacts hreg
  obtain ⟨hq, -, -, -, hph⟩ := register_ok (after_simulates (sound_new limit) before).1 hreg
  have hw : q.phase id = .waiting := by rw [hph, if_pos rfl]
  have hpq : p = q.after later := by
    change after { limit } acts = _
    rw [hacts, after_append, after_register hreg]
  constructor
  · rw [← phase_eq_waiting_iff hp, hpq]
    refine ⟨fun h => ?_, after_untaken hq hw later⟩
    cases hf : later.find? (Act.takes id) with
    | none =>
      intro a ha
      simpa using List.find?_eq_none.mp hf a ha
    | some a =>
      obtain ⟨ha, early, rest, rfl, he⟩ := List.find?_eq_some_iff_append.mp hf
      rw [after_first_taken hq hw (by simpa using he) ha] at h
      split at h
      · split at h
        · cases h
        · split at h <;> cases h
      · cases h
  · rintro early a rest outcome rfl he ha ho hd
    rw [(collect_spec hp id).2.1, hpq, after_first_taken hq hw he ha, ho]
    simp only [hd, if_false]
    split <;> rfl

/-- Two requests, the first looked at too early, answered, removed too late and looked at twice. -/
theorem one_machine_per_request_first_reply :
    let later : List Act :=
      [.register, .look 1, .resolve 1 .null, .remove 1, .rejectAll .closing, .look 1]
    (after { limit := 2 } (.register :: later)).waiting = [] ∧
    ((after { limit := 2 } (.register :: later)).collect 1).1 =
      .over (.failed (spentError 1)) ∧
    ((after { limit := 2 }
      [.register, .register, .look 1, .resolve 1 .null, .remove 1]).collect 1).1 =
      .over (.reply .null) := by
  refine ⟨by decide, ?_, ?_⟩
  · exact ((one_machine_per_request 2 _).2.2 [] _ 1 _ rfl rfl).2 [.register, .look 1]
      (.resolve 1 .null) _ (.reply .null) rfl (by decide) rfl rfl (by decide)
  · exact ((one_machine_per_request 2 _).2.2 [] _ 1 _ rfl rfl).2 [.register, .look 1]
      (.resolve 1 .null) _ (.reply .null) rfl (by decide) rfl rfl (by decide)

end Pending

end PreviewHub
