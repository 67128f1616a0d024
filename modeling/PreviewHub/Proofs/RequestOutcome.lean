import PreviewHub.Proofs.InFlight

/-! How a request ends. A reply, the closing of all connections and the deadline compete for it; the
one that comes first decides, and the request ends once, with the outcome that was decided. -/

namespace PreviewHub

def Task.outcome? : Task → Option Outcome
  | .answer (.over outcome) => some outcome
  | _ => none

def Phase.heed : Option Outcome → Phase → Phase
  | some outcome, phase => phase.settle outcome
  | none, phase => phase

private theorem Phase.heed_gone (decision : Option Outcome) :
    Phase.heed decision .gone = .gone := by
  cases decision <;> rfl

def Phase.ofVerdict : Option Outcome → Phase
  | some outcome => .over outcome
  | none => .waiting

namespace Machine

/-- What a step decides about a request: the listener takes a reply to it, all open requests are
rejected, or the request is looked after when its time is up. -/
def decision? (r : Request) : Machine × Move → Option Outcome
  | (m, .listen) =>
    if m.isIdle then
      match m.hub.nextReply? with
      | some (id, payload) => if id = r.id then some (.reply payload) else none
      | none => none
    else none
  | (m, .wake id) =>
    if m.isIdle ∧ id = r.id ∧ r.deadline ≤ m.hub.clock then some (.failed (.timeout r.id r.timeout))
    else none
  | (m, .proceed) =>
    match m.agenda with
    | .awaitReply id timeout _ _ :: _ =>
      if m.hub.timed id timeout = r ∧ r.deadline ≤ m.hub.clock then
        some (.failed (.timeout r.id r.timeout))
      else none
    | .rejectRequests :: _ => some (.failed .closing)
    | _ => none
  | _ => none

/-- The outcome with which a step ends a request: it is over as soon as it was sent, or its end is
seen later. -/
def ending? (r : Request) (s : Machine × Move) : Option Outcome :=
  let after := s.1.step s.2
  if s.2 = .proceed ∧ s.1.agenda.head?.bind (Task.request? s.1.hub.clock) = some r then
    after.1.agenda.head?.bind Task.outcome?
  else after.2.findSome? (Output.outcome? r.id)

def Drops (r : Request) (s : Machine × Move) : Prop :=
  s.2 = .call (.abandon r.id) ∧ s.1.isOpen ∧ r ∈ s.1.hub.requests

instance (r : Request) (s : Machine × Move) : Decidable (Drops r s) :=
  inferInstanceAs (Decidable (_ ∧ _ ∧ _))

def Holds (m : Machine) (r : Request) : Prop :=
  (∃ id timeout targets, r = m.hub.timed id timeout ∧
    .awaitReply id timeout targets true ∈ m.agenda) ∨ r ∈ m.hub.requests

section
variable {m : Machine} {r : Request} {move : Move} {e : Effect} {used rest : List Task}

theorem Holds.mem_inFlight (h : m.Holds r) : r ∈ m.inFlight := by
  rcases h with ⟨id, timeout, targets, rfl, h⟩ | h
  · exact List.mem_append_left _ (mem_outgoing h _)
  · exact List.mem_append_right _ h

theorem mem_requests_of_idle (h : r ∈ m.inFlight) (hidle : m.agenda = []) : r ∈ m.hub.requests := by
  rw [inFlight, hidle] at h
  exact h

theorem Works.mem_inFlight (w : Works m move e used rest)
    (h : r ∈ outgoing m.hub.clock used) :
    r ∈ m.inFlight := by
  rw [w.inFlight_eq]
  exact List.mem_append_left _ h

theorem ending_of_works (w : Works m move e used rest)
    (hu : ∀ t ∈ used, t.request? m.hub.clock ≠ some r) :
    ending? r (m, move) = e.outputs.findSome? (Output.outcome? r.id) := by
  unfold ending?
  rw [w.step_eq]
  refine if_neg ?_
  rintro ⟨hp, hh⟩
  cases w with
  | proceed task rest h =>
    rw [h] at hh
    exact hu task List.mem_cons_self hh
  | _ => cases hp

theorem decision_of_impossible (hn : ¬ ∃ e used rest, Works m move e used rest) :
    decision? r (m, move) = none := by
  cases move with
  | listen =>
    refine if_neg fun hi => hn ⟨_, _, _, .listen (isIdle_iff.mp hi)⟩
  | wake id =>
    refine if_neg fun hi => hn ⟨_, _, _, .wake id (isIdle_iff.mp hi.1)⟩
  | proceed =>
    cases ha : m.agenda with
    | nil => simp only [decision?, ha]
    | cons task rest => exact absurd ⟨_, _, _, .proceed task rest ha⟩ hn
  | _ => rfl

end

structure Keeps (m : Machine) (r : Request) (move : Move) : Prop where
  ending : ending? r (m, move) = none
  held : (m.step move).1.Holds r
  phase : (m.step move).1.hub.pending.phase r.id =
    (m.hub.pending.phase r.id).heed (decision? r (m, move))

structure Ends (m : Machine) (r : Request) (move : Move) (outcome : Outcome) : Prop where
  ending : ending? r (m, move) = some outcome
  phase : (m.step move).1.hub.pending.phase r.id = .gone
  decided : m.hub.pending.phase r.id = .over outcome ∨
    m.hub.pending.phase r.id = .waiting ∧ decision? r (m, move) = some outcome

/-- Work that is about one request: to look at it for the first time, to give it up, and to look
after it when it is over. -/
inductive About (m : Machine) (r : Request) : Move → Effect → List Task → Prop where
  | await (id : RequestId) (timeout targets : Nat) (runtime : Bool)
      (own : r = m.hub.timed id timeout) :
      About m r .proceed (m.hub.awaitReply id timeout targets runtime)
        [.awaitReply id timeout targets runtime]
  | abandon {e : Effect} (held : r ∈ m.hub.requests) : About m r (.call (.abandon r.id)) e []
  | wake {outcome : Outcome} {h' : Hub} {rs : List Remark} {e : Effect} (held : r ∈ m.hub.requests)
      (concluded : m.hub.conclude? r = some (outcome, h', rs)) (hub : e.hub = h'.forget r.id)
      (outputs : e.outputs = Hub.remarks rs ++ [.finished r.id outcome]) :
      About m r (.wake r.id) e []

structure Spares (m : Machine) (r : Request) (move : Move) (e : Effect) (used : List Task) :
    Prop where
  unused : ∀ t ∈ used, t.request? m.hub.clock ≠ some r
  requests : r ∈ m.hub.requests → r ∈ e.hub.requests
  silent : e.outputs.findSome? (Output.outcome? r.id) = none
  phase : e.hub.pending.phase r.id = (m.hub.pending.phase r.id).heed (decision? r (m, move))

section
variable {m : Machine} {r : Request} {move : Move} {e : Effect} {used rest : List Task}

private theorem About.mem_inFlight (ha : About m r move e used) (w : Works m move e used rest) :
    r ∈ m.inFlight := by
  cases ha with
  | await id timeout targets runtime own =>
    subst own
    exact w.mem_inFlight List.mem_cons_self
  | abandon held => exact List.mem_append_right _ held
  | wake held _ _ _ => exact List.mem_append_right _ held

private theorem Works.holds (w : Works m move e used rest) (hr : m.Holds r)
    (hu : ∀ t ∈ used, t.request? m.hub.clock ≠ some r)
    (hq : r ∈ m.hub.requests → r ∈ e.hub.requests) :
    (m.step move).1.Holds r := by
  rw [w.step_eq]
  rcases hr with ⟨id, timeout, targets, rfl, ha⟩ | ha
  · have hclock := w.clock_eq_of_agenda (List.ne_nil_of_mem ha)
    rw [w.agenda_eq] at ha
    rcases List.mem_append.mp ha with hmem | hmem
    · exact absurd rfl (hu _ hmem)
    · refine Or.inl ⟨id, timeout, targets, ?_, List.mem_append_right _ hmem⟩
      rw [take, Hub.timed, Hub.timed, hclock]
  · exact Or.inr (hq ha)

private theorem Works.keeps (w : Works m move e used rest) (hr : m.Holds r)
    (hs : Spares m r move e used) : Keeps m r move where
  ending := (ending_of_works w hs.unused).trans hs.silent
  held := w.holds hr hs.unused hs.requests
  phase := by
    rw [w.step_eq]
    exact hs.phase

private theorem decision_of_aloof (w : Works m move e used rest) (hm : Orderly m)
    (hr : r ∈ m.inFlight) (aloof : used.all Task.isAloof)
    (unheard : move = .listen → m.hub.nextReply? = none)
    (unready : ∀ id, move = .wake id → ∀ r, m.hub.requests.find? (·.id = id) = some r →
      m.hub.conclude? r = none) :
    decision? r (m, move) = none := by
  cases w with
  | listen h =>
    simp only [decision?, unheard rfl]
    exact ite_self _
  | wake id h =>
    refine if_neg ?_
    rintro ⟨-, rfl, hdue⟩
    have hnone := unready r.id rfl r (hm.find?_eq (mem_requests_of_idle hr h))
    rcases Hub.conclude_cases hm.sound (hm.alive r hr) with
      ⟨o, p, rs, hc, -⟩ | ⟨-, -, hlt⟩
    · rw [hnone] at hc
      cases hc
    · exact absurd hdue (Nat.not_le.mpr hlt)
  | proceed task rest h =>
    simp only [decision?, h]
    cases task with
    | awaitReply id timeout targets runtime => cases aloof
    | rejectRequests => cases aloof
    | _ => rfl
  | _ => rfl

private theorem await_others {h : Hub} {id other : RequestId} (hp : h.pending.Sound)
    (ha : (h.pending.phase id).isAlive) (hne : other ≠ id) (timeout targets : Nat)
    (runtime : Bool) :
    (h.awaitReply id timeout targets runtime).hub.pending.phase other = h.pending.phase other ∧
      h.requests ⊆ (h.awaitReply id timeout targets runtime).hub.requests ∧
      (h.awaitReply id timeout targets runtime).outputs.findSome? (Output.outcome? other) =
        none := by
  unfold Hub.awaitReply
  cases runtime with
  | true =>
    rw [if_pos rfl]
    have ha : (h.pending.phase (h.timed id timeout).id).isAlive := ha
    rcases Hub.conclude_cases hp ha with ⟨o, p, rs, hc, hp, -⟩ | ⟨hc, -, -⟩
    · rw [hc]
      exact ⟨hp.others _ hne, List.Subset.refl _, silent_of_plain (Hub.remarks_plain _) other⟩
    · rw [hc]
      exact ⟨rfl, List.subset_append_left _ _, rfl⟩
  | false =>
    rw [if_neg Bool.false_ne_true]
    have hrel := Pending.discard_released hp id (Phase.ne_unborn_of_isAlive ha)
    exact ⟨hrel.others _ hne, List.Subset.refl _, silent_of_plain (Hub.remarks_plain _) other⟩

private theorem await_own {id : RequestId} {timeout targets : Nat} {runtime : Bool}
    (w : Works m .proceed (m.hub.awaitReply id timeout targets runtime)
      [.awaitReply id timeout targets runtime] rest)
    (hm : Orderly m) (own : r = m.hub.timed id timeout) (hr : m.Holds r) :
    Keeps m r .proceed ∨ ∃ outcome, Ends m r .proceed outcome := by
  subst own
  have hagenda : m.agenda = .awaitReply id timeout targets runtime :: rest := w.agenda_eq
  have hrun : runtime = true := by
    have hn := hm.nodup
    rw [w.inFlight_eq] at hn
    have hout := (List.nodup_cons.mp hn).1
    rcases hr with ⟨id', timeout', targets', he, ha⟩ | ha
    · cases he
      rw [hagenda] at ha
      rcases List.mem_cons.mp ha with he | ha
      · cases he
        rfl
      · exact absurd (List.mem_map_of_mem (List.mem_append_left _ (mem_outgoing ha _))) hout
    · exact absurd (List.mem_map_of_mem (List.mem_append_right _ ha)) hout
  subst hrun
  have hstep := w.step_eq
  have hending : ending? (m.hub.timed id timeout) (m, .proceed) =
      (m.step .proceed).1.agenda.head?.bind Task.outcome? :=
    if_pos ⟨rfl, by rw [hagenda]; rfl⟩
  unfold Hub.awaitReply at hstep
  rw [if_pos rfl] at hstep
  rcases Hub.conclude_cases hm.sound (hm.alive _ hr.mem_inFlight) with
    ⟨o, p, rs, hc, hp, hwhy⟩ | ⟨hc, hph, hlt⟩
  · right
    rw [hc] at hstep
    refine ⟨o, by rw [hending, hstep]; rfl, by rw [hstep]; exact hp.gone, ?_⟩
    rcases hwhy with hph | ⟨hph, hdue, rfl⟩
    · exact Or.inl hph
    · refine Or.inr ⟨hph, ?_⟩
      simp only [decision?, hagenda]
      exact if_pos ⟨trivial, hdue⟩
  · left
    rw [hc] at hstep
    refine ⟨by rw [hending, hstep]; rfl, ?_, ?_⟩
    · rw [hstep]
      exact Or.inr (List.mem_append_right _ List.mem_cons_self)
    · have hnone : decision? (m.hub.timed id timeout) (m, .proceed) = none := by
        simp only [decision?, hagenda]
        exact if_neg fun h => Nat.not_le.mpr hlt h.2
      rw [hstep, hnone]
      rfl

private theorem findSome?_finished (rs : List Remark) (id other : RequestId) (outcome : Outcome) :
    (Hub.remarks rs ++ [Output.finished id outcome]).findSome? (Output.outcome? other) =
      if id = other then some outcome else none := by
  rw [List.findSome?_append, silent_of_plain (Hub.remarks_plain _), Option.none_or,
    List.findSome?_singleton]
  rfl

/-- Where the request is in flight or has ended, work is about it or spares it. -/
theorem Works.about_or_spares (w : Works m move e used rest) (hm : Orderly m)
    (hr : r ∈ m.inFlight ∨ m.hub.pending.phase r.id = .gone) :
    About m r move e used ∨ Spares m r move e used := by
  have hborn : m.hub.pending.phase r.id ≠ .unborn := by
    rcases hr with hheld | hgone
    · exact Phase.ne_unborn_of_isAlive (hm.alive r hheld)
    · rw [hgone]
      nofun
  have hsame : ∀ q ∈ m.inFlight, r.id = q.id → r = q := by
    intro q hq he
    rcases hr with hheld | hgone
    · exact hm.eq_of_id hheld hq he
    · have hdead := hm.alive q hq
      rw [← he, hgone] at hdead
      cases hdead
  cases w.deals with
  | nothing quiet aloof unheard unready =>
    refine Or.inr ⟨fun t ht => ?_, fun h => quiet.requests ▸ h, quiet.silent _, ?_⟩
    · rw [Task.request?_of_isAloof (List.all_eq_true.mp aloof t ht)]
      nofun
    · rw [quiet.pending]
      rcases hr with hheld | hgone
      · rw [decision_of_aloof w hm hheld aloof unheard unready]
        rfl
      · rw [hgone, Phase.heed_gone]
  | issue message timeout runtime room posts targets plain hub tasks silent =>
    refine Or.inr ⟨by simp, fun h => hub ▸ h, silent _, ?_⟩
    rw [hub]
    exact (Pending.register_others hm.sound room hborn).2
  | @reply id payload _ heard quiet =>
    refine Or.inr ⟨by simp, fun h => quiet.requests ▸ h, quiet.silent _, ?_⟩
    have hidle : m.isIdle := by
      cases w with
      | listen h => exact isIdle_iff.mpr h
    obtain ⟨-, -, -, hph⟩ := Pending.resolve_spec hm.sound id payload
    simp only [decision?, hidle, heard, if_true]
    rw [quiet.pending, hph]
    by_cases he : r.id = id
    · rw [if_pos he, if_pos he.symm, he]
      rfl
    · rw [if_neg he, if_neg (Ne.symm he)]
      rfl
  | reject quiet =>
    refine Or.inr ⟨by simp [Task.request?], fun h => quiet.requests ▸ h, quiet.silent _, ?_⟩
    have hagenda : m.agenda = .rejectRequests :: rest := w.agenda_eq
    obtain ⟨-, -, hph⟩ := Pending.rejectAll_spec hm.sound .closing
    simp only [decision?, hagenda]
    rw [quiet.pending]
    exact hph r.id
  | await id timeout targets runtime =>
    have hq : m.hub.timed id timeout ∈ m.inFlight := w.mem_inFlight List.mem_cons_self
    by_cases he : r.id = id
    · exact Or.inl (.await id timeout targets runtime (hsame _ hq he))
    · obtain ⟨hph, hsub, hs⟩ :=
        await_others hm.sound (hm.alive _ hq) he timeout targets runtime
      have hqr : m.hub.timed id timeout ≠ r := fun h => he (h ▸ rfl)
      have hagenda : m.agenda = .awaitReply id timeout targets runtime :: rest := w.agenda_eq
      have hnone : decision? r (m, .proceed) = none := by
        simp only [decision?, hagenda]
        exact if_neg fun h => hqr h.1
      refine Or.inr ⟨?_, fun h => hsub h, hs, ?_⟩
      · refine List.forall_mem_singleton.mpr fun hown => hqr ?_
        exact Option.some.inj hown
      · rw [hnone]
        exact hph
  | @abandon q _ held quiet =>
    have hq : q ∈ m.inFlight := List.mem_append_right _ held
    by_cases he : r.id = q.id
    · obtain rfl := hsame q hq he
      exact Or.inl (.abandon held)
    · have hp := Pending.discard_released hm.sound q.id (Phase.ne_unborn_of_isAlive (hm.alive q hq))
      refine Or.inr ⟨by simp, fun h => ?_, quiet.silent _, ?_⟩
      · rw [quiet.requests]
        exact List.mem_filter.mpr ⟨h, decide_eq_true he⟩
      · rw [quiet.pending]
        exact hp.others _ he
  | @wake q outcome _ rs _ held concluded hub tasks outputs =>
    have hq : q ∈ m.inFlight := List.mem_append_right _ held
    by_cases he : r.id = q.id
    · obtain rfl := hsame q hq he
      exact Or.inl (.wake held concluded hub outputs)
    · obtain ⟨p, rfl, hp, -⟩ := Hub.conclude_some hm.sound (hm.alive q hq) concluded
      have hnone : decision? r (m, .wake q.id) = none := if_neg fun h => he h.2.1.symm
      refine Or.inr ⟨by simp, fun h => ?_, ?_, ?_⟩
      · rw [hub]
        exact List.mem_filter.mpr ⟨h, decide_eq_true he⟩
      · rw [outputs, findSome?_finished, if_neg (Ne.symm he)]
      · rw [hnone, hub]
        exact hp.others _ he
  | elapse early quiet =>
    refine Or.inr ⟨by simp, fun h => quiet.requests ▸ h, quiet.silent _, ?_⟩
    rw [quiet.pending]
    rfl

theorem wake_own {outcome : Outcome} {h' : Hub} {rs : List Remark}
    (w : Works m (.wake r.id) e [] rest) (hm : Orderly m) (held : r ∈ m.hub.requests)
    (concluded : m.hub.conclude? r = some (outcome, h', rs)) (hub : e.hub = h'.forget r.id)
    (outputs : e.outputs = Hub.remarks rs ++ [.finished r.id outcome]) :
    Ends m r (.wake r.id) outcome := by
  have hidle : m.isIdle := by
    cases w with
    | wake id h => exact isIdle_iff.mpr h
  have halive := hm.alive r (List.mem_append_right _ held)
  obtain ⟨p, rfl, hp, hwhy⟩ := Hub.conclude_some hm.sound halive concluded
  refine ⟨?_, ?_, ?_⟩
  · rw [ending_of_works w (by simp), outputs, findSome?_finished, if_pos rfl]
  · rw [w.step_eq, take, hub]
    exact hp.gone
  · rcases hwhy with hph | ⟨hph, hdue, rfl⟩
    · exact Or.inl hph
    · exact Or.inr ⟨hph, if_pos ⟨hidle, rfl, hdue⟩⟩

/-- A request that is settled or due ends when it is looked after. -/
theorem wake_ends (hm : Orderly m) (hidle : m.agenda = []) (hr : m.Holds r)
    (hdue : m.hub.pending.phase r.id = .waiting → r.deadline ≤ m.hub.clock) :
    (ending? r (m, .wake r.id)).isSome := by
  have hfind := hm.find?_eq (mem_requests_of_idle hr.mem_inFlight hidle)
  rcases Hub.conclude_cases hm.sound (hm.alive r hr.mem_inFlight) with
    ⟨o, p, rs, hc, -⟩ | ⟨-, hph, hlt⟩
  · rw [ending_of_works (Works.wake r.id hidle) (by simp)]
    simp only [Hub.wake, hfind, hc]
    rw [findSome?_finished, if_pos rfl]
    rfl
  · exact absurd (hdue hph) (Nat.not_le.mpr hlt)

theorem ending_of_idle_step (hstep : m.step move = (m, [])) :
    ending? r (m, move) = none := by
  unfold ending?
  rw [hstep]
  split
  · rename_i hc
    obtain ⟨t, ht, hreq⟩ := Option.bind_eq_some_iff.mp hc.2
    show m.agenda.head?.bind Task.outcome? = none
    rw [ht]
    cases t with
    | awaitReply id timeout targets runtime => rfl
    | _ => cases hreq
  · rfl

/-- A step that does not give the request up goes on with it or ends it. -/
theorem request_step (hm : Orderly m) (hr : m.Holds r) (hd : ¬ Drops r (m, move)) :
    Keeps m r move ∨ ∃ outcome, Ends m r move outcome := by
  by_cases hw : ∃ e used rest, Works m move e used rest
  · obtain ⟨e, used, rest, w⟩ := hw
    rcases w.about_or_spares hm (Or.inl hr.mem_inFlight) with ha | hs
    · cases ha with
      | await id timeout targets runtime own => exact await_own w hm own hr
      | abandon held =>
        cases w with
        | call op h => exact absurd ⟨rfl, h, held⟩ hd
      | wake held concluded hub outputs =>
        exact Or.inr ⟨_, wake_own w hm held concluded hub outputs⟩
    · exact Or.inl (w.keeps hr hs)
  · have hstep : m.step move = (m, []) := (m.step_cases move).resolve_right hw
    refine Or.inl ⟨ending_of_idle_step hstep, by rw [hstep]; exact hr, ?_⟩
    rw [hstep, decision_of_impossible hw]
    rfl

/-- A request that has ended does not come back. -/
private theorem ended_step (hm : Orderly m) (hg : m.hub.pending.phase r.id = .gone) (move : Move) :
    ending? r (m, move) = none ∧ (m.step move).1.hub.pending.phase r.id = .gone := by
  rcases m.step_cases move with hstep | ⟨e, used, rest, w⟩
  · exact ⟨ending_of_idle_step hstep, by rw [hstep]; exact hg⟩
  · rcases w.about_or_spares hm (Or.inr hg) with ha | hs
    · have hdead := hm.alive r (ha.mem_inFlight w)
      rw [hg] at hdead
      cases hdead
    · refine ⟨(ending_of_works w hs.unused).trans hs.silent, ?_⟩
      rw [w.step_eq]
      exact hs.phase.trans (by rw [hg, Phase.heed_gone])

end

/-- The first decision about a request. -/
def verdict? (r : Request) (steps : List (Machine × Move)) : Option Outcome :=
  steps.findSome? (decision? r)

def endings (r : Request) (steps : List (Machine × Move)) : List Outcome :=
  steps.filterMap (ending? r)

theorem verdict_concat (r : Request) (steps : List (Machine × Move)) (s : Machine × Move) :
    verdict? r (steps ++ [s]) = (verdict? r steps).or (decision? r s) := by
  rw [verdict?, List.findSome?_append, List.findSome?_singleton]
  rfl

theorem endings_concat (r : Request) (steps : List (Machine × Move)) (s : Machine × Move) :
    endings r (steps ++ [s]) = endings r steps ++ (ending? r s).toList := by
  rw [endings, List.filterMap_append]
  cases h : ending? r s <;> simp [endings, h]

/-- Where a request stands after the steps that followed on its sending: it is held and did not end,
or it ended with the first decision. -/
inductive Fate (m : Machine) (r : Request) (steps : List (Machine × Move)) : Prop where
  | held (held : m.Holds r) (phase : m.hub.pending.phase r.id = Phase.ofVerdict (verdict? r steps))
      (endings : endings r steps = [])
  | ended (outcome : Outcome) (phase : m.hub.pending.phase r.id = .gone)
      (verdict : verdict? r steps = some outcome) (endings : endings r steps = [outcome])

theorem fate_step {m : Machine} {r : Request} {steps : List (Machine × Move)} {move : Move}
    (hm : Orderly m) (hf : Fate m r steps) (hd : ¬ Drops r (m, move)) :
    Fate (m.step move).1 r (steps ++ [(m, move)]) := by
  cases hf with
  | held held phase hend =>
    rcases request_step hm held hd with hk | ⟨outcome, he⟩
    · refine .held hk.held ?_ ?_
      · rw [hk.phase, phase, verdict_concat]
        cases verdict? r steps <;> cases decision? r (m, move) <;> rfl
      · rw [endings_concat, hend, hk.ending]
        rfl
    · refine .ended outcome he.phase ?_ ?_
      · rw [verdict_concat]
        have hdec := he.decided
        rw [phase] at hdec
        cases hv : verdict? r steps with
        | some o =>
          rw [hv] at hdec
          rcases hdec with h | ⟨h, -⟩
          · cases h
            rfl
          · cases h
        | none =>
          rw [hv] at hdec
          rcases hdec with h | ⟨-, h⟩
          · cases h
          · exact h
      · rw [endings_concat, hend, he.ending]
        rfl
  | ended outcome phase hv hend =>
    obtain ⟨hnone, hgone⟩ := ended_step hm phase move
    refine .ended outcome hgone ?_ ?_
    · rw [verdict_concat, hv]
      rfl
    · rw [endings_concat, hend, hnone]
      rfl

theorem fate_run {m : Machine} {r : Request} (hm : Orderly m) (hf : Fate m r []) {moves : List Move}
    (hd : ∀ s ∈ m.trace moves, ¬ Drops r s) : Fate (m.run moves).1 r (m.trace moves) := by
  induction moves using List.reverseRecOn with
  | nil => exact hf
  | append_singleton moves move ih =>
    rw [trace_concat] at hd ⊢
    rw [run_concat]
    have hbefore := ih fun s hs => hd s (List.mem_append_left _ hs)
    have hlast := hd _ (List.mem_append_right _ List.mem_cons_self)
    exact fate_step (orderly_run hm moves) hbefore hlast

/-- A request that is sent is held, and nothing is decided about it. -/
theorem fate_sent {m : Machine} (hm : Orderly m) {message : Message} {timeout : Option Nat}
    {id : RequestId} {pending : Pending} (hopen : m.isOpen) (hstarted : m.hub.started)
    (hreg : m.hub.pending.register = .ok (id, pending)) :
    Fate (m.step (.call (.request message timeout true))).1 (m.hub.requestOf id timeout) [] := by
  obtain ⟨-, -, -, -, hph⟩ := Pending.register_ok hm.sound hreg
  have w := Works.call (.request message timeout true) hopen
  rw [w.step_eq]
  simp only [Hub.begin, Hub.request, hstarted, hreg, if_true]
  refine .held (Or.inl ⟨id, _, m.hub.registry.endpoints.length, rfl, ?_⟩) ?_ rfl
  · exact List.mem_append_left _ (List.mem_append_right _ List.mem_cons_self)
  · exact (hph _).trans (if_pos rfl)

end Machine

end PreviewHub
