import PreviewHub.Proofs.RequestOutcome
import PreviewHub.Proofs.Turns

/-! The places of open requests. A request has its place from the call that sends it until it is
settled, it is over or it is given up, and a call that panics gives up the request that it was made
for. No other request has a place, so that a place is refused only when all are taken by requests
that are still to be settled. -/

namespace PreviewHub

namespace Machine

def issued? : Machine × Turn → Option Request
  | (m, .move (.call (.request _ timeout _))) =>
    if m.isOpen ∧ m.hub.started then
      match m.hub.pending.register with
      | .ok (id, _) => some (m.hub.requestOf id timeout)
      | .error _ => none
    else none
  | _ => none

def lost? : Machine × Move → Option Request
  | (m, .proceed) =>
    match m.agenda with
    | .awaitReply id timeout _ false :: _ => some (m.hub.timed id timeout)
    | _ => none
  | _ => none

/-- A turn that settles the request, ends it or gives it up. -/
def closes (r : Request) : Machine × Turn → Bool
  | (m, .move move) =>
    (decision? r (m, move)).isSome || (ending? r (m, move)).isSome || Drops r (m, move) ||
      lost? (m, move) = some r
  | (m, .breakOff) => m.brokenOff? = some r

/-- The requests that were sent and that no later turn closed. -/
def outstanding : List (Machine × Turn) → List Request
  | [] => []
  | s :: later =>
    (issued? s).toList.filter (fun r => !later.any (closes r)) ++ outstanding later

private theorem outstanding_concat (steps : List (Machine × Turn)) (s : Machine × Turn) :
    outstanding (steps ++ [s]) =
      (outstanding steps).filter (fun r => !closes r s) ++ (issued? s).toList := by
  induction steps with
  | nil => simp [outstanding]
  | cons first steps ih =>
    simp [outstanding, ih, List.filter_append, List.filter_filter, Bool.and_comm]

end Machine

private theorem Phase.settle_ne_waiting (phase : Phase) (outcome : Outcome) :
    phase.settle outcome ≠ .waiting := by
  intro h
  cases phase <;> cases h

private theorem Pending.Released.of_waiting {p q : Pending} {id other : RequestId}
    (hq : p.Released id q)
    (h : q.phase other = .waiting) : p.phase other = .waiting := by
  by_cases he : other = id
  · rw [he, hq.gone] at h
    cases h
  · rwa [hq.others other he] at h

/-- A hub that was built has room for some request. -/
theorem Hub.build_maxPending {options : Options} {own : Bool} {h : Hub}
    (hb : Hub.build options own = .ok h) : options.maxPending ≠ 0 := by
  intro hzero
  unfold build Options.check at hb
  rw [if_pos hzero] at hb
  by_cases hi : options.pollInterval = 0 ∧ own = false
  · rw [if_pos hi] at hb
    cases hb
  · rw [if_neg hi] at hb
    by_cases ht : options.responseTimeout = 0
    · rw [if_pos ht] at hb
      cases hb
    · rw [if_neg ht] at hb
      cases hb

private theorem Hub.unanswered_post (h : Hub) (id : PreviewId) (handle : Handle) (data : String)
    (answer : Answer) : .answered answer ∉ (h.perform (.post id handle data)).outputs := by
  simp only [perform]
  split <;> simp [callOut, postFailed]

private theorem Hub.unanswered_await (h : Hub) (id : RequestId) (timeout targets : Nat)
    (runtime : Bool)
    (answer : Answer) :
    .answered answer ∉ (h.perform (.awaitReply id timeout targets runtime)).outputs := by
  simp only [perform, awaitReply]
  split
  · split <;> simp [remarks]
  · simp [remarks]

namespace Machine

section
variable {m : Machine} {r : Request} {move : Move} {e : Effect} {used rest : List Task}

/-- Only the call that sends a request leaves one to wait for. -/
private theorem Works.outgoing_eq_nil (w : Works m move e used rest)
    (hn : ∀ message timeout runtime, move ≠ .call (.request message timeout runtime)) :
    outgoing m.hub.clock e.tasks = [] := by
  cases w.deals with
  | nothing quiet _ _ _ => exact quiet.outgoing _
  | issue message timeout runtime room posts targets plain hub tasks silent =>
    exact absurd rfl (hn message timeout runtime)
  | reply heard quiet => exact quiet.outgoing _
  | reject quiet => exact quiet.outgoing _
  | await id timeout targets runtime =>
    unfold Hub.awaitReply
    split
    · split <;> rfl
    · rfl
  | abandon held quiet => exact quiet.outgoing _
  | wake held concluded hub tasks outputs =>
    rw [tasks]
    rfl
  | elapse early quiet => exact quiet.outgoing _

/-- The request that a turn sends is the one that it leaves to wait for. -/
private theorem Works.issued_eq (w : Works m move e used rest) :
    (issued? (m, .move move)).toList = outgoing m.hub.clock e.tasks := by
  have none_of (hn : ∀ message timeout runtime, move ≠ .call (.request message timeout runtime))
      (hi : issued? (m, .move move) = none) :
      (issued? (m, .move move)).toList = outgoing m.hub.clock e.tasks := by
    rw [hi, w.outgoing_eq_nil hn]
    rfl
  cases w with
  | call op hopen =>
    cases op with
    | request message timeout runtime =>
      simp only [issued?, Hub.begin, Hub.request, hopen, true_and]
      cases m.hub.started with
      | false => rfl
      | true =>
        cases hreg : m.hub.pending.register with
        | error error => rfl
        | ok x =>
          simp only [if_true, outgoing_append, outgoing_plain (m.hub.postTasks_plain _)]
          rfl
    | _ => exact none_of (fun _ _ _ h => by cases h) rfl
  | _ => exact none_of (fun _ _ _ h => by cases h) rfl

/-- A request is sent by a call to a hub that is started and has a place for it. -/
private theorem exists_of_issued {turn : Turn} (hi : issued? (m, turn) = some r) :
    ∃ message timeout runtime id pending,
      turn = .move (.call (.request message timeout runtime)) ∧ m.isOpen ∧ m.hub.started ∧
        m.hub.pending.register = .ok (id, pending) ∧ r = m.hub.requestOf id timeout := by
  unfold issued? at hi
  split at hi
  · rename_i heq
    cases heq
    split at hi
    · rename_i hready
      split at hi
      · rename_i hreg
        exact ⟨_, _, _, _, _, rfl, hready.1, hready.2, hreg, (Option.some.inj hi).symm⟩
      · cases hi
    · cases hi
  · cases hi

/-- A request that is sent has an id of its own and waits. -/
private theorem issued_waits (hm : Orderly m) {turn : Turn} (hi : issued? (m, turn) = some r) :
    m.hub.pending.phase r.id = .unborn ∧ m.hub.pending.size < m.hub.pending.limit ∧
      (m.turn turn).1.hub.pending.phase r.id = .waiting ∧ r ∈ (m.turn turn).1.inFlight := by
  obtain ⟨message, timeout, runtime, id, pending, rfl, hopen, hs, hreg, hr⟩ := exists_of_issued hi
  obtain ⟨-, hid, hroom, -, hph⟩ := Pending.register_ok hm.sound hreg
  have w := Works.call (.request message timeout runtime) hopen
  have hsent := w.issued_eq
  rw [hi, Option.toList_some] at hsent
  refine ⟨(Pending.phase_eq_unborn_iff hm.sound).mpr fun hlt => ?_, hroom, ?_, ?_⟩
  · rw [hr] at hlt
    exact Nat.lt_irrefl _ (hid ▸ hlt.2)
  · rw [turn, w.step_eq, hr]
    simp only [take, Hub.begin, Hub.request, hs, hreg, if_true, hph]
    exact if_pos rfl
  · rw [turn, w.step_eq, inFlight, take, outgoing_append, w.clock_eq (by rintro ms ⟨⟩), ← hsent]
    exact List.mem_cons_self

end

inductive Fares (m : Machine) (r : Request) (turn : Turn) : Prop where
  | stays (spared : closes r (m, turn) = false)
      (phase : (m.turn turn).1.hub.pending.phase r.id = .waiting)
      (held : r ∈ (m.turn turn).1.inFlight)
  | leaves (closed : closes r (m, turn) = true)
      (phase : (m.turn turn).1.hub.pending.phase r.id ≠ .waiting)

section
variable {m : Machine} {r : Request} {move : Move} {e : Effect} {used rest : List Task}

private theorem fares_heeding (hw : m.hub.pending.phase r.id = .waiting)
    (hending : ending? r (m, move) = none) (hd : ¬ Drops r (m, move))
    (hl : lost? (m, move) ≠ some r) (held : r ∈ (m.step move).1.inFlight)
    (hph : (m.step move).1.hub.pending.phase r.id =
      (m.hub.pending.phase r.id).heed (decision? r (m, move))) :
    Fares m r (.move move) := by
  have hcloses : closes r (m, .move move) = (decision? r (m, move)).isSome := by
    simp [closes, hending, hd, hl]
  rw [hw] at hph
  cases hdec : decision? r (m, move) with
  | none =>
    rw [hdec] at hcloses hph
    exact .stays hcloses hph held
  | some outcome =>
    rw [hdec] at hcloses hph
    refine .leaves hcloses fun hwaits => ?_
    cases hph.symm.trans hwaits

private theorem fares_gone (hc : closes r (m, .move move))
    (hph : (m.step move).1.hub.pending.phase r.id = .gone) : Fares m r (.move move) := by
  refine .leaves hc fun hwaits => ?_
  cases hph.symm.trans hwaits

private theorem fares_ended {outcome : Outcome} (he : Ends m r move outcome) :
    Fares m r (.move move) :=
  fares_gone (by simp [closes, he.ending]) he.phase

/-- To discard a request that is in flight lets go of it, and of no other. -/
private theorem Orderly.discarded (hm : Orderly m) (hr : r ∈ m.inFlight) :
    m.hub.pending.Released r.id (m.hub.pending.discard r.id) :=
  Pending.discard_released hm.sound r.id (Phase.ne_unborn_of_isAlive (hm.alive r hr))

private theorem phase_of_drops (hm : Orderly m) (hd : Drops r (m, move)) :
    (m.step move).1.hub.pending.phase r.id = .gone := by
  obtain ⟨hmove, hopen, hmem⟩ := hd
  cases hmove
  rw [(Works.call (.abandon r.id) hopen).step_eq]
  have hany : (m.hub.requests.any fun q => q.id = r.id) = true :=
    List.any_eq_true.mpr ⟨r, hmem, decide_eq_true rfl⟩
  simp only [take, Hub.begin, Hub.abandon, hany, if_true]
  exact (hm.discarded (List.mem_append_right _ hmem)).gone

private theorem phase_of_lost (hm : Orderly m) {id : RequestId} {timeout targets : Nat}
    (h : m.agenda = .awaitReply id timeout targets false :: rest) :
    (m.step .proceed).1.hub.pending.phase id = .gone := by
  have w := Works.proceed _ _ h
  rw [w.step_eq]
  exact (hm.discarded (w.mem_inFlight (r := m.hub.timed id timeout) List.mem_cons_self)).gone

private theorem Works.fares_about (w : Works m move e used rest) (hm : Orderly m)
    (ha : About m r move e used) (hw : m.hub.pending.phase r.id = .waiting) :
    Fares m r (.move move) := by
  cases ha with
  | await id timeout targets runtime own =>
    have hagenda : m.agenda = .awaitReply id timeout targets runtime :: rest := w.agenda_eq
    cases runtime with
    | false =>
      have hlost : lost? (m, .proceed) = some r := by simp only [lost?, hagenda, own]
      have hgone := phase_of_lost hm hagenda
      exact fares_gone (by simp [closes, hlost]) (own ▸ hgone)
    | true =>
      have hheld : m.Holds r :=
        Or.inl ⟨id, timeout, targets, own, by rw [hagenda]; exact List.mem_cons_self⟩
      have hd : ¬ Drops r (m, .proceed) := fun hd => by cases hd.1
      rcases request_step hm hheld hd with hk | ⟨outcome, he⟩
      · refine fares_heeding hw hk.ending hd ?_ hk.held.mem_inFlight hk.phase
        simp [lost?, hagenda]
      · exact fares_ended he
  | abandon held =>
    have hopen : m.isOpen := by
      cases w with
      | call op hopen => exact hopen
    have hd : Drops r (m, .call (.abandon r.id)) := ⟨rfl, hopen, held⟩
    exact fares_gone (by simp [closes, hd]) (phase_of_drops hm hd)
  | wake held concluded hub outputs =>
    exact fares_ended (wake_own w hm held concluded hub outputs)

/-- Only the move that is about the request breaks it off. -/
private theorem exists_of_lost (hl : lost? (m, move) = some r) :
    move = .proceed ∧ ∃ id timeout targets rest, r = m.hub.timed id timeout ∧
      m.agenda = .awaitReply id timeout targets false :: rest := by
  unfold lost? at hl
  split at hl
  · rename_i heq
    cases heq
    split at hl
    · rename_i hagenda
      cases hl
      exact ⟨rfl, _, _, _, _, rfl, hagenda⟩
    · cases hl
  · cases hl

private theorem Works.fares_spared (w : Works m move e used rest) (hm : Orderly m)
    (hs : Spares m r move e used) (hr : r ∈ m.inFlight)
    (hw : m.hub.pending.phase r.id = .waiting) : Fares m r (.move move) := by
  have hph : (m.step move).1.hub.pending.phase r.id =
      (m.hub.pending.phase r.id).heed (decision? r (m, move)) := by
    rw [w.step_eq]
    exact hs.phase
  have hd : ¬ Drops r (m, move) := fun hd => by
    have hgone := phase_of_drops hm hd
    obtain ⟨hmove, -, -⟩ := hd
    cases hmove
    rw [hph, hw] at hgone
    cases hgone
  have hl : lost? (m, move) ≠ some r := fun hl => by
    obtain ⟨rfl, id, timeout, targets, rest', rfl, hagenda⟩ := exists_of_lost hl
    cases w with
    | proceed task rest h =>
      cases h.symm.trans hagenda
      exact hs.unused _ List.mem_cons_self rfl
  refine fares_heeding hw ((ending_of_works w hs.unused).trans hs.silent) hd hl ?_ hph
  rw [w.step_eq, inFlight, take, outgoing_append]
  rw [w.inFlight_eq] at hr
  rcases List.mem_append.mp hr with hmem | hmem
  · obtain ⟨t, ht, he⟩ := List.mem_filterMap.mp hmem
    exact absurd he (hs.unused t ht)
  · rcases List.mem_append.mp hmem with hmem | hmem
    · obtain ⟨t, ht, -⟩ := List.mem_filterMap.mp hmem
      rw [w.clock_eq_of_agenda (w.agenda_eq ▸ List.ne_nil_of_mem (List.mem_append_right _ ht))]
      exact List.mem_append_left _ (List.mem_append_right _ hmem)
    · exact List.mem_append_right _ (hs.requests hmem)

private theorem fares_impossible (hr : r ∈ m.inFlight) (hw : m.hub.pending.phase r.id = .waiting)
    (himpossible : ¬ ∃ e used rest, Works m move e used rest) : Fares m r (.move move) := by
  have hstep : m.step move = (m, []) := (m.step_cases move).resolve_right himpossible
  refine fares_heeding hw (ending_of_idle_step hstep) (fun hd => ?_) (fun hl => ?_) ?_ ?_
  · obtain ⟨hmove, hopen, -⟩ := hd
    cases hmove
    exact himpossible ⟨_, _, _, .call (.abandon r.id) hopen⟩
  · obtain ⟨rfl, id, timeout, targets, rest, -, hagenda⟩ := exists_of_lost hl
    exact himpossible ⟨_, _, _, .proceed _ _ hagenda⟩
  · rw [hstep]
    exact hr
  · rw [hstep, decision_of_impossible himpossible]
    rfl

private theorem fares_breakOff (hm : Orderly m) (hr : r ∈ m.inFlight)
    (hw : m.hub.pending.phase r.id = .waiting) : Fares m r .breakOff := by
  have hb := m.breakOff_breaks
  have hcloses : closes r (m, .breakOff) = decide (m.brokenOff? = some r) := rfl
  have hpending := congrArg Hub.pending hb.hub
  cases hl : m.brokenOff? with
  | none =>
    rw [hl] at hcloses hpending
    refine .stays hcloses (by rw [turn, hpending]; exact hw) ?_
    rw [hb.inFlight, hl] at hr
    exact hr
  | some q =>
    rw [hl] at hcloses hpending
    have hq : q ∈ m.inFlight := mem_inFlight_of_brokenOff hl
    by_cases he : r = q
    · subst he
      refine .leaves (hcloses.trans (decide_eq_true rfl)) fun hph => ?_
      rw [turn, hpending, Option.elim_some, (hm.discarded hq).gone] at hph
      cases hph
    · have hid : r.id ≠ q.id := fun h => he (hm.eq_of_id hr hq h)
      have hother : some q ≠ some r := fun h => he (Option.some.inj h).symm
      refine .stays (hcloses.trans (decide_eq_false hother)) ?_ ?_
      · rw [turn, hpending]
        exact ((hm.discarded hq).others r.id hid).trans hw
      · rw [hb.inFlight, hl] at hr
        exact (List.mem_cons.mp hr).resolve_left he

/-- A request that waits stays in its place, unless the turn closes it. -/
private theorem fares_turn (hm : Orderly m) (hr : r ∈ m.inFlight)
    (hw : m.hub.pending.phase r.id = .waiting) (turn : Turn) : Fares m r turn := by
  cases turn with
  | move move =>
    by_cases hpossible : ∃ e used rest, Works m move e used rest
    · obtain ⟨e, used, rest, w⟩ := hpossible
      rcases w.about_or_spares hm (Or.inl hr) with ha | hs
      · exact w.fares_about hm ha hw
      · exact w.fares_spared hm hs hr hw
    · exact fares_impossible hr hw hpossible
  | breakOff => exact fares_breakOff hm hr hw

/-- Only the call that sends a request makes it wait. -/
private theorem Works.waiting_cases (w : Works m move e used rest) (hm : Orderly m) {id : RequestId}
    (h : e.hub.pending.phase id = .waiting) :
    m.hub.pending.phase id = .waiting ∨ id ∈ (issued? (m, .move move)).toList.map (·.id) := by
  cases w.deals with
  | nothing quiet _ _ _ =>
    rw [quiet.pending] at h
    exact Or.inl h
  | @issue message timeout runtime other pending _ room posts targets plain hub tasks silent =>
    obtain ⟨-, -, -, -, hph⟩ := Pending.register_ok hm.sound room
    rw [hub] at h
    by_cases he : id = other
    · rw [w.issued_eq, tasks, outgoing_append, outgoing_plain plain, he]
      exact Or.inr List.mem_cons_self
    · exact Or.inl (((hph id).trans (if_neg he)).symm.trans h)
  | @reply other payload _ heard quiet =>
    obtain ⟨-, -, -, hph⟩ := Pending.resolve_spec hm.sound other payload
    rw [quiet.pending] at h
    by_cases he : id = other
    · exact absurd (((hph id).trans (if_pos he)).symm.trans h) (Phase.settle_ne_waiting _ _)
    · exact Or.inl (((hph id).trans (if_neg he)).symm.trans h)
  | reject quiet =>
    obtain ⟨-, -, hph⟩ := Pending.rejectAll_spec hm.sound .closing
    rw [quiet.pending] at h
    exact absurd ((hph id).symm.trans h) (Phase.settle_ne_waiting _ _)
  | await other timeout targets runtime =>
    have hr : m.hub.timed other timeout ∈ m.inFlight := w.mem_inFlight List.mem_cons_self
    unfold Hub.awaitReply at h
    split at h
    · rcases Hub.conclude_cases hm.sound (hm.alive _ hr) with ⟨o, q, rs, hc, hq, -⟩ | ⟨hc, -, -⟩
      · rw [hc] at h
        exact Or.inl (hq.of_waiting h)
      · rw [hc] at h
        exact Or.inl h
    · exact Or.inl ((hm.discarded hr).of_waiting h)
  | @abandon r _ held quiet =>
    rw [quiet.pending] at h
    exact Or.inl ((hm.discarded (List.mem_append_right _ held)).of_waiting h)
  | @wake r _ _ _ _ held concluded hub tasks outputs =>
    have ha := hm.alive r (List.mem_append_right _ held)
    obtain ⟨q, rfl, hq, -⟩ := Hub.conclude_some hm.sound ha concluded
    rw [hub] at h
    exact Or.inl (hq.of_waiting h)
  | elapse early quiet =>
    rw [quiet.pending] at h
    exact Or.inl h

end

section
variable {m : Machine} {turn : Turn}

/-- Only a turn that sends a request makes it wait. -/
private theorem waiting_turn (hm : Orderly m) {id : RequestId}
    (h : (m.turn turn).1.hub.pending.phase id = .waiting) :
    m.hub.pending.phase id = .waiting ∨ id ∈ (issued? (m, turn)).toList.map (·.id) := by
  cases turn with
  | move move =>
    rw [Machine.turn] at h
    rcases m.step_cases move with hn | ⟨e, used, rest, w⟩
    · rw [hn] at h
      exact Or.inl h
    · rw [w.step_eq] at h
      exact w.waiting_cases hm h
  | breakOff =>
    have hb := m.breakOff_breaks
    rw [Machine.turn, hb.hub] at h
    cases hl : m.brokenOff? with
    | none =>
      rw [hl] at h
      exact Or.inl h
    | some q =>
      rw [hl] at h
      exact Or.inl ((hm.discarded (mem_inFlight_of_brokenOff hl)).of_waiting h)

end

structure Books (limit : Nat) (m : Machine) (alive : List Request) : Prop where
  nodup : (alive.map (·.id)).Nodup
  held : ∀ r ∈ alive, r ∈ m.inFlight
  waiting : ∀ id, m.hub.pending.phase id = .waiting ↔ id ∈ alive.map (·.id)
  room : alive.length ≤ limit

section
variable {limit : Nat} {m : Machine} {alive : List Request}

private theorem Books.perm (hb : Books limit m alive) (hm : Orderly m) :
    m.hub.pending.waiting.Perm (alive.map (·.id)) :=
  (List.perm_ext_iff_of_nodup hm.sound.nodup hb.nodup).mpr fun id =>
    (Pending.phase_eq_waiting_iff hm.sound).symm.trans (hb.waiting id)

private theorem Books.size_eq (hb : Books limit m alive) (hm : Orderly m) :
    m.hub.pending.size = alive.length :=
  (hb.perm hm).length_eq.trans (List.length_map _)

private theorem Books.fares (hb : Books limit m alive) (hm : Orderly m) (turn : Turn) {r : Request}
    (hr : r ∈ alive) : Fares m r turn :=
  fares_turn hm (hb.held r hr) ((hb.waiting r.id).mpr (List.mem_map_of_mem hr)) turn

/-- Those that a turn does not close keep their places. -/
private theorem Books.spared (hb : Books limit m alive) (hm : Orderly m) {turn : Turn} {r : Request}
    (hr : r ∈ alive.filter fun r => !closes r (m, turn)) :
    (m.turn turn).1.hub.pending.phase r.id = .waiting ∧ r ∈ (m.turn turn).1.inFlight := by
  obtain ⟨hmem, hspared⟩ := List.mem_filter.mp hr
  cases hb.fares hm turn hmem with
  | stays _ phase held => exact ⟨phase, held⟩
  | leaves closed _ =>
    rw [closed] at hspared
    cases hspared

/-- The id of a request that is sent was not given out before. -/
private theorem Books.nodup_turn (hb : Books limit m alive) (hm : Orderly m) (turn : Turn) :
    ((alive.filter (fun r => !closes r (m, turn)) ++ (issued? (m, turn)).toList).map
      (·.id)).Nodup := by
  rw [List.map_append]
  refine List.nodup_append.mpr ⟨(List.filter_sublist.map _).nodup hb.nodup, ?_, ?_⟩
  · cases issued? (m, turn) with
    | none => exact List.nodup_nil
    | some r => exact List.nodup_singleton _
  · rintro id hold other hnew rfl
    obtain ⟨r, hr, rfl⟩ := List.mem_map.mp hnew
    have hwaits := (hb.waiting r.id).mpr ((List.filter_sublist.map _).subset hold)
    rw [(issued_waits hm (Option.mem_toList.mp hr)).1] at hwaits
    cases hwaits

private theorem Books.room_turn (hb : Books limit m alive) (hm : Orderly m)
    (hl : m.hub.pending.limit = limit) (turn : Turn) :
    (alive.filter (fun r => !closes r (m, turn)) ++ (issued? (m, turn)).toList).length ≤ limit := by
  have hfewer := List.length_filter_le (fun r => !closes r (m, turn)) alive
  rw [List.length_append]
  cases hi : issued? (m, turn) with
  | none => exact Nat.le_trans hfewer hb.room
  | some r =>
    have hroom := (issued_waits hm hi).2.1
    rw [hb.size_eq hm, hl] at hroom
    exact Nat.le_trans (Nat.add_le_add_right hfewer 1) hroom

private theorem books_turn (hb : Books limit m alive) (hm : Orderly m)
    (hl : m.hub.pending.limit = limit)
    (turn : Turn) :
    Books limit (m.turn turn).1
      (alive.filter (fun r => !closes r (m, turn)) ++ (issued? (m, turn)).toList) := by
  refine ⟨hb.nodup_turn hm turn, fun r hr => ?_, fun id => ⟨fun h => ?_, fun h => ?_⟩,
    hb.room_turn hm hl turn⟩
  · rcases List.mem_append.mp hr with hr | hr
    · exact (hb.spared hm hr).2
    · exact (issued_waits hm (Option.mem_toList.mp hr)).2.2.2
  · rw [List.map_append]
    rcases waiting_turn hm h with hold | hnew
    · obtain ⟨r, hr, rfl⟩ := List.mem_map.mp ((hb.waiting id).mp hold)
      cases hb.fares hm turn hr with
      | stays spared _ _ =>
        refine List.mem_append_left _ (List.mem_map_of_mem (List.mem_filter.mpr ⟨hr, ?_⟩))
        simp [spared]
      | leaves _ phase => exact absurd h phase
    · exact List.mem_append_right _ hnew
  · obtain ⟨r, hr, rfl⟩ := List.mem_map.mp h
    rcases List.mem_append.mp hr with hr | hr
    · exact (hb.spared hm hr).1
    · exact (issued_waits hm (Option.mem_toList.mp hr)).2.2.1

end

theorem steady_new {options : Options} {own : Bool} {h : Hub}
    (hb : Hub.build options own = .ok h) : Steady options.maxPending ⟨h, []⟩ := by
  refine ⟨orderly_new hb, (coherent_new hb).gated, ?_, ?_⟩ <;> rw [(Hub.build_ok hb).1]
  · exact fun _ => ⟨rfl, rfl⟩
  · rfl

/-- After every course of turns the machine is in good order, and its books are those of the
requests that are outstanding. -/
theorem books_after {m : Machine} {limit : Nat} (hm : Steady limit m) (hb : Books limit m [])
    (turns : List Turn) :
    Steady limit (m.after turns) ∧ Books limit (m.after turns) (outstanding (m.course turns)) := by
  induction turns using List.reverseRecOn with
  | nil => exact ⟨hm, hb⟩
  | append_singleton turns turn ih =>
    obtain ⟨hs, hbooks⟩ := ih
    rw [after_concat, course_concat, outstanding_concat]
    exact ⟨steady_turn hs turn, books_turn hbooks hs.orderly hs.limit turn⟩

section
variable {m : Machine} {message : Message} {timeout : Option Nat} {runtime : Bool}

/-- A request is refused at once, because the hub is not started or because there is no place. -/
theorem answered_request_iff (hopen : m.isOpen) (error : Error) :
    .answered (.failed error) ∈ (m.run [.call (.request message timeout runtime), .proceed]).2 ↔
      m.hub.started = false ∧ error = .notStarted ∨
        m.hub.started ∧ m.hub.pending.register = .error error := by
  rw [run_cons, (Works.call (.request message timeout runtime) hopen).step_eq]
  simp only [Hub.begin, Hub.request]
  cases m.hub.started with
  | false => simp [take, run, step, Hub.perform, eq_comm]
  | true =>
    cases hreg : m.hub.pending.register with
    | error refusal => simp [take, run, step, Hub.perform, eq_comm]
    | ok x =>
      cases hp : m.hub.registry.endpoints with
      | nil => simpa [take, run, step, Hub.postTasks, hp] using Hub.unanswered_await _ _ _ _ _ _
      | cons first rest =>
        simpa [take, run, step, Hub.postTasks, hp] using Hub.unanswered_post _ _ _ _ _

/-- A request is sent if the hub is started and there is a place for it. -/
theorem isSome_issued_iff (hopen : m.isOpen) :
    (issued? (m, .move (.call (.request message timeout runtime)))).isSome ↔
      m.hub.started ∧ m.hub.pending.size < m.hub.pending.limit := by
  simp only [issued?, hopen, true_and]
  cases m.hub.started with
  | false => simp
  | true =>
    by_cases hfull : m.hub.pending.limit ≤ m.hub.pending.size
    · simp [Pending.register, hfull]
    · simp [Pending.register, hfull, Nat.lt_of_not_le hfull]

end

private theorem Steady.size_of_unstarted {m : Machine} {limit : Nat} (hm : Steady limit m)
    (hs : m.hub.started = false) : m.hub.pending.size = 0 := by
  rw [(hm.unused hs).1]
  rfl

/-- The open requests are those that were sent and were not settled, ended or given up since. They
are never more than allowed, and a request is turned away for want of a place just when they are as
many as that. -/
theorem pending_are_outstanding (options : Options) (own : Bool) (h : Hub)
    (hb : Hub.build options own = .ok h) (turns : List Turn) :
    let m := Machine.after ⟨h, []⟩ turns
    let alive := outstanding (Machine.course ⟨h, []⟩ turns)
    m.hub.pending.waiting.Perm (alive.map (·.id)) ∧ (alive.map (·.id)).Nodup ∧
      alive.length ≤ options.maxPending ∧
      (m.isOpen → ∀ message timeout runtime,
        (.answered (.failed (.protocol ("Too many pending requests: " ++
            toString options.maxPending ++ "/" ++ toString options.maxPending))) ∈
              (m.run [.call (.request message timeout runtime), .proceed]).2 ↔
          alive.length = options.maxPending) ∧
        ((issued? (m, .move (.call (.request message timeout runtime)))).isSome ↔
          m.hub.started ∧ alive.length < options.maxPending)) := by
  intro m alive
  have hempty : Books options.maxPending ⟨h, []⟩ [] := by
    refine ⟨List.nodup_nil, List.forall_mem_nil _, fun id => ?_, Nat.zero_le _⟩
    rw [(Hub.build_ok hb).1]
    refine ⟨fun hw => ?_, fun hm => absurd hm List.not_mem_nil⟩
    have hunborn := (Pending.phase_new _ id).symm.trans hw
    cases hunborn
  obtain ⟨hm, hbooks⟩ : Steady options.maxPending m ∧ Books options.maxPending m alive :=
    books_after (steady_new hb) hempty turns
  have hsize : m.hub.pending.size = alive.length := hbooks.size_eq hm.orderly
  refine ⟨hbooks.perm hm.orderly, hbooks.nodup, hbooks.room, fun hopen message timeout runtime =>
    ⟨?_, ?_⟩⟩
  · rw [answered_request_iff hopen, Pending.register_eq_error_iff, Pending.refusal, hsize, hm.limit]
    constructor
    · rintro (⟨-, hne⟩ | ⟨-, hfull, -⟩)
      · cases hne
      · exact Nat.le_antisymm hbooks.room hfull
    · intro hfull
      have hs : m.hub.started := by
        by_contra hn
        have hnone := hm.size_of_unstarted (Bool.eq_false_iff.mpr hn)
        exact absurd (hfull.symm.trans (hsize.symm.trans hnone)) (Hub.build_maxPending hb)
      exact Or.inr ⟨hs, Nat.le_of_eq hfull.symm, by rw [hfull]⟩
  · rw [isSome_issued_iff hopen, hsize, hm.limit]

/-- Of four requests one is given up, one is lost to a panic, one waits and one is being posted:
both places are taken. -/
theorem pending_are_outstanding_after_panic :
    let turns : List Turn :=
      [.move (.call (.start "https://a" true)), .move .proceed, .move .proceed,
        .move (.call (.registerWindow ⟨"game"⟩ true)), .move .proceed, .move .proceed,
        .move .proceed, .move (.call (.request {} none true)), .move .proceed, .move (.reply .done),
        .move .proceed, .move .proceed, .move (.call (.abandon 1)), .move .proceed,
        .move (.call (.request {} none true)), .move .proceed, .breakOff,
        .move (.call (.request {} none true)), .move .proceed, .move (.reply .done), .move .proceed,
        .move .proceed, .move (.call (.request {} none true)), .move .proceed]
    let m := Machine.after ⟨Hub.new { maxPending := 2 } (.polling {}), []⟩ turns
    m.hub.pending.waiting.Perm [3, 4] ∧
      .answered (.failed (.protocol "Too many pending requests: 2/2")) ∈
        (m.run [.call (.request {} none true), .proceed]).2 := by
  intro turns m
  have halive : (outstanding (Machine.course
      ⟨Hub.new { maxPending := 2 } (.polling {}), []⟩ turns)).map (·.id) = [3, 4] := by
    decide +kernel
  have hopen : m.isOpen := by decide +kernel
  clear_value turns
  obtain ⟨hperm, -, -, hrefused⟩ := pending_are_outstanding { maxPending := 2 } false
    (Hub.new { maxPending := 2 } (.polling {})) rfl turns
  rw [halive] at hperm
  exact ⟨hperm, (hrefused hopen {} none true).1.mpr (by simpa using congrArg List.length halive)⟩

end Machine

end PreviewHub
