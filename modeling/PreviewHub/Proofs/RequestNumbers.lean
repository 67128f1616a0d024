import PreviewHub.Proofs.RequestMachines

/-! The numbers of requests. They are given out one after the other, whatever becomes of the
requests, and a registration is refused just when as many requests wait as may. -/

namespace PreviewHub

namespace Pending

def given? : Act × Response → Option RequestId
  | (_, .registered id) => some id
  | _ => none

def given (entries : List (Act × Response)) : List RequestId := entries.filterMap given?

/-- What an act does to those who wait: it adds a new one if there is room, is refused if there is
none, or adds nobody. -/
inductive Acts (p : Pending) : Act → Response → Pending → Prop where
  | registered {q : Pending} (room : p.size < p.limit) (limit : q.limit = p.limit)
      (next : q.nextId = p.nextId + 1) (waiting : q.waiting = p.waiting ++ [p.nextId]) :
      Acts p .register (.registered p.nextId) q
  | refused (full : p.limit ≤ p.size) : Acts p .register (.refused p.refusal) p
  | other {a : Act} {x : Response} {q : Pending} (silent : given? (a, x) = none)
      (limit : q.limit = p.limit) (next : q.nextId = p.nextId)
      (waiting : q.waiting.Sublist p.waiting) : Acts p a x q

private theorem collect_keeps (p : Pending) (id : RequestId) :
    (p.collect id).2.limit = p.limit ∧ (p.collect id).2.nextId = p.nextId ∧
      (p.collect id).2.waiting = p.waiting := by
  unfold collect
  split
  · exact ⟨rfl, rfl, rfl⟩
  · exact ⟨rfl, rfl, rfl⟩
  · split <;> exact ⟨rfl, rfl, rfl⟩
  · exact ⟨rfl, rfl, rfl⟩

private theorem act_acts (p : Pending) (a : Act) : p.Acts a (p.act a).1 (p.act a).2 := by
  cases a with
  | register =>
    by_cases full : p.limit ≤ p.size
    · have hact : p.act .register = (.refused p.refusal, p) := by simp [act, register, full]
      rw [hact]
      exact .refused full
    · simp only [act, register, if_neg full]
      exact .registered (Nat.lt_of_not_le full) rfl rfl rfl
  | resolve id reply =>
    simp only [act, resolve]
    split
    · exact .other rfl rfl rfl List.erase_sublist
    · exact .other rfl rfl rfl (List.Sublist.refl _)
  | remove id =>
    simp only [act, remove]
    split
    · exact .other rfl rfl rfl List.erase_sublist
    · exact .other rfl rfl rfl (List.Sublist.refl _)
  | rejectAll error => exact .other rfl rfl rfl (List.nil_sublist _)
  | look id =>
    obtain ⟨hlimit, hnext, hwaiting⟩ := p.collect_keeps id
    exact .other rfl hlimit hnext (hwaiting ▸ List.Sublist.refl _)
  | drop id => exact .other rfl rfl rfl List.erase_sublist

section
variable {p q : Pending} {a : Act} {x : Response}

private theorem Acts.limit_eq (h : Acts p a x q) : q.limit = p.limit := by
  cases h with
  | registered _ limit _ _ => exact limit
  | refused _ => rfl
  | other _ limit _ _ => exact limit

/-- Nobody is added beyond the limit. -/
theorem Acts.size_le (h : Acts p a x q) (hp : p.size ≤ p.limit) : q.size ≤ q.limit := by
  rw [h.limit_eq]
  cases h with
  | registered room _ _ waiting =>
    rw [size, waiting, List.length_append]
    exact room
  | refused _ => exact hp
  | other _ _ _ waiting => exact Nat.le_trans waiting.length_le hp

/-- An act gives out the next number or none. -/
private theorem Acts.numbers_eq (h : Acts p a x q) :
    (given? (a, x)).toList = List.range' p.nextId (given? (a, x)).toList.length ∧
      q.nextId = p.nextId + (given? (a, x)).toList.length := by
  cases h with
  | registered _ _ next _ => exact ⟨rfl, next⟩
  | refused _ => exact ⟨rfl, rfl⟩
  | other silent _ next _ =>
    rw [silent]
    exact ⟨rfl, next⟩

end

/-- Never do more requests wait than may. -/
theorem size_after {p : Pending} (hp : p.size ≤ p.limit) (acts : List Act) :
    (p.after acts).size ≤ (p.after acts).limit ∧ (p.after acts).limit = p.limit := by
  induction acts generalizing p with
  | nil => exact ⟨hp, rfl⟩
  | cons a acts ih =>
    have hacts := p.act_acts a
    obtain ⟨hsize, hlimit⟩ := ih (hacts.size_le hp)
    exact ⟨hsize, hlimit.trans hacts.limit_eq⟩

/-- The numbers that a sequence of acts gives out follow each other, and the next one follows
them. -/
theorem given_after (p : Pending) (acts : List Act) :
    given (p.history acts) = List.range' p.nextId (given (p.history acts)).length ∧
      (p.after acts).nextId = p.nextId + (given (p.history acts)).length := by
  induction acts generalizing p with
  | nil => exact ⟨rfl, rfl⟩
  | cons a acts ih =>
    obtain ⟨hfirst, hnext⟩ := (p.act_acts a).numbers_eq
    obtain ⟨hlater, hnext'⟩ := ih (p.act a).2
    have hsplit : given (p.history (a :: acts)) =
        (given? (a, (p.act a).1)).toList ++ given ((p.act a).2.history acts) := by
      simp only [given, history, List.filterMap_cons]
      cases given? (a, (p.act a).1) <;> rfl
    rw [hnext] at hlater hnext'
    rw [hsplit, List.length_append]
    constructor
    · rw [← List.range'_append_1, ← hfirst, ← hlater]
    · rw [after, hnext', Nat.add_assoc]

/-- Whatever is done to a set of requests that was empty: those that wait are all different, are
among those that were registered and are never more than the limit. The registrations that succeed
are numbered 1, 2, 3 and so on, so that no number is given out twice. One fails if and only if
exactly as many requests wait as may; that changes nothing. Any other gets the number that follows
those given out so far, which no request that waits has, and adds it to them. -/
theorem registrations_are_numbered (limit : Nat) (acts : List Act) :
    let p := after { limit } acts
    let ids := given (history { limit } acts)
    (p.waiting.Nodup ∧ (∀ id ∈ p.waiting, id ∈ ids) ∧ p.size ≤ limit) ∧
    (ids = List.range' 1 ids.length ∧ ids.Nodup) ∧
    ((∃ e, p.register = .error e) ↔ p.size = limit) ∧
    (∀ e, p.register = .error e →
      e = .protocol ("Too many pending requests: " ++ toString limit ++ "/" ++ toString limit) ∧
        p.act .register = (.refused e, p)) ∧
    ∀ id q, p.register = .ok (id, q) →
      p.act .register = (.registered id, q) ∧ id = ids.length + 1 ∧ id ∉ ids ∧ id ∉ p.waiting ∧
        q.waiting = p.waiting ++ [id] := by
  intro p ids
  have hp : p.Sound := (after_simulates (sound_new limit) acts).1
  obtain ⟨hsize, hlimit⟩ : p.size ≤ p.limit ∧ p.limit = limit :=
    size_after (p := { limit }) (Nat.zero_le _) acts
  obtain ⟨hids, hnext⟩ : ids = List.range' 1 ids.length ∧ p.nextId = 1 + ids.length :=
    given_after { limit } acts
  have hissued (id : RequestId) : id ∈ ids ↔ 0 < id ∧ id < p.nextId := by
    rw [hids, List.mem_range'_1, hnext]
    rfl
  have hfull : (∃ e, p.register = .error e) ↔ p.size = limit := by
    constructor
    · rintro ⟨e, he⟩
      exact Nat.le_antisymm (hlimit ▸ hsize) (hlimit ▸ (register_eq_error_iff.mp he).1)
    · intro heq
      exact ⟨p.refusal, register_eq_error_iff.mpr ⟨Nat.le_of_eq (hlimit.trans heq.symm), rfl⟩⟩
  refine ⟨⟨hp.nodup, fun id hw => ?_, hlimit ▸ hsize⟩, ⟨hids, ?_⟩, hfull, fun e he => ?_,
    fun id q hr => ?_⟩
  · exact (hissued id).mpr (hp.issued id (by rw [hp.blank id hw]; exact Option.some_ne_none _))
  · rw [hids]
    exact List.nodup_range'
  · refine ⟨?_, by simp only [act, he]⟩
    rw [(register_eq_error_iff.mp he).2, refusal, hfull.mp ⟨e, he⟩, hlimit]
  · have hact : p.act .register = (.registered id, q) := by simp only [act, hr]
    have hacts := p.act_acts .register
    rw [hact] at hacts
    cases hacts with
    | registered _ _ _ waiting =>
      refine ⟨hact, hnext.trans (Nat.add_comm _ _), fun hi => ?_, fun hw => ?_, waiting⟩
      · exact Nat.lt_irrefl _ ((hissued _).mp hi).2
      · exact Nat.lt_irrefl _ (hp.lt_of_waiting hw)
    | other silent _ _ _ => cases silent

/-- With room for two, the third registration is refused until the first request is answered, and
again until the others are rejected. -/
theorem registrations_are_numbered_at_limit :
    let full : List Act := [.register, .register, .register, .resolve 1 .null, .register, .register]
    let acts := full ++ [.look 1, .drop 1, .rejectAll .closing, .remove 2]
    given (history { limit := 2 } acts) = [1, 2, 3] ∧
      (after { limit := 2 } full).register =
        .error (.protocol ("Too many pending requests: " ++ toString 2 ++ "/" ++ toString 2)) ∧
      ∃ q, (after { limit := 2 } acts).act .register = (.registered 4, q) ∧ q.waiting = [4] := by
  intro full acts
  have hids : given (history { limit := 2 } acts) = [1, 2, 3] := by decide
  have hempty : (after { limit := 2 } acts).waiting = [] := by decide
  obtain ⟨-, -, hfull, hrefused, -⟩ := registrations_are_numbered 2 full
  obtain ⟨-, -, hroom, -, hgiven⟩ := registrations_are_numbered 2 acts
  refine ⟨hids, ?_, ?_⟩
  · obtain ⟨e, he⟩ := hfull.mpr (by decide)
    rw [he, (hrefused e he).1]
  · cases hr : (after { limit := 2 } acts).register with
    | error e =>
      have hsize := hroom.mp ⟨e, hr⟩
      rw [size, hempty] at hsize
      cases hsize
    | ok answer =>
      obtain ⟨hact, hid, -, -, hwaiting⟩ := hgiven answer.1 answer.2 hr
      rw [hids] at hid
      rw [hid] at hact hwaiting
      rw [hempty] at hwaiting
      exact ⟨answer.2, hact, hwaiting⟩

end Pending

end PreviewHub
