import PreviewHub.Request.Pending

/-! The life of one request, read off the whole set. Every operation moves the phase of the requests
that it acts on and of no other; later proofs use these laws and never look at the lists again. -/

namespace PreviewHub

/-- Where one request stands. -/
inductive Phase where
  /-- Its id has not been given out. -/
  | unborn
  | waiting
  /-- It was taken out, and its outcome has not been collected. -/
  | over (outcome : Outcome)
  | spent
  /-- Its ticket was thrown away. -/
  | gone
  deriving DecidableEq, Repr

namespace Phase

def settle (outcome : Outcome) : Phase → Phase
  | .waiting => .over outcome
  | phase => phase

def collect : Phase → Phase
  | .over _ => .spent
  | phase => phase

def discard : Phase → Phase
  | .unborn => .unborn
  | _ => .gone

def glance (id : RequestId) : Phase → Glance
  | .waiting => .waiting
  | .over outcome => .over outcome
  | _ => .over (.failed (Pending.spentError id))

theorem settle_of_ne {phase : Phase} (h : phase ≠ .waiting) (outcome : Outcome) :
    phase.settle outcome = phase := by
  cases phase with
  | waiting => exact absurd rfl h
  | _ => rfl

theorem discard_of_ne {phase : Phase} (h : phase ≠ .unborn) : phase.discard = .gone := by
  cases phase with
  | unborn => exact absurd rfl h
  | _ => rfl

end Phase

namespace Pending

structure Sound (p : Pending) : Prop where
  positive : 0 < p.nextId
  nodup : p.waiting.Nodup
  blank : ∀ id ∈ p.waiting, p.ticket? id = some .blank
  issued : ∀ id, p.ticket? id ≠ none → 0 < id ∧ id < p.nextId

def phase (p : Pending) (id : RequestId) : Phase :=
  match p.ticket? id with
  | some .blank => if id ∈ p.waiting then .waiting else .over (.failed .channelClosed)
  | some (.settled outcome) => .over outcome
  | some .spent => .spent
  | none => if 0 < id ∧ id < p.nextId then .gone else .unborn

theorem sound_new (limit : Nat) : Sound { limit } where
  positive := Nat.one_pos
  nodup := List.nodup_nil
  blank _ h := absurd h List.not_mem_nil
  issued _ h := absurd rfl h

theorem phase_new (limit : Nat) (id : RequestId) : phase { limit } id = .unborn :=
  if_neg fun h : 0 < id ∧ id < 1 => absurd h.1 (Nat.not_lt.mpr (Nat.le_of_lt_succ h.2))

section
variable {p : Pending} {id : RequestId}

theorem Sound.lt_of_waiting (hp : p.Sound) (h : id ∈ p.waiting) : id < p.nextId :=
  (hp.issued id (by simp [hp.blank id h])).2

private theorem Sound.ticket_nextId (hp : p.Sound) : p.ticket? p.nextId = none := by
  by_cases h : p.ticket? p.nextId = none
  · exact h
  · exact absurd (hp.issued _ h).2 (Nat.lt_irrefl _)

theorem phase_eq_waiting_iff (hp : p.Sound) : p.phase id = .waiting ↔ id ∈ p.waiting := by
  constructor
  · intro h
    unfold phase at h
    split at h
    · by_cases hw : id ∈ p.waiting
      · exact hw
      · rw [if_neg hw] at h
        cases h
    · cases h
    · cases h
    · split at h <;> cases h
  · intro h
    simp [phase, hp.blank id h, h]

theorem phase_eq_unborn_iff (hp : p.Sound) : p.phase id = .unborn ↔ ¬ (0 < id ∧ id < p.nextId) := by
  have hi := hp.issued id
  unfold phase
  cases ht : p.ticket? id with
  | none => simp
  | some t =>
    have := hi (by simp [ht])
    cases t with
    | blank => by_cases hw : id ∈ p.waiting <;> simp [hw, this]
    | settled o => simp [this]
    | spent => simp [this]

private theorem phase_of_blank (ht : p.ticket? id = some .blank) (hw : id ∈ p.waiting) :
    p.phase id = .waiting := by
  simp [phase, ht, hw]

private theorem phase_of_removed (ht : p.ticket? id = some .blank) (hw : id ∉ p.waiting) :
    p.phase id = .over (.failed .channelClosed) := by
  simp [phase, ht, hw]

private theorem phase_of_settled {outcome : Outcome} (ht : p.ticket? id = some (.settled outcome)) :
    p.phase id = .over outcome := by
  simp [phase, ht]

private theorem phase_congr {q : Pending} (ht : q.ticket? id = p.ticket? id)
    (hw : id ∈ q.waiting ↔ id ∈ p.waiting) (hn : id < q.nextId ↔ id < p.nextId) :
    q.phase id = p.phase id := by
  simp [phase, ht, hw, hn]

end

/-! Tickets after each operation. -/

private theorem ticket?_setTicket (p : Pending) (id other : RequestId) (t : Ticket) :
    (p.setTicket id t).ticket? other =
      if other = id then (p.ticket? id).map fun _ => t else p.ticket? other := by
  unfold setTicket ticket?
  induction p.tickets with
  | nil => simp
  | cons entry rest ih =>
    simp only [List.map_cons, List.find?_cons]
    by_cases he : entry.1 = id
    · by_cases ho : other = id
      · simp [he, ho]
      · have hne : ¬ id = other := fun h => ho h.symm
        simpa [he, ho, hne] using ih
    · by_cases ho : entry.1 = other
      · have hne : ¬ other = id := fun h => he (ho.trans h)
        simp [ho, hne]
      · simpa [he, ho] using ih

private theorem ticket?_register {p q : Pending} {id : RequestId} (hp : p.Sound)
    (h : p.register = .ok (id, q)) (other : RequestId) :
    q.ticket? other = if other = id then some .blank else p.ticket? other := by
  have hn := hp.ticket_nextId
  rw [register] at h
  split at h
  · cases h
  · cases h
    unfold ticket? at *
    rw [Option.map_eq_none_iff] at hn
    simp only [List.find?_append]
    by_cases ho : other = p.nextId
    · subst ho
      simp [hn]
    · have hne : ¬ p.nextId = other := fun h => ho h.symm
      simp [ho, hne]

private theorem ticket?_rejectAll (p : Pending) (error : Error) (id : RequestId) :
    (p.rejectAll error).2.ticket? id =
      (p.ticket? id).map fun t => if id ∈ p.waiting then .settled (.failed error) else t := by
  unfold rejectAll ticket?
  generalize p.waiting = waiting
  induction p.tickets with
  | nil => simp
  | cons entry rest ih =>
    simp only [List.map_cons, List.find?_cons]
    by_cases he : entry.1 = id
    · by_cases hw : id ∈ waiting <;> simp [he, hw]
    · by_cases hw : entry.1 ∈ waiting <;> simpa [he, hw] using ih

private theorem ticket?_discard (p : Pending) (id other : RequestId) :
    (p.discard id).ticket? other = if other = id then none else p.ticket? other := by
  unfold discard ticket?
  induction p.tickets with
  | nil => simp
  | cons entry rest ih =>
    by_cases he : entry.1 = id
    · by_cases ho : other = id
      · simp [he, ho]
      · have hne : ¬ id = other := fun h => ho h.symm
        simpa [he, ho, hne] using ih
    · by_cases ho : entry.1 = other
      · have hne : ¬ other = id := fun h => he (ho.trans h)
        simp [ho, hne]
      · simpa [he, ho] using ih

/-! One law for each operation. -/

theorem register_ok {p q : Pending} {id : RequestId} (hp : p.Sound) (h : p.register = .ok (id, q)) :
    q.Sound ∧ id = p.nextId ∧ p.size < p.limit ∧ q.nextId = p.nextId + 1 ∧
      ∀ other, q.phase other = if other = id then .waiting else p.phase other := by
  have ht := ticket?_register hp h
  rw [register] at h
  split at h
  · cases h
  · rename_i hl
    cases h
    have hw : p.nextId ∉ p.waiting := fun h => Nat.lt_irrefl _ (hp.lt_of_waiting h)
    refine ⟨⟨Nat.succ_pos _, ?_, ?_, ?_⟩, rfl, Nat.lt_of_not_le hl, rfl, ?_⟩
    · exact List.nodup_append.mpr ⟨hp.nodup, by simp, by grind⟩
    · intro other ho
      rw [ht]
      rcases List.mem_append.mp ho with ho | ho
      · have hne : other ≠ p.nextId := fun h => hw (h ▸ ho)
        rw [if_neg hne, hp.blank other ho]
      · rw [if_pos (List.mem_singleton.mp ho)]
    · intro other ho
      rw [ht] at ho
      by_cases he : other = p.nextId
      · subst he
        exact ⟨hp.positive, Nat.lt_succ_self _⟩
      · rw [if_neg he] at ho
        exact ⟨(hp.issued other ho).1, Nat.lt_succ_of_lt (hp.issued other ho).2⟩
    · intro other
      by_cases he : other = p.nextId
      · rw [if_pos he]
        exact phase_of_blank (by rw [ht, if_pos he]) (by simp [he])
      · rw [if_neg he]
        exact phase_congr (by rw [ht, if_neg he]) (by simp [he]) (by simp; grind)

theorem resolve_spec {p : Pending} (hp : p.Sound) (id : RequestId) (reply : Json) :
    (p.resolve id reply).2.Sound ∧ (p.resolve id reply).1 = decide (p.phase id = .waiting) ∧
      (p.resolve id reply).2.nextId = p.nextId ∧
      ∀ other, (p.resolve id reply).2.phase other =
        if other = id then (p.phase id).settle (.reply reply) else p.phase other := by
  unfold resolve
  by_cases hw : id ∈ p.waiting
  · rw [if_pos hw]
    have ht := ticket?_setTicket { p with waiting := p.waiting.erase id } id
      (t := .settled (.reply reply))
    change ∀ other, _ = if other = id then (p.ticket? id).map _ else p.ticket? other at ht
    have hph := (phase_eq_waiting_iff hp).mpr hw
    refine ⟨⟨hp.positive, hp.nodup.erase id, ?_, ?_⟩, by simp [hph], rfl, ?_⟩
    · intro other ho
      have hne : other ≠ id := fun h => hp.nodup.not_mem_erase (h ▸ ho)
      rw [ht, if_neg hne]
      exact hp.blank other (List.mem_of_mem_erase ho)
    · intro other ho
      rw [ht] at ho
      by_cases he : other = id
      · exact hp.issued other (by rw [he, hp.blank id hw]; simp)
      · rw [if_neg he] at ho
        exact hp.issued other ho
    · intro other
      by_cases he : other = id
      · rw [if_pos he, hph]
        exact phase_of_settled (by rw [ht, if_pos he, hp.blank id hw]; rfl)
      · rw [if_neg he]
        exact phase_congr (by rw [ht, if_neg he])
          (by simp [setTicket, List.mem_erase_of_ne he]) (by simp [setTicket])
  · rw [if_neg hw]
    have hph := mt (phase_eq_waiting_iff hp).mp hw
    refine ⟨hp, by simp [hph], rfl, fun other => ?_⟩
    by_cases he : other = id
    · rw [if_pos he, he, Phase.settle_of_ne hph]
    · rw [if_neg he]

theorem remove_spec {p : Pending} (hp : p.Sound) (id : RequestId) :
    (p.remove id).2.Sound ∧ (p.remove id).1 = decide (p.phase id = .waiting) ∧
      (p.remove id).2.nextId = p.nextId ∧
      ∀ other, (p.remove id).2.phase other =
        if other = id then (p.phase id).settle (.failed .channelClosed) else p.phase other := by
  unfold remove
  by_cases hw : id ∈ p.waiting
  · rw [if_pos hw]
    have hph := (phase_eq_waiting_iff hp).mpr hw
    refine ⟨⟨hp.positive, hp.nodup.erase id, ?_, hp.issued⟩, by simp [hph], rfl, ?_⟩
    · exact fun other ho => hp.blank other (List.mem_of_mem_erase ho)
    · intro other
      by_cases he : other = id
      · rw [if_pos he, hph, he]
        exact phase_of_removed (hp.blank id hw) hp.nodup.not_mem_erase
      · rw [if_neg he]
        exact phase_congr rfl (by simp [List.mem_erase_of_ne he]) Iff.rfl
  · rw [if_neg hw]
    have hph := mt (phase_eq_waiting_iff hp).mp hw
    refine ⟨hp, by simp [hph], rfl, fun other => ?_⟩
    by_cases he : other = id
    · rw [if_pos he, he, Phase.settle_of_ne hph]
    · rw [if_neg he]

theorem rejectAll_spec {p : Pending} (hp : p.Sound) (error : Error) :
    (p.rejectAll error).2.Sound ∧ (p.rejectAll error).2.nextId = p.nextId ∧
      ∀ id, (p.rejectAll error).2.phase id = (p.phase id).settle (.failed error) := by
  have ht := ticket?_rejectAll p error
  refine ⟨⟨hp.positive, List.nodup_nil, by simp [rejectAll], ?_⟩, rfl, ?_⟩
  · intro id h
    rw [ht] at h
    exact hp.issued id fun hn => h (by rw [hn]; rfl)
  · intro id
    by_cases hw : id ∈ p.waiting
    · rw [(phase_eq_waiting_iff hp).mpr hw]
      exact phase_of_settled (by rw [ht, hp.blank id hw]; simp [hw])
    · rw [Phase.settle_of_ne (mt (phase_eq_waiting_iff hp).mp hw)]
      exact phase_congr (by rw [ht]; simp [hw]) (by simp [rejectAll, hw]) Iff.rfl

private theorem sound_spent {p : Pending} (hp : p.Sound) {id : RequestId} (hw : id ∉ p.waiting) :
    (p.setTicket id .spent).Sound := by
  have ht := ticket?_setTicket p id (t := .spent)
  refine ⟨hp.positive, hp.nodup, ?_, ?_⟩
  · intro other ho
    have hne : other ≠ id := fun h => hw (h ▸ ho)
    rw [ht, if_neg hne]
    exact hp.blank other ho
  · intro other ho
    rw [ht] at ho
    by_cases he : other = id
    · rw [if_pos he] at ho
      exact he ▸ hp.issued id fun hn => ho (by rw [hn]; rfl)
    · rw [if_neg he] at ho
      exact hp.issued other ho

private theorem phase_spent {p : Pending} {id : RequestId} {t : Ticket} (hi : p.ticket? id = some t)
    (other : RequestId) :
    (p.setTicket id .spent).phase other = if other = id then .spent else p.phase other := by
  have ht := ticket?_setTicket p id other .spent
  by_cases he : other = id
  · rw [if_pos he, hi] at ht
    rw [if_pos he]
    simp [phase, ht]
  · rw [if_neg he] at ht
    rw [if_neg he]
    exact phase_congr ht (by simp [setTicket]) (by simp [setTicket])

theorem collect_spec {p : Pending} (hp : p.Sound) (id : RequestId) :
    (p.collect id).2.Sound ∧ (p.collect id).1 = (p.phase id).glance id ∧
      (p.collect id).2.nextId = p.nextId ∧
      ∀ other, (p.collect id).2.phase other =
        if other = id then (p.phase id).collect else p.phase other := by
  have keep (h : (p.phase id).collect = p.phase id) (other : RequestId) :
      p.phase other = if other = id then (p.phase id).collect else p.phase other := by
    by_cases he : other = id <;> simp [he, h]
  cases ht : p.ticket? id with
  | none =>
    have hph : p.phase id = .gone ∨ p.phase id = .unborn := by
      unfold phase
      rw [ht]
      by_cases h : 0 < id ∧ id < p.nextId <;> simp [h]
    rw [show p.collect id = (.over (.failed (spentError id)), p) by simp [collect, ht]]
    rcases hph with hph | hph
    · exact ⟨hp, by rw [hph]; rfl, rfl, keep (by rw [hph]; rfl)⟩
    · exact ⟨hp, by rw [hph]; rfl, rfl, keep (by rw [hph]; rfl)⟩
  | some t =>
    cases t with
    | blank =>
      by_cases hw : id ∈ p.waiting
      · have hph := phase_of_blank ht hw
        rw [show p.collect id = (.waiting, p) by simp [collect, ht, hw]]
        exact ⟨hp, by rw [hph]; rfl, rfl, keep (by rw [hph]; rfl)⟩
      · have hph := phase_of_removed ht hw
        rw [show p.collect id = (.over (.failed .channelClosed), p.setTicket id .spent) by
          simp [collect, ht, hw], hph]
        exact ⟨sound_spent hp hw, rfl, rfl, phase_spent ht⟩
    | settled outcome =>
      have hph := phase_of_settled ht
      have hw : id ∉ p.waiting := fun h => by simp [hp.blank id h] at ht
      rw [show p.collect id = (.over outcome, p.setTicket id .spent) by simp [collect, ht], hph]
      exact ⟨sound_spent hp hw, rfl, rfl, phase_spent ht⟩
    | spent =>
      have hph : p.phase id = .spent := by simp [phase, ht]
      rw [show p.collect id = (.over (.failed (spentError id)), p) by simp [collect, ht]]
      exact ⟨hp, by rw [hph]; rfl, rfl, keep (by rw [hph]; rfl)⟩

theorem discard_spec {p : Pending} (hp : p.Sound) (id : RequestId) :
    (p.discard id).Sound ∧ (p.discard id).nextId = p.nextId ∧
      ∀ other, (p.discard id).phase other =
        if other = id then (p.phase id).discard else p.phase other := by
  have ht := ticket?_discard p id
  refine ⟨⟨hp.positive, hp.nodup.erase id, ?_, ?_⟩, rfl, ?_⟩
  · intro other ho
    have hne : other ≠ id := fun h => hp.nodup.not_mem_erase (h ▸ ho)
    rw [ht, if_neg hne]
    exact hp.blank other (List.mem_of_mem_erase ho)
  · intro other ho
    rw [ht] at ho
    by_cases he : other = id
    · rw [if_pos he] at ho
      exact absurd rfl ho
    · rw [if_neg he] at ho
      exact hp.issued other ho
  · intro other
    by_cases he : other = id
    · rw [if_pos he, he]
      have hi : p.phase id = .unborn ↔ _ := phase_eq_unborn_iff hp
      by_cases hb : 0 < id ∧ id < p.nextId
      · have hne : p.phase id ≠ .unborn := fun h => hi.mp h hb
        rw [Phase.discard_of_ne hne]
        unfold phase
        rw [ht, if_pos rfl]
        exact if_pos hb
      · rw [hi.mpr hb]
        unfold phase
        rw [ht, if_pos rfl]
        exact if_neg hb
    · rw [if_neg he]
      exact phase_congr (by rw [ht, if_neg he]) (by simp [discard, List.mem_erase_of_ne he]) Iff.rfl

end Pending

end PreviewHub
