import PreviewHub.Watch.Session

/-! Time that passes over a poller. All that it does until some instant is said at once: how often
it polls, when it is due next, and whether it finds its target gone. So it makes no difference in
how many parts the time passes. -/

namespace PreviewHub.Watch

/-- The number of the instants `due`, `due + period`, `due + 2 * period` and so on up to `goal`. -/
def ticks (period due goal : Nat) : Nat := (goal + period - due) / period

section
variable {period due goal : Nat}

private theorem ticks_of_lt (h : goal < due) : ticks period due goal = 0 := by
  rcases Nat.eq_zero_or_pos period with rfl | hp
  · exact Nat.div_zero _
  · exact Nat.div_eq_of_lt (by omega)

private theorem ticks_of_le (hp : 0 < period) (h : due ≤ goal) :
    ticks period due goal = ticks period (due + period) goal + 1 := by
  have hsub : goal + period - due = goal + period - (due + period) + period := by omega
  rw [ticks, hsub, Nat.add_div_right _ hp]
  rfl

/-- The first instant after the goal. -/
theorem lt_due_ticks (hp : 0 < period) (due goal : Nat) :
    goal < due + ticks period due goal * period := by
  have hlt := Nat.lt_mul_div_succ (goal + period - due) hp
  rw [Nat.mul_succ, Nat.mul_comm] at hlt
  unfold ticks
  omega

/-- The last instant up to the goal, if there is one. -/
theorem due_ticks_le (period due goal : Nat) :
    due + ticks period due goal * period ≤ max due (goal + period) := by
  have hle := Nat.div_mul_le_self (goal + period - due) period
  unfold ticks
  omega

/-- The instants up to a later goal are those up to the first one and those after it. -/
private theorem ticks_add (period due : Nat) {later : Nat} (h : goal ≤ later) :
    ticks period due goal + ticks period (due + ticks period due goal * period) later =
      ticks period due later := by
  generalize hn : ticks period due goal = n
  have hle : n ≤ ticks period due later := by
    rw [← hn]
    exact Nat.div_le_div_right (by omega)
  have hsub : ticks period (due + n * period) later = ticks period due later - n := by
    unfold ticks
    rw [← Nat.sub_sub, Nat.mul_comm n, Nat.sub_mul_div]
  omega

/-- One more instant has come if and only if it comes just now. -/
theorem ticks_succ_iff (hp : 0 < period) :
    ticks period due (goal + 1) = ticks period due goal + 1 ↔ ∃ j, goal + 1 = due + j * period := by
  have hadd := ticks_add period due (Nat.le_add_right goal 1)
  have hnext := lt_due_ticks hp due goal
  have hlast := due_ticks_le period due goal
  generalize ticks period due goal = n at hadd hnext hlast ⊢
  constructor
  · intro h
    refine ⟨n, Nat.le_antisymm hnext (Nat.le_of_not_lt fun hlt => ?_)⟩
    rw [ticks_of_lt hlt] at hadd
    omega
  · rintro ⟨j, hj⟩
    have hjn : j = n := by
      rcases Nat.lt_trichotomy j n with hlt | heq | hgt
      · have hmul := Nat.mul_le_mul_right period (Nat.succ_le_of_lt hlt)
        rw [Nat.succ_mul] at hmul
        omega
      · exact heq
      · have hmul := Nat.mul_lt_mul_of_pos_right hgt hp
        omega
    have hself : ticks period (goal + 1) (goal + 1) = 1 := by
      rw [ticks, Nat.add_sub_cancel_left, Nat.div_self hp]
    rw [← hadd, ← hjn, ← hj, hself]

end

def later {τ : Type} (watch : Watch τ) (interval n : Nat) : Watch τ :=
  ⟨watch.target, watch.due + n * interval, watch.begun || 0 < n⟩

section
variable {τ : Type} (watch : Watch τ) (interval : Nat)

private theorem later_zero : watch.later interval 0 = watch := by
  simp [later]

private theorem later_later (n k : Nat) :
    (watch.later interval n).later interval k = watch.later interval (n + k) := by
  simp [later, Nat.add_mul, Nat.add_assoc, Bool.or_assoc, Nat.add_pos_iff_pos_or_pos]

end

namespace Session

def record? (targets : Targets) (target : String) : Option (Option Nat) :=
  (targets.find? fun entry => entry.1 = target).map (·.2)

section
variable {targets : Targets} {target other : String}

theorem record?_update (change : Option Nat → Option Nat) :
    record? (update targets target change) other =
      if other = target then (record? targets target).map change else record? targets other := by
  unfold record? update
  induction targets with
  | nil => simp
  | cons entry targets ih =>
    simp only [List.map_cons, List.find?_cons]
    by_cases he : entry.1 = target
    · by_cases ho : other = target
      · simp [he, ho]
      · have hne : ¬ target = other := fun h => ho h.symm
        simpa [he, ho, hne] using ih
    · by_cases ho : entry.1 = other
      · have hne : ¬ other = target := fun h => he (ho.trans h)
        simp [ho, hne]
      · simpa [he, ho] using ih

theorem record?_meet :
    record? (meet targets target) other =
      if other = target then some ((record? targets target).getD (some 0))
      else record? targets other := by
  unfold meet
  split
  · rename_i hany
    split
    · rename_i he
      obtain ⟨entry, hentry, ht⟩ := List.any_eq_true.mp hany
      have hsome : (targets.find? fun entry => entry.1 = target).isSome :=
        List.find?_isSome.mpr ⟨entry, hentry, ht⟩
      obtain ⟨found, hfound⟩ := Option.isSome_iff_exists.mp hsome
      rw [he, record?, hfound]
      rfl
    · rfl
  · rename_i hany
    have hnone : targets.find? (fun entry => entry.1 = target) = none := by
      refine List.find?_eq_none.mpr fun entry hentry ht => hany ?_
      exact List.any_eq_true.mpr ⟨entry, hentry, ht⟩
    unfold record?
    rw [List.find?_append]
    by_cases he : other = target
    · simp [he, hnone]
    · have hne : ¬ target = other := fun h => he h.symm
      simp [he, hne]

theorem record?_meet_getD :
    (record? (meet targets target) other).getD (some 0) =
      (record? targets other).getD (some 0) := by
  rw [record?_meet]
  split
  · rename_i h
    rw [h]
    rfl
  · rfl

theorem isSome_record?_meet :
    (record? (meet targets target) other).isSome ↔
      other = target ∨ (record? targets other).isSome := by
  rw [record?_meet]
  split
  · rename_i h
    exact iff_of_true rfl (.inl h)
  · rename_i h
    exact (or_iff_right h).symm

theorem isSome_record?_drop :
    (record? (update (meet targets target) target fun _ => none) other).isSome ↔
      other = target ∨ (record? targets other).isSome := by
  rw [← isSome_record?_meet, record?_update]
  split
  · rename_i h
    rw [Option.isSome_map, h]
  · rfl

private theorem update_update (first second : Option Nat → Option Nat) :
    update (update targets target first) target second =
      update targets target (second ∘ first) := by
  unfold update
  rw [List.map_map]
  refine List.map_congr_left fun entry _ => ?_
  by_cases he : entry.1 = target <;> simp [he]

private theorem update_of_fixed {change : Option Nat → Option Nat}
    (h : ∀ polls, change polls = polls) :
    update targets target change = targets := by
  unfold update
  rw [List.map_congr_left (g := id) fun entry _ => ?_, List.map_id]
  split
  · rw [h]
    rfl
  · rfl

end

def polled (s : Session) (watch : Watch String) (n goal : Nat) : Session :=
  { s with
    clock := goal
    poller := { s.poller with loop := .running (watch.later s.poller.interval n) }
    targets := update s.targets watch.target (Option.map (· + n)) }

def elapse (s : Session) (goal : Nat) : Session × List Remark :=
  match s.poller.loop with
  | .running watch =>
    if (s.polls? watch.target).isSome then
      let n := ticks s.poller.interval watch.due goal
      (s.polled watch n goal, List.replicate n .probing)
    else if goal < watch.due then ({ s with clock := goal }, [])
    else ({ s with clock := goal, poller := s.poller.finish }, [.watchTargetGone])
  | _ => ({ s with clock := goal }, [])

section
variable {s : Session} {watch : Watch String} {goal : Nat}

theorem elapse_idle (h : s.poller.isRunning = false) (goal : Nat) :
    s.elapse goal = ({ s with clock := goal }, []) := by
  unfold Poller.isRunning at h
  unfold elapse
  split
  · rename_i hloop
    rw [hloop] at h
    cases h
  · rfl

theorem elapse_alive (hloop : s.poller.loop = .running watch)
    (halive : (s.polls? watch.target).isSome) (goal : Nat) :
    s.elapse goal =
      (s.polled watch (ticks s.poller.interval watch.due goal) goal,
        List.replicate (ticks s.poller.interval watch.due goal) .probing) := by
  simp only [elapse, hloop, halive, if_true]

theorem elapse_early (hloop : s.poller.loop = .running watch)
    (hgone : s.polls? watch.target = none) (hg : goal < watch.due) :
    s.elapse goal = ({ s with clock := goal }, []) := by
  simp [elapse, hloop, hgone, hg]

theorem elapse_gone (hloop : s.poller.loop = .running watch)
    (hgone : s.polls? watch.target = none) (hg : watch.due ≤ goal) :
    s.elapse goal = ({ s with clock := goal, poller := s.poller.finish }, [.watchTargetGone]) := by
  simp [elapse, hloop, hgone, Nat.not_lt.mpr hg]

private theorem polls?_polled_self (n : Nat) :
    (s.polled watch n goal).polls? watch.target = (s.polls? watch.target).map (· + n) := by
  change (record? (update _ _ _) _).join = (record? _ _).join.map _
  rw [record?_update, if_pos rfl, Option.join_map_eq_map_join]

/-- What has polled and polls again has polled as often as both together. -/
private theorem polled_polled (n k : Nat) (goal later : Nat) :
    (s.polled watch n goal).polled (watch.later s.poller.interval n) k later =
      s.polled watch (n + k) later := by
  have hcount : update (update s.targets watch.target (Option.map (· + n))) watch.target
      (Option.map (· + k)) = update s.targets watch.target (Option.map (· + (n + k))) := by
    rw [update_update]
    congr 1
    funext polls
    cases polls with
    | none => rfl
    | some m => exact congrArg some (Nat.add_assoc m n k)
  simp only [polled, later_later, ← hcount]
  rfl

/-- A watch that has polled `n` times goes on polling. -/
private theorem elapse_polled (halive : (s.polls? watch.target).isSome) {n later more : Nat}
    (goal : Nat)
    (hmore : ticks s.poller.interval (watch.due + n * s.poller.interval) later = more) :
    (s.polled watch n goal).elapse later =
      (s.polled watch (n + more) later, List.replicate more .probing) := by
  have halive' : ((s.polled watch n goal).polls? watch.target).isSome := by
    rw [polls?_polled_self, Option.isSome_map]
    exact halive
  have hloop : (s.polled watch n goal).poller.loop =
      .running (watch.later s.poller.interval n) := rfl
  rw [elapse_alive hloop halive', polled_polled, ← hmore]
  rfl

/-- A watch that has ended does nothing more. -/
private theorem elapse_finished (s : Session) (goal later : Nat) :
    { s with clock := goal, poller := s.poller.finish }.elapse later =
      ({ s with clock := later, poller := s.poller.finish }, []) :=
  elapse_idle (s := { s with clock := goal, poller := s.poller.finish }) rfl later

private theorem polled_zero (hloop : s.poller.loop = .running watch) (goal : Nat) :
    s.polled watch 0 goal = { s with clock := goal } := by
  unfold polled
  rw [update_of_fixed fun polls => by cases polls <;> rfl, Watch.later_zero, ← hloop]

/-- Nothing is due before the first due instant. -/
private theorem elapse_before (hloop : s.poller.loop = .running watch) (hg : goal < watch.due) :
    s.elapse goal = ({ s with clock := goal }, []) := by
  by_cases halive : (s.polls? watch.target).isSome
  · rw [elapse_alive hloop halive, ticks_of_lt hg, polled_zero hloop]
    rfl
  · exact elapse_early hloop (Option.not_isSome_iff_eq_none.mp halive) hg

private theorem fire_alive (hloop : s.poller.loop = .running watch)
    (halive : (s.polls? watch.target).isSome) :
    { s with clock := watch.due }.fire watch = (s.polled watch 1 watch.due, [.probing]) := by
  obtain ⟨n, hn⟩ := Option.isSome_iff_exists.mp halive
  have hn : { s with clock := watch.due }.polls? watch.target = some n := hn
  simp [fire, hn, Poller.advance, hloop, polled, Watch.later]

private theorem fire_gone (hgone : s.polls? watch.target = none) :
    { s with clock := watch.due }.fire watch =
      ({ s with clock := watch.due, poller := s.poller.finish }, [.watchTargetGone]) := by
  have hgone : { s with clock := watch.due }.polls? watch.target = none := hgone
  simp only [fire, hgone]

/-- The steps from one due instant to the next come to the same, if there are enough of them. -/
theorem passUntil_eq (hp : 0 < s.poller.interval) {fuel : Nat}
    (hfuel : ∀ watch, s.poller.loop = .running watch → goal < watch.due + fuel) :
    passUntil fuel goal s = s.elapse goal := by
  induction fuel generalizing s with
  | zero =>
    cases hloop : s.poller.loop with
    | running watch => exact (elapse_before hloop (hfuel watch hloop)).symm
    | _ => exact (elapse_idle (by rw [Poller.isRunning, hloop]) goal).symm
  | succ fuel ih =>
    cases hloop : s.poller.loop with
    | running watch =>
      have hfuel := hfuel watch hloop
      by_cases hg : watch.due ≤ goal
      · by_cases halive : (s.polls? watch.target).isSome
        · have hrest : passUntil fuel goal (s.polled watch 1 watch.due) =
              (s.polled watch 1 watch.due).elapse goal := by
            refine ih hp fun next hnext => ?_
            cases hnext
            change goal < watch.due + 1 * s.poller.interval + fuel
            omega
          simp only [passUntil, hloop, if_pos hg, fire_alive hloop halive, hrest]
          rw [elapse_polled halive _ rfl, elapse_alive hloop halive, ticks_of_le hp hg, Nat.one_mul,
            Nat.add_comm 1]
          rfl
        · have hgone := Option.not_isSome_iff_eq_none.mp halive
          have hrest :
              passUntil fuel goal { s with clock := watch.due, poller := s.poller.finish } =
                { s with clock := watch.due, poller := s.poller.finish }.elapse goal :=
            ih hp fun next hnext => by cases hnext
          simp only [passUntil, hloop, if_pos hg, fire_gone hgone, hrest]
          rw [elapse_finished, elapse_gone hloop hgone hg]
          rfl
      · simp only [passUntil, hloop, if_neg hg]
        exact (elapse_before hloop (Nat.lt_of_not_le hg)).symm
    | _ =>
      rw [elapse_idle (by rw [Poller.isRunning, hloop])]
      simp only [passUntil, hloop]

theorem advance_eq (hp : 0 < s.poller.interval)
    (hdue : ∀ watch, s.poller.loop = .running watch → s.clock < watch.due) (milliseconds : Nat) :
    s.step (.advance milliseconds) = s.elapse (s.clock + milliseconds) := by
  refine passUntil_eq hp fun watch hloop => ?_
  have hlt := hdue watch hloop
  omega

/-- As time passes, the target of the watch is polled at each instant, unless it is gone. -/
theorem record?_elapse_self (hloop : s.poller.loop = .running watch) (goal : Nat) :
    record? (s.elapse goal).1.targets watch.target =
      (record? s.targets watch.target).map
        (Option.map (· + ticks s.poller.interval watch.due goal)) := by
  by_cases halive : (s.polls? watch.target).isSome
  · rw [elapse_alive hloop halive]
    exact (record?_update _).trans (if_pos rfl)
  · have hgone := Option.not_isSome_iff_eq_none.mp halive
    have hsame : (s.elapse goal).1.targets = s.targets := by
      by_cases hg : goal < watch.due
      · rw [elapse_early hloop hgone hg]
      · rw [elapse_gone hloop hgone (Nat.le_of_not_lt hg)]
    rw [hsame]
    change (record? s.targets watch.target).join = none at hgone
    match record? s.targets watch.target, hgone with
    | none, _ => rfl
    | some none, _ => rfl

theorem record?_elapse_other (hloop : s.poller.loop = .running watch) {target : String}
    (h : watch.target ≠ target) (goal : Nat) :
    record? (s.elapse goal).1.targets target = record? s.targets target := by
  simp only [elapse, hloop]
  split
  · exact (record?_update _).trans (if_neg h.symm)
  · split <;> rfl

theorem polls?_elapse_self (hloop : s.poller.loop = .running watch) (goal : Nat) :
    (s.elapse goal).1.polls? watch.target =
      (s.polls? watch.target).map (· + ticks s.poller.interval watch.due goal) := by
  change (record? _ _).join = (record? _ _).join.map _
  rw [record?_elapse_self hloop, Option.join_map_eq_map_join]

theorem isSome_record?_elapse (s : Session) (goal : Nat) (target : String) :
    (record? (s.elapse goal).1.targets target).isSome = (record? s.targets target).isSome := by
  cases hloop : s.poller.loop with
  | running watch =>
    by_cases ht : watch.target = target
    · rw [← ht, record?_elapse_self hloop, Option.isSome_map]
    · rw [record?_elapse_other hloop ht]
  | _ =>
    rw [elapse_idle (by rw [Poller.isRunning, hloop])]

theorem clock_elapse (s : Session) (goal : Nat) : (s.elapse goal).1.clock = goal := by
  unfold elapse
  split
  · split
    · rfl
    · split <;> rfl
  · rfl

theorem interval_elapse (s : Session) (goal : Nat) :
    (s.elapse goal).1.poller.interval = s.poller.interval := by
  unfold elapse
  split
  · split
    · rfl
    · split <;> rfl
  · rfl

/-- What happens until an instant and then until a later one is what happens until that one. -/
theorem elapse_elapse (s : Session) {later : Nat} (h : goal ≤ later) :
    s.elapse later =
      (((s.elapse goal).1.elapse later).1,
        (s.elapse goal).2 ++ ((s.elapse goal).1.elapse later).2) := by
  cases hloop : s.poller.loop with
  | running watch =>
    by_cases halive : (s.polls? watch.target).isSome
    · rw [elapse_alive hloop halive, elapse_alive hloop halive, elapse_polled halive _ rfl,
        ticks_add _ _ h, List.replicate_append_replicate, ticks_add _ _ h]
    · have hgone := Option.not_isSome_iff_eq_none.mp halive
      by_cases hg : goal < watch.due
      · rw [elapse_early hloop hgone hg]
        rfl
      · have hg := Nat.le_of_not_lt hg
        rw [elapse_gone hloop hgone hg, elapse_gone hloop hgone (Nat.le_trans hg h),
          elapse_finished]
        rfl
  | _ =>
    have hidle : s.poller.isRunning = false := by rw [Poller.isRunning, hloop]
    rw [elapse_idle hidle goal]
    rfl

end

end Session

end PreviewHub.Watch
