import Mathlib.Algebra.GroupWithZero.Nat
import PreviewHub.Proofs.PollInstants

/-! A calendar of watches. It notes when watches began, when they were stopped and when targets
were dropped, and nothing else. That tells which watch lasts, at which instants each target was
polled and how often. -/

namespace PreviewHub.Watch

structure Stint where
  target : String
  since : Nat
  stopped : Option Nat := none
  deriving DecidableEq, Repr

namespace Stint

def instant (x : Stint) (period k : Nat) : Nat := x.since + (k + 1) * period

def elapsed (x : Stint) (now : Nat) : Nat := x.stopped.getD now - x.since

def ComesDue (x : Stint) (period date goal : Nat) : Prop :=
  ∃ k, date < x.instant period k ∧ x.instant period k ≤ goal

structure Next (x : Stint) (period now k : Nat) : Prop where
  ahead : now < x.instant period k
  near : x.instant period k ≤ now + period

section
variable {x : Stint} {period now goal k : Nat}

theorem instant_add (x : Stint) (period k j : Nat) :
    x.instant period (k + j) = x.instant period k + j * period := by
  unfold instant
  rw [Nat.add_right_comm, Nat.add_mul _ j, Nat.add_assoc]

theorem instant_mono {j : Nat} (h : k ≤ j) : x.instant period k ≤ x.instant period j := by
  obtain ⟨i, rfl⟩ := Nat.exists_eq_add_of_le h
  rw [instant_add]
  exact Nat.le_add_right _ _

theorem next_since (hp : 0 < period) : x.Next period x.since 0 := by
  have hinstant : x.instant period 0 = x.since + period := by
    rw [instant, Nat.zero_add, Nat.one_mul]
  constructor <;> omega

/-- The instants before the next one have passed. -/
private theorem Next.le_of_lt (h : x.Next period now k) {j : Nat} (hj : now < x.instant period j) :
    k ≤ j := by
  refine Nat.le_of_not_lt fun hlt => ?_
  have hmono : x.instant period (j + 1) ≤ x.instant period k := instant_mono hlt
  rw [instant_add, Nat.one_mul] at hmono
  have hnear := h.near
  omega

private theorem Next.comesDue_iff (h : x.Next period now k) :
    x.ComesDue period now goal ↔ x.instant period k ≤ goal :=
  ⟨fun ⟨_, hj, hle⟩ => Nat.le_trans (instant_mono (h.le_of_lt hj)) hle,
    fun hle => ⟨k, h.ahead, hle⟩⟩

theorem Next.after_ticks (hp : 0 < period) (h : x.Next period now k) (hg : now ≤ goal) :
    x.Next period goal (k + ticks period (x.instant period k) goal) := by
  have hlt := lt_due_ticks hp (x.instant period k) goal
  have hle := due_ticks_le period (x.instant period k) goal
  have hnear := h.near
  constructor <;> rw [instant_add]
  · exact hlt
  · omega

/-- One more instant has come at `goal + 1` if and only if that is one. -/
theorem Next.ticks_succ_iff (hp : 0 < period) (h : x.Next period now k) (hg : now < goal + 1) :
    ticks period (x.instant period k) (goal + 1) = ticks period (x.instant period k) goal + 1 ↔
      ∃ i, goal + 1 = x.instant period i := by
  refine (Watch.ticks_succ_iff hp).trans ⟨fun ⟨j, hj⟩ => ⟨k + j, ?_⟩, fun ⟨i, hi⟩ => ?_⟩
  · rw [instant_add]
    exact hj
  · rw [hi] at hg
    obtain ⟨j, rfl⟩ := Nat.exists_eq_add_of_le (h.le_of_lt hg)
    rw [instant_add] at hi
    exact ⟨j, hi⟩

/-- As many instants have passed as the period goes into the time passed. -/
private theorem Next.div_eq (h : x.Next period now k) : (now - x.since) / period = k := by
  have hahead := h.ahead
  have hnear := h.near
  unfold instant at hahead hnear
  rw [Nat.succ_mul] at hahead hnear
  refine Nat.div_eq_of_lt_le (by omega) ?_
  rw [Nat.succ_mul]
  omega

private theorem comesDue_iff {date : Nat} :
    x.ComesDue period date goal ↔
      date < x.instant period ((date - x.since) / period) ∧
        x.instant period ((date - x.since) / period) ≤ goal := by
  refine ⟨fun ⟨j, hj, hle⟩ => ?_, fun h => ⟨_, h⟩⟩
  rcases Nat.eq_zero_or_pos period with rfl | hp
  · exact ⟨hj, hle⟩
  · have hlt := Nat.lt_mul_div_succ (date - x.since) hp
    rw [Nat.mul_comm] at hlt
    have hpos : 0 < (j + 1) * period := Nat.mul_pos (Nat.succ_pos j) hp
    unfold instant at hj
    have hfirst : (date - x.since) / period ≤ j :=
      Nat.lt_add_one_iff.mp ((Nat.div_lt_iff_lt_mul hp).mpr (by omega))
    refine ⟨?_, Nat.le_trans (instant_mono hfirst) hle⟩
    unfold instant
    omega

instance (date : Nat) : Decidable (x.ComesDue period date goal) :=
  decidable_of_iff _ comesDue_iff.symm

end

end Stint

def tally (period now : Nat) (target : String) (stints : List Stint) : Nat :=
  ((stints.filter fun x => x.target = target).map fun x => x.elapsed now / period).sum

section
variable {period now goal : Nat} {target : String}

private theorem tally_append (past later : List Stint) :
    tally period now target (past ++ later) =
      tally period now target past + tally period now target later := by
  unfold tally
  rw [List.filter_append, List.map_append, List.sum_append_nat]

private theorem tally_singleton (x : Stint) :
    tally period now target [x] = if x.target = target then x.elapsed now / period else 0 := by
  by_cases h : x.target = target <;> simp [tally, h]

/-- Time adds nothing to the watches that were stopped. -/
private theorem tally_stopped {stints : List Stint}
    (h : ∀ x ∈ stints, x.target = target → x.stopped.isSome) :
    tally period goal target stints = tally period now target stints := by
  unfold tally
  refine congrArg List.sum (List.map_congr_left fun x hx => ?_)
  obtain ⟨hmem, htarget⟩ := List.mem_filter.mp hx
  obtain ⟨stop, hstop⟩ := Option.isSome_iff_exists.mp (h x hmem (of_decide_eq_true htarget))
  unfold Stint.elapsed
  rw [hstop]
  rfl

end

structure Calendar where
  now : Nat := 0
  drops : List (String × Nat) := []
  stints : List Stint := []
  deriving DecidableEq, Repr

namespace Calendar

def dropped? (c : Calendar) (target : String) : Option Nat := c.drops.lookup target

/-- By `date` the watch was stopped, or has come due with its target dropped before. -/
def Over (c : Calendar) (period : Nat) (x : Stint) (date : Nat) : Prop :=
  (∃ stop ∈ x.stopped, stop ≤ date) ∨ ∃ drop ∈ c.dropped? x.target, x.ComesDue period drop date

instance (c : Calendar) (period : Nat) (x : Stint) (date : Nat) :
    Decidable (c.Over period x date) :=
  inferInstanceAs (Decidable (_ ∨ _))

/-- The watch comes due at `date`, not yet stopped and with its target not yet dropped. -/
def Polls (c : Calendar) (period : Nat) (x : Stint) (date : Nat) : Prop :=
  (∃ k, date = x.instant period k) ∧ date ≤ c.now ∧ (∀ stop ∈ x.stopped, date ≤ stop) ∧
    ∀ drop ∈ c.dropped? x.target, date ≤ drop

def count? (c : Calendar) (period : Nat) (target : String) : Option Nat :=
  if (c.dropped? target).isSome then none else some (tally period c.now target c.stints)

def Polled (c : Calendar) (period : Nat) (target : String) (date : Nat) : Prop :=
  ∃ x ∈ c.stints, x.target = target ∧ c.Polls period x date

def halt (c : Calendar) (period : Nat) (x : Stint) : Stint :=
  if c.Over period x c.now then x else { x with stopped := some c.now }

def begins (c : Calendar) (period : Nat) (target : String) (runtime : Bool) : List Stint :=
  if runtime ∧ ∀ x ∈ c.stints, c.Over period x c.now then [{ target, since := c.now }] else []

def step (period : Nat) (c : Calendar) : Op → Calendar
  | .start target runtime => { c with stints := c.stints ++ c.begins period target runtime }
  | .stop => { c with stints := c.stints.map (c.halt period) }
  | .drop target => { c with drops := c.drops ++ [(target, c.now)] }
  | .advance milliseconds => { c with now := c.now + milliseconds }

def of (period : Nat) (ops : List Op) : Calendar := ops.foldl (step period) {}

theorem of_concat (period : Nat) (ops : List Op) (op : Op) :
    of period (ops ++ [op]) = (of period ops).step period op := List.foldl_append

section
variable {c : Calendar} {period date : Nat} {x : Stint} {target : String}

theorem Over.later (h : c.Over period x date) {goal : Nat} (hg : date ≤ goal) :
    c.Over period x goal := by
  rcases h with ⟨stop, hstop, hle⟩ | ⟨drop, hdrop, k, hk, hle⟩
  · exact .inl ⟨stop, hstop, Nat.le_trans hle hg⟩
  · exact .inr ⟨drop, hdrop, k, hk, Nat.le_trans hle hg⟩

/-- Without a drop only a stop ends a watch. -/
private theorem Over.stopped_isSome (h : c.Over period x date)
    (hkept : c.dropped? x.target = none) :
    x.stopped.isSome := by
  rcases h with ⟨stop, hstop, _⟩ | ⟨drop, hdrop, _⟩
  · exact Option.isSome_of_mem hstop
  · rw [hkept] at hdrop
    cases hdrop

theorem dropped?_drop (other : String) :
    (c.step period (.drop target)).dropped? other =
      (c.dropped? other).or (if other = target then some c.now else none) := by
  refine List.lookup_append.trans (congrArg _ ?_)
  by_cases h : other = target
  · rw [h, if_pos rfl]
    exact List.lookup_cons_self
  · rw [if_neg h, List.lookup_cons, beq_false_of_ne h]
    rfl

/-- A drop tells nothing on what was over before. -/
theorem over_drop_iff (period : Nat) (x : Stint) (target : String) (hdate : date ≤ c.now) :
    (c.step period (.drop target)).Over period x date ↔ c.Over period x date := by
  unfold Over
  rw [dropped?_drop]
  cases c.dropped? x.target with
  | some drop => rfl
  | none =>
    refine or_congr_right ⟨?_, fun ⟨_, hdrop, _⟩ => by cases hdrop⟩
    rintro ⟨drop, hdrop, k, hk, hle⟩
    split at hdrop
    · cases hdrop
      omega
    · cases hdrop

end

def Awaits (c : Calendar) (period : Nat) (target : String) (date : Nat) : Prop :=
  ∃ x ∈ c.stints, x.target = target ∧ ¬ c.Over period x c.now ∧ c.dropped? target = none ∧
    ∃ k, date = x.instant period k

theorem awaits_iff {c : Calendar} {period date : Nat} {past : List Stint} {x : Stint}
    {target : String} (hstints : c.stints = past ++ [x])
    (hended : ∀ y ∈ past, c.Over period y c.now) (hlasts : ¬ c.Over period x c.now) :
    c.Awaits period target date ↔
      x.target = target ∧ c.dropped? target = none ∧ ∃ k, date = x.instant period k := by
  constructor
  · rintro ⟨y, hy, htarget, hylasts, hawaited⟩
    rw [hstints] at hy
    rcases List.mem_append.mp hy with hy | hy
    · exact absurd (hended y hy) hylasts
    · rw [List.mem_singleton.mp hy] at htarget hawaited
      exact ⟨htarget, hawaited⟩
  · rintro ⟨htarget, hawaited⟩
    exact ⟨x, by simp [hstints], htarget, hlasts, hawaited⟩

structure Dated (c : Calendar) (period : Nat) : Prop where
  begun : ∀ x ∈ c.stints, x.since ≤ c.now
  stopped : ∀ x ∈ c.stints, ∀ stop ∈ x.stopped, stop ≤ c.now
  dropped : ∀ target, ∀ drop ∈ c.dropped? target, drop ≤ c.now
  apart : c.stints.Pairwise fun x y => c.Over period x y.since

section
variable {c : Calendar} {period k : Nat} {x : Stint}

/-- The watch that lasts has not been stopped. -/
theorem Dated.not_stopped (h : c.Dated period) (hx : x ∈ c.stints)
    (hlasts : ¬ c.Over period x c.now) : x.stopped = none :=
  Option.eq_none_iff_forall_not_mem.mpr fun stop hstop =>
    hlasts (.inl ⟨stop, hstop, h.stopped x hx stop hstop⟩)

/-- Left to itself, the watch that lasts ends when it comes due next, if its target is dropped. -/
theorem Dated.over_iff_of_lasting (h : c.Dated period) (hx : x ∈ c.stints)
    (hlasts : ¬ c.Over period x c.now) (hnext : x.Next period c.now k) (goal : Nat) :
    c.Over period x goal ↔ (c.dropped? x.target).isSome ∧ x.instant period k ≤ goal := by
  constructor
  · rintro (⟨stop, hstop, -⟩ | ⟨drop, hdrop, j, hj, hle⟩)
    · rw [h.not_stopped hx hlasts] at hstop
      cases hstop
    · refine ⟨Option.isSome_of_mem hdrop, hnext.comesDue_iff.mp ⟨j, ?_, hle⟩⟩
      exact Nat.lt_of_not_le fun hpast => hlasts (.inr ⟨drop, hdrop, j, hj, hpast⟩)
  · rintro ⟨hdropped, hle⟩
    obtain ⟨drop, hdrop⟩ := Option.isSome_iff_exists.mp hdropped
    have hdue := Nat.lt_of_le_of_lt (h.dropped _ drop hdrop) hnext.ahead
    exact .inr ⟨drop, hdrop, k, hdue, hle⟩

end

theorem dated_empty (period : Nat) : Dated {} period where
  begun _ hx := by cases hx
  stopped _ hx := by cases hx
  dropped _ _ hdrop := by cases hdrop
  apart := .nil

section
variable {c : Calendar} {period date : Nat} {target : String}

theorem over_halt (x : Stint) : c.Over period (c.halt period x) c.now := by
  unfold halt
  split
  · assumption
  · exact .inl ⟨c.now, rfl, Nat.le_refl _⟩

private theorem halt_of_over {x : Stint} (h : c.Over period x c.now) :
    c.halt period x = x := if_pos h

theorem halt_target (x : Stint) : (c.halt period x).target = x.target := by
  unfold halt
  split <;> rfl

private theorem halt_since (x : Stint) : (c.halt period x).since = x.since := by
  unfold halt
  split <;> rfl

theorem mem_begins {x : Stint} {started : String} {runtime : Bool}
    (h : x ∈ c.begins period started runtime) :
    x = ⟨started, c.now, none⟩ ∧ ∀ y ∈ c.stints, c.Over period y c.now := by
  unfold begins at h
  split at h
  · rename_i hfree
    exact ⟨List.mem_singleton.mp h, hfree.2⟩
  · cases h

private theorem pairwise_begins (R : Stint → Stint → Prop) (started : String) (runtime : Bool) :
    (c.begins period started runtime).Pairwise R := by
  unfold begins
  split
  · exact List.pairwise_singleton _ _
  · exact .nil

/-- A watch that has just begun counts nothing. -/
private theorem tally_begins (started : String) (runtime : Bool) :
    tally period c.now target (c.begins period started runtime) = 0 := by
  unfold begins
  split
  · rw [tally_singleton, Stint.elapsed, Option.getD_none, Nat.sub_self, Nat.zero_div, ite_self]
  · rfl

theorem Dated.elapse (h : c.Dated period) {goal : Nat} (hg : c.now ≤ goal) :
    { c with now := goal }.Dated period where
  begun x hx := Nat.le_trans (h.begun x hx) hg
  stopped x hx stop hstop := Nat.le_trans (h.stopped x hx stop hstop) hg
  dropped target drop hdrop := Nat.le_trans (h.dropped target drop hdrop) hg
  apart := h.apart

theorem Dated.step (h : c.Dated period) (op : Op) : (c.step period op).Dated period := by
  cases op with
  | start target runtime =>
    refine ⟨?_, ?_, h.dropped, List.pairwise_append.mpr ⟨h.apart, pairwise_begins _ _ _, ?_⟩⟩
    · refine List.forall_mem_append.mpr ⟨h.begun, fun x hx => ?_⟩
      exact Nat.le_of_eq (congrArg Stint.since (mem_begins hx).1)
    · refine List.forall_mem_append.mpr ⟨h.stopped, fun x hx stop hstop => ?_⟩
      rw [(mem_begins hx).1] at hstop
      cases hstop
    · intro x hx y hy
      obtain ⟨rfl, hfree⟩ := mem_begins hy
      exact hfree x hx
  | stop =>
    refine ⟨?_, ?_, h.dropped, ?_⟩
    · refine List.forall_mem_map.mpr fun x hx => ?_
      rw [halt_since]
      exact h.begun x hx
    · refine List.forall_mem_map.mpr fun x hx => ?_
      unfold halt
      split
      · exact h.stopped x hx
      · rintro stop ⟨⟩
        exact Nat.le_refl _
    · refine List.pairwise_map.mpr (h.apart.imp_of_mem fun {x y} _ hy hxy => ?_)
      rw [halt_of_over (hxy.later (h.begun y hy)), halt_since]
      exact hxy
  | drop target =>
    refine ⟨h.begun, h.stopped, fun other drop hdrop => ?_, ?_⟩
    · rw [dropped?_drop, Option.mem_def, Option.or_eq_some_iff] at hdrop
      rcases hdrop with hdrop | ⟨_, hdrop⟩
      · exact h.dropped other drop hdrop
      · split at hdrop
        · cases hdrop
          exact Nat.le_refl _
        · cases hdrop
    · exact h.apart.imp_of_mem fun _ hy hxy => (over_drop_iff _ _ _ (h.begun _ hy)).mpr hxy
  | advance milliseconds => exact h.elapse (Nat.le_add_right _ _)

theorem polled_start_iff (hp : 0 < period) (started : String) (runtime : Bool) :
    (c.step period (.start started runtime)).Polled period target date ↔
      c.Polled period target date := by
  refine ⟨fun ⟨x, hx, hpolls⟩ => ?_, fun ⟨x, hx, hpolls⟩ => ⟨x, List.mem_append_left _ hx, hpolls⟩⟩
  rcases List.mem_append.mp hx with hx | hx
  · exact ⟨x, hx, hpolls⟩
  · obtain ⟨rfl, -⟩ := mem_begins hx
    obtain ⟨-, ⟨k, rfl⟩, hle, -⟩ := hpolls
    have hpos : 0 < (k + 1) * period := Nat.mul_pos (Nat.succ_pos k) hp
    change c.now + (k + 1) * period ≤ c.now at hle
    omega

private theorem polls_halt_iff (x : Stint) :
    c.Polls period (c.halt period x) date ↔ c.Polls period x date := by
  unfold halt
  split
  · rfl
  · rename_i hlasts
    refine and_congr_right fun _ => and_congr_right fun hnow => and_congr_left fun _ => ?_
    refine ⟨fun _ stop hstop => ?_, ?_⟩
    · refine Nat.le_of_not_lt fun hlt => hlasts (.inl ⟨stop, hstop, ?_⟩)
      omega
    · rintro _ stop ⟨⟩
      exact hnow

theorem polled_stop_iff :
    (c.step period .stop).Polled period target date ↔ c.Polled period target date := by
  constructor
  · rintro ⟨y, hy, htarget, hpolls⟩
    obtain ⟨x, hx, rfl⟩ := List.mem_map.mp hy
    exact ⟨x, hx, (halt_target x).symm.trans htarget, (polls_halt_iff x).mp hpolls⟩
  · rintro ⟨x, hx, htarget, hpolls⟩
    refine ⟨c.halt period x, List.mem_map_of_mem hx, ?_, (polls_halt_iff x).mpr hpolls⟩
    exact (halt_target x).trans htarget

theorem polled_drop_iff (gone : String) :
    (c.step period (.drop gone)).Polled period target date ↔ c.Polled period target date := by
  refine exists_congr fun x => and_congr_right fun _ => and_congr_right fun _ => ?_
  refine and_congr_right fun _ => and_congr_right fun hnow => and_congr_right fun _ => ?_
  rw [dropped?_drop]
  cases c.dropped? x.target with
  | some drop => rfl
  | none =>
    refine ⟨fun _ _ hdrop => (by cases hdrop), fun _ drop hdrop => ?_⟩
    split at hdrop
    · cases hdrop
      exact hnow
    · cases hdrop

/-- Only the time that passes brings new polls. -/
theorem polled_advance_iff (h : c.Dated period) (milliseconds : Nat) :
    (c.step period (.advance milliseconds)).Polled period target date ↔
      c.Polled period target date ∨
        c.now < date ∧ date ≤ c.now + milliseconds ∧ c.Awaits period target date := by
  constructor
  · rintro ⟨x, hx, rfl, hinstant, hle, hstops, hdrops⟩
    by_cases hnow : date ≤ c.now
    · exact .inl ⟨x, hx, rfl, hinstant, hnow, hstops, hdrops⟩
    · refine .inr ⟨Nat.lt_of_not_le hnow, hle, x, hx, rfl, ?_, ?_, hinstant⟩
      · rintro (⟨stop, hstop, hpast⟩ | ⟨drop, hdrop, k, hk, hpast⟩)
        · exact hnow (Nat.le_trans (hstops stop hstop) hpast)
        · exact hnow (Nat.le_trans (hdrops drop hdrop) (h.dropped _ drop hdrop))
      · refine Option.eq_none_iff_forall_not_mem.mpr fun drop hdrop => hnow ?_
        exact Nat.le_trans (hdrops drop hdrop) (h.dropped _ drop hdrop)
  · rintro (⟨x, hx, rfl, hinstant, hle, hends⟩ | ⟨-, hle, x, hx, rfl, hlasts, hkept, hinstant⟩)
    · exact ⟨x, hx, rfl, hinstant, Nat.le_trans hle (Nat.le_add_right _ _), hends⟩
    · refine ⟨x, hx, rfl, hinstant, hle, fun stop hstop => ?_, fun drop hdrop => ?_⟩
      · exact absurd (.inl ⟨stop, hstop, h.stopped x hx stop hstop⟩) hlasts
      · change drop ∈ c.dropped? x.target at hdrop
        rw [hkept] at hdrop
        cases hdrop

private theorem elapsed_halt (h : c.Dated period) {x : Stint} (hx : x ∈ c.stints) :
    (c.halt period x).elapsed c.now = x.elapsed c.now := by
  unfold halt
  split
  · rfl
  · rename_i hlasts
    unfold Stint.elapsed
    rw [h.not_stopped hx hlasts]
    rfl

private theorem tally_halt (h : c.Dated period) :
    tally period c.now target (c.stints.map (c.halt period)) =
      tally period c.now target c.stints := by
  unfold tally
  rw [List.filter_map, List.map_map]
  have hsame : (fun x : Stint => decide (x.target = target)) ∘ c.halt period =
      fun x => decide (x.target = target) :=
    funext fun x => by rw [Function.comp_apply, halt_target]
  rw [hsame]
  refine congrArg List.sum (List.map_congr_left fun x hx => ?_)
  rw [Function.comp_apply, elapsed_halt h (List.mem_filter.mp hx).1]

theorem count?_of_drop {drop : Nat} (h : c.dropped? target = some drop) :
    c.count? period target = none := by
  rw [count?, h]
  rfl

theorem count?_of_kept (h : c.dropped? target = none) :
    c.count? period target = some (tally period c.now target c.stints) := by
  rw [count?, h]
  rfl

theorem count?_start (started : String) (runtime : Bool) :
    (c.step period (.start started runtime)).count? period target = c.count? period target := by
  simp only [step, count?]
  rw [tally_append, tally_begins]
  rfl

theorem count?_stop (h : c.Dated period) :
    (c.step period .stop).count? period target = c.count? period target := by
  simp only [step, count?]
  rw [tally_halt h]
  rfl

theorem count?_drop (gone : String) :
    (c.step period (.drop gone)).count? period target =
      if target = gone then none else c.count? period target := by
  unfold count?
  rw [dropped?_drop, Option.isSome_or]
  by_cases h : target = gone
  · rw [if_pos h, if_pos h, Option.isSome_some, Bool.or_true]
    rfl
  · rw [if_neg h, if_neg h, Option.isSome_none, Bool.or_false]
    rfl

/-- Time adds nothing to the watches that are over, as long as their target is there. -/
private theorem tally_over {stints : List Stint} {goal : Nat} (hkept : c.dropped? target = none)
    (h : ∀ x ∈ stints, x.target = target → c.Over period x c.now) :
    tally period goal target stints = tally period c.now target stints := by
  refine tally_stopped fun x hx htarget => (h x hx htarget).stopped_isSome ?_
  rw [htarget]
  exact hkept

theorem count?_over (goal : Nat) (h : ∀ x ∈ c.stints, x.target = target → c.Over period x c.now) :
    { c with now := goal }.count? period target = c.count? period target := by
  cases hdropped : c.dropped? target with
  | some drop =>
    rw [count?_of_drop hdropped]
    exact count?_of_drop hdropped
  | none =>
    rw [count?_of_kept hdropped, ← tally_over hdropped h]
    exact count?_of_kept hdropped

/-- Time adds to the last watch, while it lasts, the instants that pass. -/
theorem count?_lasting (hp : 0 < period) {past : List Stint} {x : Stint} {k goal : Nat}
    (hstints : c.stints = past ++ [x]) (hended : ∀ y ∈ past, c.Over period y c.now)
    (hstopped : x.stopped = none) (hnext : x.Next period c.now k) (hg : c.now ≤ goal) :
    { c with now := goal }.count? period x.target =
      (c.count? period x.target).map (· + ticks period (x.instant period k) goal) := by
  cases hdropped : c.dropped? x.target with
  | some drop =>
    rw [count?_of_drop hdropped]
    exact count?_of_drop hdropped
  | none =>
    have hcount (now : Nat) : tally period now x.target [x] = (now - x.since) / period := by
      rw [tally_singleton, if_pos rfl, Stint.elapsed, hstopped]
      rfl
    have hgoal : tally period goal x.target c.stints =
        tally period c.now x.target c.stints + ticks period (x.instant period k) goal := by
      rw [hstints, tally_append, tally_append, hcount, hcount, hnext.div_eq,
        (hnext.after_ticks hp hg).div_eq, tally_over hdropped fun y hy _ => hended y hy,
        Nat.add_assoc]
    rw [count?_of_kept hdropped, Option.map_some, ← hgoal]
    exact count?_of_kept hdropped

end

end Calendar

end PreviewHub.Watch
