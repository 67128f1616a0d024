import Mathlib.Data.List.Induction
import PreviewHub.Proofs.PollCalendar

/-! The polling schedule. Whatever is done with a session, and however its time is split, it polls
and watches as the calendar of what was done tells. -/

namespace PreviewHub.Watch

/-- How a poller stands to the calendar: its loop is the last watch, due at its next instant, if
that one still lasts. -/
inductive Stands (period : Nat) (poller : Poller String) (c : Calendar) : Prop
  | watching {past : List Stint} {x : Stint} {k : Nat}
      (stints : c.stints = past ++ [x])
      (ended : ∀ y ∈ past, c.Over period y c.now)
      (lasts : ¬ c.Over period x c.now)
      (next : x.Next period c.now k)
      (loop : ∃ begun, poller.loop = .running ⟨x.target, x.instant period k, begun⟩)
  | idle
      (ended : ∀ x ∈ c.stints, c.Over period x c.now)
      (loop : poller.isRunning = false)

namespace Stands

variable {period : Nat} {poller : Poller String} {c : Calendar}

private theorem isRunning_iff (h : Stands period poller c) :
    poller.isRunning ↔ ∃ x ∈ c.stints, ¬ c.Over period x c.now := by
  cases h with
  | watching stints ended lasts next loop =>
    obtain ⟨begun, loop⟩ := loop
    refine iff_of_true (by rw [Poller.isRunning, loop]) ⟨_, ?_, lasts⟩
    rw [stints]
    exact List.mem_append_right _ (List.mem_singleton_self _)
  | idle ended loop =>
    refine iff_of_false (by rw [loop]; exact Bool.false_ne_true) ?_
    rintro ⟨x, hx, hlasts⟩
    exact hlasts (ended x hx)

private theorem begins_eq (h : Stands period poller c) (target : String) (runtime : Bool) :
    c.begins period target runtime =
      if poller.isRunning ∨ runtime = false then [] else [{ target, since := c.now }] := by
  have hfree : (runtime ∧ ∀ x ∈ c.stints, c.Over period x c.now) ↔
      ¬ (poller.isRunning ∨ runtime = false) := by
    rw [h.isRunning_iff]
    cases runtime <;> simp
  simp only [Calendar.begins, hfree, ite_not]

/-- A start while a watch lasts, or without a runtime, changes nothing. -/
theorem start_eq (poller : Poller String) (now : Nat) {runtime : Bool} (target : String)
    (h : poller.isRunning ∨ runtime = false) : poller.start now runtime target = poller := by
  refine if_pos ?_
  rcases h with h | h <;> simp [h]

private theorem start (hp : 0 < period) (hinterval : poller.interval = period)
    (h : Stands period poller c)
    (target : String) (runtime : Bool) :
    Stands period (poller.start c.now runtime target) (c.step period (.start target runtime)) := by
  by_cases hkept : poller.isRunning ∨ runtime = false
  · rw [Calendar.step, h.begins_eq, if_pos hkept, List.append_nil, start_eq _ _ _ hkept]
    exact h
  · rw [Calendar.step, h.begins_eq, if_neg hkept]
    have hended : ∀ x ∈ c.stints, c.Over period x c.now := fun x hx =>
      Decidable.byContradiction fun hlasts => hkept (.inl (h.isRunning_iff.mpr ⟨x, hx, hlasts⟩))
    have hnext : Stint.Next ⟨target, c.now, none⟩ period c.now 0 := Stint.next_since hp
    have hloop : (poller.start c.now runtime target).loop =
        .running ⟨target, Stint.instant ⟨target, c.now, none⟩ period 0, false⟩ := by
      have hidle : (poller.isRunning || !runtime) = false := by simpa using hkept
      rw [Stint.instant, Nat.zero_add, Nat.one_mul, Poller.start, hidle, hinterval,
        if_neg Bool.false_ne_true, if_neg (Nat.ne_of_gt hp)]
    refine .watching rfl hended ?_ hnext ⟨false, hloop⟩
    rintro (⟨stop, hstop, -⟩ | ⟨drop, -, k, -, hle⟩)
    · cases hstop
    · exact absurd (Nat.lt_of_lt_of_le hnext.ahead (Stint.instant_mono (Nat.zero_le k)))
        (Nat.not_lt.mpr hle)

private theorem stop (c : Calendar) (period : Nat) (poller : Poller String) :
    Stands period poller.stop (c.step period .stop) :=
  .idle (List.forall_mem_map.mpr fun x _ => Calendar.over_halt x) rfl

private theorem drop (h : Stands period poller c) (target : String) :
    Stands period poller (c.step period (.drop target)) := by
  have hover (x : Stint) := Calendar.over_drop_iff period x target (Nat.le_refl c.now)
  cases h with
  | watching stints ended lasts next loop =>
    exact .watching stints (fun y hy => (hover y).mpr (ended y hy))
      (fun hx => lasts ((hover _).mp hx)) next loop
  | idle ended loop => exact .idle (fun x hx => (hover x).mpr (ended x hx)) loop

end Stands

namespace Session

def after (period : Nat) (ops : List Op) : Session :=
  ops.foldl (fun s op => (s.step op).1) { poller := { interval := period } }

/-- Left to itself, the session polls the target at `date`. -/
def PollsAt (s : Session) (target : String) (date : Nat) : Prop :=
  s.clock < date ∧ ∃ n,
    (s.step (.advance (date - 1 - s.clock))).1.polls? target = some n ∧
      (s.step (.advance (date - s.clock))).1.polls? target = some (n + 1)

def PolledAt (period : Nat) (ops : List Op) (target : String) (date : Nat) : Prop :=
  ∃ before milliseconds later, ops = before ++ .advance milliseconds :: later ∧
    (after period before).PollsAt target date ∧ date ≤ (after period before).clock + milliseconds

end Session

open Session

structure Follows (period : Nat) (s : Session) (c : Calendar) : Prop where
  interval : s.poller.interval = period
  clock : s.clock = c.now
  known : ∀ x ∈ c.stints, (record? s.targets x.target).isSome
  entries : ∀ target, (record? s.targets target).getD (some 0) = c.count? period target
  dated : c.Dated period
  stands : Stands period s.poller c

namespace Follows

variable {period : Nat} {s : Session} {c : Calendar}

private theorem polls?_eq (h : Follows period s c) {target : String}
    (hknown : (record? s.targets target).isSome) : s.polls? target = c.count? period target := by
  rw [← h.entries target]
  change (record? s.targets target).join = _
  obtain ⟨polls, hpolls⟩ := Option.isSome_iff_exists.mp hknown
  rw [hpolls]
  rfl

private theorem due_ahead (h : Follows period s c) {watch : Watch String}
    (hloop : s.poller.loop = .running watch) : s.clock < watch.due := by
  rw [h.clock]
  cases h.stands with
  | watching stints ended lasts next loop =>
    obtain ⟨begun, loop⟩ := loop
    rw [loop] at hloop
    cases hloop
    exact next.ahead
  | idle ended loop =>
    rw [Poller.isRunning, hloop] at loop
    cases loop

private theorem advance_eq (hp : 0 < period) (h : Follows period s c) (milliseconds : Nat) :
    s.step (.advance milliseconds) = s.elapse (c.now + milliseconds) := by
  rw [← h.clock]
  exact Session.advance_eq (h.interval ▸ hp) (fun _ => h.due_ahead) milliseconds

private theorem start (hp : 0 < period) (h : Follows period s c) (target : String)
    (runtime : Bool) :
    Follows period (s.step (.start target runtime)).1 (c.step period (.start target runtime)) := by
  have hstands := h.stands.start hp h.interval target runtime
  rw [← h.clock] at hstands
  refine ⟨?_, h.clock, ?_, fun other => ?_, h.dated.step _, hstands⟩
  · exact (Poller.interval_start _ _ _ _).trans h.interval
  · refine List.forall_mem_append.mpr ⟨fun x hx => ?_, fun x hx => ?_⟩
    · exact isSome_record?_meet.mpr (.inr (h.known x hx))
    · rw [(Calendar.mem_begins hx).1]
      exact isSome_record?_meet.mpr (.inl rfl)
  · rw [Calendar.count?_start, ← h.entries other]
    exact record?_meet_getD

private theorem stop (h : Follows period s c) :
    Follows period (s.step .stop).1 (c.step period .stop) where
  interval := h.interval
  clock := h.clock
  known := List.forall_mem_map.mpr fun x hx => by
    rw [Calendar.halt_target]
    exact h.known x hx
  entries target := (h.entries target).trans (Calendar.count?_stop h.dated).symm
  dated := h.dated.step .stop
  stands := .stop c period s.poller

private theorem drop (h : Follows period s c) (target : String) :
    Follows period (s.step (.drop target)).1 (c.step period (.drop target)) where
  interval := h.interval
  clock := h.clock
  known x hx := isSome_record?_drop.mpr (.inr (h.known x hx))
  entries other := by
    change (record? (update (meet s.targets target) target fun _ => none) other).getD (some 0) = _
    rw [record?_update, Calendar.count?_drop]
    split
    · rw [record?_meet, if_pos rfl]
      rfl
    · rw [record?_meet_getD, h.entries]
  dated := h.dated.step _
  stands := h.stands.drop target

private theorem stands_elapse (hp : 0 < period) (h : Follows period s c) {goal : Nat}
    (hg : c.now ≤ goal) :
    Stands period (s.elapse goal).1.poller { c with now := goal } := by
  cases h.stands with
  | @watching past x k stints ended lasts next loop =>
    have hx : x ∈ c.stints := by simp [stints]
    have hover := h.dated.over_iff_of_lasting hx lasts next goal
    have hended := fun y hy => (ended y hy).later hg
    have hpolls := h.polls?_eq (h.known x hx)
    have hstands := loop
    obtain ⟨begun, loop⟩ := loop
    cases hdropped : c.dropped? x.target with
    | none =>
      rw [Calendar.count?_of_kept hdropped] at hpolls
      rw [elapse_alive loop (by rw [hpolls]; rfl), h.interval]
      refine .watching stints hended ?_ (next.after_ticks hp hg) ?_
      · refine mt hover.mp ?_
        simp [hdropped]
      · rw [Stint.instant_add, polled, h.interval]
        exact ⟨_, rfl⟩
    | some drop =>
      rw [Calendar.count?_of_drop hdropped] at hpolls
      by_cases hlt : goal < x.instant period k
      · rw [elapse_early loop hpolls hlt]
        refine .watching stints hended (fun hgone => ?_) ⟨hlt, ?_⟩ hstands
        · exact absurd (hover.mp hgone).2 (Nat.not_le.mpr hlt)
        · exact Nat.le_trans next.near (Nat.add_le_add_right hg _)
      · have hle := Nat.le_of_not_lt hlt
        rw [elapse_gone loop hpolls hle]
        refine .idle ?_ rfl
        rw [stints]
        refine List.forall_mem_append.mpr ⟨hended, List.forall_mem_singleton.mpr ?_⟩
        refine hover.mpr ⟨?_, hle⟩
        rw [hdropped]
        rfl
  | idle ended loop =>
    rw [elapse_idle loop]
    exact .idle (fun x hx => (ended x hx).later hg) loop

private theorem entries_elapse (hp : 0 < period) (h : Follows period s c) {goal : Nat}
    (hg : c.now ≤ goal)
    (target : String) :
    (record? (s.elapse goal).1.targets target).getD (some 0) =
      { c with now := goal }.count? period target := by
  have hentry := h.entries target
  cases h.stands with
  | @watching past x k stints ended lasts next loop =>
    have hx : x ∈ c.stints := by simp [stints]
    obtain ⟨begun, loop⟩ := loop
    by_cases htarget : x.target = target
    · subst htarget
      obtain ⟨polls, hpolls⟩ := Option.isSome_iff_exists.mp (h.known x hx)
      rw [hpolls] at hentry
      rw [record?_elapse_self loop, hpolls, h.interval]
      change polls.map _ = _
      change polls = _ at hentry
      rw [hentry, Calendar.count?_lasting hp stints ended (h.dated.not_stopped hx lasts) next hg]
    · rw [record?_elapse_other loop htarget, hentry]
      refine (Calendar.count?_over goal fun y hy hyt => ?_).symm
      rw [stints] at hy
      rcases List.mem_append.mp hy with hy | hy
      · exact ended y hy
      · rw [List.mem_singleton.mp hy] at hyt
        exact absurd hyt htarget
  | idle ended loop =>
    rw [elapse_idle loop]
    exact hentry.trans (Calendar.count?_over goal fun x hx _ => ended x hx).symm

private theorem elapse (hp : 0 < period) (h : Follows period s c) {goal : Nat} (hg : c.now ≤ goal) :
    Follows period (s.elapse goal).1 { c with now := goal } where
  interval := (interval_elapse s goal).trans h.interval
  clock := clock_elapse s goal
  known x hx := (isSome_record?_elapse s goal x.target).trans (h.known x hx)
  entries := h.entries_elapse hp hg
  dated := h.dated.elapse hg
  stands := h.stands_elapse hp hg

private theorem step (hp : 0 < period) (h : Follows period s c) (op : Op) :
    Follows period (s.step op).1 (c.step period op) := by
  cases op with
  | start target runtime => exact h.start hp target runtime
  | stop => exact h.stop
  | drop target => exact h.drop target
  | advance milliseconds =>
    rw [h.advance_eq hp]
    exact h.elapse hp (Nat.le_add_right _ _)

/-- It makes no difference if time passes in two parts. -/
theorem advance_add (hp : 0 < period) (h : Follows period s c) (first second : Nat) :
    s.step (.advance (first + second)) =
      (((s.step (.advance first)).1.step (.advance second)).1,
        (s.step (.advance first)).2 ++ ((s.step (.advance first)).1.step (.advance second)).2) := by
  have hle : c.now ≤ c.now + first := Nat.le_add_right _ _
  rw [h.advance_eq hp, h.advance_eq hp, (h.elapse hp hle).advance_eq hp, ← Nat.add_assoc]
  exact elapse_elapse s (Nat.le_add_right _ _)

private theorem pollsAt_iff (hp : 0 < period) (h : Follows period s c) {target : String}
    {date : Nat} :
    s.PollsAt target date ↔ c.now < date ∧ c.Awaits period target date := by
  unfold PollsAt
  rw [h.clock]
  refine and_congr_right fun hlt => ?_
  obtain ⟨goal, rfl⟩ : ∃ goal, date = goal + 1 := ⟨date - 1, by omega⟩
  have hgoal : c.now + (goal + 1 - 1 - c.now) = goal := by omega
  rw [h.advance_eq hp, h.advance_eq hp, hgoal, Nat.add_sub_cancel' (Nat.le_of_lt hlt)]
  have hstays (polls : Option Nat) : ¬ ∃ n, polls = some n ∧ polls = some (n + 1) := by
    rintro ⟨n, rfl, hn⟩
    exact Nat.ne_of_lt (Nat.lt_succ_self n) (Option.some.inj hn)
  cases h.stands with
  | @watching past x k stints ended lasts next loop =>
    rw [Calendar.awaits_iff stints ended lasts]
    obtain ⟨begun, loop⟩ := loop
    by_cases htarget : x.target = target
    · subst htarget
      rw [polls?_elapse_self loop, polls?_elapse_self loop,
        h.polls?_eq (h.known x (by simp [stints])), h.interval]
      cases hdropped : c.dropped? x.target with
      | some drop =>
        rw [Calendar.count?_of_drop hdropped]
        exact iff_of_false (fun ⟨n, hn, _⟩ => by cases hn) fun ⟨_, hkept, _⟩ => by cases hkept
      | none =>
        rw [Calendar.count?_of_kept hdropped, ← next.ticks_succ_iff hp hlt]
        refine ⟨fun ⟨n, hn, hsucc⟩ => ⟨rfl, rfl, ?_⟩, fun ⟨_, _, hsucc⟩ => ⟨_, rfl, ?_⟩⟩
        · cases hn
          exact Nat.add_left_cancel (Option.some.inj hsucc)
        · rw [hsucc]
          rfl
    · have hother (goal : Nat) : (s.elapse goal).1.polls? target = s.polls? target :=
        congrArg Option.join (record?_elapse_other loop htarget goal)
      rw [hother, hother]
      exact iff_of_false (hstays _) fun hawaited => htarget hawaited.1
  | idle ended loop =>
    rw [elapse_idle loop, elapse_idle loop]
    refine iff_of_false (hstays (s.polls? target)) ?_
    rintro ⟨y, hy, -, hlasts, -⟩
    exact hlasts (ended y hy)

end Follows

namespace Session

private theorem after_concat (period : Nat) (ops : List Op) (op : Op) :
    after period (ops ++ [op]) = ((after period ops).step op).1 := List.foldl_append

/-- What is polled along the operations is polled before the last of them or by it. -/
private theorem polledAt_concat (period : Nat) (ops : List Op) (op : Op) (target : String)
    (date : Nat) :
    PolledAt period (ops ++ [op]) target date ↔
      PolledAt period ops target date ∨
        ∃ milliseconds, op = .advance milliseconds ∧ (after period ops).PollsAt target date ∧
          date ≤ (after period ops).clock + milliseconds := by
  constructor
  · rintro ⟨before, milliseconds, later, hops, hpolls⟩
    rcases List.eq_nil_or_concat later with rfl | ⟨later, last, rfl⟩
    · obtain ⟨rfl, hop⟩ := List.append_inj' hops rfl
      exact .inr ⟨milliseconds, (List.cons.inj hop).1, hpolls⟩
    · refine .inl ⟨before, milliseconds, later, ?_, hpolls⟩
      rw [List.concat_eq_append, ← List.cons_append, ← List.append_assoc] at hops
      exact (List.append_inj' hops rfl).1
  · rintro (⟨before, milliseconds, later, rfl, hpolls⟩ | ⟨milliseconds, rfl, hpolls⟩)
    · refine ⟨before, milliseconds, later ++ [op], ?_, hpolls⟩
      rw [List.append_assoc, List.cons_append]
    · exact ⟨ops, milliseconds, [], rfl, hpolls⟩

end Session

section
variable {period : Nat}

private theorem follows_after (hp : 0 < period) (ops : List Op) :
    Follows period (after period ops) (Calendar.of period ops) := by
  induction ops using List.reverseRecOn with
  | nil =>
    exact
      { interval := rfl
        clock := rfl
        known := fun _ hx => by cases hx
        entries := fun _ => rfl
        dated := Calendar.dated_empty period
        stands := .idle (fun _ hx => by cases hx) rfl }
  | append_singleton ops op ih =>
    rw [after_concat, Calendar.of_concat]
    exact ih.step hp op

private theorem polledAt_iff (hp : 0 < period) (ops : List Op) (target : String) (date : Nat) :
    PolledAt period ops target date ↔ (Calendar.of period ops).Polled period target date := by
  induction ops using List.reverseRecOn with
  | nil =>
    refine iff_of_false ?_ ?_
    · rintro ⟨before, milliseconds, later, hops, -⟩
      exact List.append_ne_nil_of_right_ne_nil before (List.cons_ne_nil _ _) hops.symm
    · rintro ⟨x, hx, -⟩
      cases hx
  | append_singleton ops op ih =>
    have hfollows := follows_after hp ops
    rw [polledAt_concat, ih, hfollows.pollsAt_iff hp, hfollows.clock, Calendar.of_concat]
    cases op with
    | advance milliseconds =>
      rw [Calendar.polled_advance_iff hfollows.dated]
      refine or_congr_right ⟨?_, ?_⟩
      · rintro ⟨_, ⟨⟩, ⟨hlt, hawaits⟩, hle⟩
        exact ⟨hlt, hle, hawaits⟩
      · rintro ⟨hlt, hle, hawaits⟩
        exact ⟨milliseconds, rfl, ⟨hlt, hawaits⟩, hle⟩
    | start started runtime =>
      rw [Calendar.polled_start_iff hp]
      exact or_iff_left fun ⟨_, hop, _⟩ => by cases hop
    | stop =>
      rw [Calendar.polled_stop_iff]
      exact or_iff_left fun ⟨_, hop, _⟩ => by cases hop
    | drop gone =>
      rw [Calendar.polled_drop_iff]
      exact or_iff_left fun ⟨_, hop, _⟩ => by cases hop

private theorem isSome_record?_after (hp : 0 < period) (ops : List Op) (target : String) :
    (record? (after period ops).targets target).isSome ↔
      (∃ runtime, .start target runtime ∈ ops) ∨ .drop target ∈ ops := by
  induction ops using List.reverseRecOn with
  | nil => simp [after, record?]
  | append_singleton ops op ih =>
    rw [after_concat]
    cases op with
    | start started runtime =>
      refine isSome_record?_meet.trans ?_
      rw [ih]
      simp [exists_or, or_left_comm, or_comm]
    | stop =>
      refine ih.trans ?_
      simp
    | drop gone =>
      refine isSome_record?_drop.trans ?_
      rw [ih]
      simp [or_assoc, or_comm]
    | advance milliseconds =>
      rw [(follows_after hp ops).advance_eq hp, isSome_record?_elapse, ih]
      simp

private theorem isSome_dropped?_of (period : Nat) (ops : List Op) (target : String) :
    ((Calendar.of period ops).dropped? target).isSome ↔ .drop target ∈ ops := by
  induction ops using List.reverseRecOn with
  | nil => simp [Calendar.of, Calendar.dropped?]
  | append_singleton ops op ih =>
    rw [Calendar.of_concat, List.mem_append, ← ih]
    cases op with
    | drop gone =>
      rw [Calendar.dropped?_drop, Option.isSome_or, Bool.or_eq_true]
      by_cases h : target = gone <;> simp [h]
    | _ => exact (or_iff_left (by simp)).symm

private theorem polls?_after_eq_some_iff (hp : 0 < period) (ops : List Op) (target : String)
    (n : Nat) :
    (after period ops).polls? target = some n ↔
      (∃ runtime, .start target runtime ∈ ops) ∧ .drop target ∉ ops ∧
        n = tally period (Calendar.of period ops).now target (Calendar.of period ops).stints := by
  have hknown := isSome_record?_after hp ops target
  have hdropped := isSome_dropped?_of period ops target
  by_cases hentry : (record? (after period ops).targets target).isSome
  · rw [(follows_after hp ops).polls?_eq hentry]
    by_cases hgone : .drop target ∈ ops
    · obtain ⟨drop, hdrop⟩ := Option.isSome_iff_exists.mp (hdropped.mpr hgone)
      rw [Calendar.count?_of_drop hdrop]
      exact iff_of_false (fun hn => by cases hn) fun hkept => hkept.2.1 hgone
    · have hstarted := (hknown.mp hentry).resolve_right hgone
      rw [Calendar.count?_of_kept (Option.not_isSome_iff_eq_none.mp (mt hdropped.mp hgone))]
      exact ⟨fun hn => ⟨hstarted, hgone, (Option.some.inj hn).symm⟩,
        fun hn => congrArg some hn.2.2.symm⟩
  · refine iff_of_false (fun hn => ?_) fun hstarted => hentry (hknown.mpr (.inl hstarted.1))
    change (record? (after period ops).targets target).join = some n at hn
    rw [Option.not_isSome_iff_eq_none.mp hentry] at hn
    cases hn

end

/-- Watches never overlap, and the poller runs while one lasts. A watch polls its target at each of
its instants until it is stopped or the target is dropped, and the polls of a target are as many as
the period goes into the time of its watches. -/
theorem polling_keeps_schedule (period : Nat) (hp : 0 < period) (ops : List Op) :
    let s := after period ops
    let c := Calendar.of period ops
    s.clock = c.now ∧
    (s.poller.isRunning ↔ ∃ x ∈ c.stints, ¬ c.Over period x c.now) ∧
    c.stints.Pairwise (fun x y => c.Over period x y.since) ∧
    (∀ target date, PolledAt period ops target date ↔
      ∃ x ∈ c.stints, x.target = target ∧ c.Polls period x date) ∧
    (∀ target n, s.polls? target = some n ↔
      (∃ runtime, .start target runtime ∈ ops) ∧ .drop target ∉ ops ∧
        n = tally period c.now target c.stints) ∧
    (∀ target, s.poller.isRunning = false →
      Calendar.of period (ops ++ [.start target true]) =
        { c with stints := c.stints ++ [{ target, since := s.clock }] }) ∧
    (∀ target runtime, s.poller.isRunning ∨ runtime = false →
      Calendar.of period (ops ++ [.start target runtime]) = c ∧
        (s.step (.start target runtime)).1.poller = s.poller) ∧
    ∀ first second, s.step (.advance (first + second)) =
      (((s.step (.advance first)).1.step (.advance second)).1,
        (s.step (.advance first)).2 ++ ((s.step (.advance first)).1.step (.advance second)).2) := by
  intro s c
  have hfollows : Follows period s c := follows_after hp ops
  refine ⟨hfollows.clock, hfollows.stands.isRunning_iff, hfollows.dated.apart, polledAt_iff hp ops,
    polls?_after_eq_some_iff hp ops, fun target hidle => ?_, fun target runtime hkept => ⟨?_, ?_⟩,
    hfollows.advance_add hp⟩
  · have hfree : ¬ (s.poller.isRunning ∨ true = false) := by simp [hidle]
    rw [Calendar.of_concat, Calendar.step, hfollows.stands.begins_eq, if_neg hfree, hfollows.clock]
  · rw [Calendar.of_concat, Calendar.step, hfollows.stands.begins_eq, if_pos hkept, List.append_nil]
  · exact Stands.start_eq _ _ target hkept

/-- The second watch begins at 10 and polls at 13. At 14 its target is dropped, but it lasts until
16, so that a start at 15 does nothing and one at 16 begins the next watch. -/
theorem polling_keeps_schedule_dropped :
    let ops : List Op := [.start "a" true, .advance 7, .start "b" true, .advance 2, .stop,
      .advance 1, .start "b" false, .start "b" true, .advance 4, .drop "b", .advance 1]
    let late := ops ++ [.advance 1]
    0 < 3 ∧ (after 3 ops).poller.isRunning ∧ (after 3 ops).polls? "a" = some 3 ∧
      PolledAt 3 ops "b" 13 ∧ ¬ PolledAt 3 late "b" 16 ∧
      ((after 3 ops).step (.start "c" true)).1.poller = (after 3 ops).poller ∧
      (after 3 late).poller.isRunning = false ∧
      (Calendar.of 3 (late ++ [.start "c" true])).stints =
        [⟨"a", 0, some 9⟩, ⟨"b", 10, none⟩, ⟨"c", 16, none⟩] := by
  intro ops late
  have hruns : (after 3 ops).poller.isRunning := by decide
  have hended : (after 3 late).poller.isRunning = false := by decide
  obtain ⟨-, -, -, hpolled, hcount, -, hkept, -⟩ := polling_keeps_schedule 3 (by decide) ops
  obtain ⟨-, -, -, hpolled', -, hbegins, -⟩ := polling_keeps_schedule 3 (by decide) late
  refine ⟨by decide, hruns, (hcount "a" 3).mpr ⟨⟨true, by decide⟩, by decide, by decide⟩, ?_, ?_,
    (hkept "c" true (.inl hruns)).2, hended, ?_⟩
  · exact (hpolled "b" 13).mpr
      ⟨⟨"b", 10, none⟩, by decide, rfl, ⟨0, rfl⟩, by decide, by decide, by decide⟩
  · rw [hpolled']
    rintro ⟨x, -, htarget, -, -, -, hdrops⟩
    rw [htarget] at hdrops
    exact absurd (hdrops 14 (by decide)) (by decide)
  · rw [hbegins "c" hended]
    decide

end PreviewHub.Watch
