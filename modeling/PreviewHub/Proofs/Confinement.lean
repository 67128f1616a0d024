import PreviewHub.Proofs.InFlight
import PreviewHub.Proofs.Lifecycle

/-! A hub keeps to one origin. Before the first start that succeeds it posts nothing, registers no
request and passes nothing on; from then on whatever it posts is meant for the origin of that
start. -/

namespace PreviewHub

private theorem Pending.rejectAll_new (limit : Nat) (error : Error) :
    (rejectAll { limit } error).2 = { limit } :=
  rfl

namespace Machine

section
variable {m : Machine} {move : Move} {e : Effect} {used rest : List Task}

/-- A post is meant for the origin that the hub knows. -/
private theorem Works.origin_of_mem_targets (w : Works m move e used rest) (hg : Gated m)
    {target : Origin}
    (hm : target ∈ targets e.outputs) : m.hub.channel.origin = some target := by
  cases w.occasion hg with
  | routine hr ha hy => exact hr.targets target hm
  | taking rs hidle hs hi he =>
    rw [he] at hm
    change target ∈ targets (Hub.remarks rs) at hm
    rw [targets_silent (Hub.remarks_silent rs)] at hm
    cases hm
  | start hopen hst ha =>
    have hsilent : e.outputs.all Output.isSilent := by cases hst <;> rfl
    rw [targets_silent hsilent] at hm
    cases hm

def Unused (limit : Nat) (m : Machine) : Prop := m.hub.pending = { limit } ∧ m.hub.requests = []

theorem Works.unused (w : Works m move e used rest) (hg : Gated m) {limit : Nat}
    (hu : Unused limit m) (hs : m.hub.started = false) (hs' : e.hub.started = false) :
    Unused limit (take e rest).1 := by
  obtain ⟨hp, hr⟩ := hu
  have hold : used.all Task.isSilent := by
    have hagenda := (hg hs).1
    rw [w.agenda_eq, List.all_append, Bool.and_eq_true] at hagenda
    exact hagenda.1
  have hnew : e.tasks.all Task.isSilent := by
    have hagenda := ((w.gated hg).1 hs').1
    rw [take, List.all_append, Bool.and_eq_true] at hagenda
    exact hagenda.1
  cases w.deals with
  | nothing quiet aloof unheard unready => exact ⟨quiet.pending.trans hp, quiet.requests.trans hr⟩
  | issue message timeout runtime room posts targets plain hub tasks silent =>
    rw [tasks, List.all_append, Bool.and_eq_true] at hnew
    cases hnew.2
  | reply heard quiet =>
    rw [Hub.nextReply?, hs, if_neg Bool.false_ne_true] at heard
    cases heard
  | reject quiet =>
    refine ⟨quiet.pending.trans ?_, quiet.requests.trans hr⟩
    change (m.hub.pending.rejectAll .closing).2 = _
    rw [hp, Pending.rejectAll_new]
  | await r targets runtime => cases hold
  | abandon held quiet =>
    rw [hr] at held
    cases held
  | wake held concluded hub tasks outputs =>
    rw [hr] at held
    cases held
  | elapse early quiet => exact ⟨quiet.pending.trans hp, quiet.requests.trans hr⟩

end

/-- Nothing is sent, registered or passed on by a hub that is not started at the end. -/
theorem Coherent.unstarted_run {m : Machine} (hc : Coherent m) {limit : Nat} (hu : Unused limit m)
    (moves : List Move) (hs : (m.run moves).1.hub.started = false) :
    Unused limit (m.run moves).1 ∧ (m.run moves).2.all Output.isSilent := by
  induction moves generalizing m with
  | nil => exact ⟨hu, rfl⟩
  | cons move moves ih =>
    have hnow : m.hub.started = false := Bool.eq_false_iff.mpr fun hn => by
      rw [(hc.started_run hn (move :: moves)).1] at hs
      cases hs
    have hnext : (m.step move).1.hub.started = false := Bool.eq_false_iff.mpr fun hn => by
      have hlast := ((hc.step move).started_run hn moves).1
      rw [run_cons, hlast] at hs
      cases hs
    obtain ⟨hu', ho⟩ : Unused limit (m.step move).1 ∧ (m.step move).2.all Output.isSilent := by
      rcases m.step_cases move with hn | ⟨e, used, rest, w⟩
      · rw [hn]
        exact ⟨hu, rfl⟩
      · rw [w.step_eq] at hnext ⊢
        exact ⟨w.unused hc.gated hu hnow hnext, (w.gated hc.gated).2 hnow⟩
    obtain ⟨hlast, hrest⟩ := ih (hc.step move) hu' hs
    refine ⟨hlast, ?_⟩
    rw [run_cons, List.all_append, ho, hrest]
    rfl

/-- A started hub posts to its origin only. -/
theorem Coherent.origin_of_mem_targets {m : Machine} (hc : Coherent m) (hs : m.hub.started)
    (moves : List Move) {target : Origin} (hm : target ∈ targets (m.run moves).2) :
    m.hub.channel.origin = some target := by
  induction moves generalizing m with
  | nil => cases hm
  | cons move moves ih =>
    obtain ⟨hs', hsame⟩ := hc.started_run hs [move]
    rw [run_cons, targets, List.filterMap_append] at hm
    rcases List.mem_append.mp hm with hm | hm
    · rcases m.step_cases move with hn | ⟨e, used, rest, w⟩
      · rw [hn] at hm
        cases hm
      · rw [w.step_eq] at hm
        exact w.origin_of_mem_targets hc.gated hm
    · exact (congrArg Channel.origin hsame).symm.trans (ih (hc.step move) hs' hm)

/-- Before the first start that succeeds nothing is posted, registered or passed on, and all that is
posted after it is meant for its origin. -/
theorem posts_keep_to_first_origin (options : Options) (own : Bool) (h : Hub)
    (hb : Hub.build options own = .ok h) (before : List Move)
    (hn : ∀ s ∈ Machine.trace ⟨h, []⟩ before, startAnswer? s ≠ some .done) :
    let run := Machine.run ⟨h, []⟩ before
    (targets run.2 = [] ∧
      run.1.hub.pending =
        { limit := options.maxPending, nextId := 1, waiting := [], tickets := [] } ∧
      (emissions run.2).filter Notice.isInbound = []) ∧
    ∀ url runtime after,
      startAnswer? (run.1, .call (.start url runtime)) = some .done →
      ∃ origin, Origin.parse url = .ok origin ∧
        ∀ target ∈ targets (Machine.run ⟨h, []⟩ (before ++ .call (.start url runtime) :: after)).2,
          target = origin := by
  intro run
  have hc : Coherent run.1 := (coherent_new hb).run before
  have hs : run.1.hub.started = false := Bool.eq_false_iff.mpr fun hs => by
    obtain ⟨s, hm, ha⟩ := (started_iff hb before).mp hs
    exact hn s hm ha
  have hnew : Unused options.maxPending ⟨h, []⟩ := by
    rw [(Hub.build_ok hb).1]
    exact ⟨rfl, rfl⟩
  obtain ⟨hu, ho⟩ := (coherent_new hb).unstarted_run hnew before hs
  refine ⟨⟨targets_silent ho, hu.1, ?_⟩, fun url runtime after ha => ?_⟩
  · rw [← filter_isInbound_announcements, ← announced, announced_silent ho]
    rfl
  · obtain ⟨url', runtime', e, heq, hopen, hst, he, hstep⟩ := exists_starts_of_answer ha
    cases heq
    cases hst with
    | again hs' =>
      rw [hs] at hs'
      cases hs'
    | @first origin _ hp hl =>
      refine ⟨origin, hp, fun target hm => ?_⟩
      have hnext := hc.step (.call (.start url true))
      have hnone : targets run.2 = [] := targets_silent ho
      rw [hstep] at hnext
      rw [run_append, run_cons, hstep, targets, List.filterMap_append, ← targets, hnone] at hm
      exact (Option.some.inj (hnext.origin_of_mem_targets rfl after hm)).symm
    | _ => cases he

/-- A window is posted to before the start in vain, and after it, with a second start in between. -/
theorem posts_keep_to_first_origin_second_start :
    let before : List Move :=
      [.call (.registerWindow ⟨"game"⟩ true), .proceed, .proceed, .reply .done, .proceed,
        .call (.broadcast {}), .proceed, .call (.start "a" true), .proceed]
    let after : List Move :=
      [.proceed, .proceed, .call (.start "https://b" true), .proceed, .call (.broadcast {}),
        .proceed]
    ∃ origin, Origin.parse "https://a" = .ok origin ∧
      targets (Machine.run ⟨Hub.new {} (.external false), []⟩
        (before ++ .call (.start "https://a" true) :: after)).2 = [origin] := by
  intro before after
  have hn : ∀ s ∈ Machine.trace ⟨Hub.new {} (.external false), []⟩ before,
      startAnswer? s ≠ some .done := by
    decide +kernel
  have ha : startAnswer? ((Machine.run ⟨Hub.new {} (.external false), []⟩ before).1,
      .call (.start "https://a" true)) = some .done := by
    decide +kernel
  have hone : (targets (Machine.run ⟨Hub.new {} (.external false), []⟩
      (before ++ .call (.start "https://a" true) :: after)).2).length = 1 := by
    decide +kernel
  clear_value after before
  obtain ⟨-, hlater⟩ :=
    posts_keep_to_first_origin {} true (Hub.new {} (.external false)) rfl before hn
  obtain ⟨origin, hp, honly⟩ := hlater "https://a" true after ha
  exact ⟨origin, hp, List.eq_replicate_iff.mpr ⟨hone, honly⟩⟩

end Machine

end PreviewHub
