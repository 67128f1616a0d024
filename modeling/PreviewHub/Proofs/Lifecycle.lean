import PreviewHub.Proofs.Occasions

/-! The life of a hub. It is started at most once and for one origin, which it keeps; the start is
announced once. Only a start that breaks down for want of a runtime leaves a hub that knows an
origin, is not started and never will be. -/

namespace PreviewHub

structure Hub.Linked (h : Hub) : Prop where
  origin : h.channel.origin.isSome = h.listening
  started : h.started → h.listening

def Hub.isHalfway (h : Hub) : Bool := h.listening && !h.started

private theorem Hub.Linked.coupled_iff {h : Hub} (hl : h.Linked) :
    (h.started ↔ h.listening) ↔ h.isHalfway = false := by
  have himp := hl.started
  unfold isHalfway
  cases hs : h.started with
  | true => simp [himp hs]
  | false => cases h.listening <;> simp

/-- An origin that cannot be read is named in the error. -/
private theorem Origin.exists_detail_of_error {url : String} {error : Error}
    (hp : Origin.parse url = .error error) : ∃ detail, error = .invalidOrigin url detail := by
  unfold parse at hp
  split at hp
  · cases hp
  · exact ⟨_, (Except.error.inj hp).symm⟩

namespace Machine

section
variable {m : Machine} {move : Move} {e : Effect} {used rest : List Task}

theorem Works.linked (w : Works m move e used rest) (hg : Gated m) (hl : m.hub.Linked) :
    e.hub.Linked := by
  have same (hs : e.hub.started = m.hub.started) (hc : e.hub.channel = m.hub.channel)
      (hn : e.hub.listening = m.hub.listening) : e.hub.Linked := by
    constructor
    · rw [hc, hn]
      exact hl.origin
    · rw [hs, hn]
      exact hl.started
  cases w.occasion hg with
  | routine hr ha hy => exact same hr.started hr.channel hr.listening
  | taking rs hidle hs hi he => exact same (by rw [he]) (by rw [he]) (by rw [he])
  | start hopen hst ha =>
    cases hst with
    | halfway hs hp hn => exact ⟨rfl, fun _ => rfl⟩
    | first hs hp hn => exact ⟨rfl, fun _ => rfl⟩
    | _ => exact hl

/-- Only a start that breaks down leaves a hub halfway, and there it stays. -/
private theorem Works.isHalfway_iff (w : Works m move e used rest) (hg : Gated m) :
    e.hub.isHalfway ↔ m.hub.isHalfway ∨ startAnswer? (m, move) = some .panicked := by
  cases w.occasion hg with
  | routine hr ha hy =>
    rw [Hub.isHalfway, hr.started, hr.listening, ha]
    exact (or_iff_left nofun).symm
  | taking rs hidle hs hi he =>
    rw [he]
    exact (or_iff_left nofun).symm
  | start hopen hst ha =>
    rw [ha]
    cases hst with
    | halfway hs hp hn => simp [Hub.isHalfway, hs, Task.answer?]
    | first hs hp hn =>
      refine ⟨nofun, ?_⟩
      rintro (hh | hp)
      · simp [Hub.isHalfway, hn] at hh
      · cases hp
    | _ => exact (or_iff_left nofun).symm

/-- A hub is started by a start that succeeds. -/
private theorem Works.started_iff (w : Works m move e used rest) (hg : Gated m) :
    e.hub.started ↔ m.hub.started ∨ startAnswer? (m, move) = some .done := by
  cases w.occasion hg with
  | routine hr ha hy =>
    rw [hr.started, ha]
    exact (or_iff_left nofun).symm
  | taking rs hidle hs hi he =>
    rw [he]
    exact (or_iff_left nofun).symm
  | start hopen hst ha =>
    rw [ha]
    cases hst with
    | again hs => exact iff_of_true hs (Or.inl hs)
    | first hs hp hn => exact iff_of_true rfl (Or.inr rfl)
    | _ => exact (or_iff_left nofun).symm

/-- The start is announced when the hub comes to be started. -/
private theorem Works.count_bulletin (w : Works m move e used rest) (hg : Gated m) :
    m.hub.started.toNat + (bulletin (m, move)).count .stateChanged = e.hub.started.toNat := by
  unfold bulletin
  cases w.occasion hg with
  | routine hr ha hy => rw [ha, hy, if_neg fun h => (nomatch h.2), hr.started, List.count_nil]; rfl
  | @taking event inbox e rs hidle hs hi he =>
    rw [if_neg fun h => (nomatch h.2), yields_cons hidle hi, he]
    rcases m.hub.tellings_cases event with ht | ⟨notice, hn, ht⟩
    · rw [ht]
      rfl
    · have hne : notice ≠ .stateChanged := by
        rintro rfl
        cases hn
      rw [ht, List.count_singleton, if_neg (by simpa using hne)]
      rfl
  | start hopen hst ha =>
    rw [ha]
    cases hst with
    | again hs => simp [hs, yields]
    | invalid hs hp => simp [yields, Task.answer?]
    | refused hs hp hl => simp [yields, Task.answer?]
    | halfway hs hp hn => simp [yields, Task.answer?]
    | first hs hp hn =>
      rw [if_pos ⟨hs, rfl⟩, hs, List.count_singleton_self]
      rfl

end

theorem linked_run {options : Options} {own : Bool} {h : Hub}
    (hb : Hub.build options own = .ok h) (moves : List Move) :
    (Machine.run ⟨h, []⟩ moves).1.hub.Linked := by
  have hc := coherent_new hb
  refine run_induction (motive := fun _ m _ => m.hub.Linked) ⟨h, []⟩ ?_ ?_ moves
  · rw [(Hub.build_ok hb).1]
    exact ⟨rfl, nofun⟩
  · intro moves move hl
    rcases step_cases _ move with hn | ⟨e, used, rest, w⟩
    · rw [hn]
      exact hl
    · rw [w.step_eq]
      exact w.linked (hc.run moves).gated hl

/-- What comes to hold when a start is answered in a certain way, and then remains, holds once one
was answered so. -/
theorem Coherent.answered_run_iff {P : Hub → Prop} {answer : Answer}
    (hworks : ∀ {m move e used rest}, Works m move e used rest → Gated m →
      (P e.hub ↔ P m.hub ∨ startAnswer? (m, move) = some answer))
    {m : Machine} (hc : Coherent m) (moves : List Move) :
    P (m.run moves).1.hub ↔
      P m.hub ∨ ∃ s ∈ m.trace moves, startAnswer? s = some answer := by
  induction moves generalizing m with
  | nil => simp [Machine.run, trace]
  | cons move moves ih =>
    have hstep : P (m.step move).1.hub ↔ P m.hub ∨ startAnswer? (m, move) = some answer := by
      by_cases hw : ∃ e used rest, Works m move e used rest
      · obtain ⟨e, used, rest, w⟩ := hw
        rw [w.step_eq]
        exact hworks w hc.gated
      · rw [(m.step_cases move).resolve_right hw, (no_occasion hw).1]
        exact (or_iff_left (Option.some_ne_none answer).symm).symm
    rw [run_cons, trace, List.exists_mem_cons_iff, ← or_assoc, ← hstep]
    exact ih (hc.step move)

/-- A hub is halfway when some start of the run broke down. -/
theorem isHalfway_iff {options : Options} {own : Bool} {h : Hub}
    (hb : Hub.build options own = .ok h) (moves : List Move) :
    (Machine.run ⟨h, []⟩ moves).1.hub.isHalfway ↔
      ∃ s ∈ Machine.trace ⟨h, []⟩ moves, startAnswer? s = some .panicked := by
  have hnew : h.isHalfway = false := by rw [(Hub.build_ok hb).1]; rfl
  refine ((coherent_new hb).answered_run_iff (P := fun h => h.isHalfway)
    Works.isHalfway_iff moves).trans (or_iff_right ?_)
  rw [hnew]
  exact nofun

/-- A hub is started when some start of the run succeeded. -/
theorem started_iff {options : Options} {own : Bool} {h : Hub}
    (hb : Hub.build options own = .ok h) (moves : List Move) :
    (Machine.run ⟨h, []⟩ moves).1.hub.started ↔
      ∃ s ∈ Machine.trace ⟨h, []⟩ moves, startAnswer? s = some .done := by
  have hnew : h.started = false := by rw [(Hub.build_ok hb).1]; rfl
  refine ((coherent_new hb).answered_run_iff (P := fun h => h.started)
    Works.started_iff moves).trans (or_iff_right ?_)
  rw [hnew]
  exact nofun

private theorem count_bulletins {m : Machine} (hc : Coherent m) (moves : List Move) :
    m.hub.started.toNat + ((m.trace moves).flatMap bulletin).count .stateChanged =
      (m.run moves).1.hub.started.toNat := by
  induction moves generalizing m with
  | nil => rfl
  | cons move moves ih =>
    have hstep : m.hub.started.toNat + (bulletin (m, move)).count .stateChanged =
        (m.step move).1.hub.started.toNat := by
      by_cases hw : ∃ e used rest, Works m move e used rest
      · obtain ⟨e, used, rest, w⟩ := hw
        rw [w.step_eq]
        exact w.count_bulletin hc.gated
      · rw [(m.step_cases move).resolve_right hw, no_bulletin hw]
        rfl
    rw [trace, List.flatMap_cons, List.count_append, ← Nat.add_assoc, hstep]
    exact ih (hc.step move)

/-- The start was announced once if the hub is started, and else never. -/
theorem count_stateChanged {options : Options} {own : Bool} {h : Hub}
    (hb : Hub.build options own = .ok h) (moves : List Move) :
    (emissions (Machine.run ⟨h, []⟩ moves).2 ++
      upcoming (Machine.run ⟨h, []⟩ moves).1.agenda).count .stateChanged =
      (Machine.run ⟨h, []⟩ moves).1.hub.started.toNat := by
  have hc := coherent_new hb
  have hstopped : h.started = false := by rw [(Hub.build_ok hb).1]; rfl
  have hlaw := hc.announced_run moves
  have hcount := count_bulletins hc moves
  rw [hstopped, ← List.nil_append (List.flatMap _ _), show [] = announcing [] from rfl] at hcount
  rw [← hcount, ← hlaw, announced, announcing, ← List.filter_append, List.count_filter rfl]
  exact (Nat.zero_add _).symm

/-- A hub that is started remains so, for the same origin. -/
theorem Coherent.started_run {m : Machine} (hc : Coherent m) (hs : m.hub.started)
    (moves : List Move) :
    (m.run moves).1.hub.started ∧ (m.run moves).1.hub.channel = m.hub.channel := by
  induction moves generalizing m with
  | nil => exact ⟨hs, rfl⟩
  | cons move moves ih =>
    obtain ⟨hs', hc'⟩ :
        (m.step move).1.hub.started ∧ (m.step move).1.hub.channel = m.hub.channel := by
      rcases m.step_cases move with hn | ⟨e, used, rest, w⟩
      · rw [hn]
        exact ⟨hs, rfl⟩
      · obtain ⟨hkeep, hchannel, -⟩ := w.steady hc.gated (Or.inl hs)
        rw [w.step_eq]
        exact ⟨hkeep.trans hs, hchannel⟩
    obtain ⟨hlast, hsame⟩ := ih (hc.step move) hs'
    exact ⟨hlast, hsame.trans hc'⟩

/-- A start that fails for the origin it was given did nothing. -/
theorem step_of_invalidOrigin {m : Machine} {move : Move} {url detail : String}
    (ha : startAnswer? (m, move) = some (.failed (.invalidOrigin url detail))) :
    m.step move = (⟨m.hub, .answer (.failed (.invalidOrigin url detail)) :: m.agenda⟩, []) := by
  obtain ⟨url', runtime, e, rfl, hopen, hst, he, hstep⟩ := exists_starts_of_answer ha
  rw [hstep]
  cases hst with
  | invalid hs hp =>
    cases he
    rfl
  | _ => cases he

/-- No start is refused unless the hub is halfway. -/
theorem isHalfway_of_refused {m : Machine} {move : Move}
    (ha : startAnswer? (m, move) =
      some (.failed (.protocol "Message listener already installed"))) : m.hub.isHalfway := by
  obtain ⟨url, runtime, e, rfl, hopen, hst, he, hstep⟩ := exists_starts_of_answer ha
  cases hst with
  | invalid hs hp =>
    obtain ⟨detail, rfl⟩ := Origin.exists_detail_of_error hp
    cases he
  | refused hs hp hl => simp [Hub.isHalfway, hs, hl]
  | _ => cases he

/-- A valid start succeeds unless the hub is halfway. -/
theorem start_succeeds {m : Machine} (hh : m.hub.isHalfway = false) (hopen : m.isOpen)
    {url : String} {origin : Origin} (hp : Origin.parse url = .ok origin) :
    startAnswer? (m, .call (.start url true)) = some .done ∧
      (m.step (.call (.start url true))).1.hub.started ∧
      (m.hub.started = false →
        (m.step (.call (.start url true))).1.hub.channel.origin = some origin) := by
  have ha : startAnswer? (m, .call (.start url true)) =
      (m.hub.start url true).tasks.findSome? Task.answer? := if_pos hopen
  rw [ha, (Works.call (.start url true) hopen).step_eq]
  change _ ∧ (m.hub.start url true).hub.started ∧
    (_ → (m.hub.start url true).hub.channel.origin = some origin)
  generalize he : m.hub.start url true = e
  have hst := m.hub.start_starts url true
  rw [he] at hst
  cases hst with
  | again hs => exact ⟨rfl, hs, fun hn => by rw [hs] at hn; cases hn⟩
  | invalid hs hp' => cases hp.symm.trans hp'
  | refused hs hp' hl => simp [Hub.isHalfway, hs, hl] at hh
  | first hs hp' hn =>
    cases hp.symm.trans hp'
    exact ⟨rfl, rfl, fun _ => rfl⟩

/-- What is to be posted has an origin that it is meant for. -/
theorem exists_target_of_post {m : Machine} (hg : Gated m) (hl : m.hub.Linked) {id : PreviewId}
    {handle : Handle} {data : String} (hm : .post id handle data ∈ m.agenda) :
    ∃ origin, m.hub.channel.target = .ok origin := by
  by_cases hs : m.hub.started
  · have horigin := hl.origin.trans (hl.started hs)
    obtain ⟨origin, ho⟩ := Option.isSome_iff_exists.mp horigin
    exact ⟨origin, by rw [Channel.target, ho]⟩
  · cases List.all_eq_true.mp (hg (Bool.eq_false_iff.mpr hs)).1 _ hm

/-- A hub is started at most once, and all that belongs to a start happens together, unless a start
broke down for want of a runtime. -/
theorem lifecycle_moves_together (options : Options) (own : Bool) (h : Hub)
    (hb : Hub.build options own = .ok h) (moves : List Move) :
    let run := Machine.run ⟨h, []⟩ moves
    let m := run.1
    let sound := ∀ s ∈ Machine.trace ⟨h, []⟩ moves, startAnswer? s ≠ some .panicked
    (m.hub.started → ∀ more,
      (m.run more).1.hub.started ∧ (m.run more).1.hub.channel = m.hub.channel) ∧
    (emissions run.2 ++ upcoming m.agenda).count .stateChanged = m.hub.started.toNat ∧
    (m.isOpen → (emissions run.2).count .stateChanged = m.hub.started.toNat) ∧
    (∀ move url detail, startAnswer? (m, move) = some (.failed (.invalidOrigin url detail)) →
      m.step move = (⟨m.hub, .answer (.failed (.invalidOrigin url detail)) :: m.agenda⟩, [])) ∧
    (∀ id handle data, .post id handle data ∈ m.agenda →
      ∃ origin, m.hub.channel.target = .ok origin) ∧
    (m.hub.channel.origin.isSome ↔ m.hub.listening) ∧
    ((m.hub.started ↔ m.hub.channel.origin.isSome) ↔ sound) ∧
    (sound →
      (∀ move, startAnswer? (m, move) ≠
        some (.failed (.protocol "Message listener already installed"))) ∧
      ∀ url origin, m.isOpen → Origin.parse url = .ok origin →
        startAnswer? (m, .call (.start url true)) = some .done ∧
        (m.step (.call (.start url true))).1.hub.started ∧
        (m.hub.started = false →
          (m.step (.call (.start url true))).1.hub.channel.origin = some origin)) := by
  intro run m sound
  have hc : Coherent m := (coherent_new hb).run moves
  have hl : m.hub.Linked := linked_run hb moves
  have hcount := count_stateChanged hb moves
  have hsound : m.hub.isHalfway = false ↔ sound := by
    rw [Bool.eq_false_iff, Ne, isHalfway_iff hb moves]
    exact ⟨fun hn s hs ha => hn ⟨s, hs, ha⟩, fun hn ⟨s, hs, ha⟩ => hn s hs ha⟩
  refine ⟨hc.started_run, hcount, fun hopen => ?_, fun move url detail => step_of_invalidOrigin,
    fun id handle data => exists_target_of_post hc.gated hl, by rw [hl.origin], ?_, fun hs => ?_⟩
  · have howed : (upcoming m.agenda).count .stateChanged = 0 := by
      rw [← List.count_filter (p := Notice.isAnnouncement) rfl, ← announcing,
        hc.announcing_open hopen, List.count_nil]
    rw [List.count_append, howed] at hcount
    exact hcount
  · rw [hl.origin, ← hsound]
    exact hl.coupled_iff
  · have hh := hsound.mpr hs
    refine ⟨fun move ha => ?_, fun url origin hopen hp => start_succeeds hh hopen hp⟩
    rw [isHalfway_of_refused ha] at hh
    cases hh

/-- A start with no origin, one that succeeds, and one inside the callback that is told of it. -/
theorem lifecycle_moves_together_nested :
    let moves : List Move :=
      [.call (.start "a" true), .proceed, .call (.subscribe 0), .proceed,
        .call (.start "https://a" true), .proceed, .proceed, .call (.start "https://b" true),
        .proceed]
    let run := Machine.run ⟨Hub.new {} (.external false), []⟩ moves
    (Machine.trace ⟨Hub.new {} (.external false), []⟩ moves).filterMap startAnswer? =
      [.failed (.invalidOrigin "a" "relative URL without a base"), .done, .done] ∧
    run.1.isOpen ∧ (emissions run.2).count .stateChanged = 1 ∧ run.1.hub.started ∧
      run.1.hub.channel.origin.isSome ∧ run.1.hub.listening := by
  intro moves run
  have hanswers :
      (Machine.trace ⟨Hub.new {} (.external false), []⟩ moves).filterMap startAnswer? =
        [.failed (.invalidOrigin "a" "relative URL without a base"), .done, .done] := by
    decide +kernel
  have hopen : run.1.isOpen := by decide +kernel
  have hstarted : run.1.hub.started := by decide +kernel
  have hrun : run = Machine.run ⟨Hub.new {} (.external false), []⟩ moves := rfl
  clear_value run moves
  subst hrun
  have hnone : ∀ s ∈ Machine.trace ⟨Hub.new {} (.external false), []⟩ moves,
      startAnswer? s ≠ some .panicked := by
    intro s hs ha
    have hm := List.mem_filterMap.mpr ⟨s, hs, ha⟩
    rw [hanswers] at hm
    simp at hm
  obtain ⟨-, -, honce, -, -, hlisten, hcoupled, -⟩ := lifecycle_moves_together {} true _ rfl moves
  have horigin := (hcoupled.mpr hnone).mp hstarted
  exact ⟨hanswers, hopen, (honce hopen).trans (congrArg Bool.toNat hstarted), hstarted, horigin,
    hlisten.mp horigin⟩

/-- A start without a runtime leaves a hub that knows an origin, is not started, and refuses every
other start. -/
theorem start_breaks_down_halfway :
    let m := (Machine.run ⟨Hub.new {} (.external false), []⟩
      [.call (.start "https://a" false), .proceed]).1
    m.hub.started = false ∧ m.hub.channel.origin.isSome ∧ m.hub.listening ∧
      startAnswer? (m, .call (.start "https://a" true)) =
        some (.failed (.protocol "Message listener already installed")) := by
  decide +kernel

end Machine

end PreviewHub
