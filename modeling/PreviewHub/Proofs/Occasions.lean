import Mathlib.Data.List.Basic
import PreviewHub.Proofs.Inbound

/-! The occasions of a hub: it is started, an event is taken, or there is routine. From this follows
what goes through its queue, and what it announces: each announcement is the next thing that is done
after the step that gave rise to it. A hub that is not started has nothing to announce or send. -/

namespace PreviewHub

def Task.answer? : Task → Option Answer
  | .answer given => some given
  | _ => none

/-- How a start goes. Without a runtime the hub learns its origin and gives its queue away, and is
still not started. -/
inductive Hub.Starts (h : Hub) (url : String) : Bool → Effect → Prop where
  | again {runtime : Bool} (hs : h.started) :
      Starts h url runtime ⟨h, [.answer .done], [.remark .alreadyStarted]⟩
  | invalid {runtime : Bool} {error : Error} (hs : h.started = false)
      (hp : Origin.parse url = .error error) :
      Starts h url runtime ⟨h, [.answer (.failed error)], []⟩
  | refused {runtime : Bool} {origin : Origin} (hs : h.started = false)
      (hp : Origin.parse url = .ok origin) (hl : h.listening) :
      Starts h url runtime
        ⟨h, [.answer (.failed (.protocol "Message listener already installed"))], []⟩
  | halfway {origin : Origin} (hs : h.started = false) (hp : Origin.parse url = .ok origin)
      (hl : h.listening = false) :
      Starts h url false
        ⟨{ h with channel := ⟨some origin⟩, listening := true }, [.answer .panicked],
          [.remark (.started origin.text)]⟩
  | first {origin : Origin} (hs : h.started = false) (hp : Origin.parse url = .ok origin)
      (hl : h.listening = false) :
      Starts h url true
        ⟨{ h with channel := ⟨some origin⟩, listening := true, started := true },
          [.emit .stateChanged, .answer .done], [.remark (.started origin.text)]⟩

theorem Hub.start_starts (h : Hub) (url : String) (runtime : Bool) :
    h.Starts url runtime (h.start url runtime) := by
  unfold start
  by_cases hs : h.started
  · rw [if_pos hs]
    exact .again hs
  · rw [if_neg hs]
    have hs := Bool.eq_false_iff.mpr hs
    cases hp : Origin.parse url with
    | error e => exact .invalid hs hp
    | ok origin =>
      dsimp only
      by_cases hl : h.listening
      · rw [if_pos hl]
        exact .refused hs hp hl
      · rw [if_neg hl]
        have hl := Bool.eq_false_iff.mpr hl
        cases runtime with
        | true => exact .first hs hp hl
        | false => exact .halfway hs hp hl

/-- There is at most one thing to tell about an event, and it is about what came in. -/
theorem Hub.tellings_cases (h : Hub) (event : Inbound) :
    h.tellings event = [] ∨
      ∃ notice, notice.isInbound = true ∧ h.tellings event = [notice] := by
  unfold tellings
  split
  · split
    · exact Or.inr ⟨_, rfl, rfl⟩
    · split
      · exact Or.inl rfl
      · exact Or.inr ⟨_, rfl, rfl⟩
  · exact Or.inl rfl

namespace Machine

def startAnswer? : Machine × Move → Option Answer
  | (m, .call (.start url runtime)) =>
    if m.isOpen then (m.hub.start url runtime).tasks.findSome? Task.answer? else none
  | _ => none

def yields : Machine × Move → List Notice
  | (m, .listen) => if m.isIdle then m.hub.inbox.head?.toList.flatMap m.hub.tellings else []
  | _ => []

def accepted? : Machine × Move → Option Inbound
  | (m, .call (.dispatch event)) => if m.isOpen ∧ m.hub.started then some event else none
  | _ => none

def bulletin (s : Machine × Move) : List Notice :=
  if s.1.hub.started = false ∧ startAnswer? s = some .done then [.stateChanged] else yields s

/-- A hub that is not started has nothing to announce or to send, and its queue is empty. -/
def Gated (m : Machine) : Prop :=
  m.hub.started = false → m.agenda.all Task.isSilent ∧ m.hub.inbox = []

section
variable {m : Machine} {move : Move} {e : Effect} {used rest : List Task}

/-- The listener takes the oldest event, or the queue is empty. -/
theorem Gated.listen_eq (hg : Gated m) :
    m.hub.inbox = [] ∧ m.hub.listen = ⟨m.hub, [], []⟩ ∨
      ∃ event inbox rs, m.hub.inbox = event :: inbox ∧ m.hub.started ∧
        m.hub.listen = ⟨{ m.hub with inbox, pending := m.hub.settledBy event },
          (m.hub.tellings event).map .emit, .handled event :: Hub.remarks rs⟩ := by
  rcases m.hub.listen_eq with ⟨hn, he⟩ | htaken
  · exact Or.inl ⟨hn.elim (fun hi => hi) fun hs => (hg hs).2, he⟩
  · exact Or.inr htaken

/-- The occasion for a piece of work on the tasks `used`: a start, an event that is taken, or
routine. -/
inductive Occasion (m : Machine) : Move → Effect → List Task → Prop where
  | start {url : String} {runtime : Bool} {e : Effect} (hopen : m.isOpen)
      (hst : m.hub.Starts url runtime e)
      (ha : startAnswer? (m, .call (.start url runtime)) = e.tasks.findSome? Task.answer?) :
      Occasion m (.call (.start url runtime)) e []
  | taking {event : Inbound} {inbox : List Inbound} {e : Effect} (rs : List Remark)
      (hidle : m.agenda = []) (hs : m.hub.started) (hi : m.hub.inbox = event :: inbox)
      (he : e = ⟨{ m.hub with inbox, pending := m.hub.settledBy event },
        (m.hub.tellings event).map .emit, .handled event :: Hub.remarks rs⟩) :
      Occasion m .listen e []
  | routine {move : Move} {e : Effect} {used : List Task} (hr : e.Routine m.hub used)
      (ha : startAnswer? (m, move) = none) (hy : yields (m, move) = []) : Occasion m move e used

theorem Works.occasion (w : Works m move e used rest) (hg : Gated m) : Occasion m move e used := by
  have routine (hs : ∀ url runtime, move ≠ .call (.start url runtime)) (hl : move ≠ .listen) :
      Occasion m move e used := by
    refine .routine (w.routine hs hl) ?_ ?_
    · unfold startAnswer?
      split
      · rename_i heq
        cases heq
        exact absurd rfl (hs _ _)
      · rfl
    · unfold yields
      split
      · rename_i heq
        cases heq
        exact absurd rfl hl
      · rfl
  cases w with
  | call op hopen =>
    cases op with
    | start url runtime => exact .start hopen (m.hub.start_starts url runtime) (if_pos hopen)
    | _ => exact routine nofun nofun
  | listen hidle =>
    rcases hg.listen_eq with ⟨hi, he⟩ | ⟨event, inbox, rs, hi, hs, he⟩
    · rw [he]
      refine .routine ⟨rfl, rfl, rfl, rfl, rfl, rfl, nofun, fun _ _ => ⟨rfl, rfl⟩⟩ rfl ?_
      simp [yields, hi]
    · exact .taking rs hidle hs hi he
  | reply call reply rest h => exact routine nofun nofun
  | proceed task rest h => exact routine nofun nofun
  | tick h => exact routine nofun nofun
  | wake id h => exact routine nofun nofun
  | elapse ms h => exact routine nofun nofun

/-- Whoever gets an answer to a start has started the hub. -/
theorem exists_starts_of_answer {answer : Answer} (ha : startAnswer? (m, move) = some answer) :
    ∃ url runtime e, move = .call (.start url runtime) ∧ m.isOpen ∧ m.hub.Starts url runtime e ∧
      e.tasks.findSome? Task.answer? = some answer ∧ m.step move = take e m.agenda := by
  unfold startAnswer? at ha
  split at ha
  · rename_i m' url runtime heq
    cases heq
    split at ha
    · rename_i hopen
      exact ⟨url, runtime, _, rfl, hopen, m.hub.start_starts url runtime, ha,
        (Works.call (.start url runtime) hopen).step_eq⟩
    · cases ha
  · cases ha

/-- A hub that is started or has given its queue away stays as it is. -/
theorem Works.steady (w : Works m move e used rest) (hg : Gated m)
    (hl : m.hub.started ∨ m.hub.listening) :
    e.hub.started = m.hub.started ∧ e.hub.channel = m.hub.channel ∧
      e.hub.listening = m.hub.listening := by
  cases w.occasion hg with
  | routine hr ha hy => exact ⟨hr.started, hr.channel, hr.listening⟩
  | taking rs hidle hs hi he =>
    rw [he]
    exact ⟨rfl, rfl, rfl⟩
  | start hopen hst ha =>
    cases hst with
    | again hs => exact ⟨rfl, rfl, rfl⟩
    | invalid hs hp => exact ⟨rfl, rfl, rfl⟩
    | refused hs hp hl => exact ⟨rfl, rfl, rfl⟩
    | halfway hs hp hn => simp [hs, hn] at hl
    | first hs hp hn => simp [hs, hn] at hl

theorem yields_cons {event : Inbound} {inbox : List Inbound} (hidle : m.agenda = [])
    (hi : m.hub.inbox = event :: inbox) : yields (m, .listen) = m.hub.tellings event := by
  rw [yields, if_pos (isIdle_iff.mpr hidle), hi]
  exact List.append_nil _

private theorem accepted_eq_none (hs : m.hub.started = false) : accepted? (m, move) = none := by
  unfold accepted?
  split
  · rename_i heq
    cases heq
    exact if_neg fun h => by rw [hs] at h; exact nomatch h.2
  · rfl

theorem Works.unhandled (w : Works m move e used rest) (hg : Gated m) (hl : move ≠ .listen) :
    handledEvents e.outputs = [] := by
  cases w.occasion hg with
  | routine hr ha hy => exact hr.unhandled
  | taking rs hidle hs hi he => exact absurd rfl hl
  | start hopen hst ha => cases hst <;> rfl

/-- What is handled comes from the front of the queue, and what is accepted goes to its end. -/
private theorem Works.queue (w : Works m move e used rest) (hg : Gated m) :
    handledEvents e.outputs ++ e.hub.inbox = m.hub.inbox ++ (accepted? (m, move)).toList := by
  by_cases hmail : move.isMail
  · cases w with
    | call op hopen =>
      cases op with
      | dispatch event =>
        rw [m.hub.dispatch_eq event]
        by_cases hs : m.hub.started
        · simp [accepted?, handledEvents, Hub.withInbox, hopen, hs]
        · simp [accepted?, handledEvents, Hub.withInbox, hs, Output.handled?]
      | _ => cases hmail
    | listen hidle =>
      rcases hg.listen_eq with ⟨-, he⟩ | ⟨event, inbox, rs, hi, hs, he⟩
      · rw [he]
        exact (List.append_nil _).symm
      · have hnone : handledEvents (Hub.remarks rs) = [] :=
          handledEvents_silent (Hub.remarks_silent rs)
        rw [he, hi]
        change event :: handledEvents (Hub.remarks rs) ++ inbox = _
        rw [hnone]
        exact (List.append_nil _).symm
    | _ => cases hmail
  · have hmail := Bool.eq_false_iff.mpr hmail
    have hnone : accepted? (m, move) = none := by
      unfold accepted?
      split
      · rename_i heq
        cases heq
        cases hmail
      · rfl
    have hl : move ≠ .listen := by
      rintro rfl
      cases hmail
    rw [w.unhandled hg hl, w.inbox_eq hmail, hnone]
    exact (List.append_nil _).symm

theorem Works.gated (w : Works m move e used rest) (hg : Gated m) :
    Gated (take e rest).1 ∧ (m.hub.started = false → e.outputs.all Output.isSilent) := by
  by_cases hs : m.hub.started
  · have hkeep : e.hub.started = true := (w.steady hg (Or.inl hs)).1.trans hs
    refine ⟨fun hn => ?_, fun hn => ?_⟩
    · rw [take, hkeep] at hn
      cases hn
    · rw [hs] at hn
      cases hn
  · have hs := Bool.eq_false_iff.mpr hs
    obtain ⟨hagenda, hinbox⟩ := hg hs
    rw [w.agenda_eq, List.all_append, Bool.and_eq_true] at hagenda
    obtain ⟨hused, hrest⟩ := hagenda
    have hi : e.hub.inbox = [] := by
      have hq := w.queue hg
      rw [hinbox, accepted_eq_none hs] at hq
      exact (List.append_eq_nil_iff.mp hq).2
    have silent (ht : e.tasks.all Task.isSilent) : Gated (take e rest).1 := fun _ =>
      ⟨by rw [take, List.all_append, ht, hrest]; rfl, hi⟩
    cases w.occasion hg with
    | routine hr ha hy =>
      obtain ⟨ht, ho⟩ := hr.gated hs hused
      exact ⟨silent ht, fun _ => ho⟩
    | taking rs hidle hstarted _ he =>
      rw [hs] at hstarted
      cases hstarted
    | start hopen hst ha =>
      cases hst with
      | again hstarted =>
        rw [hs] at hstarted
        cases hstarted
      | invalid hs hp => exact ⟨silent rfl, fun _ => rfl⟩
      | refused hs hp hl => exact ⟨silent rfl, fun _ => rfl⟩
      | halfway hs hp hn => exact ⟨silent rfl, fun _ => rfl⟩
      | first hs hp hn => exact ⟨nofun, fun _ => rfl⟩

/-- A step announces what it was to announce, and leaves the task to announce what it gives rise to
before all others. -/
private theorem Works.announces (w : Works m move e used rest) (hg : Gated m) :
    announced e.outputs ++ announcing e.tasks = announcing used ++ bulletin (m, move) ∧
      announcing e.tasks.tail = [] := by
  unfold bulletin
  cases w.occasion hg with
  | routine hr ha hy =>
    rw [hr.announced, hr.announcing, ha, hy, if_neg (fun h => nomatch h.2)]
    exact ⟨rfl, announcing_tail hr.announcing⟩
  | @taking event inbox e rs hidle hs hi he =>
    have hsilent : announced (Hub.remarks rs) = [] := announced_silent (Hub.remarks_silent rs)
    rw [if_neg fun h => (nomatch h.2), yields_cons hidle hi, he]
    change announced (Hub.remarks rs) ++ _ = _ ∧ _
    rw [hsilent]
    rcases m.hub.tellings_cases event with ht | ⟨notice, hn, ht⟩
    · rw [ht]
      exact ⟨rfl, rfl⟩
    · rw [ht]
      refine ⟨?_, rfl⟩
      exact List.filter_cons_of_pos (Notice.isAnnouncement_of_isInbound hn)
  | start hopen hst ha =>
    rw [ha]
    cases hst with
    | again hs => exact ⟨by simp [hs]; rfl, rfl⟩
    | invalid hs hp => exact ⟨(if_neg fun h => (nomatch h.2)).symm, rfl⟩
    | refused hs hp hl => exact ⟨(if_neg fun h => (nomatch h.2)).symm, rfl⟩
    | halfway hs hp hn => exact ⟨(if_neg fun h => (nomatch h.2)).symm, rfl⟩
    | first hs hp hn => exact ⟨(if_pos ⟨hs, rfl⟩).symm, rfl⟩

/-- A move that makes the machine do nothing is no occasion for anything. -/
theorem no_occasion (hn : ¬ ∃ e used rest, Works m move e used rest) :
    startAnswer? (m, move) = none ∧ yields (m, move) = [] ∧ accepted? (m, move) = none := by
  cases move with
  | call op =>
    have hclosed : m.isOpen = false := Bool.eq_false_iff.mpr fun ho => hn ⟨_, _, _, .call op ho⟩
    cases op with
    | start url runtime => simp [startAnswer?, yields, accepted?, hclosed]
    | dispatch event => simp [startAnswer?, yields, accepted?, hclosed]
    | _ => exact ⟨rfl, rfl, rfl⟩
  | listen =>
    exact ⟨rfl, if_neg fun hi => hn ⟨_, _, _, .listen (isIdle_iff.mp hi)⟩, rfl⟩
  | _ => exact ⟨rfl, rfl, rfl⟩

theorem no_bulletin (hn : ¬ ∃ e used rest, Works m move e used rest) :
    bulletin (m, move) = [] := by
  obtain ⟨hs, hy, -⟩ := no_occasion hn
  rw [bulletin, hs, hy]
  exact if_neg fun h => nomatch h.2

structure Coherent (m : Machine) : Prop where
  gated : Gated m
  prompt : announcing m.agenda.tail = []

/-- Those who have the turn do not wait for an announcement. -/
theorem Coherent.announcing_open (hc : Coherent m) (ho : m.isOpen) : announcing m.agenda = [] := by
  rcases isOpen_iff.mp ho with hn | ⟨call, tasks, hcall⟩
  · rw [hn]
    rfl
  · have hp := hc.prompt
    rw [hcall] at hp ⊢
    exact hp

private theorem Works.announcing_rest (w : Works m move e used rest) (hc : Coherent m) :
    announcing rest = [] := by
  cases w with
  | call op ho => exact hc.announcing_open ho
  | reply call reply rest h => simpa [h] using hc.prompt
  | proceed task rest h => simpa [h] using hc.prompt
  | _ => rfl

private theorem Works.coherent (w : Works m move e used rest) (hc : Coherent m) :
    Coherent (take e rest).1 := by
  refine ⟨(w.gated hc.gated).1, ?_⟩
  have hrest := w.announcing_rest hc
  have htail := (w.announces hc.gated).2
  rw [take]
  cases ht : e.tasks with
  | nil => exact announcing_tail hrest
  | cons task tasks =>
    rw [ht] at htail
    rw [List.cons_append, List.tail_cons, announcing_append, hrest, List.append_nil]
    exact htail

end

theorem Coherent.step {m : Machine} (hc : Coherent m) (move : Move) :
    Coherent (m.step move).1 := by
  rcases m.step_cases move with h | ⟨e, used, rest, w⟩
  · rw [h]
    exact hc
  · rw [w.step_eq]
    exact w.coherent hc

theorem Coherent.run {m : Machine} (hc : Coherent m) (moves : List Move) :
    Coherent (m.run moves).1 :=
  run_keeps (fun hc move => hc.step move) hc moves

theorem coherent_new {options : Options} {own : Bool} {h : Hub}
    (hb : Hub.build options own = .ok h) : Coherent ⟨h, []⟩ := by
  rw [(Hub.build_ok hb).1]
  exact ⟨fun _ => ⟨rfl, rfl⟩, rfl⟩

/-- Over a run, what was put out and what is still owed are what was owed and what fell due. -/
theorem Coherent.run_ledger {α : Type} (told : List Output → List α) (owed : Machine → List α)
    (due : Machine × Move → List α)
    (happend : ∀ first second, told (first ++ second) = told first ++ told second)
    (hnil : told [] = [])
    (hnone : ∀ {m move}, (¬ ∃ e used rest, Works m move e used rest) → due (m, move) = [])
    (hworks : ∀ {m move e used rest}, Coherent m → Works m move e used rest →
      told e.outputs ++ owed (take e rest).1 = owed m ++ due (m, move))
    {m : Machine} (hc : Coherent m) (moves : List Move) :
    told (m.run moves).2 ++ owed (m.run moves).1 = owed m ++ (m.trace moves).flatMap due := by
  have hstep {m : Machine} (hc : Coherent m) (move : Move) :
      told (m.step move).2 ++ owed (m.step move).1 = owed m ++ due (m, move) := by
    by_cases hw : ∃ e used rest, Works m move e used rest
    · obtain ⟨e, used, rest, w⟩ := hw
      rw [w.step_eq]
      exact hworks hc w
    · rw [(m.step_cases move).resolve_right hw, hnone hw, hnil, List.append_nil]
      rfl
  induction moves generalizing m with
  | nil =>
    change told [] ++ owed m = owed m ++ []
    rw [hnil, List.append_nil, List.nil_append]
  | cons move moves ih =>
    rw [run_cons, trace, happend, List.append_assoc, ih (hc.step move), List.flatMap_cons,
      ← List.append_assoc, hstep hc move, List.append_assoc]

/-- What was handled and what is queued are the events that were accepted, in this order. -/
theorem Coherent.handledEvents_run {m : Machine} (hc : Coherent m) (moves : List Move) :
    handledEvents (m.run moves).2 ++ (m.run moves).1.hub.inbox =
      m.hub.inbox ++ (m.trace moves).filterMap accepted? := by
  rw [List.filterMap_eq_flatMap_toList]
  refine run_ledger handledEvents (·.hub.inbox) (fun s => (accepted? s).toList)
    handledEvents_append rfl (fun hn => ?_) (fun hc w => w.queue hc.gated) hc moves
  rw [(no_occasion hn).2.2]
  rfl

/-- What was announced and what is to be announced next are what the steps gave rise to. -/
theorem Coherent.announced_run {m : Machine} (hc : Coherent m) (moves : List Move) :
    announced (m.run moves).2 ++ announcing (m.run moves).1.agenda =
      announcing m.agenda ++ (m.trace moves).flatMap bulletin := by
  refine run_ledger announced (announcing ·.agenda) bulletin announced_append rfl no_bulletin
    (fun {m move e used rest} hc w => ?_) hc moves
  have hrest := w.announcing_rest hc
  calc announced e.outputs ++ announcing (e.tasks ++ rest)
    _ = announced e.outputs ++ announcing e.tasks := by
      rw [announcing_append, hrest, List.append_nil]
    _ = announcing used ++ bulletin (m, move) := (w.announces hc.gated).1
    _ = announcing m.agenda ++ bulletin (m, move) := by
      rw [w.agenda_eq, announcing_append, hrest, List.append_nil]

end Machine

end PreviewHub
