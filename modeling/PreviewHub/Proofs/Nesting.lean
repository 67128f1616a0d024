import PreviewHub.Proofs.Progress
import PreviewHub.Proofs.Turns
import PreviewHub.Proofs.Undisturbed

/-! Operations within operations. While a call of an operation is under way, those outside may begin
others, which are carried out or broken off before the call returns. However deep they are nested,
what is left of the operation itself stays where it is meanwhile. So what it does by itself can be
told apart from what is done within its calls, and what each of its own steps keeps is kept from its
beginning to its end, if it is kept by whatever others do. -/

namespace PreviewHub

/-- The last task of an operation: its answer or, for a request, to wait for the reply. -/
def Task.isFinal : Task → Bool
  | .answer _ => true
  | .awaitReply _ _ _ _ => true
  | _ => false

def layers (tasks : List Task) : Nat := tasks.countP Task.isFinal

def isStacked (tasks : List Task) : Bool := tasks.getLast?.all Task.isFinal

private theorem layers_append (first second : List Task) :
    layers (first ++ second) = layers first + layers second :=
  List.countP_append

private theorem layers_ordinary {tasks : List Task} (h : ∀ t ∈ tasks, t.isFinal = false) :
    layers tasks = 0 :=
  List.countP_eq_zero.mpr fun t ht => Bool.eq_false_iff.mp (h t ht)

private theorem layers_pos {tasks : List Task} (hs : isStacked tasks) (hne : tasks ≠ []) :
    0 < layers tasks := by
  apply List.countP_pos_iff.mpr
  refine ⟨tasks.getLast hne, List.getLast_mem hne, ?_⟩
  rwa [isStacked, List.getLast?_eq_some_getLast hne] at hs

private theorem isStacked_append {first second : List Task} (hne : second ≠ [])
    (hs : isStacked second) :
    isStacked (first ++ second) := by
  have hl := List.getLast?_eq_some_getLast hne
  rw [isStacked, List.getLast?_append, hl, Option.some_or]
  rwa [isStacked, hl] at hs

/-- Without its first task, which is not final, there is still an operation. -/
private theorem isStacked_tail {t : Task} {later : List Task} (hs : isStacked (t :: later))
    (ht : t.isFinal = false) : later ≠ [] ∧ isStacked later := by
  cases later with
  | nil =>
    rw [isStacked, List.getLast?_singleton, Option.all_some, ht] at hs
    cases hs
  | cons next later =>
    refine ⟨List.cons_ne_nil _ _, ?_⟩
    rwa [isStacked, List.getLast?_cons_cons] at hs

/-- What the beginning of an operation leads to: tasks of which the last is final, while nothing is
seen yet apart from the log. -/
structure Effect.Begins (e : Effect) : Prop where
  nonempty : e.tasks ≠ []
  stacked : isStacked e.tasks
  silent : seen e.outputs = []

namespace Hub

theorem begin_begins (h : Hub) (op : Op) : (h.begin op).Begins := by
  have begins (tasks : List Task) {last : Task} {h' : Hub} {outputs : List Output}
      (hf : last.isFinal) (ho : seen outputs = []) :
      Effect.Begins ⟨h', tasks ++ [last], outputs⟩ := by
    refine ⟨List.append_ne_nil_of_right_ne_nil _ (List.cons_ne_nil _ _), ?_, ho⟩
    rwa [isStacked, List.getLast?_concat]
  cases op with
  | start url runtime =>
    simp only [begin, start]
    split
    · exact begins [] rfl rfl
    · split
      · exact begins [] rfl rfl
      · split
        · exact begins [] rfl rfl
        · split
          · exact begins [_] rfl rfl
          · exact begins [] rfl rfl
  | registerWindow handle runtime =>
    simp only [begin, registerWindow]
    split
    · exact begins [_, _] rfl rfl
    · exact begins [_] rfl rfl
  | registerFrame handle =>
    simp only [begin, registerFrame]
    split
    · exact begins [] rfl rfl
    · exact begins [_] rfl (seen_remarks _)
  | unregisterFrame handle =>
    simp only [begin, unregisterFrame]
    split
    · exact begins [_] rfl rfl
    · exact begins [] rfl rfl
  | closeAll => exact begins [_, _] rfl rfl
  | poll => exact begins _ rfl rfl
  | send id message =>
    simp only [begin, send]
    split
    · split
      · exact begins [_] rfl rfl
      · exact begins [] rfl rfl
    · exact begins [] rfl rfl
  | broadcast message =>
    simp only [begin, broadcast]
    split
    · exact begins _ rfl rfl
    · exact begins [] rfl rfl
  | request message timeout runtime =>
    simp only [begin, request]
    split
    · split
      · exact begins [] rfl rfl
      · exact begins _ rfl rfl
    · exact begins [] rfl rfl
  | abandon id =>
    simp only [begin, abandon]
    split
    · exact begins [] rfl (seen_remarks _)
    · exact begins [] rfl rfl
  | dispatch event =>
    simp only [begin, dispatch]
    split <;> exact begins [] rfl rfl
  | subscribe listener => exact begins [] rfl rfl
  | unsubscribe id => exact begins [] rfl (seen_remarks _)

/-- No task but a final one leaves a final one. -/
private theorem perform_ordinary (h : Hub) {task : Task} (ht : task.isFinal = false) :
    ∀ t ∈ (h.perform task).tasks, t.isFinal = false := by
  cases task with
  | emit notice => simp [perform, Task.isFinal]
  | post id handle data =>
    simp only [perform]
    split <;> simp [callOut, postFailed, Task.isFinal]
  | startWatcher runtime =>
    simp only [perform, startWatcher]
    split <;> simp [callOut, Task.isFinal]
  | stopWatcher =>
    simp only [perform, stopWatcher]
    split <;> simp [callOut, Task.isFinal]
  | closeConnections =>
    simp only [perform, List.forall_mem_append, List.forall_mem_map]
    exact ⟨fun _ _ => rfl, by simp [Task.isFinal]⟩
  | closeWindow id =>
    simp only [perform]
    split <;> simp [callOut, Task.isFinal]
  | closeFrame =>
    simp only [perform]
    split <;> simp [Task.isFinal]
  | stopIdleWatcher =>
    simp only [perform]
    split <;> simp [Task.isFinal]
  | restartWatcher =>
    simp only [perform]
    split <;> simp [Task.isFinal]
  | awaitReply id timeout targets runtime => cases ht
  | answer answer => cases ht
  | _ => simp [perform, callOut, Task.isFinal]

/-- A final task is the last of its operation, or leaves the last. -/
private theorem perform_final (h : Hub) {task : Task} (ht : task.isFinal) :
    isStacked (h.perform task).tasks := by
  cases task with
  | answer answer => rfl
  | awaitReply id timeout targets runtime =>
    simp only [perform, awaitReply]
    split
    · split <;> rfl
    · rfl
  | _ => cases ht

private theorem resume_ordinary (h : Hub) (call : Call) (reply : Reply) :
    ∀ t ∈ (h.resume call reply).tasks, t.isFinal = false := by
  cases call with
  | post id handle data origin => cases reply <;> simp [resume, postFailed, Task.isFinal]
  | probe id handle =>
    cases reply with
    | closed =>
      simp only [resume]
      split <;> simp [Task.isFinal]
    | _ => exact List.forall_mem_nil _
  | _ => cases reply <;> exact List.forall_mem_nil _

theorem seen_resume (h : Hub) (call : Call) (reply : Reply) :
    seen (h.resume call reply).outputs = [] := by
  cases call with
  | probe id handle =>
    cases reply with
    | closed =>
      simp only [resume]
      split <;> rfl
    | _ => rfl
  | _ => cases reply <;> rfl

private theorem unwind_ordinary (h : Hub) {t : Task} (ht : t.isFinal = false) {rest : List Task}
    (hne : rest ≠ []) : h.unwind (t :: rest) = h.unwind rest := by
  cases rest with
  | nil => exact absurd rfl hne
  | cons next rest =>
    cases t with
    | answer answer => cases ht
    | awaitReply id timeout targets runtime => cases ht
    | _ => rfl

/-- To break off ends with the first final task. -/
private theorem unwind_final (h : Hub) {last : Task} (hl : last.isFinal) (rest : List Task) :
    (h.unwind (last :: rest)).tasks = rest := by
  cases last with
  | answer answer => rfl
  | awaitReply id timeout targets runtime => rfl
  | _ => cases hl

/-- To break off drops at least the next task. -/
private theorem length_unwind_le (h : Hub) (tasks : List Task) :
    (h.unwind tasks).tasks.length ≤ tasks.length - 1 := by
  induction tasks with
  | nil => exact Nat.le_refl _
  | cons t tasks ih =>
    cases t with
    | answer answer => exact Nat.le_refl _
    | awaitReply id timeout targets runtime => exact Nat.le_refl _
    | stopIdleWatcher =>
      cases tasks with
      | nil => exact Nat.le_refl _
      | cons next tasks => exact Nat.le_trans ih (Nat.sub_le _ _)
    | _ => exact Nat.le_trans ih (Nat.sub_le _ _)

theorem unwind_append (h : Hub) {body : List Task} (hb : ∀ t ∈ body, t.isFinal = false)
    {base : List Task} (hne : base ≠ []) : h.unwind (body ++ base) = h.unwind base := by
  induction body with
  | nil => rfl
  | cons t body ih =>
    obtain ⟨ht, hb⟩ := List.forall_mem_cons.mp hb
    rw [List.cons_append, h.unwind_ordinary ht (List.append_ne_nil_of_right_ne_nil _ hne), ih hb]

/-- Of stacked operations the first is broken off, and the others stay. -/
private theorem unwind_stacked (h : Hub) {nested : List Task} (hs : isStacked nested)
    (hne : nested ≠ [])
    (rest : List Task) :
    ∃ left, isStacked left ∧ (h.unwind (nested ++ rest)).tasks = left ++ rest := by
  induction nested with
  | nil => exact absurd rfl hne
  | cons t later ih =>
    by_cases ht : t.isFinal
    · refine ⟨later, ?_, h.unwind_final ht _⟩
      cases later with
      | nil => rfl
      | cons next later => rwa [isStacked, List.getLast?_cons_cons] at hs
    · have ht := Bool.eq_false_iff.mpr ht
      obtain ⟨hne, hs⟩ := isStacked_tail hs ht
      obtain ⟨left, hleft, hu⟩ := ih hs hne
      refine ⟨left, hleft, ?_⟩
      rw [List.cons_append, h.unwind_ordinary ht (List.append_ne_nil_of_left_ne_nil hne _), hu]

end Hub

inductive Deed where
  | shown (output : Output)
  | returned (call : Call) (reply : Reply)
  deriving DecidableEq, Repr

def Deed.matters : Deed → Bool
  | .shown (.remark _) => false
  | .shown (.called (.notify _ _)) => false
  | .returned (.notify _ _) _ => false
  | _ => true

namespace Machine

def deeds : Machine × Turn → List Deed
  | (m, .move (.reply reply)) =>
    m.call?.toList.map (fun call => .returned call reply) ++ (m.step (.reply reply)).2.map .shown
  | (m, turn) => (m.turn turn).2.map .shown

/-- Whether a turn is one of the operation itself that is `depth` deep, where an operation that is
not begun within another is one deep. All turns within its calls are of deeper ones. -/
def isOwn (depth : Nat) : Machine × Turn → Bool
  | (_, .move (.call _)) => false
  | (m, _) => layers m.agenda = depth

def record (depth : Nat) (steps : List (Machine × Turn)) : List Deed :=
  ((steps.filter (isOwn depth)).flatMap deeds).filter Deed.matters

structure Lasts (m : Machine) (rest : List Task) (turns : List Turn) : Prop where
  underway : ∀ step ∈ m.course turns, rest.length + 1 < step.1.agenda.length
  left : rest.length + 1 ≤ (m.after turns).agenda.length

/-- All is done that was to be done before `rest`, but for one last task. -/
structure Completes (m : Machine) (rest : List Task) (turns : List Turn) : Prop where
  underway : ∀ step ∈ m.course turns, rest.length + 1 < step.1.agenda.length
  last : (m.after turns).agenda.length = rest.length + 1

private theorem Completes.lasts {m : Machine} {rest : List Task} {turns : List Turn}
    (hc : m.Completes rest turns) : m.Lasts rest turns :=
  ⟨hc.underway, Nat.le_of_eq hc.last.symm⟩

section
variable {depth : Nat} {m : Machine} {turn : Turn} {steps : List (Machine × Turn)}

theorem record_concat_own (ho : isOwn depth (m, turn)) :
    record depth (steps ++ [(m, turn)]) =
      record depth steps ++ (deeds (m, turn)).filter Deed.matters := by
  simp only [record, List.filter_append, List.filter_cons_of_pos ho, List.filter_nil,
    List.flatMap_append, List.flatMap_singleton]

theorem record_concat_other (ho : isOwn depth (m, turn) = false) :
    record depth (steps ++ [(m, turn)]) = record depth steps := by
  simp [record, List.filter_append, ho]

/-- A turn in which nothing is done leaves the record as it is. -/
theorem record_concat_idle (hd : deeds (m, turn) = []) :
    record depth (steps ++ [(m, turn)]) = record depth steps := by
  by_cases ho : isOwn depth (m, turn)
  · rw [record_concat_own ho, hd, List.filter_nil, List.append_nil]
  · exact record_concat_other (Bool.eq_false_iff.mpr ho)

private theorem deeds_of_turn (hr : ∀ reply, turn = .move (.reply reply) → m.call? = none)
    (ht : m.turn turn = (m, [])) : deeds (m, turn) = [] := by
  unfold deeds
  split
  · rename_i m' reply heq
    cases heq
    have hs : m.step (.reply reply) = (m, []) := ht
    rw [hr reply rfl, hs]
    rfl
  · rename_i heq
    cases heq
    rw [ht]
    rfl

end

theorem deeds_proceed {m : Machine} {t : Task} {rest : List Task} (hm : m.agenda = t :: rest) :
    deeds (m, .move .proceed) = (m.hub.perform t).outputs.map .shown := by
  rw [deeds, Machine.turn, (Works.proceed t rest hm).step_eq, take]
  rintro reply ⟨⟩

/-- Apart from the log, a call that returns shows nothing but that it returns. -/
theorem deeds_reply {m : Machine} {call : Call} {rest : List Task}
    (hm : m.agenda = .waiting call :: rest) (reply : Reply) :
    (deeds (m, .move (.reply reply))).filter Deed.matters =
      [.returned call reply].filter Deed.matters := by
  have hcall : m.call? = some call := by simp only [call?, hm]
  have hsilent : ((m.hub.resume call reply).outputs.map Deed.shown).filter Deed.matters = [] := by
    refine List.filter_eq_nil_iff.mpr fun d hd => ?_
    obtain ⟨output, ho, rfl⟩ := List.mem_map.mp hd
    have hseen := List.filter_eq_nil_iff.mp (m.hub.seen_resume call reply) output ho
    cases output with
    | remark remark => exact Bool.false_ne_true
    | _ => exact absurd rfl hseen
  rw [deeds, hcall, (Works.reply call reply rest hm).step_eq, take, List.filter_append, hsilent,
    List.append_nil]
  rfl

/-- Of an operation `body` is left before `base`. If others are in progress within it, it waits for
the call in which they were begun. -/
inductive Pursues (base body : List Task) (m : Machine) : Prop where
  | level (ordinary : ∀ t ∈ body, t.isFinal = false) (agenda : m.agenda = body ++ base)
  | within {call : Call} {later : List Task} (nested : List Task) (hne : nested ≠ [])
      (stacked : isStacked nested) (waits : body = .waiting call :: later)
      (ordinary : ∀ t ∈ body, t.isFinal = false) (agenda : m.agenda = nested ++ (body ++ base))

/-- How a turn goes on with an operation of which `body` is left: nothing happens, something is done
within its call, or it takes a step itself. -/
inductive Goes (base : List Task) (m : Machine) : List Task → Turn → Prop where
  | idle {body : List Task} {turn : Turn} (done : deeds (m, turn) = [])
      (same : m.turn turn = (m, [])) : Goes base m body turn
  | aside {call : Call} {later : List Task} {turn : Turn}
      (other : isOwn (layers base) (m, turn) = false)
      (next : Pursues base (.waiting call :: later) (m.turn turn).1) :
      Goes base m (.waiting call :: later) turn
  | proceed {t : Task} {later : List Task} (agenda : m.agenda = t :: (later ++ base))
      (wakeful : t.isWaiting = false) (own : isOwn (layers base) (m, .move .proceed))
      (next : Pursues base ((m.hub.perform t).tasks ++ later) (m.step .proceed).1) :
      Goes base m (t :: later) (.move .proceed)
  | reply {call : Call} {reply : Reply} {later : List Task}
      (agenda : m.agenda = .waiting call :: (later ++ base))
      (own : isOwn (layers base) (m, .move (.reply reply)))
      (next : Pursues base ((m.hub.resume call reply).tasks ++ later) (m.step (.reply reply)).1) :
      Goes base m (.waiting call :: later) (.move (.reply reply))

section
variable {base body : List Task} {m : Machine}

/-- Work on operations above `below` leaves operations above it, or none. -/
private theorem stacked_move {nested below : List Task} (hs : isStacked nested) (hne : nested ≠ [])
    (hm : m.agenda = nested ++ below) (move : Move) :
    ∃ nested', isStacked nested' ∧ (m.step move).1.agenda = nested' ++ below := by
  rcases m.step_cases move with hn | ⟨e, used, rest, w⟩
  · exact ⟨nested, hs, by rw [hn, hm]⟩
  · have hagenda : nested ++ below = used ++ rest := hm.symm.trans w.agenda_eq
    rw [w.step_eq, take]
    have later {t : Task} (hu : used = [t]) (hf : t.isFinal = false) :
        ∃ nested', isStacked nested' ∧ e.tasks ++ rest = nested' ++ below := by
      cases nested with
      | nil => exact absurd rfl hne
      | cons first later =>
        rw [hu, List.cons_append, List.singleton_append] at hagenda
        obtain ⟨rfl, rfl⟩ := List.cons.inj hagenda
        obtain ⟨hne, hs⟩ := isStacked_tail hs hf
        exact ⟨e.tasks ++ later, isStacked_append hne hs, (List.append_assoc ..).symm⟩
    have empty (h : m.agenda = []) :
        ∃ nested', isStacked nested' ∧ e.tasks ++ rest = nested' ++ below :=
      absurd (List.append_eq_nil_iff.mp (hm.symm.trans h)).1 hne
    cases w with
    | call op hopen =>
      refine ⟨(m.hub.begin op).tasks ++ nested, isStacked_append hne hs, ?_⟩
      rw [hm, List.append_assoc]
    | reply call reply rest h => exact later rfl rfl
    | proceed task rest h =>
      by_cases hf : task.isFinal
      · cases nested with
        | nil => exact absurd rfl hne
        | cons first nested =>
          obtain ⟨rfl, rfl⟩ := List.cons.inj hagenda
          refine ⟨(m.hub.perform first).tasks ++ nested, ?_, (List.append_assoc ..).symm⟩
          cases nested with
          | nil =>
            rw [List.append_nil]
            exact m.hub.perform_final hf
          | cons next nested =>
            apply isStacked_append (List.cons_ne_nil _ _)
            rwa [isStacked, List.getLast?_cons_cons] at hs
      · exact later rfl (Bool.eq_false_iff.mpr hf)
    | listen h => exact empty h
    | tick h => exact empty h
    | wake id h => exact empty h
    | elapse ms h => exact empty h

/-- Operations above `below` end before anything happens to it, even if they are broken off. -/
private theorem stacked_turn {nested below : List Task} (hs : isStacked nested) (hne : nested ≠ [])
    (hm : m.agenda = nested ++ below) (turn : Turn) :
    ∃ nested', isStacked nested' ∧ (m.turn turn).1.agenda = nested' ++ below := by
  cases turn with
  | move move => exact stacked_move hs hne hm move
  | breakOff =>
    cases nested with
    | nil => exact absurd rfl hne
    | cons t later =>
      cases t with
      | waiting call =>
        obtain ⟨hne, hs⟩ := isStacked_tail hs rfl
        obtain ⟨left, hleft, hu⟩ := m.hub.unwind_stacked hs hne below
        refine ⟨left, hleft, ?_⟩
        simp only [Machine.turn, breakOff, hm, List.cons_append, take, List.append_nil, hu]
      | _ => exact ⟨_, hs, by simp only [Machine.turn, breakOff, hm, List.cons_append]⟩

private theorem layers_level (hb : ∀ t ∈ body, t.isFinal = false) (hm : m.agenda = body ++ base) :
    layers m.agenda = layers base := by
  rw [hm, layers_append, layers_ordinary hb, Nat.zero_add]

private theorem between_cons {t : Task} {rest : List Task} (hm : m.agenda = t :: rest)
    (effect : Effect) :
    m.between effect = (m, []) :=
  if_neg fun hidle => by
    rw [isIdle_iff.mp hidle] at hm
    cases hm

/-- An operation whose call is under way waits while others begin something, or the call returns. -/
private theorem goes_waiting {call : Call} {later : List Task} (hb : base ≠ [])
    (ordinary : ∀ t ∈ Task.waiting call :: later, t.isFinal = false)
    (hm : m.agenda = .waiting call :: (later ++ base)) (turn : Turn)
    (hl : base.length ≤ (m.turn turn).1.agenda.length) :
    Goes base m (.waiting call :: later) turn := by
  have hlater := (List.forall_mem_cons.mp ordinary).2
  have idle (hr : ∀ reply, turn ≠ .move (.reply reply)) (ht : m.turn turn = (m, [])) :
      Goes base m (.waiting call :: later) turn :=
    .idle (deeds_of_turn (fun reply he => absurd he (hr reply)) ht) ht
  cases turn with
  | move move =>
    cases move with
    | call op =>
      have hbegins := m.hub.begin_begins op
      refine .aside rfl ?_
      rw [Machine.turn, (Works.call op (isOpen_iff.mpr (Or.inr ⟨_, _, hm⟩))).step_eq]
      refine .within _ hbegins.nonempty hbegins.stacked rfl ordinary ?_
      rw [take, hm]
      rfl
    | reply reply =>
      refine .reply hm (decide_eq_true (layers_level ordinary hm)) ?_
      rw [(Works.reply call reply _ hm).step_eq]
      refine .level ?_ (List.append_assoc ..).symm
      exact List.forall_mem_append.mpr ⟨m.hub.resume_ordinary call reply, hlater⟩
    | proceed =>
      refine idle (by rintro _ ⟨⟩) ?_
      rw [Machine.turn, (Works.proceed (.waiting call) _ hm).step_eq, take]
      simp only [Hub.perform, List.singleton_append, ← hm]
    | listen => exact idle (by rintro _ ⟨⟩) (between_cons hm _)
    | tick => exact idle (by rintro _ ⟨⟩) (between_cons hm _)
    | wake id => exact idle (by rintro _ ⟨⟩) (between_cons hm _)
    | elapse ms => exact idle (by rintro _ ⟨⟩) (between_cons hm _)
  | breakOff =>
    have hbroken : (m.turn .breakOff).1.agenda = (m.hub.unwind base).tasks := by
      simp only [Machine.turn, breakOff, hm, take, List.append_nil, m.hub.unwind_append hlater hb]
    have hpos := List.length_pos_iff.mpr hb
    have hle := m.hub.length_unwind_le base
    rw [hbroken] at hl
    omega

/-- Where no call is under way, the operation goes on by itself. -/
private theorem goes_task {t : Task} {later : List Task} (hw : t.isWaiting = false)
    (ordinary : ∀ t' ∈ t :: later, t'.isFinal = false) (hm : m.agenda = t :: (later ++ base))
    (turn : Turn) : Goes base m (t :: later) turn := by
  have hcall : m.call? = none := by
    unfold call?
    rw [hm]
    cases t with
    | waiting call => cases hw
    | _ => rfl
  have idle (ht : m.turn turn = (m, [])) : Goes base m (t :: later) turn :=
    .idle (deeds_of_turn (fun _ _ => hcall) ht) ht
  cases turn with
  | move move =>
    cases move with
    | call op =>
      refine idle (if_neg ?_)
      rw [hcall, isIdle, hm]
      exact Bool.false_ne_true
    | reply reply =>
      apply idle
      cases t with
      | waiting call => cases hw
      | _ => simp only [Machine.turn, step, hm]
    | proceed =>
      obtain ⟨ht, hlater⟩ := List.forall_mem_cons.mp ordinary
      refine .proceed hm hw (decide_eq_true (layers_level ordinary hm)) ?_
      rw [(Works.proceed t _ hm).step_eq]
      refine .level ?_ (List.append_assoc ..).symm
      exact List.forall_mem_append.mpr ⟨m.hub.perform_ordinary ht, hlater⟩
    | listen => exact idle (between_cons hm _)
    | tick => exact idle (between_cons hm _)
    | wake id => exact idle (between_cons hm _)
    | elapse ms => exact idle (between_cons hm _)
  | breakOff =>
    apply idle
    cases t with
    | waiting call => cases hw
    | _ => simp only [Machine.turn, breakOff, hm]

private theorem isOwn_of_layers_ne {depth : Nat} (h : layers m.agenda ≠ depth) (turn : Turn) :
    isOwn depth (m, turn) = false := by
  unfold isOwn
  split
  · rfl
  · rename_i heq
    cases heq
    exact decide_eq_false h

/-- While something is left of an operation and it is not broken off, a turn goes on with it. -/
private theorem Pursues.goes (hp : Pursues base body m) (hb : base ≠ []) (turn : Turn)
    (hm : base.length < m.agenda.length) (hl : base.length ≤ (m.turn turn).1.agenda.length) :
    Goes base m body turn := by
  cases hp with
  | within nested hne stacked waits ordinary agenda =>
    subst waits
    have hdeep : layers m.agenda ≠ layers base := by
      have hpos := layers_pos stacked hne
      rw [agenda, layers_append, layers_append, layers_ordinary ordinary]
      omega
    obtain ⟨nested', hs, hagenda⟩ := stacked_turn stacked hne agenda turn
    refine .aside (isOwn_of_layers_ne hdeep turn) ?_
    by_cases hn : nested' = []
    · rw [hn] at hagenda
      exact .level ordinary hagenda
    · exact .within nested' hn hs rfl ordinary hagenda
  | level ordinary agenda =>
    cases body with
    | nil =>
      rw [agenda] at hm
      exact absurd hm (Nat.lt_irrefl _)
    | cons t later =>
      by_cases hw : t.isWaiting
      · cases t with
        | waiting call => exact goes_waiting hb ordinary agenda turn hl
        | _ => cases hw
      · exact goes_task (Bool.eq_false_iff.mpr hw) ordinary agenda turn

/-- When nothing is left but `base`, nothing is left of the operation. -/
private theorem Pursues.agenda_eq (hp : Pursues base body m) (hl : m.agenda.length ≤ base.length) :
    body = [] ∧ m.agenda = base := by
  cases hp with
  | level ordinary agenda =>
    rw [agenda, List.length_append] at hl
    have hnil : body = [] := List.length_eq_zero_iff.mp (by omega)
    exact ⟨hnil, by rw [agenda, hnil, List.nil_append]⟩
  | within nested hne stacked waits ordinary agenda =>
    have hpos := List.length_pos_iff.mpr hne
    rw [agenda, List.length_append, List.length_append] at hl
    omega

end

/-- What is kept from the beginning of an operation to its end. `P` speaks of what is left of it
before `base`, of the machine, and of the steps so far. -/
structure Kept (base : List Task) (P : List Task → Machine → List (Machine × Turn) → Prop) :
    Prop where
  idle {body : List Task} {m : Machine} {steps : List (Machine × Turn)} {turn : Turn} :
    P body m steps → deeds (m, turn) = [] → m.turn turn = (m, []) →
      P body m (steps ++ [(m, turn)])
  aside {call : Call} {later : List Task} {m : Machine} {steps : List (Machine × Turn)}
      {turn : Turn} :
    P (.waiting call :: later) m steps → isOwn (layers base) (m, turn) = false →
      P (.waiting call :: later) (m.turn turn).1 (steps ++ [(m, turn)])
  proceed {t : Task} {later : List Task} {m : Machine} {steps : List (Machine × Turn)} :
    P (t :: later) m steps → m.agenda = t :: (later ++ base) →
      isOwn (layers base) (m, .move .proceed) → t.isWaiting = false →
      P ((m.hub.perform t).tasks ++ later) (m.step .proceed).1 (steps ++ [(m, .move .proceed)])
  reply {call : Call} {later : List Task} {m : Machine} {steps : List (Machine × Turn)}
      {reply : Reply} :
    P (.waiting call :: later) m steps → m.agenda = .waiting call :: (later ++ base) →
      isOwn (layers base) (m, .move (.reply reply)) →
      P ((m.hub.resume call reply).tasks ++ later) (m.step (.reply reply)).1
        (steps ++ [(m, .move (.reply reply))])

/-- An operation that is not broken off keeps what its steps and those of others keep. -/
theorem Kept.run {P : List Task → Machine → List (Machine × Turn) → Prop} {last : Task}
    {rest body : List Task} (hk : Kept (last :: rest) P) {m : Machine}
    (hp : Pursues (last :: rest) body m) (h : P body m []) {turns : List Turn}
    (hl : m.Lasts rest turns) :
    ∃ body', Pursues (last :: rest) body' (m.after turns) ∧
      P body' (m.after turns) (m.course turns) := by
  obtain ⟨hu, hl⟩ := hl
  induction turns using List.reverseRecOn with
  | nil => exact ⟨body, hp, h⟩
  | append_singleton turns turn ih =>
    rw [course_concat, List.forall_mem_append, List.forall_mem_singleton] at hu
    obtain ⟨hbefore, hnow⟩ := hu
    obtain ⟨body', hp', h'⟩ := ih hbefore (Nat.le_of_lt hnow)
    rw [after_concat] at hl ⊢
    rw [course_concat]
    cases hp'.goes (List.cons_ne_nil _ _) turn hnow hl with
    | idle done same =>
      refine ⟨body', ?_, ?_⟩
      · rwa [same]
      · rw [same]
        exact hk.idle h' done same
    | aside other next => exact ⟨_, next, hk.aside h' other⟩
    | proceed agenda wakeful own next => exact ⟨_, next, hk.proceed h' agenda own wakeful⟩
    | reply agenda own next => exact ⟨_, next, hk.reply h' agenda own⟩

/-- What is kept until all is done but the last task. -/
theorem Kept.complete {P : List Task → Machine → List (Machine × Turn) → Prop} {last : Task}
    {rest body : List Task} (hk : Kept (last :: rest) P) {m : Machine}
    (hp : Pursues (last :: rest) body m) (h : P body m []) {turns : List Turn}
    (hc : m.Completes rest turns) :
    (m.after turns).agenda = last :: rest ∧ P [] (m.after turns) (m.course turns) := by
  obtain ⟨body', hp', h'⟩ := hk.run hp h hc.lasts
  obtain ⟨rfl, hagenda⟩ := hp'.agenda_eq (Nat.le_of_eq hc.last)
  exact ⟨hagenda, h'⟩

/-! An operation comes to its end if nobody begins anything any more and all calls return. -/

private theorem after_append (m : Machine) (first second : List Turn) :
    m.after (first ++ second) = (m.after first).after second := by
  induction first generalizing m with
  | nil => rfl
  | cons turn turns ih => exact ih (m.turn turn).1

theorem course_append (m : Machine) (first second : List Turn) :
    m.course (first ++ second) = m.course first ++ (m.after first).course second := by
  induction first generalizing m with
  | nil => rfl
  | cons turn turns ih => exact congrArg _ (ih (m.turn turn).1)

private theorem length_le_step (m : Machine) (move : Move) :
    m.agenda.length ≤ (m.step move).1.agenda.length + 1 := by
  rcases m.step_cases move with hn | ⟨e, used, rest, w⟩
  · rw [hn]
    exact Nat.le_succ _
  · have hused : used.length ≤ 1 := by cases w <;> simp
    rw [w.step_eq, w.agenda_eq, take, List.length_append, List.length_append]
    omega

/-- Tasks are done one by one, so there is a first time when `n` are left. -/
private theorem exists_first_moves {n : Nat} {m : Machine} {moves : List Move}
    (hm : n ≤ m.agenda.length)
    (hr : (m.run moves).1.agenda.length ≤ n) :
    ∃ first, first <+: moves ∧
      (∀ step ∈ m.course (first.map .move), n < step.1.agenda.length) ∧
      (m.after (first.map .move)).agenda.length = n := by
  induction moves generalizing m with
  | nil => exact ⟨[], List.nil_prefix, List.forall_mem_nil _, Nat.le_antisymm hr hm⟩
  | cons move moves ih =>
    by_cases hn : m.agenda.length = n
    · exact ⟨[], List.nil_prefix, List.forall_mem_nil _, hn⟩
    · have hstep := m.length_le_step move
      obtain ⟨first, hbegins, hcourse, hlast⟩ := ih (m := (m.step move).1) (by omega) hr
      refine ⟨move :: first, List.cons_prefix_cons.mpr ⟨rfl, hbegins⟩, ?_, hlast⟩
      exact List.forall_mem_cons.mpr ⟨by show n < m.agenda.length; omega, hcourse⟩

/-- However far an operation has come that is not broken off, it can be completed. -/
theorem Lasts.exists_completion {m : Machine} {rest : List Task} {turns : List Turn}
    (hl : m.Lasts rest turns) :
    ∃ moves : List Move, moves.all Move.goesOn ∧
      m.Completes rest (turns ++ moves.map .move) := by
  obtain ⟨moves, hgo, hidle⟩ := (m.after turns).exists_idle
  have hnone : ((m.after turns).run moves).1.agenda.length ≤ rest.length + 1 := by
    rw [isIdle_iff.mp hidle]
    exact Nat.zero_le _
  obtain ⟨first, hbegins, hcourse, hlast⟩ := exists_first_moves hl.left hnone
  refine ⟨first, List.all_eq_true.mpr fun move hmove => ?_, ⟨?_, ?_⟩⟩
  · exact List.all_eq_true.mp hgo move (hbegins.subset hmove)
  · rw [course_append]
    exact List.forall_mem_append.mpr ⟨hl.underway, hcourse⟩
  · rw [after_append]
    exact hlast

end Machine

end PreviewHub
