import Mathlib.Data.List.Induction
import PreviewHub.Hub.Machine

/-! Runs of a hub, step by step. A step does one piece of work or nothing; what every piece of work
keeps is kept by every run. -/

namespace PreviewHub

/-- A hub that was built is new, and its own polling has an interval. -/
theorem Hub.build_ok {options : Options} {own : Bool} {h : Hub}
    (hb : Hub.build options own = .ok h) :
    h = Hub.new options
      (if own then .external false else .polling { interval := options.pollInterval }) ∧
      (own = false → 0 < options.pollInterval) := by
  unfold build Options.check at hb
  by_cases hi : options.pollInterval = 0 ∧ own = false
  · rw [if_pos hi] at hb
    cases hb
  · rw [if_neg hi] at hb
    split at hb
    · cases hb
    · refine ⟨(Except.ok.inj hb).symm, fun ho => Nat.pos_of_ne_zero fun h0 => hi ⟨h0, ho⟩⟩

def Output.isRemark : Output → Bool
  | .remark _ => true
  | _ => false

def seen (outputs : List Output) : List Output := outputs.filter fun o => !o.isRemark

theorem seen_append (first second : List Output) :
    seen (first ++ second) = seen first ++ seen second :=
  List.filter_append ..

theorem seen_remarks (rs : List Remark) : seen (Hub.remarks rs) = [] := by
  simp [seen, Hub.remarks, Output.isRemark]

namespace Machine

def isOpen (m : Machine) : Bool := m.isIdle || m.call?.isSome

theorem isIdle_iff {m : Machine} : m.isIdle = true ↔ m.agenda = [] := List.isEmpty_iff

/-- Whoever has the turn sees an empty agenda or a call at its head. -/
theorem isOpen_iff {m : Machine} :
    m.isOpen = true ↔ m.agenda = [] ∨ ∃ call rest, m.agenda = .waiting call :: rest := by
  unfold isOpen isIdle call?
  cases m.agenda with
  | nil => simp
  | cons task rest => cases task <;> simp

/-- The work that a move makes a machine do: its effect, the tasks that are used up by it, and those
that stay. -/
inductive Works (m : Machine) : Move → Effect → List Task → List Task → Prop where
  | call (op : Op) (h : m.isOpen) : Works m (.call op) (m.hub.begin op) [] m.agenda
  | reply (call : Call) (reply : Reply) (rest : List Task) (h : m.agenda = .waiting call :: rest) :
      Works m (.reply reply) (m.hub.resume call reply) [.waiting call] rest
  | proceed (task : Task) (rest : List Task) (h : m.agenda = task :: rest) :
      Works m .proceed (m.hub.perform task) [task] rest
  | listen (h : m.agenda = []) : Works m .listen m.hub.listen [] []
  | tick (h : m.agenda = []) : Works m .tick m.hub.tick [] []
  | wake (id : RequestId) (h : m.agenda = []) : Works m (.wake id) (m.hub.wake id) [] []
  | elapse (ms : Nat) (h : m.agenda = []) : Works m (.elapse ms) (m.hub.elapse ms) [] []

section
variable {m : Machine} {move : Move} {effect : Effect} {used rest : List Task}

theorem Works.agenda_eq (h : Works m move effect used rest) : m.agenda = used ++ rest := by
  cases h with
  | call op h => rfl
  | _ => assumption

private theorem between_eq (h : m.agenda = []) (effect : Effect) :
    m.between effect = take effect [] :=
  if_pos (isIdle_iff.mpr h)

theorem Works.step_eq (h : Works m move effect used rest) : m.step move = take effect rest := by
  cases h with
  | call op h => exact if_pos h
  | reply call reply rest h => simp only [step, h]
  | proceed task rest h => simp only [step, h]
  | listen h => exact between_eq h _
  | tick h => exact between_eq h _
  | wake id h => exact between_eq h _
  | elapse ms h => exact between_eq h _

end

/-- A step does a piece of work, or the move is not possible. -/
theorem step_cases (m : Machine) (move : Move) :
    m.step move = (m, []) ∨ ∃ effect used rest, Works m move effect used rest := by
  have idle {effect : Effect} (hw : m.agenda = [] → Works m move effect [] [])
      (hs : m.step move = m.between effect) :
      m.step move = (m, []) ∨ ∃ effect used rest, Works m move effect used rest := by
    by_cases h : m.agenda = []
    · exact Or.inr ⟨_, _, _, hw h⟩
    · exact Or.inl (hs.trans (if_neg (mt isIdle_iff.mp h)))
  cases move with
  | call op =>
    by_cases h : m.isOpen
    · exact Or.inr ⟨_, _, _, .call op h⟩
    · exact Or.inl (if_neg h)
  | reply reply =>
    cases h : m.agenda with
    | nil => exact Or.inl (by simp only [step, h])
    | cons task rest =>
      cases task with
      | waiting call => exact Or.inr ⟨_, _, _, .reply call reply rest h⟩
      | _ => exact Or.inl (by simp only [step, h])
  | proceed =>
    cases h : m.agenda with
    | nil => exact Or.inl (by simp only [step, h])
    | cons task rest => exact Or.inr ⟨_, _, _, .proceed task rest h⟩
  | listen => exact idle .listen rfl
  | tick => exact idle .tick rfl
  | wake id => exact idle (.wake id) rfl
  | elapse ms => exact idle (.elapse ms) rfl

def trace (m : Machine) : List Move → List (Machine × Move)
  | [] => []
  | move :: moves => (m, move) :: (m.step move).1.trace moves

theorem run_cons (m : Machine) (move : Move) (moves : List Move) :
    m.run (move :: moves) =
      (((m.step move).1.run moves).1, (m.step move).2 ++ ((m.step move).1.run moves).2) := rfl

theorem run_concat (m : Machine) (moves : List Move) (move : Move) :
    m.run (moves ++ [move]) =
      (((m.run moves).1.step move).1, (m.run moves).2 ++ ((m.run moves).1.step move).2) := by
  rw [run_append]
  simp [run]

theorem trace_append (m : Machine) (first second : List Move) :
    m.trace (first ++ second) = m.trace first ++ (m.run first).1.trace second := by
  induction first generalizing m with
  | nil => rfl
  | cons move moves ih => exact congrArg _ (ih (m.step move).1)

theorem trace_concat (m : Machine) (moves : List Move) (move : Move) :
    m.trace (moves ++ [move]) = m.trace moves ++ [((m.run moves).1, move)] :=
  trace_append m moves [move]

/-- The steps of a run are those that follow on its beginnings. -/
theorem exists_of_mem_trace {m : Machine} {moves : List Move} {s : Machine × Move}
    (h : s ∈ m.trace moves) :
    ∃ before after, moves = before ++ s.2 :: after ∧ s.1 = (m.run before).1 := by
  induction moves generalizing m with
  | nil => cases h
  | cons move moves ih =>
    rcases List.mem_cons.mp h with rfl | h
    · exact ⟨[], moves, rfl, rfl⟩
    · obtain ⟨before, after, hm, hs⟩ := ih h
      exact ⟨move :: before, after, by rw [hm]; rfl, by rw [hs]; rfl⟩

/-- What every step keeps is kept by every run. -/
theorem run_keeps {P : Machine → Prop} (step : ∀ {m}, P m → ∀ move, P (m.step move).1) {m : Machine}
    (hm : P m) (moves : List Move) : P (m.run moves).1 := by
  induction moves generalizing m with
  | nil => exact hm
  | cons move moves ih => exact ih (step hm move)

/-- What holds at the start and after each further step holds of every run. -/
theorem run_induction {motive : List Move → Machine → List Output → Prop} (m : Machine)
    (start : motive [] m [])
    (step : ∀ moves move, motive moves (m.run moves).1 (m.run moves).2 →
      motive (moves ++ [move]) ((m.run moves).1.step move).1
        ((m.run moves).2 ++ ((m.run moves).1.step move).2))
    (moves : List Move) : motive moves (m.run moves).1 (m.run moves).2 := by
  induction moves using List.reverseRecOn with
  | nil => exact start
  | append_singleton moves move ih =>
    rw [run_concat]
    exact step moves move ih

end Machine

end PreviewHub
