import PreviewHub.Proofs.PlainWork
import PreviewHub.Proofs.Trace

/-! Work that nobody disturbs. If those who are called do not call back, an operation is carried out
from its beginning to its end, and what it does depends only on how its calls return. Here it is put
together from what its tasks do, one after the other. -/

namespace PreviewHub

def Bus.announcement (b : Bus) (notice : Notice) : List PreviewHub.Output :=
  .emitted notice :: b.subscriptions.map fun s => .called (.notify s notice)

def Task.isWaiting : Task → Bool
  | .waiting _ => true
  | _ => false

namespace Machine

/-- The next move if nobody calls back: a call that is under way returns as `respond` says, and
otherwise the hub goes on. -/
def attend (respond : Call → Reply) (m : Machine) : Move :=
  match m.call? with
  | some call => .reply (respond call)
  | none => .proceed

/-- Each move is the one that comes if nobody calls back. -/
def Undisturbed (respond : Call → Reply) (m : Machine) (moves : List Move) : Prop :=
  ∀ step ∈ m.trace moves, step.2 = step.1.attend respond

section
variable {respond : Call → Reply} {m : Machine}

private theorem undisturbed_append {first second : List Move} :
    m.Undisturbed respond (first ++ second) ↔
      m.Undisturbed respond first ∧ (m.run first).1.Undisturbed respond second := by
  rw [Undisturbed, trace_append]
  exact List.forall_mem_append

private theorem undisturbed_cons {moves : List Move}
    (h : (m.step (m.attend respond)).1.Undisturbed respond moves) :
    m.Undisturbed respond (m.attend respond :: moves) :=
  List.forall_mem_cons.mpr ⟨rfl, h⟩

/-- How calls return decides what happens: of two courses one is the beginning of the other. -/
theorem Undisturbed.comparable {first second : List Move} (hf : m.Undisturbed respond first)
    (hs : m.Undisturbed respond second) : first <+: second ∨ second <+: first := by
  induction first generalizing m second with
  | nil => exact Or.inl List.nil_prefix
  | cons move moves ih =>
    cases second with
    | nil => exact Or.inr List.nil_prefix
    | cons move' moves' =>
      obtain ⟨hmove, hf⟩ := List.forall_mem_cons.mp hf
      obtain ⟨hmove', hs⟩ := List.forall_mem_cons.mp hs
      obtain rfl : move = move' := Eq.trans hmove hmove'.symm
      rcases ih hf hs with h | h
      · exact Or.inl (List.cons_prefix_cons.mpr ⟨rfl, h⟩)
      · exact Or.inr (List.cons_prefix_cons.mpr ⟨rfl, h⟩)

private theorem attend_waiting {call : Call} {rest : List Task}
    (hm : m.agenda = .waiting call :: rest) :
    m.attend respond = .reply (respond call) := by
  simp only [attend, call?, hm]

private theorem attend_task {task : Task} {rest : List Task} (hm : m.agenda = task :: rest)
    (hw : task.isWaiting = false) : m.attend respond = .proceed := by
  cases task with
  | waiting call => cases hw
  | _ => simp only [attend, call?, hm]

end

end Machine

namespace Hub

/-- A hub that is to do the tasks and is not disturbed shows `outputs` meanwhile, and when they are
done it has become `h'`, whatever is to be done after them. -/
def Does (respond : Call → Reply) (h : Hub) (tasks : List Task) (outputs : List Output)
    (h' : Hub) : Prop :=
  ∀ rest, ∃ moves, Machine.Undisturbed respond ⟨h, tasks ++ rest⟩ moves ∧
    (Machine.run ⟨h, tasks ++ rest⟩ moves).1 = ⟨h', rest⟩ ∧
    seen (Machine.run ⟨h, tasks ++ rest⟩ moves).2 = outputs

section
variable {respond : Call → Reply} {h h' h'' : Hub}

theorem does_nil : Does respond h [] [] h := by
  intro rest
  exact ⟨[], List.forall_mem_nil _, rfl, rfl⟩

theorem Does.append {first second : List Task} {outputs later : List Output}
    (hf : Does respond h first outputs h') (hs : Does respond h' second later h'') :
    Does respond h (first ++ second) (outputs ++ later) h'' := by
  intro rest
  obtain ⟨moves, hu, hrun, hseen⟩ := hf (second ++ rest)
  obtain ⟨moves', hu', hrun', hseen'⟩ := hs rest
  rw [List.append_assoc]
  refine ⟨moves ++ moves', Machine.undisturbed_append.mpr ⟨hu, ?_⟩, ?_, ?_⟩
  · rwa [hrun]
  · rw [Machine.run_append, hrun, hrun']
  · rw [Machine.run_append, seen_append, hseen, hrun, hseen']

private theorem does_step {task : Task} {e : Effect} {outputs : List Output}
    (hd : Does respond e.hub e.tasks outputs h')
    (hstep : ∀ rest, Machine.step ⟨h, task :: rest⟩ (Machine.attend respond ⟨h, task :: rest⟩) =
      Machine.take e rest) :
    Does respond h [task] (seen e.outputs ++ outputs) h' := by
  intro rest
  obtain ⟨moves, hu, hrun, hseen⟩ := hd rest
  have hs : Machine.step ⟨h, [task] ++ rest⟩ (Machine.attend respond ⟨h, [task] ++ rest⟩) =
      (⟨e.hub, e.tasks ++ rest⟩, e.outputs) := hstep rest
  refine ⟨Machine.attend respond ⟨h, [task] ++ rest⟩ :: moves, Machine.undisturbed_cons ?_, ?_, ?_⟩
  · rwa [hs]
  · rw [Machine.run_cons, hs, hrun]
  · rw [Machine.run_cons, hs, seen_append, hseen]

/-- A task does what the tasks do that it leads to. -/
theorem Does.perform {task : Task} {e : Effect} {outputs later : List Output}
    (he : h.perform task = e) (hw : task.isWaiting = false)
    (hd : Does respond e.hub e.tasks later h') (ho : seen e.outputs ++ later = outputs) :
    Does respond h [task] outputs h' := by
  rw [← ho]
  apply does_step hd
  intro rest
  rw [Machine.attend_task rfl hw, ← he]
  exact (Machine.Works.proceed task rest rfl).step_eq

/-- A call that returns does what the tasks do that it leads to. -/
theorem Does.resume {call : Call} {e : Effect} {outputs later : List Output}
    (he : h.resume call (respond call) = e) (hd : Does respond e.hub e.tasks later h')
    (ho : seen e.outputs ++ later = outputs) : Does respond h [.waiting call] outputs h' := by
  rw [← ho]
  apply does_step hd
  intro rest
  rw [Machine.attend_waiting rfl, ← he]
  exact (Machine.Works.reply call (respond call) rest rfl).step_eq

/-- A call whose result makes no difference returns, and that is all. -/
theorem does_call {call : Call} (hc : call.isIndifferent) :
    Does respond h [.waiting call] [] h := by
  obtain ⟨rs, he⟩ := h.resume_indifferent call hc (respond call)
  exact Does.resume he does_nil (by rw [seen_remarks]; rfl)

private theorem does_deliver (s : Subscription) (notice : Notice) :
    Does respond h [.deliver s notice] [.called (.notify s notice)] h :=
  Does.perform rfl rfl (does_call rfl) rfl

private theorem does_deliveries (subscriptions : List Subscription) (notice : Notice) :
    Does respond h (subscriptions.map fun s => .deliver s notice)
      (subscriptions.map fun s => .called (.notify s notice)) h := by
  induction subscriptions with
  | nil => exact does_nil
  | cons s subscriptions ih => exact (does_deliver s notice).append ih

/-- A notice is emitted and all who are subscribed are called in turn. -/
theorem does_emit (notice : Notice) :
    Does respond h [.emit notice] (h.bus.announcement notice) h :=
  Does.perform rfl rfl (does_deliveries h.bus.subscriptions notice) rfl

theorem does_answer (answer : Answer) : Does respond h [.answer answer] [.answered answer] h :=
  Does.perform rfl rfl does_nil rfl

end

end Hub

/-- What a move sets going is over when its tasks are done. -/
theorem Machine.exists_undisturbed_after {respond : Call → Reply} {m : Machine} {move : Move}
    {e : Effect} {rest : List Task} (hs : m.step move = take e rest) {outputs : List Output}
    {h' : Hub} (hd : Hub.Does respond e.hub e.tasks outputs h') :
    ∃ moves, (m.step move).1.Undisturbed respond moves ∧
      (m.run (move :: moves)).1 = ⟨h', rest⟩ ∧
      seen (m.run (move :: moves)).2 = seen e.outputs ++ outputs := by
  obtain ⟨moves, hu, hrun, hseen⟩ := hd rest
  refine ⟨moves, ?_, ?_, ?_⟩
  · rwa [hs]
  · rw [run_cons, hs, take, hrun]
  · rw [run_cons, hs, take, seen_append, hseen]

/-- An operation is over when its tasks are done. -/
theorem Machine.exists_undisturbed {respond : Call → Reply} {m : Machine} (hopen : m.isOpen)
    (op : Op) {outputs : List Output} {h' : Hub}
    (hd : Hub.Does respond (m.hub.begin op).hub (m.hub.begin op).tasks outputs h') :
    ∃ moves, (m.step (.call op)).1.Undisturbed respond moves ∧
      (m.run (.call op :: moves)).1 = ⟨h', m.agenda⟩ ∧
      seen (m.run (.call op :: moves)).2 = seen (m.hub.begin op).outputs ++ outputs :=
  exists_undisturbed_after (Works.call op hopen).step_eq hd

end PreviewHub
