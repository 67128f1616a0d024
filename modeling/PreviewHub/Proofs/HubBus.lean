import PreviewHub.Proofs.Emissions
import PreviewHub.Proofs.Hearing
import PreviewHub.Proofs.Routine

/-! The bus of a hub. A hub emits as its bus does when it is by itself: leave out all that is not
addressed to subscribers, and a run of the hub is a run of the bus. What is said of the emissions of
a bus is thus said of a hub as well. -/

namespace PreviewHub

def Output.notified? : Output → Option (Subscription × Notice)
  | .called (.notify s notice) => some (s, notice)
  | _ => none

def notified (outputs : List Output) : List (Subscription × Notice) :=
  outputs.filterMap Output.notified?

def Bus.Move.notice? : Bus.Move → Option Notice
  | .emit notice => some notice
  | _ => none

private theorem notified_mute {outputs : List Output} (h : outputs.all Output.isMute) :
    notified outputs = [] ∧ emissions outputs = [] := by
  have hmute {o : Output} (ho : o ∈ outputs) : o.notified? = none ∧ o.emitted? = none := by
    have hm := List.all_eq_true.mp h o ho
    cases o with
    | emitted notice => cases hm
    | called call =>
      cases call with
      | notify s notice => cases hm
      | _ => exact ⟨rfl, rfl⟩
    | _ => exact ⟨rfl, rfl⟩
  exact ⟨List.filterMap_eq_nil_iff.mpr fun o ho => (hmute ho).1,
    List.filterMap_eq_nil_iff.mpr fun o ho => (hmute ho).2⟩

namespace Machine

inductive Rests : List Task → List Bus.Task → Prop where
  | nil : Rests [] []
  | aside {t : Task} {tasks : List Task} {lower : List Bus.Task} (general : t.isGeneral)
      (rests : Rests tasks lower) : Rests (t :: tasks) lower
  | calling (s : Subscription) (notice : Notice) (left : List Subscription) {tasks : List Task}
      {lower : List Bus.Task} (rests : Rests tasks lower) :
      Rests (.waiting (.notify s notice) :: (left.map (fun s => .deliver s notice) ++ tasks))
        (.waiting s notice :: (Bus.deliveries notice left ++ .finish :: lower))

/-- The tasks of a hub and those of its bus. -/
inductive Matches : List Task → List Bus.Task → Prop where
  | rests {tasks : List Task} {lower : List Bus.Task} (rests : Rests tasks lower) :
      Matches tasks lower
  | delivers (s : Subscription) (notice : Notice) (left : List Subscription) {tasks : List Task}
      {lower : List Bus.Task} (rests : Rests tasks lower) :
      Matches ((s :: left).map (fun s => .deliver s notice) ++ tasks)
        (Bus.deliveries notice (s :: left) ++ .finish :: lower)

def busAt (m : Machine) (agenda : List Bus.Task) : Bus.Machine := ⟨m.hub.bus, agenda, true⟩

/-- The moves of a bus that stand for a step of a hub: the bus comes to stand as the hub does, it
makes the same calls, and it emits the same notices. -/
structure StandsFor (moves : List Bus.Move) (b : Bus.Machine) (after : Machine × List Output) :
    Prop where
  agenda : ∃ agenda, (b.run moves).1 = after.1.busAt agenda ∧ Matches after.1.agenda agenda
  calls : Bus.called (b.run moves).2 = notified after.2
  notices : moves.filterMap Bus.Move.notice? = emissions after.2

section
variable {tasks : List Task} {lower : List Bus.Task}

private theorem Rests.append {front : List Task} (hfront : front.all Task.isGeneral)
    (h : Rests tasks lower) : Rests (front ++ tasks) lower := by
  induction front with
  | nil => exact h
  | cons t front ih =>
    obtain ⟨ht, hfront⟩ := Bool.and_eq_true_iff.mp hfront
    exact .aside ht (ih hfront)

private theorem Rests.isOpen (h : Rests tasks lower) (m : Machine) : (m.busAt lower).isOpen := by
  induction h with
  | nil => rfl
  | aside _ _ ih => exact ih
  | calling s notice left _ => rfl

private theorem Matches.of_cons {t : Task} (ht : t.notice? = none)
    (h : Matches (t :: tasks) lower) : Rests tasks lower := by
  cases h with
  | rests h =>
    cases h with
    | aside _ h => exact h
    | calling s notice left h => cases ht
  | delivers s notice left h => cases ht

private theorem exists_matches (notice : Notice) (left : List Subscription) (h : Rests tasks lower)
    (bus : Bus) :
    ∃ moves agenda outputs,
      Bus.Machine.run ⟨bus, Bus.deliveries notice left ++ .finish :: lower, true⟩ moves =
        (⟨bus, agenda, true⟩, outputs) ∧
      Bus.called outputs = [] ∧ moves.filterMap Bus.Move.notice? = [] ∧
      Matches (left.map (fun s => .deliver s notice) ++ tasks) agenda := by
  cases left with
  | nil => exact ⟨[.proceed], lower, _, rfl, rfl, rfl, .rests h⟩
  | cons s left => exact ⟨[], _, _, rfl, rfl, rfl, .delivers s notice left h⟩

end

section
variable {m : Machine} {move : Move} {e : Effect} {used rest : List Task} {agenda : List Bus.Task}

private theorem Works.rests (w : Works m move e used rest) (idle : ∀ t ∈ used, t.notice? = none)
    (h : Matches m.agenda agenda) : Rests rest agenda := by
  generalize hagenda : m.agenda = tasks at h
  have unused (ha : m.agenda = []) : Rests [] agenda := by
    rw [← hagenda, ha] at h
    cases h with
    | rests h => exact h
  cases w with
  | call op hopen =>
    rw [hagenda]
    cases h with
    | rests h => exact h
    | delivers s notice left h =>
      rcases isOpen_iff.mp hopen with ha | ⟨call, rest, ha⟩ <;> rw [hagenda] at ha <;> cases ha
  | reply call reply rest ha =>
    rw [← hagenda, ha] at h
    exact h.of_cons (idle _ List.mem_cons_self)
  | proceed task rest ha =>
    rw [← hagenda, ha] at h
    exact h.of_cons (idle _ List.mem_cons_self)
  | listen ha => exact unused ha
  | tick ha => exact unused ha
  | wake id ha => exact unused ha
  | elapse ms ha => exact unused ha

private theorem standsFor_emit {notice : Notice} (h : Matches (.emit notice :: rest) agenda) :
    ∃ moves, StandsFor moves (m.busAt agenda) (take (m.hub.perform (.emit notice)) rest) := by
  have hrests : Rests rest agenda := by
    cases h with
    | rests h =>
      cases h with
      | aside _ h => exact h
  obtain ⟨moves, agenda', outputs, hrun, hcalls, hnotices, hmatches⟩ :=
    exists_matches notice m.hub.bus.subscriptions hrests m.hub.bus
  have hemit : (m.busAt agenda).step (.emit notice) =
      (⟨m.hub.bus, Bus.deliveries notice m.hub.bus.subscriptions ++ .finish :: agenda, true⟩, []) :=
    if_pos (hrests.isOpen m)
  refine ⟨.emit notice :: moves, ⟨agenda', ?_, hmatches⟩, ?_, ?_⟩
  · rw [Bus.Machine.run_cons, hemit, hrun]
    rfl
  · rw [Bus.Machine.run_cons, hemit, hrun]
    exact hcalls
  · exact congrArg (notice :: ·) hnotices

private theorem standsFor_deliver {s : Subscription} {notice : Notice}
    (h : Matches (.deliver s notice :: rest) agenda) :
    StandsFor [.proceed] (m.busAt agenda) (take (m.hub.perform (.deliver s notice)) rest) := by
  cases h with
  | rests h =>
    cases h with
    | aside general _ => cases general
  | delivers s notice left h => exact ⟨⟨_, rfl, .rests (.calling s notice left h)⟩, rfl, rfl⟩

private theorem standsFor_back {s : Subscription} {notice : Notice} {outputs : List Output}
    (mute : outputs.all Output.isMute) (panicked : Bool)
    (h : Matches (.waiting (.notify s notice) :: rest) agenda) :
    ∃ moves, StandsFor moves (m.busAt agenda) (take ⟨m.hub, [], outputs⟩ rest) := by
  cases h with
  | rests h =>
    cases h with
    | aside general _ => cases general
    | @calling _ _ left tasks lower h =>
      obtain ⟨moves, agenda', later, hrun, hcalls, hnotices, hmatches⟩ :=
        exists_matches notice left h m.hub.bus
      obtain ⟨hmute, hsilent⟩ := notified_mute mute
      refine ⟨.reply panicked :: moves, ⟨agenda', ?_, hmatches⟩, ?_, hnotices.trans hsilent.symm⟩
      · rw [Bus.Machine.run_cons]
        exact congrArg Prod.fst hrun
      · have hlater := congrArg (fun after => Bus.called after.2) hrun
        rw [Bus.Machine.run_cons, Bus.called, List.filterMap_append]
        cases panicked <;> exact (hlater.trans hcalls).trans hmute.symm

private theorem standsFor_aside (w : Works m move e used rest)
    (bus : m.hub.bus.Change move e.hub.bus)
    (idle : ∀ t ∈ used, t.notice? = none) (tasks : e.tasks.all Task.isGeneral)
    (outputs : e.outputs.all Output.isMute) (h : Matches m.agenda agenda) :
    ∃ moves, StandsFor moves (m.busAt agenda) (take e rest) := by
  have hrests := w.rests idle h
  have hopen := hrests.isOpen m
  have hmatches : Matches (take e rest).1.agenda agenda := .rests (hrests.append tasks)
  obtain ⟨hcalls, hnotices⟩ := notified_mute outputs
  have stands {moves : List Bus.Move} {shown : List Bus.Output}
      (hrun : (m.busAt agenda).run moves = (⟨e.hub.bus, agenda, true⟩, shown))
      (hshown : Bus.called shown = []) (hmoves : moves.filterMap Bus.Move.notice? = []) :
      StandsFor moves (m.busAt agenda) (take e rest) := by
    refine ⟨⟨agenda, ?_, hmatches⟩, ?_, hmoves.trans hnotices.symm⟩
    · rw [hrun]
      rfl
    · rw [hrun]
      exact hshown.trans hcalls.symm
  generalize e.hub.bus = after at bus stands
  cases bus with
  | nothing => exact ⟨[], stands rfl rfl rfl⟩
  | subscribe listener =>
    have hstep : (m.busAt agenda).step (.subscribe listener) =
        (⟨(m.hub.bus.subscribe listener).2, agenda, true⟩,
          [.remark (.subscribed m.hub.bus.nextId), .subscribed m.hub.bus.nextId]) := if_pos hopen
    exact ⟨[.subscribe listener], stands (by rw [Bus.Machine.run_cons, hstep]; rfl) rfl rfl⟩
  | unsubscribe id =>
    have hstep : (m.busAt agenda).step (.unsubscribe id) =
        (⟨m.hub.bus.unsubscribe id, agenda, true⟩,
          (m.hub.bus.unsubscribeRemarks id).map .remark) := if_pos hopen
    refine ⟨[.unsubscribe id], stands (by rw [Bus.Machine.run_cons, hstep]; rfl) ?_ rfl⟩
    simp [Bus.Machine.run, Bus.called, Bus.Output.call?]

/-- Whatever step a hub takes, there are moves of its bus that stand for it. -/
private theorem exists_standsFor (h : Matches m.agenda agenda) (move : Move) :
    ∃ moves, StandsFor moves (m.busAt agenda) (m.step move) := by
  rcases m.step_cases move with hn | ⟨e, used, rest, w⟩
  · rw [hn]
    exact ⟨[], ⟨agenda, rfl, h⟩, rfl, rfl⟩
  · have hmatches := h
    rw [w.agenda_eq] at hmatches
    rw [w.step_eq]
    cases w.speaks with
    | emit notice => exact standsFor_emit hmatches
    | deliver s notice => exact ⟨_, standsFor_deliver hmatches⟩
    | hold s notice => exact ⟨[], ⟨agenda, rfl, hmatches⟩, rfl, rfl⟩
    | back s notice reply mute => exact standsFor_back mute (reply = .panicked) hmatches
    | aside bus idle tasks outputs => exact standsFor_aside w bus idle tasks outputs h

private theorem exists_standsFor_run (h : Matches m.agenda agenda) (moves : List Move) :
    ∃ busMoves, StandsFor busMoves (m.busAt agenda) (m.run moves) := by
  induction moves generalizing m agenda with
  | nil => exact ⟨[], ⟨agenda, rfl, h⟩, rfl, rfl⟩
  | cons move moves ih =>
    obtain ⟨first, ⟨agenda', hfirst, hmatches⟩, hcalls, hnotices⟩ := exists_standsFor h move
    obtain ⟨later, ⟨agenda'', hlater, hmatches'⟩, hcalls', hnotices'⟩ := ih hmatches
    refine ⟨first ++ later, ⟨agenda'', ?_, hmatches'⟩, ?_, ?_⟩
    · rw [Bus.Machine.run_append, hfirst, hlater]
      rfl
    · rw [Bus.Machine.run_append, hfirst, run_cons, Bus.called, notified, List.filterMap_append,
        List.filterMap_append]
      exact congrArg₂ (· ++ ·) hcalls hcalls'
    · rw [run_cons, emissions, List.filterMap_append, List.filterMap_append]
      exact congrArg₂ (· ++ ·) hnotices hnotices'

end

/-- As long as no call to a handle or the watcher panics, whatever a hub and those whom it calls do
is a run of its bus by itself: with the same subscriptions, the same emissions and the same calls to
subscribers, all in the same order. -/
theorem hub_runs_its_bus (options : Options) (watcher : Watcher) (moves : List Move) :
    let last := Machine.run ⟨Hub.new options watcher, []⟩ moves
    ∃ busMoves : List Bus.Move,
      let bus := Bus.Machine.run {} busMoves
      bus.1.bus = last.1.hub.bus ∧ Bus.called bus.2 = notified last.2 ∧
        busMoves.filterMap Bus.Move.notice? = emissions last.2 ∧
        (last.1.isIdle → bus.1.agenda = []) := by
  intro last
  obtain ⟨busMoves, ⟨agenda, hbus, hmatches⟩, hcalls, hnotices⟩ :=
    exists_standsFor_run (m := ⟨Hub.new options watcher, []⟩) (.rests .nil) moves
  refine ⟨busMoves, congrArg Bus.Machine.bus hbus, hcalls, hnotices, fun hidle => ?_⟩
  refine (congrArg Bus.Machine.agenda hbus).trans ?_
  rw [isIdle_iff.mp hidle] at hmatches
  cases hmatches with
  | rests h =>
    cases h with
    | nil => rfl

end Machine

end PreviewHub
