import PreviewHub.Proofs.PlainWork
import PreviewHub.Proofs.Trace

/-! The watcher of a hub. Few kinds of work have to do with it, and the hub's own polling is always
due later or just now. -/

namespace PreviewHub

namespace Poller

variable {τ : Type}

/-- A poller that is started runs, if it runs already or can. -/
private theorem isRunning_start {p : Poller τ} (hpos : 0 < p.interval) (now : Nat) (runtime : Bool)
    (target : τ) : (p.start now runtime target).isRunning = (p.isRunning || runtime) := by
  unfold start
  by_cases hr : p.isRunning
  · simp [hr]
  · cases runtime with
    | true =>
      rw [if_neg (by simp [hr]), if_neg (Nat.ne_of_gt hpos), Bool.or_true]
      rfl
    | false => simp

/-- A poller that is started is due when it was before, or one interval later. -/
private theorem due?_start {p : Poller τ} {now due : Nat} {runtime : Bool} {target : τ}
    (h : (p.start now runtime target).due? = some due) :
    p.due? = some due ∨ due = now + p.interval := by
  unfold start at h
  split at h
  · exact Or.inl h
  · split at h
    · cases h
    · cases h
      exact Or.inr rfl

@[simp]
theorem isRunning_advance (p : Poller τ) : p.advance.isRunning = p.isRunning := by
  obtain ⟨interval, loop⟩ := p
  cases loop <;> rfl

@[simp]
theorem interval_advance (p : Poller τ) : p.advance.interval = p.interval := by
  obtain ⟨interval, loop⟩ := p
  cases loop <;> rfl

private theorem due?_advance (p : Poller τ) : p.advance.due? = p.due?.map (· + p.interval) := by
  obtain ⟨interval, loop⟩ := p
  cases loop <;> rfl

end Poller

namespace Watcher

/-- A watcher that runs once it is started: one from outside, or the hub's own polling with an
interval. -/
def Able (own : Bool) : Watcher → Prop
  | .polling poller => own = false ∧ 0 < poller.interval
  | .external _ => own = true

private theorem Able.start {own : Bool} {w : Watcher} (h : w.Able own) (now : Nat)
    (runtime : Bool) :
    (w.start now runtime).Able own := by
  cases w with
  | external running => exact h
  | polling poller => exact ⟨h.1, (poller.interval_start _ _ _).symm ▸ h.2⟩

private theorem Able.stop {own : Bool} {w : Watcher} (h : w.Able own) : w.stop.Able own := by
  cases w <;> exact h

private theorem Able.tick {own : Bool} {w : Watcher} (h : w.Able own) (now : Nat) :
    (w.tick now).Able own := by
  cases w with
  | external running => exact h
  | polling poller =>
    simp only [Watcher.tick]
    split
    · exact ⟨h.1, poller.interval_advance.symm ▸ h.2⟩
    · exact h

theorem Able.isRunning_start {own : Bool} {w : Watcher} (h : w.Able own) (now : Nat)
    (runtime : Bool) :
    (w.start now runtime).isRunning = (w.isRunning || own || runtime) := by
  cases w with
  | external running =>
    obtain rfl : own = true := h
    simp [Watcher.start, isRunning]
  | polling poller =>
    obtain ⟨rfl, hpos⟩ := h
    rw [Bool.or_false]
    exact poller.isRunning_start hpos now runtime ()

theorem isRunning_tick (w : Watcher) (now : Nat) : (w.tick now).isRunning = w.isRunning := by
  cases w with
  | external running => rfl
  | polling poller =>
    simp only [tick]
    split
    · exact poller.isRunning_advance
    · rfl

def DueFrom (instant : Nat) : Watcher → Prop
  | .polling poller => 0 < poller.interval ∧ ∀ due, poller.due? = some due → instant ≤ due
  | .external _ => True

section
variable {w : Watcher} {instant now : Nat}

private theorem DueFrom.start (h : w.DueFrom instant) (hn : instant ≤ now + 1) (runtime : Bool) :
    (w.start now runtime).DueFrom instant := by
  cases w with
  | external running => trivial
  | polling poller =>
    refine ⟨(poller.interval_start _ _ _).symm ▸ h.1, fun due hdue => ?_⟩
    rcases Poller.due?_start hdue with hdue | rfl
    · exact h.2 due hdue
    · exact Nat.le_trans hn (Nat.add_le_add_left h.1 now)

private theorem DueFrom.stop (h : w.DueFrom instant) : w.stop.DueFrom instant := by
  cases w with
  | external running => trivial
  | polling poller => exact ⟨h.1, nofun⟩

private theorem DueFrom.tick (h : w.DueFrom instant) (now : Nat) :
    (w.tick now).DueFrom instant := by
  cases w with
  | external running => trivial
  | polling poller =>
    simp only [Watcher.tick]
    split
    · refine ⟨poller.interval_advance.symm ▸ h.1, fun due hdue => ?_⟩
      rw [poller.due?_advance] at hdue
      obtain ⟨before, hbefore, rfl⟩ := Option.map_eq_some_iff.mp hdue
      exact Nat.le_add_right_of_le (h.2 before hbefore)
    · exact h

/-- After a tick the polling is due later. -/
theorem DueFrom.tick_ahead (h : w.DueFrom now) : (w.tick now).DueFrom (now + 1) := by
  cases w with
  | external running => trivial
  | polling poller =>
    simp only [Watcher.tick]
    split
    · refine ⟨poller.interval_advance.symm ▸ h.1, fun due hdue => ?_⟩
      rw [poller.due?_advance] at hdue
      obtain ⟨before, hbefore, rfl⟩ := Option.map_eq_some_iff.mp hdue
      exact Nat.add_le_add (h.2 before hbefore) h.1
    · rename_i hn
      refine ⟨h.1, fun due hdue => Nat.lt_of_not_le fun hle => hn ?_⟩
      rw [hdue]
      exact decide_eq_true hle

end

end Watcher

inductive Effect.Minds (h : Hub) (e : Effect) : Prop where
  | same (watcher : e.hub.watcher = h.watcher)
  | start (runtime : Bool) (watcher : e.hub.watcher = h.watcher.start h.clock runtime)
  | stop (watcher : e.hub.watcher = h.watcher.stop)
  | tick (watcher : e.hub.watcher = h.watcher.tick h.clock)

namespace Hub

private theorem begin_watcher (h : Hub) (op : Op) : (h.begin op).hub.watcher = h.watcher := by
  cases op with
  | registerWindow handle runtime =>
    simp only [begin, registerWindow]
    split <;> rfl
  | registerFrame handle =>
    simp only [begin, registerFrame]
    split <;> rfl
  | unregisterFrame handle =>
    simp only [begin, unregisterFrame]
    split <;> rfl
  | closeAll => rfl
  | request message timeout runtime =>
    simp only [begin, request]
    split
    · split <;> rfl
    · rfl
  | abandon id =>
    obtain ⟨pending, requests, hp⟩ := h.abandon_plain id
    exact hp.watcher
  | _ => exact (h.begin_plain rfl).watcher

private theorem detach_watcher {h : Hub} {id : PreviewId} {x : Handle × List PreviewId × Hub}
    (hd : h.detach id = some x) : x.2.2.watcher = h.watcher := by
  obtain ⟨registry, -, -, hx⟩ := detach_eq hd
  rw [hx]

private theorem perform_minds (h : Hub) (task : Task) : (h.perform task).Minds h := by
  cases task with
  | emit notice => exact .same rfl
  | deliver subscription notice => exact .same (h.deliver_plain _ _).watcher
  | post id handle data => exact .same (h.post_plain _ _ _).watcher
  | probe id handle => exact .same (h.probe_plain _ _).watcher
  | startWatcher runtime => exact .start runtime (h.startWatcher_plain runtime).watcher
  | stopWatcher => exact .stop h.stopWatcher_plain.watcher
  | closeConnections => exact .same rfl
  | closeWindow id =>
    cases hd : h.detach id with
    | none => exact .same (by simp only [perform, hd])
    | some x =>
      refine .same ?_
      simp only [perform, hd]
      exact detach_watcher hd
  | closeFrame =>
    cases hd : h.detach .frame with
    | none => exact .same (by simp only [perform, hd])
    | some x =>
      refine .same ?_
      simp only [perform, hd]
      exact detach_watcher hd
  | rejectRequests => exact .same rfl
  | stopIdleWatcher =>
    simp only [perform]
    split <;> exact .same rfl
  | restartWatcher =>
    simp only [perform]
    split <;> exact .same rfl
  | awaitReply id timeout targets runtime =>
    obtain ⟨pending, requests, hp⟩ := h.awaitReply_plain id timeout targets runtime
    exact .same hp.watcher
  | waiting call => exact .same rfl
  | answer answer => exact .same rfl

private theorem resume_watcher (h : Hub) (call : Call) (reply : Reply) :
    (h.resume call reply).hub.watcher = h.watcher := by
  rcases h.resume_plain call reply with hp | ⟨id, handle, rfl, rfl⟩
  · exact hp.watcher
  · simp only [resume]
    cases hd : h.detach id with
    | none => rfl
    | some x => exact detach_watcher hd

private theorem listen_watcher (h : Hub) : h.listen.hub.watcher = h.watcher := by
  rcases h.listen_cases with ⟨-, hp⟩ | ⟨id, payload, -, hp⟩
  · exact hp.watcher
  · exact hp.watcher

private theorem wake_watcher (h : Hub) (id : RequestId) : (h.wake id).hub.watcher = h.watcher := by
  obtain ⟨pending, requests, outputs, hw, -⟩ := h.wake_eq id
  rw [hw]

end Hub

theorem Machine.Works.minds {m : Machine} {move : Move} {e : Effect} {used rest : List Task}
    (w : Machine.Works m move e used rest) : e.Minds m.hub := by
  cases w with
  | call op h => exact .same (m.hub.begin_watcher op)
  | reply call reply rest h => exact .same (m.hub.resume_watcher call reply)
  | proceed task rest h => exact m.hub.perform_minds task
  | listen h => exact .same m.hub.listen_watcher
  | tick h => exact .tick m.hub.tick_plain.watcher
  | wake id h => exact .same (m.hub.wake_watcher id)
  | elapse ms h => exact .same (m.hub.elapse_plain ms).watcher

theorem Effect.Minds.dueFrom {instant : Nat} {h : Hub} {e : Effect} (he : e.Minds h)
    (hd : h.watcher.DueFrom instant) (hn : instant ≤ h.clock + 1) :
    e.hub.watcher.DueFrom instant := by
  cases he with
  | same watcher => exact watcher ▸ hd
  | start runtime watcher => exact watcher ▸ hd.start hn runtime
  | stop watcher => exact watcher ▸ hd.stop
  | tick watcher => exact watcher ▸ hd.tick h.clock

theorem Effect.Minds.able {own : Bool} {h : Hub} {e : Effect} (he : e.Minds h)
    (ha : h.watcher.Able own) : e.hub.watcher.Able own := by
  cases he with
  | same watcher => exact watcher ▸ ha
  | start runtime watcher => exact watcher ▸ ha.start h.clock runtime
  | stop watcher => exact watcher ▸ ha.stop
  | tick watcher => exact watcher ▸ ha.tick h.clock

end PreviewHub
