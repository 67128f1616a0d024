import PreviewHub.Proofs.Confinement

/-! Runs in which calls may panic. A panic breaks the operation off that made the call: the tasks
that were left of it are dropped, and a request that was being sent is given up. All else stays as
it is, and so do the laws of a machine. -/

namespace PreviewHub

/-- What can happen next, where the call that is under way may also panic. -/
inductive Turn where
  | move (move : Move)
  | breakOff
  deriving DecidableEq, Repr

def unwound? (now : Nat) : List Task → Option Request
  | [] => none
  | .answer _ :: _ => none
  | .awaitReply id timeout _ _ :: _ => some ⟨id, timeout, now + timeout⟩
  | _ :: rest => unwound? now rest

namespace Machine

def turn (m : Machine) : Turn → Machine × List Output
  | .move move => m.step move
  | .breakOff => m.breakOff

def after (m : Machine) : List Turn → Machine
  | [] => m
  | turn :: turns => (m.turn turn).1.after turns

def course (m : Machine) : List Turn → List (Machine × Turn)
  | [] => []
  | turn :: turns => (m, turn) :: (m.turn turn).1.course turns

def brokenOff? (m : Machine) : Option Request :=
  match m.agenda with
  | .waiting _ :: rest => unwound? m.hub.clock rest
  | _ => none

theorem after_concat (m : Machine) (turns : List Turn) (turn : Turn) :
    m.after (turns ++ [turn]) = ((m.after turns).turn turn).1 := by
  induction turns generalizing m with
  | nil => rfl
  | cons first turns ih => exact ih (m.turn first).1

theorem course_concat (m : Machine) (turns : List Turn) (turn : Turn) :
    m.course (turns ++ [turn]) = m.course turns ++ [(m.after turns, turn)] := by
  induction turns generalizing m with
  | nil => rfl
  | cons first turns ih => exact congrArg _ (ih (m.turn first).1)

end Machine

private theorem Pending.limit_register {p q : Pending} {id : RequestId}
    (h : p.register = .ok (id, q)) :
    q.limit = p.limit := by
  unfold register at h
  split at h
  · cases h
  · cases h
    rfl

private theorem Pending.limit_resolve (p : Pending) (id : RequestId) (reply : Json) :
    (p.resolve id reply).2.limit = p.limit := by
  unfold resolve
  split <;> rfl

private theorem Pending.limit_collect (p : Pending) (id : RequestId) :
    (p.collect id).2.limit = p.limit := by
  unfold collect
  split
  · rfl
  · rfl
  · split <;> rfl
  · rfl

private theorem Hub.limit_conclude {h h' : Hub} {r : Request} {outcome : Outcome} {rs : List Remark}
    (hc : h.conclude? r = some (outcome, h', rs)) : h'.pending.limit = h.pending.limit := by
  have hcollect := h.pending.limit_collect r.id
  unfold conclude? at hc
  split at hc
  · rename_i hover
    rw [hover] at hcollect
    cases hc
    exact hcollect
  · split at hc
    · cases hc
      rfl
    · cases hc

inductive Hub.Unwinds (h : Hub) (tasks : List Task) : Effect → Prop where
  | request {id : RequestId} {timeout targets : Nat} {runtime : Bool} {outputs : List Output}
      (before rest : List Task)
      (cut : tasks = before ++ .awaitReply id timeout targets runtime :: rest)
      (unsent : outgoing h.clock before = [])
      (unwound : unwound? h.clock tasks = some (h.timed id timeout)) :
      Unwinds h tasks ⟨{ h with pending := h.pending.discard id }, rest, outputs⟩
  | other {outputs : List Output} (before rest : List Task) (cut : tasks = before ++ rest)
      (unsent : outgoing h.clock before = []) (unwound : unwound? h.clock tasks = none) :
      Unwinds h tasks ⟨h, rest, outputs⟩
  | pass (before : List Task) (cut : tasks = before ++ [.stopIdleWatcher])
      (unsent : outgoing h.clock before = []) (unwound : unwound? h.clock tasks = none) :
      Unwinds h tasks ⟨{ h with watcher := h.watcher.collapse }, [], []⟩

private theorem Hub.unwind_unwinds (h : Hub) (tasks : List Task) :
    h.Unwinds tasks (h.unwind tasks) := by
  induction tasks with
  | nil => exact .other [] [] rfl rfl rfl
  | cons task rest ih =>
    have skip (hs : task.request? h.clock = none) (he : h.unwind (task :: rest) = h.unwind rest)
        (hu : unwound? h.clock (task :: rest) = unwound? h.clock rest) :
        h.Unwinds (task :: rest) (h.unwind (task :: rest)) := by
      rw [he]
      generalize h.unwind rest = e at ih
      have unsent {before : List Task} (hn : outgoing h.clock before = []) :
          outgoing h.clock (task :: before) = [] := by
        rw [outgoing, List.filterMap_cons, hs]
        exact hn
      cases ih with
      | request before rest cut hn unwound =>
        exact .request (task :: before) rest (congrArg _ cut) (unsent hn) (hu.trans unwound)
      | other before rest cut hn unwound =>
        exact .other (task :: before) rest (congrArg _ cut) (unsent hn) (hu.trans unwound)
      | pass before cut hn unwound =>
        exact .pass (task :: before) (congrArg _ cut) (unsent hn) (hu.trans unwound)
    cases task with
    | answer answer => exact .other [.answer answer] rest rfl rfl rfl
    | awaitReply id timeout targets runtime => exact .request [] rest rfl rfl rfl
    | stopIdleWatcher =>
      cases rest with
      | nil => exact .pass [] rfl rfl rfl
      | cons next rest => exact skip rfl rfl rfl
    | _ => exact skip rfl rfl rfl

theorem Hub.mem_unwind_outputs {h : Hub} {tasks : List Task} {o : Output}
    (ho : o ∈ (h.unwind tasks).outputs) :
    (∃ remark, o = .remark remark) ∨ o = .answered .panicked := by
  induction tasks with
  | nil => cases ho
  | cons task rest ih =>
    cases task with
    | answer answer => exact Or.inr (List.mem_singleton.mp ho)
    | awaitReply id timeout targets runtime =>
      rcases List.mem_append.mp ho with ho | ho
      · obtain ⟨remark, -, rfl⟩ := List.mem_map.mp ho
        exact Or.inl ⟨remark, rfl⟩
      · exact Or.inr (List.mem_singleton.mp ho)
    | stopIdleWatcher =>
      cases rest with
      | nil => cases ho
      | cons next rest => exact ih ho
    | _ => exact ih ho

namespace Machine

/-- What a panic leaves of a machine: the request that was being sent is given up, if there was
one, or the polling ends whose pass it was, and nothing else is touched but the tasks. -/
structure Breaks (m m' : Machine) (lost : Option Request) : Prop where
  inFlight : m.inFlight = lost.toList ++ m'.inFlight
  hub : m'.hub = { m.hub with
    pending := lost.elim m.hub.pending fun r => m.hub.pending.discard r.id
    watcher := m'.hub.watcher }
  watcher : m'.hub.watcher = m.hub.watcher ∨ m'.hub.watcher = m.hub.watcher.collapse
  agenda : m'.agenda ⊆ m.agenda

theorem breakOff_breaks (m : Machine) : Breaks m m.breakOff.1 (m.brokenOff?) := by
  have unbroken (hb : m.breakOff = (m, [])) (hl : m.brokenOff? = none) :
      Breaks m m.breakOff.1 (m.brokenOff?) := by
    rw [hb, hl]
    exact ⟨rfl, rfl, Or.inl rfl, List.Subset.refl _⟩
  cases hagenda : m.agenda with
  | nil => exact unbroken (by simp only [breakOff, hagenda]) (by simp only [brokenOff?, hagenda])
  | cons task tasks =>
    cases task with
    | waiting call =>
      have hflight : m.inFlight = outgoing m.hub.clock tasks ++ m.hub.requests := by
        rw [inFlight, hagenda]
        rfl
      have hu := m.hub.unwind_unwinds tasks
      simp only [breakOff, brokenOff?, hagenda]
      generalize m.hub.unwind tasks = e at hu
      have hsub {before rest : List Task} (cut : tasks = before ++ rest) : rest ⊆ m.agenda := by
        rw [hagenda, cut]
        exact List.subset_cons_of_subset _ (List.subset_append_right _ _)
      cases hu with
      | request before rest cut unsent unwound =>
        rw [unwound, take, List.append_nil]
        refine ⟨?_, rfl, Or.inl rfl, fun t ht => hsub cut (List.mem_cons_of_mem _ ht)⟩
        rw [hflight, cut, outgoing_append, unsent]
        rfl
      | other before rest cut unsent unwound =>
        rw [unwound, take, List.append_nil]
        refine ⟨?_, rfl, Or.inl rfl, hsub cut⟩
        rw [hflight, cut, outgoing_append, unsent]
        rfl
      | pass before cut unsent unwound =>
        rw [unwound, take, List.append_nil]
        refine ⟨?_, rfl, Or.inr rfl, List.nil_subset _⟩
        rw [hflight, cut, outgoing_append, unsent]
        rfl
    | _ => exact unbroken (by simp only [breakOff, hagenda]) (by simp only [brokenOff?, hagenda])

section
variable {limit : Nat} {m : Machine} {move : Move} {e : Effect} {used rest : List Task}

theorem mem_inFlight_of_brokenOff {r : Request} (h : m.brokenOff? = some r) : r ∈ m.inFlight := by
  rw [m.breakOff_breaks.inFlight, h]
  exact List.mem_cons_self

theorem orderly_turn (hm : Orderly m) (turn : Turn) : Orderly (m.turn turn).1 := by
  cases turn with
  | move move => exact orderly_step hm move
  | breakOff =>
    have hb := m.breakOff_breaks
    rw [Orderly, hb.inFlight] at hm
    rw [Machine.turn, Orderly, hb.hub]
    cases hl : m.brokenOff? with
    | none =>
      rw [hl] at hm
      exact hm
    | some q =>
      rw [hl] at hm
      have ha := hm.alive q List.mem_cons_self
      have hrel := Pending.discard_released hm.sound q.id (Phase.ne_unborn_of_isAlive ha)
      refine hm.release hrel (List.sublist_append_right _ _) fun r hr he => ?_
      exact (List.nodup_cons.mp hm.nodup).1 (List.mem_map.mpr ⟨r, hr, he⟩)

private theorem Works.limit_eq (w : Works m move e used rest) :
    e.hub.pending.limit = m.hub.pending.limit := by
  cases w.deals with
  | nothing quiet _ _ _ => rw [quiet.pending]
  | issue message timeout runtime room posts targets plain hub tasks silent =>
    rw [hub]
    exact Pending.limit_register room
  | reply heard quiet =>
    rw [quiet.pending]
    exact Pending.limit_resolve _ _ _
  | reject quiet =>
    rw [quiet.pending]
    rfl
  | await id timeout targets runtime =>
    unfold Hub.awaitReply
    split
    · split
      · rename_i hc
        exact Hub.limit_conclude hc
      · rfl
    · rfl
  | abandon held quiet =>
    rw [quiet.pending]
    rfl
  | wake held concluded hub tasks outputs =>
    have hlimit := Hub.limit_conclude concluded
    rw [hub]
    exact hlimit
  | elapse early quiet => rw [quiet.pending]

structure Steady (limit : Nat) (m : Machine) : Prop where
  orderly : Orderly m
  gated : Gated m
  unused : m.hub.started = false → Unused limit m
  limit : m.hub.pending.limit = limit

private theorem Works.stays_steady (w : Works m move e used rest) (hm : Steady limit m) :
    Steady limit (take e rest).1 where
  orderly := by
    have h := orderly_step hm.orderly move
    rwa [w.step_eq] at h
  gated := (w.gated hm.gated).1
  unused hs' := by
    have hs : m.hub.started = false := Bool.eq_false_iff.mpr fun hs => by
      rw [take, (w.steady hm.gated (Or.inl hs)).1, hs] at hs'
      cases hs'
    exact w.unused hm.gated (hm.unused hs) hs hs'
  limit := w.limit_eq.trans hm.limit

theorem steady_turn (hm : Steady limit m) (turn : Turn) : Steady limit (m.turn turn).1 := by
  cases turn with
  | move move =>
    rw [Machine.turn]
    rcases m.step_cases move with hn | ⟨e, used, rest, w⟩
    · rw [hn]
      exact hm
    · rw [w.step_eq]
      exact w.stays_steady hm
  | breakOff =>
    have hb := m.breakOff_breaks
    refine ⟨orderly_turn hm.orderly .breakOff, fun hs => ?_, fun hs => ?_, ?_⟩
    · rw [Machine.turn, hb.hub] at hs
      obtain ⟨hsilent, hinbox⟩ := hm.gated hs
      refine ⟨List.all_eq_true.mpr fun t ht => List.all_eq_true.mp hsilent t (hb.agenda ht), ?_⟩
      rw [Machine.turn, hb.hub]
      exact hinbox
    · rw [Machine.turn, hb.hub] at hs
      obtain ⟨hpending, hrequests⟩ := hm.unused hs
      have hl : m.brokenOff? = none := by
        refine Option.eq_none_iff_forall_not_mem.mpr fun q hq => ?_
        have ha := hm.orderly.alive q (mem_inFlight_of_brokenOff hq)
        rw [hpending, Pending.phase_new] at ha
        cases ha
      rw [Unused, Machine.turn, hb.hub, hl]
      exact ⟨hpending, hrequests⟩
    · rw [Machine.turn, hb.hub]
      cases m.brokenOff? <;> exact hm.limit

end

end Machine

end PreviewHub
