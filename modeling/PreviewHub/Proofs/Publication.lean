import PreviewHub.Proofs.Spreading

/-! How a change of the registry is made known. Work that changes the registry leaves the task to
tell it in front of all others, or right behind the call that closes the window. Until that is told
and all deliveries are made, only calm tasks come first, and these change the registry only if those
who are called interfere. -/

namespace PreviewHub

def Op.changesRegistry : Op → Bool
  | .registerWindow _ _ => true
  | .registerFrame _ => true
  | .unregisterFrame _ => true
  | .closeAll => true
  | .poll => true
  | _ => false

def Call.isForGuest : Call → Bool
  | .startWatcher => false
  | .stopWatcher => false
  | _ => true

def Task.isCalm : Task → Bool
  | .emit _ => true
  | .deliver _ _ => true
  | .post _ _ _ => true
  | .awaitReply _ _ _ _ => true
  | .answer _ => true
  | .waiting (.notify _ _) => true
  | .waiting (.post _ _ _ _) => true
  | .waiting (.close _ _) => true
  | _ => false

/-- The tasks of work that has changed the registry. The change is told at once, or as soon as the
handle of the window has been closed. -/
inductive Publishes : List Task → Prop where
  | now (notice : Notice) {later : List Task} (idle : ∀ t ∈ later, t.notice? = none) :
      Publishes (.emit notice :: later)
  | closing (id : PreviewId) (handle : Handle) (notice : Notice) :
      Publishes [.waiting (.close id handle), .emit notice]

namespace Hub

/-- Operations that cannot change the registry do not, and leave calm tasks only. -/
private theorem begin_calm (h : Hub) {op : Op} (hop : op.changesRegistry = false) :
    (h.begin op).hub.registry = h.registry ∧ (h.begin op).tasks.all Task.isCalm := by
  cases op with
  | start url runtime =>
    refine ⟨(h.begin_plain rfl).registry, ?_⟩
    simp only [begin, start]
    split
    · rfl
    · split
      · rfl
      · split
        · rfl
        · split <;> rfl
  | send id message =>
    refine ⟨(h.begin_plain rfl).registry, ?_⟩
    simp only [begin, send]
    split
    · split <;> rfl
    · rfl
  | broadcast message =>
    refine ⟨(h.begin_plain rfl).registry, ?_⟩
    simp only [begin, broadcast]
    split
    · simp [postTasks, Task.isCalm]
    · rfl
  | request message timeout runtime =>
    simp only [begin, request]
    split
    · split
      · exact ⟨rfl, rfl⟩
      · exact ⟨rfl, by simp [postTasks, Task.isCalm]⟩
    · exact ⟨rfl, rfl⟩
  | abandon id =>
    simp only [begin, abandon]
    split <;> exact ⟨rfl, rfl⟩
  | dispatch event =>
    simp only [begin, dispatch]
    split <;> exact ⟨rfl, rfl⟩
  | subscribe listener => exact ⟨rfl, rfl⟩
  | unsubscribe id => exact ⟨rfl, rfl⟩
  | _ => cases hop

private theorem perform_calm (h : Hub) {task : Task} (ht : task.isCalm) :
    (h.perform task).hub.registry = h.registry ∧ (h.perform task).tasks.all Task.isCalm := by
  cases task with
  | emit notice => exact ⟨rfl, by simp [perform, Task.isCalm]⟩
  | deliver s notice => exact ⟨rfl, rfl⟩
  | post id handle data =>
    simp only [perform]
    split <;> exact ⟨rfl, rfl⟩
  | awaitReply id timeout targets runtime =>
    obtain ⟨pending, requests, hp⟩ := h.awaitReply_plain id timeout targets runtime
    refine ⟨hp.registry, ?_⟩
    simp only [perform, awaitReply]
    split
    · split <;> rfl
    · rfl
  | waiting call => exact ⟨rfl, by simpa [perform] using ht⟩
  | answer answer => exact ⟨rfl, rfl⟩
  | _ => cases ht

private theorem resume_calm (h : Hub) {call : Call} (hc : (Task.waiting call).isCalm)
    (reply : Reply) :
    (h.resume call reply).hub.registry = h.registry ∧
      (h.resume call reply).tasks.all Task.isCalm := by
  cases call with
  | notify s notice => cases reply <;> exact ⟨rfl, rfl⟩
  | post id handle data origin => cases reply <;> exact ⟨rfl, rfl⟩
  | close id handle => cases reply <;> exact ⟨rfl, rfl⟩
  | _ => cases hc

private theorem begin_publishes (h : Hub) (op : Op) :
    (h.begin op).hub.registry = h.registry ∨ Publishes (h.begin op).tasks := by
  cases op with
  | registerWindow handle runtime =>
    simp only [begin, registerWindow]
    split
    · exact Or.inr (.now _ (by simp [Task.notice?]))
    · rename_i hx
      rcases Registry.registerWindow_cases h.registry handle with ⟨id, he⟩ | ⟨r', he, -⟩
      · exact Or.inl (congrArg Registry.Registration.registry he)
      · rw [he] at hx
        exact absurd rfl hx
  | registerFrame handle =>
    simp only [begin, registerFrame]
    rcases Registry.registerFrame_cases h.registry handle with ⟨-, he⟩ | ⟨r', change, he, hne, -⟩
    · rw [he]
      exact Or.inl rfl
    · rw [he]
      cases change with
      | unchanged => exact absurd rfl hne
      | _ => exact Or.inr (.now _ (by simp [Task.notice?]))
  | unregisterFrame handle =>
    simp only [begin, unregisterFrame]
    rcases Registry.unregisterFrame_cases h.registry handle with ⟨release, he, hne⟩ | ⟨r', he, -⟩
    · rw [he]
      cases release with
      | released => exact absurd rfl hne
      | _ => exact Or.inl rfl
    · rw [he]
      exact Or.inr (.now _ (by simp [Task.notice?]))
  | closeAll => exact Or.inl rfl
  | poll => exact Or.inl rfl
  | _ => exact Or.inl (h.begin_calm rfl).1

private theorem perform_publishes (h : Hub) (task : Task) :
    (h.perform task).hub.registry = h.registry ∨ Publishes (h.perform task).tasks := by
  cases task with
  | startWatcher runtime => exact Or.inl (h.startWatcher_plain runtime).registry
  | stopWatcher => exact Or.inl h.stopWatcher_plain.registry
  | closeWindow id =>
    cases hd : h.detach id with
    | none => simp [perform, hd]
    | some x =>
      simp only [perform, hd]
      exact Or.inr (.closing id _ _)
  | closeFrame =>
    cases hd : h.detach .frame with
    | none => simp [perform, hd]
    | some x =>
      simp only [perform, hd]
      exact Or.inr (.now _ (List.forall_mem_nil _))
  | stopIdleWatcher =>
    simp only [perform]
    split <;> exact Or.inl rfl
  | restartWatcher =>
    simp only [perform]
    split <;> exact Or.inl rfl
  | probe id handle => exact Or.inl rfl
  | closeConnections => exact Or.inl rfl
  | rejectRequests => exact Or.inl rfl
  | waiting call => exact Or.inl rfl
  | _ => exact Or.inl (h.perform_calm rfl).1

private theorem resume_publishes (h : Hub) (call : Call) (reply : Reply) :
    (h.resume call reply).hub.registry = h.registry ∨ Publishes (h.resume call reply).tasks := by
  rcases h.resume_plain call reply with hp | ⟨id, handle, rfl, rfl⟩
  · exact Or.inl hp.registry
  · simp only [resume]
    cases h.detach id with
    | none => exact Or.inl rfl
    | some x => exact Or.inr (.now _ (List.forall_mem_nil _))

end Hub

namespace Machine

def interferes : Machine × Move → Bool
  | (m, .call op) => op.changesRegistry && m.call?.any Call.isForGuest
  | _ => false

section
variable {m : Machine} {move : Move} {e : Effect} {used rest : List Task} {ns : List Notice}

/-- Work that changes the registry makes it known. -/
theorem Works.publishes (w : Works m move e used rest) :
    e.hub.registry = m.hub.registry ∨ Publishes e.tasks := by
  cases w with
  | call op h => exact m.hub.begin_publishes op
  | reply call reply rest h => exact m.hub.resume_publishes call reply
  | proceed task rest h => exact m.hub.perform_publishes task
  | listen h =>
    rcases m.hub.listen_cases with ⟨-, hp⟩ | ⟨id, payload, -, hp⟩
    · exact Or.inl hp.registry
    · exact Or.inl hp.registry
  | tick h => exact Or.inl m.hub.tick_plain.registry
  | wake id h =>
    obtain ⟨pending, requests, outputs, hw, -⟩ := m.hub.wake_eq id
    rw [hw]
    exact Or.inl rfl
  | elapse ms h => exact Or.inl (m.hub.elapse_plain ms).registry

/-- While a calm task comes first, the registry stays as it is and only calm tasks come in front. -/
theorem Works.stays_calm (w : Works m move e used rest) (hi : interferes (m, move) = false)
    {t : Task} {later : List Task} (hm : m.agenda = t :: later) (ht : t.isCalm) :
    e.hub.registry = m.hub.registry ∧
      (e.tasks ++ rest).dropWhile Task.isCalm = m.agenda.dropWhile Task.isCalm := by
  have front (hr : e.hub.registry = m.hub.registry) (hc : e.tasks.all Task.isCalm)
      (hd : rest.dropWhile Task.isCalm = m.agenda.dropWhile Task.isCalm) :
      e.hub.registry = m.hub.registry ∧
        (e.tasks ++ rest).dropWhile Task.isCalm = m.agenda.dropWhile Task.isCalm := by
    refine ⟨hr, ?_⟩
    rw [List.dropWhile_append_of_pos (List.all_eq_true.mp hc), hd]
  have hnext : later.dropWhile Task.isCalm = m.agenda.dropWhile Task.isCalm := by
    rw [hm, List.dropWhile_cons_of_pos ht]
  cases w with
  | call op h =>
    have hop : op.changesRegistry = false := by
      rcases isOpen_iff.mp h with hn | ⟨call, rest, hc⟩
      · rw [hm] at hn
        cases hn
      · rw [hm] at hc
        cases hc
        have hguest : m.call?.any Call.isForGuest := by
          rw [call?, hm]
          cases call with
          | startWatcher => cases ht
          | stopWatcher => cases ht
          | _ => rfl
        simpa only [interferes, hguest, Bool.and_true] using hi
    obtain ⟨hr, hc⟩ := m.hub.begin_calm hop
    exact front hr hc rfl
  | reply call reply rest h =>
    cases hm.symm.trans h
    obtain ⟨hr, hc⟩ := m.hub.resume_calm ht reply
    exact front hr hc hnext
  | proceed task rest h =>
    cases hm.symm.trans h
    obtain ⟨hr, hc⟩ := m.hub.perform_calm ht
    exact front hr hc hnext
  | listen h => cases hm.symm.trans h
  | tick h => cases hm.symm.trans h
  | wake id h => cases hm.symm.trans h
  | elapse ms h => cases hm.symm.trans h

inductive Owes : List Task → Prop where
  | nothing {tasks : List Task} (clear : owed tasks = []) : Owes tasks
  | next (notice : Notice) {later : List Task} (clear : owed later = []) :
      Owes (.emit notice :: later)
  | closing (id : PreviewId) (handle : Handle) (notice : Notice) (before : List Task)
      {later : List Task} (front : owed before = []) (clear : owed later = []) :
      Owes (before ++ .waiting (.close id handle) :: .emit notice :: later)

theorem Owes.of_publishes {tasks : List Task} (h : Publishes tasks) (hr : owed rest = []) :
    Owes (tasks ++ rest) := by
  cases h with
  | now notice idle =>
    rw [List.cons_append]
    apply Owes.next
    rw [owed_append, owed_idle idle, hr, List.append_nil]
  | closing id handle notice => exact .closing id handle notice [] rfl hr

/-- Nothing is owed where no window is being closed and others have the turn. -/
theorem Owes.eq_nil (h : Owes m.agenda) (hopen : m.isOpen)
    (hc : ∀ id handle, .waiting (.close id handle) ∉ m.agenda) : owed m.agenda = [] := by
  generalize hagenda : m.agenda = tasks at h hc ⊢
  cases h with
  | nothing clear => exact clear
  | next notice clear =>
    rcases isOpen_iff.mp hopen with hn | ⟨call, rest, hw⟩
    · cases hagenda.symm.trans hn
    · cases hagenda.symm.trans hw
  | closing id handle notice before front clear =>
    exact absurd (List.mem_append_right _ List.mem_cons_self) (hc id handle)

/-- Work without news keeps what is owed in its place, or tells it. -/
theorem Works.owes (w : Works m move e used rest) (ht : e.Tells m.hub move used [])
    (h : Owes m.agenda) : Owes (e.tasks ++ rest) := by
  have hbalance := ht.balance
  rw [List.append_nil] at hbalance
  have unowed (hu : owed used = []) : owed e.tasks = [] := by
    rw [hu] at hbalance
    exact (List.append_eq_nil_iff.mp hbalance).2
  have hagenda := w.agenda_eq
  generalize m.agenda = tasks at h hagenda
  cases h with
  | nothing clear =>
    rw [hagenda, owed_append] at clear
    obtain ⟨hu, hr⟩ := List.append_eq_nil_iff.mp clear
    apply Owes.nothing
    rw [owed_append, unowed hu, hr, List.append_nil]
  | next notice clear =>
    rcases w.used_cases with ⟨rfl, hopen⟩ | ⟨t, rfl⟩
    · have hpass := passes_of_isOpen hopen (t := .emit notice) (by rw [w.agenda_eq, ← hagenda]; rfl)
      cases hpass
    · rw [List.singleton_append] at hagenda
      cases hagenda
      cases w.speaks with
      | emit notice =>
        apply Owes.nothing
        rw [owed_append, clear, List.append_nil]
        exact owed_plain (by simp [Task.isPlain])
      | aside bus idle tasks outputs => cases idle _ List.mem_cons_self
  | closing id handle notice before front clear =>
    rcases w.used_cases with ⟨rfl, -⟩ | ⟨t, rfl⟩
    · rw [List.nil_append] at hagenda
      rw [← hagenda, ← List.append_assoc]
      apply Owes.closing id handle notice _ _ clear
      rw [owed_append, unowed rfl, front, List.append_nil]
    · rw [List.singleton_append] at hagenda
      cases before with
      | nil =>
        cases hagenda
        cases w with
        | reply call reply rest h => cases reply <;> exact .next notice clear
        | proceed task rest h => exact .closing id handle notice [] rfl clear
      | cons first before =>
        rw [List.cons_append] at hagenda
        obtain ⟨rfl, hrest⟩ := List.cons.inj hagenda
        obtain ⟨hfirst, hbefore⟩ : owed [first] = [] ∧ owed before = [] :=
          List.append_eq_nil_iff.mp ((owed_append [first] before).symm.trans front)
        rw [← hrest, ← List.append_assoc]
        apply Owes.closing id handle notice _ _ clear
        rw [owed_append, unowed hfirst, hbefore, List.append_nil]

end

end Machine

end PreviewHub
