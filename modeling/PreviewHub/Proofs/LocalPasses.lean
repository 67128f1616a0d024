import PreviewHub.Proofs.FailedPosts

/-! Passes over the windows of local previews. Each window is asked in turn whether it is closed,
and whoever is called meanwhile may use the hub. A window that is taken out is told of once: its
closing is owed from then on. So a preview to which a post has failed is gone after the next pass,
and one that is still there was found open. -/

namespace PreviewHub

def closures (id : PreviewId) (notices : List Notice) : List Notice :=
  notices.filter (Notice.closes id)

private theorem closures_append (id : PreviewId) (first second : List Notice) :
    closures id (first ++ second) = closures id first ++ closures id second :=
  List.filter_append ..

private theorem closures_closed (id : PreviewId) (ids : List PreviewId) :
    closures id [.closed id ids] = [.closed id ids] := by
  simp [closures, Notice.closes]

private theorem Notice.eq_closed_of_closes {id : PreviewId} {n : Notice} (h : n.closes id) :
    ∃ ids, n = .closed id ids := by
  cases n with
  | closed target ids => exact ⟨ids, by rw [of_decide_eq_true h]⟩
  | _ => cases h

private theorem Task.eq_emit_of_owed {t : Task} {notice : Notice} (h : t.owed? = some notice) :
    t = .emit notice := by
  cases t with
  | emit told =>
    rw [owed?] at h
    split at h
    · rw [Option.some.inj h]
    · cases h
  | _ => cases h

private theorem closures_owed_eq_nil {id : PreviewId} {tasks : List Task} :
    closures id (owed tasks) = [] ↔ ∀ ids, .emit (.closed id ids) ∉ tasks := by
  rw [closures, List.filter_eq_nil_iff]
  constructor
  · intro h ids hm
    have howed : .closed id ids ∈ owed tasks := List.mem_filterMap.mpr ⟨_, hm, rfl⟩
    exact h _ howed (decide_eq_true rfl)
  · intro h notice hn hc
    obtain ⟨t, ht, ho⟩ := List.mem_filterMap.mp hn
    obtain ⟨ids, rfl⟩ := Notice.eq_closed_of_closes hc
    exact h ids (Task.eq_emit_of_owed ho ▸ ht)

namespace Registry

/-- The window was registered and is not there any more. -/
structure HasDropped (r : Registry) (n : Nat) : Prop where
  issued : n < r.nextWindow
  absent : .window n ∉ r.list

section
variable {r r' : Registry} {ns : List Notice} {n : Nat}

private theorem HasDropped.change (hd : r.HasDropped n) (hr : r.Sound) (h : Change r r' ns) :
    r'.HasDropped n :=
  ⟨Nat.lt_of_lt_of_le hd.issued h.nextWindow_le,
    fun hin => hd.absent (h.mem_of_mem hr hd.issued hin)⟩

/-- What is told to be closed is not there any more. -/
private theorem Change.hasDropped (hr : r.Sound) (h : Change r r' ns) {notice : Notice}
    (hm : notice ∈ ns)
    (hc : notice.closes (.window n)) : r'.HasDropped n := by
  obtain ⟨ids, rfl⟩ := Notice.eq_closed_of_closes hc
  obtain ⟨rfl, hgone⟩ := h.fits hr _ hm
  refine ⟨Nat.lt_of_lt_of_le ?_ h.nextWindow_le, hgone⟩
  cases h with
  | nothing => cases hm
  | window handle h => cases List.mem_singleton.mp hm
  | frame handle hne h => cases List.mem_singleton.mp hm
  | release handle hf h =>
    exact absurd (Notice.closed.inj (List.mem_singleton.mp hm)).1 (PreviewId.window_ne_frame n)
  | remove id handle hin h =>
    obtain ⟨k, hk, hid⟩ := hr.issued _ hin
    cases PreviewId.window_injective
      ((Notice.closed.inj (List.mem_singleton.mp hm)).1.trans hid)
    exact hk

end

end Registry

namespace Hub

section
variable {h : Hub} {w : Endpoint}

private theorem detach_of_lost {h' : Hub} {id : PreviewId} {handle : Handle} {ids : List PreviewId}
    (hr : h.registry.Sound) (hd : h.detach id = some (handle, ids, h'))
    (hin : w ∈ h.registry.windows) (hout : w ∉ h'.registry.windows) : w = (id, handle) := by
  obtain ⟨registry, hrem, -, rfl⟩ := detach_eq hd
  rcases Registry.remove_cases hrem with ⟨-, -, rfl⟩ | ⟨-, hm, rfl⟩
  · exact absurd hin hout
  · by_cases he : w.1 = id
    · exact hr.handle_unique hin hm he
    · exact absurd ((List.mem_eraseP_of_neg (by simpa using he)).mpr hin) hout

/-- No operation takes a window out when it begins. -/
private theorem begin_windows (h : Hub) (op : Op) :
    h.registry.windows ⊆ (h.begin op).hub.registry.windows := by
  have same : h.registry.windows ⊆ h.registry.windows := List.Subset.refl _
  cases op with
  | registerWindow handle runtime =>
    simp only [begin, registerWindow]
    rcases Registry.registerWindow_cases h.registry handle with ⟨id, hx⟩ | ⟨r', hx, rfl⟩
    · simp only [hx, Bool.false_eq_true, if_false]
      exact same
    · simp only [hx]
      exact List.subset_append_left _ _
  | registerFrame handle =>
    simp only [begin, registerFrame]
    rcases Registry.registerFrame_cases h.registry handle with
      ⟨-, hx⟩ | ⟨r', change, hx, hne, hf, rfl⟩
    · simp only [hx]
      exact same
    · simp only [hx]
      exact same
  | unregisterFrame handle =>
    simp only [begin, unregisterFrame]
    rcases Registry.unregisterFrame_cases h.registry handle with ⟨release, hx, -⟩ | ⟨r', hx, -, rfl⟩
    · simp only [hx]
      cases release <;> exact same
    · simp only [hx]
      exact same
  | closeAll => exact same
  | request message timeout runtime =>
    simp only [begin, request]
    split
    · split <;> exact same
    · exact same
  | abandon id =>
    obtain ⟨pending, requests, hp⟩ := h.abandon_plain id
    rw [begin, hp.registry]
    exact same
  | _ =>
    rw [(h.begin_plain rfl).registry]
    exact same

/-- A task that takes a window out has its handle called to close it, and then tells it. -/
private theorem perform_lost (hr : h.registry.Sound) {task : Task} (hin : w ∈ h.registry.windows)
    (hout : w ∉ (h.perform task).hub.registry.windows) :
    ∃ ids, (h.perform task).tasks =
      [.waiting (.close w.1 w.2), .emit (.closed w.1 ids)] := by
  cases task with
  | post id handle data =>
    rw [(h.post_plain id handle data).registry] at hout
    exact absurd hin hout
  | startWatcher runtime =>
    rw [perform, (h.startWatcher_plain runtime).registry] at hout
    exact absurd hin hout
  | stopWatcher =>
    rw [perform, h.stopWatcher_plain.registry] at hout
    exact absurd hin hout
  | closeWindow id =>
    cases hd : h.detach id with
    | none =>
      simp only [perform, hd] at hout
      exact absurd hin hout
    | some x =>
      simp only [perform, hd] at hout ⊢
      cases detach_of_lost hr hd hin hout
      exact ⟨_, rfl⟩
  | closeFrame =>
    cases hd : h.detach .frame with
    | none =>
      simp only [perform, hd] at hout
      exact absurd hin hout
    | some x =>
      simp only [perform, hd] at hout
      cases detach_of_lost hr hd hin hout
      exact absurd rfl (hr.ne_frame hin)
  | stopIdleWatcher =>
    simp only [perform] at hout
    split at hout <;> exact absurd hin hout
  | restartWatcher =>
    simp only [perform] at hout
    split at hout <;> exact absurd hin hout
  | awaitReply id timeout targets runtime =>
    obtain ⟨pending, requests, hp⟩ := h.awaitReply_plain id timeout targets runtime
    rw [perform, hp.registry] at hout
    exact absurd hin hout
  | _ => exact absurd hin hout

/-- A call that takes a window out when it returns leaves the task to tell it. -/
private theorem resume_lost (hr : h.registry.Sound) {call : Call} {reply : Reply}
    (hin : w ∈ h.registry.windows) (hout : w ∉ (h.resume call reply).hub.registry.windows) :
    ∃ ids, (h.resume call reply).tasks = [.emit (.closed w.1 ids)] := by
  rcases h.resume_plain call reply with hp | ⟨id, handle, rfl, rfl⟩
  · rw [hp.registry] at hout
    exact absurd hin hout
  · cases hd : h.detach id with
    | none =>
      simp only [resume, hd] at hout
      exact absurd hin hout
    | some x =>
      simp only [resume, hd] at hout ⊢
      cases detach_of_lost hr hd hin hout
      exact ⟨_, rfl⟩

/-- A window that says it is closed is not there any more. -/
private theorem resume_closed_gone (hr : h.registry.Sound) (n : Nat) (handle : Handle) :
    .window n ∉ (h.resume (.probe (.window n) handle) .closed).hub.registry.list := by
  rw [Registry.mem_list_window]
  intro hin
  obtain ⟨w, hw, hid⟩ := List.mem_map.mp hin
  cases hd : h.detach (.window n) with
  | none =>
    simp only [resume, hd] at hw
    exact detach_none hr hd w hw hid
  | some x =>
    simp only [resume, hd] at hw
    exact ((detach_windows hr hd).2 w hw).2 hid

end

end Hub

namespace Machine

/-- When a window is taken out, that is told next, or as soon as its handle has returned. -/
private theorem Works.lost {m : Machine} {move : Move} {e : Effect} {used rest : List Task}
    (work : Works m move e used rest) (hr : m.hub.registry.Sound) {w : Endpoint}
    (hin : w ∈ m.hub.registry.windows) (hout : w ∉ e.hub.registry.windows) :
    ∃ ids, e.tasks = [.waiting (.close w.1 w.2), .emit (.closed w.1 ids)] ∨
      e.tasks = [.emit (.closed w.1 ids)] := by
  cases work with
  | call op h => exact absurd (m.hub.begin_windows op hin) hout
  | reply call reply rest h =>
    obtain ⟨ids, ht⟩ := Hub.resume_lost hr hin hout
    exact ⟨ids, Or.inr ht⟩
  | proceed task rest h =>
    obtain ⟨ids, ht⟩ := Hub.perform_lost hr hin hout
    exact ⟨ids, Or.inl ht⟩
  | listen h =>
    rcases m.hub.listen_cases with ⟨-, hp⟩ | ⟨id, payload, -, hp⟩
    · rw [hp.registry] at hout
      exact absurd hin hout
    · rw [hp.registry] at hout
      exact absurd hin hout
  | tick h =>
    rw [m.hub.tick_plain.registry] at hout
    exact absurd hin hout
  | wake id h =>
    obtain ⟨pending, requests, outputs, hw, -⟩ := m.hub.wake_eq id
    rw [hw] at hout
    exact absurd hin hout
  | elapse ms h =>
    rw [(m.hub.elapse_plain ms).registry] at hout
    exact absurd hin hout

section
variable {m : Machine} {n : Nat}

/-- A piece of work tells of closings that were owed, or leaves them to be told, and owes another
one if it takes the window out. -/
private theorem Works.closures_balance {move : Move} {e : Effect} {used rest : List Task}
    (w : Works m move e used rest) (hr : m.hub.registry.Sound)
    (hn : n < m.hub.registry.nextWindow) :
    closures (.window n) (told e.outputs) ++ closures (.window n) (owed e.tasks) =
      closures (.window n) (owed used) ++
        if .window n ∈ m.hub.registry.list ∧ .window n ∉ e.hub.registry.list then
          [.closed (.window n) e.hub.registry.list] else [] := by
  obtain ⟨news, ht⟩ := w.tells
  rw [← closures_append, ht.balance, closures_append]
  congr 1
  rcases ht.change.window_cases hr hn with ⟨hin, hout, rfl⟩ | ⟨hiff, hnews⟩
  · rw [if_pos ⟨hin, hout⟩, closures_closed]
  · rw [if_neg fun hc => hc.2 (hiff.mpr hc.1), closures, List.filter_eq_nil_iff]
    intro notice hm hc
    have habout := hnews notice hm
    rw [Notice.about, hc, Bool.or_true] at habout
    cases habout

private theorem told_breakOff (m : Machine) : told m.breakOff.2 = [] := by
  have unwound (h : Hub) (tasks : List Task) : told (h.unwind tasks).outputs = [] := by
    refine told_plain (List.all_eq_true.mpr fun o ho => ?_)
    rcases Hub.mem_unwind_outputs ho with ⟨remark, rfl⟩ | rfl <;> rfl
  rw [breakOff]
  split
  · exact unwound _ _
  · rfl

/-- How far the closing of a window has come, of which `heard` was told: the window is there; its
handle is called to close it; its closing is to be told next; or all is told. -/
inductive Parting (n : Nat) (handle : Handle) (m : Machine) (heard : List Notice) : Prop where
  | present (there : (.window n, handle) ∈ m.hub.registry.windows)
      (unowed : closures (.window n) (owed m.agenda) = []) (unheard : heard = [])
  | closing {ids : List PreviewId} {rest : List Task} (absent : .window n ∉ m.hub.registry.list)
      (agenda : m.agenda =
        .waiting (.close (.window n) handle) :: .emit (.closed (.window n) ids) :: rest)
      (unowed : closures (.window n) (owed rest) = []) (unheard : heard = [])
  | telling {ids : List PreviewId} {rest : List Task} (absent : .window n ∉ m.hub.registry.list)
      (agenda : m.agenda = .emit (.closed (.window n) ids) :: rest)
      (unowed : closures (.window n) (owed rest) = []) (unheard : heard = [])
  | told {ids : List PreviewId} (absent : .window n ∉ m.hub.registry.list)
      (unowed : closures (.window n) (owed m.agenda) = [])
      (heard : heard = [.closed (.window n) ids])

variable {handle : Handle} {heard : List Notice}

/-- When a window is taken out of which nothing was to be told, its closing is told soon. -/
private theorem Works.parting_lost {move : Move} {e : Effect} {used rest : List Task}
    (w : Works m move e used rest) (hr : m.hub.registry.Sound) (hn : n < m.hub.registry.nextWindow)
    (hin : (.window n, handle) ∈ m.hub.registry.windows)
    (hout : .window n ∉ e.hub.registry.list) (hused : closures (.window n) (owed used) = [])
    (hrest : closures (.window n) (owed rest) = []) :
    Parting n handle (take e rest).1 (closures (.window n) (told e.outputs)) := by
  obtain ⟨news, ht⟩ := w.tells
  have hlost : (.window n, handle) ∉ e.hub.registry.windows := fun h =>
    hout ((ht.change.sound hr).mem_list h)
  have hbalance := w.closures_balance hr hn
  rw [hused, List.nil_append, if_pos ⟨hr.mem_list hin, hout⟩] at hbalance
  have unheard {ids : List PreviewId} (howed : owed e.tasks = [.closed (.window n) ids]) :
      closures (.window n) (told e.outputs) = [] := by
    have hlength := congrArg List.length hbalance
    rw [howed, closures_closed, List.length_append, List.length_singleton,
      List.length_singleton] at hlength
    exact List.eq_nil_of_length_eq_zero (by omega)
  obtain ⟨ids, htasks | htasks⟩ := w.lost hr hin hlost
  · exact .closing hout (by rw [take, htasks]; rfl) hrest (unheard (by rw [htasks]; rfl))
  · exact .telling hout (by rw [take, htasks]; rfl) hrest (unheard (by rw [htasks]; rfl))

private theorem parting_works {move : Move} {e : Effect} {used rest : List Task}
    (w : Works m move e used rest) (hr : m.hub.registry.Sound) (hn : n < m.hub.registry.nextWindow)
    (hp : Parting n handle m heard)
    (hcall : m.call? = some (.close (.window n) handle) → ∃ reply, move = .reply reply) :
    Parting n handle (take e rest).1 (heard ++ closures (.window n) (told e.outputs)) := by
  obtain ⟨news, ht⟩ := w.tells
  have hbalance := w.closures_balance hr hn
  have split (hunowed : closures (.window n) (owed m.agenda) = []) :
      closures (.window n) (owed used) = [] ∧ closures (.window n) (owed rest) = [] := by
    rwa [w.agenda_eq, owed_append, closures_append, List.append_eq_nil_iff] at hunowed
  have quiet (hused : closures (.window n) (owed used) = [])
      (hrest : closures (.window n) (owed rest) = [])
      (hiff : .window n ∈ e.hub.registry.list ↔ .window n ∈ m.hub.registry.list) :
      closures (.window n) (told e.outputs) = [] ∧
        closures (.window n) (owed (take e rest).1.agenda) = [] := by
    rw [hused, List.nil_append, if_neg fun hc => hc.2 (hiff.mpr hc.1),
      List.append_eq_nil_iff] at hbalance
    refine ⟨hbalance.1, ?_⟩
    rw [take, owed_append, closures_append, hbalance.2, hrest]
    rfl
  cases hp with
  | present there unowed unheard =>
    obtain ⟨hused, hrest⟩ := split unowed
    subst unheard
    rw [List.nil_append]
    rcases ht.change.stays_or_gone hr there with hstays | hgone
    · have hlisted := (ht.change.sound hr).mem_list hstays
      obtain ⟨htold, howed⟩ := quiet hused hrest ⟨fun _ => hr.mem_list there, fun _ => hlisted⟩
      exact .present hstays howed htold
    · exact w.parting_lost hr hn there hgone hused hrest
  | closing absent agenda unowed unheard =>
    obtain ⟨reply, rfl⟩ := hcall (by rw [call?, agenda])
    cases w with
    | reply call reply rest h =>
      cases agenda.symm.trans h
      obtain ⟨rs, he⟩ := m.hub.resume_indifferent (.close (.window n) handle) rfl reply
      rw [he, unheard, told_plain (Hub.remarks_plain rs)]
      exact .telling absent rfl unowed rfl
  | telling absent agenda unowed unheard =>
    cases w with
    | proceed task rest h =>
      cases agenda.symm.trans h
      rename_i ids
      have htold : closures (.window n)
          (told (m.hub.perform (.emit (.closed (.window n) ids))).outputs) =
            [.closed (.window n) ids] := closures_closed _ ids
      rw [htold, if_neg fun hc => absent hc.1, List.append_nil] at hbalance
      have howed := List.append_right_eq_self.mp (hbalance.trans (closures_closed _ ids))
      refine .told absent ?_ (by rw [unheard, htold]; rfl)
      rw [take, owed_append, closures_append, howed, unowed]
      rfl
    | call op hopen =>
      rcases isOpen_iff.mp hopen with h | ⟨call, rest, h⟩
      · cases agenda.symm.trans h
      · cases agenda.symm.trans h
    | reply call reply rest h => cases agenda.symm.trans h
    | listen h => cases agenda.symm.trans h
    | tick h => cases agenda.symm.trans h
    | wake id h => cases agenda.symm.trans h
    | elapse ms h => cases agenda.symm.trans h
  | told absent unowed hheard =>
    obtain ⟨hused, hrest⟩ := split unowed
    have hgone : .window n ∉ e.hub.registry.list := fun h => absent (ht.change.mem_of_mem hr hn h)
    obtain ⟨htold, howed⟩ := quiet hused hrest
      ⟨fun h => absurd h hgone, fun h => absurd h absent⟩
    exact .told hgone howed (by rw [hheard, htold, List.append_nil])

private theorem parting_turn (hr : m.hub.registry.Sound) (hn : n < m.hub.registry.nextWindow)
    (hp : Parting n handle m heard) (turn : Turn)
    (hcall : m.call? = some (.close (.window n) handle) → ∃ reply, turn = .move (.reply reply)) :
    Parting n handle (m.turn turn).1 (heard ++ closures (.window n) (told (m.turn turn).2)) := by
  have same {x : Machine × List Output} (hx : x = (m, [])) :
      Parting n handle x.1 (heard ++ closures (.window n) (told x.2)) := by
    rw [hx]
    exact (List.append_nil heard).symm ▸ hp
  cases turn with
  | move move =>
    rw [Machine.turn]
    rcases m.step_cases move with hs | ⟨e, used, rest, w⟩
    · exact same hs
    · rw [w.step_eq]
      refine parting_works w hr hn hp fun hc => ?_
      obtain ⟨reply, ht⟩ := hcall hc
      exact ⟨reply, Turn.move.inj ht⟩
  | breakOff =>
    have hb := m.breakOff_breaks
    have hregistry : m.breakOff.1.hub.registry = m.hub.registry := by rw [hb.hub]
    have fewer (hunowed : closures (.window n) (owed m.agenda) = []) :
        closures (.window n) (owed m.breakOff.1.agenda) = [] :=
      closures_owed_eq_nil.mpr fun ids hm => closures_owed_eq_nil.mp hunowed ids (hb.agenda hm)
    rw [Machine.turn, told_breakOff]
    cases hp with
    | present there unowed unheard =>
      exact .present (hregistry ▸ there) (fewer unowed) (by rw [unheard]; rfl)
    | closing absent agenda unowed unheard =>
      obtain ⟨reply, ht⟩ := hcall (by rw [call?, agenda])
      cases ht
    | telling absent agenda unowed unheard =>
      have hsame : m.breakOff = (m, []) := by simp only [breakOff, agenda]
      have := same hsame
      rwa [told_breakOff] at this
    | told absent unowed hheard =>
      exact .told (hregistry ▸ absent) (fewer unowed) (by rw [hheard]; rfl)

/-- Whatever was or will be told to be closed is not there any more. -/
def Departed (m : Machine) (shown : List Output) : Prop :=
  ∀ notice ∈ told shown ++ owed m.agenda, ∀ n, notice.closes (.window n) →
    m.hub.registry.HasDropped n

/-- So far nothing was told of the closing of a window that is there, and nothing is to be told. -/
theorem Departed.closures_eq_nil {shown : List Output} (hd : Departed m shown)
    (hr : m.hub.registry.Sound) {w : Endpoint} (hw : w ∈ m.hub.registry.windows) :
    closures w.1 (told shown) = [] ∧ closures w.1 (owed m.agenda) = [] := by
  obtain ⟨n, -, hid⟩ := hr.issued w hw
  rw [← List.append_eq_nil_iff, ← closures_append, closures, List.filter_eq_nil_iff]
  intro notice hm hc
  rw [hid] at hc
  exact (hd notice hm n hc).absent (hid ▸ hr.mem_list hw)

private theorem departed_turn {shown : List Output} (hr : m.hub.registry.Sound)
    (hd : Departed m shown)
    (turn : Turn) : Departed (m.turn turn).1 (shown ++ (m.turn turn).2) := by
  have old {r' : Registry} {ns : List Notice} (hchange : m.hub.registry.Change r' ns)
      {notice : Notice} (hm : notice ∈ told shown ++ owed m.agenda) :
      ∀ n, notice.closes (.window n) → r'.HasDropped n :=
    fun n hc => (hd notice hm n hc).change hr hchange
  cases turn with
  | move move =>
    rw [Machine.turn]
    rcases m.step_cases move with hs | ⟨e, used, rest, w⟩
    · rw [hs, List.append_nil]
      exact hd
    · obtain ⟨news, ht⟩ := w.tells
      rw [w.agenda_eq, owed_append] at old
      rw [w.step_eq, Departed, take, told_append, owed_append]
      intro notice hm
      have hwork (hm : notice ∈ told e.outputs ++ owed e.tasks) :
          ∀ n, notice.closes (.window n) → e.hub.registry.HasDropped n := by
        rw [ht.balance] at hm
        rcases List.mem_append.mp hm with hm | hm
        · exact old ht.change (List.mem_append_right _ (List.mem_append_left _ hm))
        · exact fun n hc => ht.change.hasDropped hr hm hc
      rcases List.mem_append.mp hm with hm | hm
      · rcases List.mem_append.mp hm with hm | hm
        · exact old ht.change (List.mem_append_left _ hm)
        · exact hwork (List.mem_append_left _ hm)
      · rcases List.mem_append.mp hm with hm | hm
        · exact hwork (List.mem_append_right _ hm)
        · exact old ht.change (List.mem_append_right _ (List.mem_append_right _ hm))
  | breakOff =>
    have hb := m.breakOff_breaks
    have hregistry : m.breakOff.1.hub.registry = m.hub.registry := by rw [hb.hub]
    rw [Machine.turn, Departed, told_append, told_breakOff, List.append_nil, hregistry]
    intro notice hm
    rcases List.mem_append.mp hm with hm | hm
    · exact old .nothing (List.mem_append_left _ hm)
    · exact old .nothing (List.mem_append_right _ (List.filterMap_subset _ hb.agenda hm))

end

end Machine

namespace Site

private theorem numbered_after {s : Site} (hs : Machine.Numbered s.machine) (xs : List Happening) :
    Machine.Numbered (s.after xs).machine ∧ Machine.CountsOn s.machine (s.after xs).machine := by
  rw [machine_after]
  generalize s.turns xs = turns
  obtain ⟨hend, hcourse⟩ := Machine.numbered_after hs turns
  refine ⟨hend, ?_⟩
  cases turns with
  | nil => exact .refl _
  | cons turn turns => exact (hcourse _ List.mem_cons_self).2

private theorem departed_after {options : Options} {own : Bool} {h : Hub}
    (hb : Hub.build options own = .ok h) (previews : Handle → Option LocalPreview)
    (xs : List Happening) :
    let start : Site := ⟨⟨h, []⟩, previews⟩
    Machine.Departed (start.after xs).machine (start.shown xs) := by
  intro start
  induction xs using List.reverseRecOn with
  | nil => exact List.forall_mem_nil _
  | append_singleton xs x ih =>
    rw [after_concat, shown_concat]
    have hnumbered := (numbered_after (s := start) (Machine.numbered_new hb) xs).1
    rcases (start.after xs).next_cases x with ⟨-, hm, hsees⟩ | ⟨turn, -, hm, hsees⟩
    · rw [hm, hsees, List.append_nil]
      exact ih
    · rw [hm, hsees]
      exact Machine.departed_turn hnumbered.registry ih turn

/-- However the closing of a window goes on whose preview is local, nothing breaks it off. -/
theorem parting_after {s : Site} (hs : Machine.Numbered s.machine) {n : Nat} {handle : Handle}
    (hw : (.window n, handle) ∈ s.machine.hub.registry.windows)
    (howed : closures (.window n) (owed s.machine.agenda) = [])
    (hlocal : (s.previews handle).isSome) (xs : List Happening) :
    Machine.Parting n handle (s.after xs).machine (closures (.window n) (told (s.shown xs))) := by
  obtain ⟨p, hp⟩ := Option.isSome_iff_exists.mp hlocal
  obtain ⟨k, hk, hid⟩ := hs.registry.issued _ hw
  cases PreviewId.window_injective hid
  induction xs using List.reverseRecOn with
  | nil => exact .present hw howed rfl
  | append_singleton xs x ih =>
    obtain ⟨hnumbered, hcounts⟩ := numbered_after hs xs
    rw [after_concat, shown_concat, told_append, closures_append]
    rcases (s.after xs).next_cases x with ⟨-, hm, hsees⟩ | ⟨turn, hx, hm, hsees⟩
    · rw [hm, hsees]
      exact (List.append_nil _).symm ▸ ih
    · rw [hm, hsees]
      have hissued := Nat.lt_of_lt_of_le hk hcounts.nextWindow
      refine Machine.parting_turn hnumbered.registry hissued ih turn fun hcall => ?_
      obtain ⟨q, hq, -⟩ := fares_after hp xs
      have hcalled : (s.after xs).called?.isSome := by rw [called?_eq hcall rfl hq]; rfl
      cases answer_of_turn? hx hcalled
      rw [turn?_answer hcall rfl hq] at hx
      exact ⟨_, (Option.some.inj hx).symm⟩

end Site

namespace Machine

/-- A move begins a pass over the windows: someone asks for it, or the hub's own polling is due.
After the windows it is left to look whether any is there to be watched, and then `rest`. -/
inductive BeginsPass (m : Machine) : Move → List Task → Prop where
  | asked (hopen : m.isOpen) : BeginsPass m (.call .poll) (.answer .done :: m.agenda)
  | due {poller : Poller Unit} {due : Nat} (hidle : m.agenda = [])
      (hwatcher : m.hub.watcher = .polling poller) (hdue : poller.due? = some due)
      (hclock : due ≤ m.hub.clock) : BeginsPass m .tick []

private theorem BeginsPass.step_eq {m : Machine} {move : Move} {rest : List Task}
    (h : m.BeginsPass move rest) :
    (m.step move).1.agenda =
        m.hub.registry.windows.map (fun w => .probe w.1 w.2) ++ .stopIdleWatcher :: rest ∧
      (m.step move).1.hub.registry = m.hub.registry := by
  cases h with
  | asked hopen =>
    rw [(Works.call .poll hopen).step_eq]
    refine ⟨?_, rfl⟩
    simp [take, Hub.begin, Hub.pollTasks]
  | due hidle hwatcher hdue hclock =>
    have htick : m.hub.tick.tasks = m.hub.pollTasks ∧ m.hub.tick.hub.registry = m.hub.registry := by
      simp only [Hub.tick, hwatcher, hdue, if_pos hclock, and_self]
    rw [(Works.tick hidle).step_eq, take]
    exact ⟨by rw [htick.1, List.append_nil]; rfl, htick.2⟩

def Passes (w : Endpoint) (step : Machine × Turn) : Prop :=
  step.1.call? = some (.probe w.1 w.2) ∧ ∃ reply, reply ≠ .closed ∧ step.2 = .move (.reply reply)

/-- How far a pass has come with a window: it is still to be asked or being asked, it is gone, or it
has not said that it is closed. -/
inductive Probing (w : Endpoint) (body : List Task) (m : Machine) (steps : List (Machine × Turn)) :
    Prop where
  | ahead (task : .probe w.1 w.2 ∈ body)
  | asked (task : .waiting (.probe w.1 w.2) ∈ body)
  | gone (absent : w.1 ∉ m.hub.registry.list)
  | passed (step : ∃ step ∈ steps, Passes w step)

section
variable {m : Machine} {n : Nat} {handle : Handle} {body body' : List Task}
  {steps : List (Machine × Turn)}

/-- A window that is gone stays away, and one that has passed has passed. What is to be seen is how
a step goes on with the others. -/
private theorem Probing.turn (hm : Numbered m) (hn : n < m.hub.registry.nextWindow)
    (hp : Probing (.window n, handle) body m steps) (turn : Turn)
    (hahead : .probe (.window n) handle ∈ body →
      Probing (.window n, handle) body' (m.turn turn).1 (steps ++ [(m, turn)]))
    (hasked : .waiting (.probe (.window n) handle) ∈ body →
      Probing (.window n, handle) body' (m.turn turn).1 (steps ++ [(m, turn)])) :
    Numbered (m.turn turn).1 ∧ n < (m.turn turn).1.hub.registry.nextWindow ∧
      Probing (.window n, handle) body' (m.turn turn).1 (steps ++ [(m, turn)]) := by
  obtain ⟨hm', hcounts⟩ := numbered_turn hm turn
  refine ⟨hm', Nat.lt_of_lt_of_le hn hcounts.nextWindow, ?_⟩
  cases hp with
  | ahead task => exact hahead task
  | asked task => exact hasked task
  | gone absent =>
    obtain ⟨ns, hchange⟩ := m.change_turn turn
    exact .gone fun hin => absent (hchange.mem_of_mem hm.registry hn hin)
  | passed step =>
    obtain ⟨step, hstep, hpasses⟩ := step
    exact .passed ⟨step, List.mem_append_left _ hstep, hpasses⟩

private theorem kept_probing (n : Nat) (handle : Handle) (base : List Task) :
    Kept base fun body m steps => Numbered m ∧ n < m.hub.registry.nextWindow ∧
      Probing (.window n, handle) body m steps where
  idle := by
    rintro body m steps turn ⟨hm, hn, hp⟩ - same
    have hnext := hp.turn hm hn turn (fun h => .ahead h) fun h => .asked h
    rwa [same] at hnext
  aside := by
    rintro call later m steps turn ⟨hm, hn, hp⟩ -
    exact hp.turn hm hn turn (fun h => .ahead h) fun h => .asked h
  proceed := by
    rintro t later m steps ⟨hm, hn, hp⟩ agenda - hw
    refine hp.turn hm hn (.move .proceed) (fun hin => ?_) fun hin => ?_
    · rcases List.mem_cons.mp hin with rfl | hin
      · exact .asked List.mem_cons_self
      · exact .ahead (List.mem_append_right _ hin)
    · rcases List.mem_cons.mp hin with rfl | hin
      · cases hw
      · exact .asked (List.mem_append_right _ hin)
  reply := by
    rintro call later m steps reply ⟨hm, hn, hp⟩ agenda -
    refine hp.turn hm hn (.move (.reply reply)) (fun hin => ?_) fun hin => ?_
    · rcases List.mem_cons.mp hin with hin | hin
      · cases hin
      · exact .ahead (List.mem_append_right _ hin)
    · rcases List.mem_cons.mp hin with hin | hin
      · cases hin
        by_cases hr : reply = .closed
        · subst hr
          rw [Machine.turn, (Works.reply _ _ _ agenda).step_eq]
          exact .gone (Hub.resume_closed_gone hm.registry n handle)
        · exact .passed ⟨_, List.mem_concat_self, by simp only [call?, agenda], reply, hr, rfl⟩
      · exact .asked (List.mem_append_right _ hin)

private theorem Pursues.complete {last : Task} {rest : List Task}
    (hp : Pursues (last :: rest) body m)
    {turns : List Turn} (hc : m.Completes rest turns) : (m.after turns).agenda = last :: rest := by
  have hkept : Kept (last :: rest) fun _ _ _ => True :=
    ⟨fun _ _ _ => trivial, fun _ _ => trivial, fun _ _ _ _ => trivial, fun _ _ _ => trivial⟩
  exact (hkept.complete hp trivial hc).1

/-- Whatever those who are called do meanwhile, a window that is there before and after a pass was
asked in its course and did not say that it is closed. -/
theorem BeginsPass.complete {move : Move} {rest : List Task} (h : m.BeginsPass move rest)
    (hm : Numbered m) {during : List Turn} (hc : (m.step move).1.Completes rest during) :
    let last := (m.step move).1.after during
    last.agenda = .stopIdleWatcher :: rest ∧
      ∀ w ∈ m.hub.registry.windows, w.1 ∈ last.hub.registry.list →
        ∃ step ∈ (m.step move).1.course during, Passes w step := by
  intro last
  obtain ⟨hagenda, hregistry⟩ := h.step_eq
  have hbegan := (numbered_turn hm (.move move)).1
  have hpursues : Pursues (.stopIdleWatcher :: rest)
      (m.hub.registry.windows.map fun w => .probe w.1 w.2) (m.step move).1 :=
    .level (List.forall_mem_map.mpr fun _ _ => rfl) hagenda
  refine ⟨hpursues.complete hc, fun w hw hin => ?_⟩
  obtain ⟨n, hn, hid⟩ := hm.registry.issued w hw
  obtain ⟨id, handle⟩ := w
  cases hid
  have hprobing : Probing (.window n, handle) (m.hub.registry.windows.map fun w => .probe w.1 w.2)
      (m.step move).1 [] := .ahead (List.mem_map.mpr ⟨_, hw, rfl⟩)
  obtain ⟨-, -, -, hend⟩ := (kept_probing n handle (.stopIdleWatcher :: rest)).complete hpursues
    ⟨hbegan, by rwa [hregistry], hprobing⟩ hc
  cases hend with
  | ahead task => cases task
  | asked task => cases task
  | gone absent => exact absurd hin absent
  | passed step => exact step

end

end Machine

def Happening.goesOn : Happening → Bool
  | .turn (.move move) => move.goesOn
  | .answer => true
  | _ => false

namespace Site

section
variable {s : Site}

private theorem turn?_of_uncalled (hc : s.called? = none) (turn : Turn) :
    s.turn? (.turn turn) = some turn := by
  rw [turn?, hc]
  rfl

private theorem called?_eq_none (hc : s.machine.call? = none) : s.called? = none := by
  rw [called?, hc]
  rfl

private theorem machine_next {x : Happening} {turn : Turn} (hx : s.turn? x = some turn) :
    (s.next x).machine = (s.machine.turn turn).1 := by
  rw [next, hx]
  rfl

/-- Whatever is to be done next can be done, and leads to less. -/
theorem exists_goesOn (hs : s.machine.agenda ≠ []) :
    ∃ x turn, x.goesOn ∧ s.turn? x = some turn ∧
      Task.Descends (s.next x).machine.agenda s.machine.agenda := by
  have goes {x : Happening} {move : Move} (hgo : x.goesOn) (hx : s.turn? x = some (.move move))
      (hless : Task.Descends (s.machine.step move).1.agenda s.machine.agenda) :
      ∃ x turn, x.goesOn ∧ s.turn? x = some turn ∧
        Task.Descends (s.next x).machine.agenda s.machine.agenda :=
    ⟨x, _, hgo, hx, by rwa [machine_next hx]⟩
  rcases Machine.step_descends hs with ⟨call, -, hless⟩ | ⟨hcall, hless⟩
  · cases hcalled : s.called? with
    | none => exact goes rfl (turn?_of_uncalled hcalled (.move (.reply .done))) (hless .done)
    | some use =>
      have hx : s.turn? .answer = some (.move (.reply (s.reply use))) := by
        rw [turn?, hcalled]
        rfl
      exact goes rfl hx (hless _)
  · exact goes rfl (turn?_of_uncalled (called?_eq_none hcall) (.move .proceed)) hless

/-- What there is to do can be done until `n` tasks are left. -/
theorem exists_left {n : Nat} (hn : n ≤ s.machine.agenda.length) :
    ∃ xs : List Happening, xs.all Happening.goesOn ∧
      (∀ step ∈ s.machine.course (s.turns xs), n < step.1.agenda.length) ∧
      (s.after xs).machine.agenda.length = n := by
  induction hagenda : s.machine.agenda using Task.wellFounded_descends.induction generalizing s with
  | _ agenda ih =>
    subst hagenda
    by_cases hleft : s.machine.agenda.length = n
    · exact ⟨[], rfl, List.forall_mem_nil _, hleft⟩
    · have hlong : n < s.machine.agenda.length := by omega
      obtain ⟨x, turn, hx, hturn, hless⟩ :=
        exists_goesOn (List.ne_nil_of_length_pos (Nat.zero_lt_of_lt hlong))
      have hlength := hless.length_le
      obtain ⟨xs, hxs, hcourse, hend⟩ := ih _ hless (s := s.next x) (by omega) rfl
      refine ⟨x :: xs, by rw [List.all_cons, hx, hxs]; rfl, ?_, hend⟩
      rw [turns, hturn, Option.toList_some, List.singleton_append, Machine.course,
        ← machine_next hturn]
      exact List.forall_mem_cons.mpr ⟨hlong, hcourse⟩

/-- However far a pass or an operation has come that is not broken off, it can be completed. -/
theorem exists_completion {rest : List Task} {xs : List Happening}
    (hl : s.machine.Lasts rest (s.turns xs)) :
    ∃ more : List Happening, more.all Happening.goesOn ∧
      s.machine.Completes rest (s.turns (xs ++ more)) := by
  have hleft := hl.left
  rw [← machine_after] at hleft
  obtain ⟨more, hmore, hcourse, hend⟩ := exists_left hleft
  refine ⟨more, hmore, ?_, ?_⟩
  · rw [turns_append, Machine.course_append, ← machine_after, List.forall_mem_append]
    exact ⟨hl.underway, hcourse⟩
  · rw [← machine_after, after_append]
    exact hend

end

structure BeginsPass (s : Site) (move : Move) (rest : List Task) : Prop where
  uncalled : s.called? = none
  begins : s.machine.BeginsPass move rest

section
variable {s : Site} {move : Move} {rest : List Task} {during : List Happening} {w : Endpoint}
  {p : LocalPreview}

private theorem BeginsPass.machine_eq (hb : s.BeginsPass move rest) :
    (s.next (.turn (.move move))).machine = (s.machine.step move).1 :=
  machine_next (turn?_of_uncalled hb.uncalled (.move move))

/-- A window of a local preview that is there before and after a pass was found open in its
course. -/
theorem BeginsPass.found_open (hb : s.BeginsPass move rest) (hs : Machine.Numbered s.machine)
    (hd : (s.next (.turn (.move move))).machine.Completes rest
      ((s.next (.turn (.move move))).turns during))
    (hw : w ∈ s.machine.hub.registry.windows) (hp : s.previews w.2 = some p)
    (hin : w.1 ∈ ((s.next (.turn (.move move))).after during).machine.hub.registry.list) :
    ∃ first later q, during = first ++ .answer :: later ∧
      ((s.next (.turn (.move move))).after first).machine.call? = some (.probe w.1 w.2) ∧
      ((s.next (.turn (.move move))).after first).previews w.2 = some q ∧ q.isClosed = false := by
  rw [machine_after, hb.machine_eq] at hin
  rw [hb.machine_eq] at hd
  obtain ⟨step, hstep, hcall, reply, hreply, hturn⟩ := (hb.begins.complete hs hd).2 w hw hin
  rw [← hb.machine_eq] at hstep
  obtain ⟨first, x, later, rfl, hm, hx⟩ := exists_of_mem_course hstep
  rw [← hm] at hcall
  rw [hturn] at hx
  obtain ⟨q, hq, -⟩ := fares_after hp (.turn (.move move) :: first)
  have hcalled : ((s.next (.turn (.move move))).after first).called?.isSome := by
    rw [called?_eq hcall rfl hq]
    rfl
  cases answer_of_turn? hx hcalled
  rw [turn?_answer hcall rfl hq, Option.some.injEq, Turn.move.injEq, Move.reply.injEq] at hx
  refine ⟨first, later, q, rfl, hcall, hq, Bool.eq_false_iff.mpr fun hclosed => hreply ?_⟩
  rw [← hx]
  exact q.probe_closed_iff.mpr hclosed

/-- A window whose preview is closed when a pass begins is not there when it is over. -/
theorem BeginsPass.closed_gone (hb : s.BeginsPass move rest) (hs : Machine.Numbered s.machine)
    (hd : (s.next (.turn (.move move))).machine.Completes rest
      ((s.next (.turn (.move move))).turns during))
    (hw : w ∈ s.machine.hub.registry.windows) (hp : s.previews w.2 = some p) (hc : p.isClosed) :
    w.1 ∉ ((s.next (.turn (.move move))).after during).machine.hub.registry.list := by
  intro hin
  obtain ⟨first, later, q, -, -, hq, hopen⟩ := hb.found_open hs hd hw hp hin
  obtain ⟨q', hq', hfares⟩ := fares_after hp (.turn (.move move) :: first)
  cases hq.symm.trans hq'
  rw [hfares.closed, hc, Bool.true_or] at hopen
  cases hopen

/-- When a pass is over, the closing of a window that is gone has been told. -/
theorem BeginsPass.closing_told (hb : s.BeginsPass move rest) (hs : Machine.Numbered s.machine)
    (hd : (s.next (.turn (.move move))).machine.Completes rest
      ((s.next (.turn (.move move))).turns during))
    (hw : w ∈ s.machine.hub.registry.windows) (hp : s.previews w.2 = some p)
    (howed : closures w.1 (owed s.machine.agenda) = [])
    (hout : w.1 ∉ ((s.next (.turn (.move move))).after during).machine.hub.registry.list) :
    ∃ ids, closures w.1 (told (s.shown (.turn (.move move) :: during))) = [.closed w.1 ids] := by
  have hagenda : ((s.next (.turn (.move move))).after during).machine.agenda =
      .stopIdleWatcher :: rest := by
    rw [hb.machine_eq] at hd
    rw [machine_after, hb.machine_eq]
    exact (hb.begins.complete hs hd).1
  obtain ⟨n, -, hid⟩ := hs.registry.issued w hw
  obtain ⟨id, handle⟩ := w
  cases hid
  have hlocal : (s.previews handle).isSome := by rw [hp]; rfl
  cases parting_after hs hw howed hlocal (.turn (.move move) :: during) with
  | present there unowed unheard =>
    have hnumbered := (numbered_after hs (.turn (.move move) :: during)).1
    exact absurd (hnumbered.registry.mem_list there) hout
  | closing absent agenda unowed unheard => cases hagenda.symm.trans agenda
  | telling absent agenda unowed unheard => cases hagenda.symm.trans agenda
  | told absent unowed heard => exact ⟨_, heard⟩

end

/-- Failed posts and probes agree for local previews, whatever those outside do with the hub and
with the previews. A post of the hub fails exactly if the preview is closed, and then its error is
told next; a probe says so exactly if it is. A preview is closed from the first closing on, accepts
what is posted before, and its receiver gets what it accepted, in this order. A window about which
an error was told is closed. One that is closed when a pass begins is gone when the pass is over,
and its closing has been told, once. One that is there before and after was open when it was asked,
and accepts every post from then on until it is closed or its receiver dropped. However far a pass
has come that is not broken off, it can be completed. -/
theorem failed_posts_agree_with_probes (options : Options) (own : Bool) (h : Hub)
    (hb : Hub.build options own = .ok h) (previews : Handle → Option LocalPreview)
    (before : List Happening) :
    let start : Site := ⟨⟨h, []⟩, previews⟩
    let s := start.after before
    (∀ id handle data origin p, s.machine.call? = some (.post id handle data origin) →
      s.previews handle = some p →
      ∃ reply, s.turn? .answer = some (.move (.reply reply)) ∧
        ((∃ error, reply = .failed error) ↔ p.isClosed) ∧
        ∀ error, reply = .failed error →
          (s.next .answer).machine.agenda.head? = some (.emit (.errored id error.message))) ∧
    (∀ id handle p, s.machine.call? = some (.probe id handle) → s.previews handle = some p →
      ∃ reply, s.turn? .answer = some (.move (.reply reply)) ∧ (reply = .closed ↔ p.isClosed)) ∧
    (∀ handle p later, s.previews handle = some p →
      ∃ q, (s.after later).previews handle = some q ∧ p.Fares (s.uses handle later) q) ∧
    (∀ w ∈ s.machine.hub.registry.windows, ∀ p message, s.previews w.2 = some p →
      .emitted (.errored w.1 message) ∈ start.shown before → p.isClosed) ∧
    ∀ move rest, s.BeginsPass move rest →
      let pass := Happening.turn (.move move)
      let began := s.next pass
      (∀ during, began.machine.Completes rest (began.turns during) →
        let last := began.after during
        ∀ w ∈ s.machine.hub.registry.windows, ∀ p, s.previews w.2 = some p →
          (p.isClosed ∨ (∃ message, .emitted (.errored w.1 message) ∈ start.shown before) →
            w.1 ∉ last.machine.hub.registry.list ∧
            closures w.1 (told (start.shown before)) = [] ∧
            ∃ ids, closures w.1 (told (s.shown (pass :: during))) = [.closed w.1 ids]) ∧
          (w.1 ∈ last.machine.hub.registry.list →
            ∃ first later q, during = first ++ .answer :: later ∧
              let asked := began.after first
              asked.machine.call? = some (.probe w.1 w.2) ∧ asked.previews w.2 = some q ∧
              q.isClosed = false ∧ ∀ xs, q.accepted (asked.uses w.2 xs) =
                ((asked.uses w.2 xs).takeWhile (!·.closes)).filterMap LocalAct.posted?)) ∧
      ∀ during, began.machine.Lasts rest (began.turns during) →
        ∃ more : List Happening, more.all Happening.goesOn ∧
          began.machine.Completes rest (began.turns (during ++ more)) := by
  intro start s
  have hs : Machine.Numbered s.machine :=
    (numbered_after (s := start) (Machine.numbered_new hb) before).1
  have hdead (w : Endpoint) (hw : w ∈ s.machine.hub.registry.windows) (p : LocalPreview)
      (message : String) (hp : s.previews w.2 = some p)
      (ho : .emitted (.errored w.1 message) ∈ start.shown before) : p.isClosed := by
    obtain ⟨n, -, hid⟩ := hs.registry.issued w hw
    exact (((faithful_after hb previews before).told _ ho _ rfl) n hid).2 w hw rfl p hp
  refine ⟨fun id handle data origin p hcall hp => ?_, fun id handle p hcall hp => ?_,
    fun handle p later hp => fares_after hp later, hdead, fun move rest hpass => ?_⟩
  · have hanswer := turn?_answer hcall rfl hp
    refine ⟨_, hanswer, p.post_failed_iff _, fun error hfailed => ?_⟩
    rw [machine_next hanswer, hfailed]
    exact s.machine.agenda_of_failed hcall rfl
  · exact ⟨_, turn?_answer hcall rfl hp, p.probe_closed_iff⟩
  · intro pass began
    refine ⟨?_, fun during hl => exists_completion hl⟩
    intro during hd last w hw p hp
    refine ⟨fun hclosed => ?_, fun hin => ?_⟩
    · have hclosed : p.isClosed := by
        rcases hclosed with hclosed | ⟨message, ho⟩
        · exact hclosed
        · exact hdead w hw p message hp ho
      have hout := hpass.closed_gone hs hd hw hp hclosed
      have hdeparted : Machine.Departed s.machine (start.shown before) :=
        departed_after hb previews before
      obtain ⟨htold, howed⟩ := hdeparted.closures_eq_nil hs.registry hw
      exact ⟨hout, htold, hpass.closing_told hs hd hw hp howed hout⟩
    · obtain ⟨first, later, q, hsplit, hcall, hq, hopen⟩ := hpass.found_open hs hd hw hp hin
      refine ⟨first, later, q, hsplit, hcall, hq, hopen, fun xs => ?_⟩
      rw [q.accepted_eq, hopen]
      rfl

/-- Two windows are registered, and the receiver of the first is dropped. A broadcast fails for it,
and the next pass of the hub's own polling takes it out. The subscriber who hears of that sends
another broadcast before the second window is asked. -/
theorem failed_posts_agree_with_probes_nested :
    let hub : Hub := Hub.new {} (.polling {})
    let moves (list : List Move) : List Happening := list.map fun move => .turn (.move move)
    let opening (handle : Handle) : List Happening :=
      moves [.call (.registerWindow handle true), .proceed, .proceed, .reply .done, .proceed,
        .proceed]
    let before : List (List Happening) :=
      [moves [.call (.start "https://a" true), .proceed, .proceed, .call (.subscribe 7), .proceed],
        opening ⟨"menu"⟩, opening ⟨"shop"⟩, [.act ⟨"menu"⟩ .dropReceiver],
        moves [.call (.broadcast {}), .proceed], [.answer],
        moves [.proceed, .proceed, .reply .done, .proceed], [.answer],
        moves [.proceed, .elapse 1000]]
    let during : List (List Happening) :=
      [moves [.proceed], [.answer], moves [.proceed, .proceed, .call (.broadcast {}), .proceed],
        [.answer], moves [.proceed, .reply .done, .proceed], [.answer]]
    let start : Site := ⟨⟨hub, []⟩, fun _ => some {}⟩
    let s := start.after before.flatten
    let pass := Happening.turn (.move .tick)
    let last := (s.next pass).after during.flatten
    s.machine.hub.registry.windows = [(.window 0, ⟨"menu"⟩), (.window 1, ⟨"shop"⟩)] ∧
      .emitted (.errored (.window 0) "Transport error: preview receiver dropped") ∈
        start.shown before.flatten ∧
      last.machine.hub.registry.windows = [(.window 1, ⟨"shop"⟩)] ∧
      (∃ ids, closures (.window 0) (told (s.shown (pass :: during.flatten))) =
        [.closed (.window 0) ids]) ∧
      ∃ first later q, during.flatten = first ++ .answer :: later ∧
        ((s.next pass).after first).previews ⟨"shop"⟩ = some q ∧ q.isClosed = false := by
  intro hub moves opening before during start s pass last
  have hwindows : s.machine.hub.registry.windows =
      [(.window 0, ⟨"menu"⟩), (.window 1, ⟨"shop"⟩)] := by decide +kernel
  have hlast : last.machine.hub.registry.windows = [(.window 1, ⟨"shop"⟩)] := by decide +kernel
  have herrored : .emitted (.errored (.window 0) "Transport error: preview receiver dropped") ∈
      start.shown before.flatten := by decide +kernel
  have hpass : s.BeginsPass .tick [] :=
    ⟨by decide +kernel, .due (by decide +kernel)
      (show s.machine.hub.watcher = .polling ⟨1000, .running ⟨(), 1000, false⟩⟩ by
        decide +kernel) rfl
      (by decide +kernel)⟩
  have hcompletes : (s.next pass).machine.Completes [] ((s.next pass).turns during.flatten) :=
    ⟨by decide +kernel, by decide +kernel⟩
  obtain ⟨menu, hmenu⟩ : ∃ p, s.previews ⟨"menu"⟩ = some p :=
    Option.isSome_iff_exists.mp (by decide +kernel)
  obtain ⟨shop, hshop⟩ : ∃ p, s.previews ⟨"shop"⟩ = some p :=
    Option.isSome_iff_exists.mp (by decide +kernel)
  clear_value before during
  obtain ⟨-, -, -, -, hpasses⟩ := failed_posts_agree_with_probes {} false hub rfl (fun _ => some {})
    before.flatten
  have hfates := (hpasses .tick [] hpass).1 during.flatten hcompletes
  have hlisted : .window 1 ∈ last.machine.hub.registry.list := by
    rw [Registry.mem_list_window, hlast]
    exact List.mem_cons_self
  rw [hwindows, List.forall_mem_cons, List.forall_mem_singleton] at hfates
  obtain ⟨-, -, hclosing⟩ := (hfates.1 menu hmenu).1 (Or.inr ⟨_, herrored⟩)
  obtain ⟨first, later, q, hsplit, -, hq, hopen, -⟩ := (hfates.2 shop hshop).2 hlisted
  exact ⟨hwindows, herrored, hlast, hclosing, first, later, q, hsplit, hq, hopen⟩

end Site

end PreviewHub
