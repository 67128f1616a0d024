import PreviewHub.Proofs.LocalSites
import PreviewHub.Proofs.ReentrantTeardown
import PreviewHub.Proofs.RegistryLookup

/-! Posts that fail. An error of a preview is told only after a post to it failed, and a post is
made only with the handle that the preview was registered with. A local preview fails no post unless
it is closed, and then it stays so. So among the windows that are connected, those of local previews
about which an error was told are closed. -/

namespace PreviewHub

def Task.addressee? : Task → Option Endpoint
  | .post id handle _ => some (id, handle)
  | .waiting (.post id handle _ _) => some (id, handle)
  | _ => none

def Task.blames? : Task → Option PreviewId
  | .emit (.errored id _) => some id
  | _ => none

def Output.blames? : Output → Option PreviewId
  | .emitted (.errored id _) => some id
  | _ => none

def Task.isUnconcerned (t : Task) : Bool := t.addressee?.isNone && t.blames?.isNone

def Output.isUnconcerned (o : Output) : Bool := o.blames?.isNone

/-- Why the error of a preview is to be told: a post to it has failed, or there was no origin that
it could be meant for. -/
inductive Hub.Fails (h : Hub) (move : Move) (used : List Task) (id : PreviewId) : Prop where
  | homeless {handle : Handle} {data : String} {error : Error}
      (used : used = [.post id handle data]) (target : h.channel.target = .error error)
  | failed {handle : Handle} {data : String} {origin : Origin} {error : Error}
      (used : used = [.waiting (.post id handle data origin)])
      (move : move = .reply (.failed error))

/-- What a piece of work has to do with posts. What it leaves to be posted is for previews that are
connected, or it was to be posted before; errors come of posts that fail, and are told if they were
to be told. -/
structure Effect.Sends (h : Hub) (move : Move) (used : List Task) (e : Effect) : Prop where
  posts : ∀ t ∈ e.tasks, ∀ w, t.addressee? = some w →
    w ∈ e.hub.registry.endpoints ∨ ∃ u ∈ used, u.addressee? = some w
  errors : ∀ t ∈ e.tasks, ∀ id, t.blames? = some id → h.Fails move used id
  told : ∀ o ∈ e.outputs, ∀ id, o.blames? = some id → ∃ u ∈ used, u.blames? = some id

private theorem Output.blames?_eq_none {outputs : List Output}
    (h : outputs.all Output.isUnconcerned)
    {o : Output} (ho : o ∈ outputs) : o.blames? = none := by
  simpa [isUnconcerned] using List.all_eq_true.mp h o ho

private theorem Task.isUnconcerned_iff {t : Task} :
    t.isUnconcerned ↔ t.addressee? = none ∧ t.blames? = none := by
  simp [isUnconcerned]

namespace Hub

section
variable {h : Hub} {move : Move} {used : List Task} {e : Effect}

private theorem sends_of_unconcerned
    (hposts : ∀ t ∈ e.tasks, ∀ w, t.addressee? = some w →
      w ∈ e.hub.registry.endpoints ∨ ∃ u ∈ used, u.addressee? = some w)
    (herrors : ∀ t ∈ e.tasks, t.blames? = none) (ho : e.outputs.all Output.isUnconcerned) :
    e.Sends h move used where
  posts := hposts
  errors t ht id hid := by
    rw [herrors t ht] at hid
    cases hid
  told o hm id hid := by
    rw [Output.blames?_eq_none ho hm] at hid
    cases hid

/-- Work that has nothing to do with posts. -/
private theorem sends_nothing (ht : e.tasks.all Task.isUnconcerned)
    (ho : e.outputs.all Output.isUnconcerned) : e.Sends h move used := by
  have unconcerned (t : Task) (hm : t ∈ e.tasks) : t.addressee? = none ∧ t.blames? = none :=
    Task.isUnconcerned_iff.mp (List.all_eq_true.mp ht t hm)
  refine sends_of_unconcerned (fun t hm w hw => ?_) (fun t hm => (unconcerned t hm).2) ho
  rw [(unconcerned t hm).1] at hw
  cases hw

private theorem pollTasks_unconcerned (h : Hub) : h.pollTasks.all Task.isUnconcerned := by
  simp [pollTasks, Task.isUnconcerned, Task.addressee?, Task.blames?]

private theorem remarks_unconcerned (rs : List Remark) : (remarks rs).all Output.isUnconcerned := by
  simp [remarks, Output.isUnconcerned, Output.blames?]

/-- Posts to all previews that are connected, and a task that is not concerned with posts. -/
private theorem sends_posts {data : String} {last : Task}
    (ht : e.tasks = h.postTasks data ++ [last])
    (hl : last.isUnconcerned) (hr : e.hub.registry = h.registry)
    (ho : e.outputs.all Output.isUnconcerned) : e.Sends h move used := by
  obtain ⟨haddressee, hblames⟩ := Task.isUnconcerned_iff.mp hl
  refine sends_of_unconcerned (fun t hm w hw => ?_) (fun t hm => ?_) ho
  · rw [ht, postTasks, List.mem_append, List.mem_map, List.mem_singleton] at hm
    rcases hm with ⟨v, hv, rfl⟩ | rfl
    · cases hw
      exact Or.inl (by rwa [hr])
    · rw [haddressee] at hw
      cases hw
  · rw [ht, postTasks, List.mem_append, List.mem_map, List.mem_singleton] at hm
    rcases hm with ⟨v, -, rfl⟩ | rfl
    · rfl
    · exact hblames

end

private theorem begin_sends (h : Hub) (hr : h.registry.Sound) (op : Op) :
    (h.begin op).Sends h (.call op) [] := by
  cases op with
  | start url runtime =>
    simp only [begin, start]
    split
    · exact sends_nothing rfl rfl
    · split
      · exact sends_nothing rfl rfl
      · split
        · exact sends_nothing rfl rfl
        · split <;> exact sends_nothing rfl rfl
  | registerWindow handle runtime =>
    simp only [begin, registerWindow]
    split <;> exact sends_nothing rfl rfl
  | registerFrame handle =>
    simp only [begin, registerFrame]
    split
    · exact sends_nothing rfl rfl
    · exact sends_nothing rfl (remarks_unconcerned _)
  | unregisterFrame handle =>
    simp only [begin, unregisterFrame]
    split <;> exact sends_nothing rfl rfl
  | closeAll => exact sends_nothing rfl rfl
  | poll =>
    refine sends_nothing ?_ rfl
    rw [begin, List.all_append, h.pollTasks_unconcerned]
    rfl
  | send id message =>
    simp only [begin, send]
    split
    · split
      · rename_i handle hfound
        refine sends_of_unconcerned (fun t hm w hw => ?_) (by simp [Task.blames?]) rfl
        rcases List.mem_pair.mp hm with rfl | rfl
        · cases hw
          exact Or.inl (hr.handle?_eq_some_iff.mp hfound)
        · cases hw
      · exact sends_nothing rfl rfl
    · exact sends_nothing rfl rfl
  | broadcast message =>
    simp only [begin, broadcast]
    split
    · exact sends_posts rfl rfl rfl rfl
    · exact sends_nothing rfl rfl
  | request message timeout runtime =>
    simp only [begin, request]
    split
    · split
      · exact sends_nothing rfl rfl
      · exact sends_posts rfl rfl rfl rfl
    · exact sends_nothing rfl rfl
  | abandon id =>
    simp only [begin, abandon]
    split
    · exact sends_nothing rfl (remarks_unconcerned _)
    · exact sends_nothing rfl rfl
  | dispatch event =>
    simp only [begin, dispatch]
    split <;> exact sends_nothing rfl rfl
  | subscribe listener => exact sends_nothing rfl rfl
  | unsubscribe id => exact sends_nothing rfl (remarks_unconcerned _)

private theorem perform_sends (h : Hub) (task : Task) :
    (h.perform task).Sends h .proceed [task] := by
  cases task with
  | emit notice =>
    have hdeliveries : (h.perform (.emit notice)).tasks.all Task.isUnconcerned := by
      simp [perform, Task.isUnconcerned, Task.addressee?, Task.blames?]
    cases notice with
    | errored id message =>
      obtain ⟨hposts, herrors, -⟩ : Effect.Sends h .proceed [.emit (.errored id message)]
          ⟨h, (h.perform (.emit (.errored id message))).tasks, []⟩ := sends_nothing hdeliveries rfl
      refine ⟨hposts, herrors, List.forall_mem_singleton.mpr fun _ hid => ?_⟩
      exact ⟨_, List.mem_cons_self, hid⟩
    | _ => exact sends_nothing hdeliveries rfl
  | post id handle data =>
    simp only [perform]
    split
    · refine sends_of_unconcerned ?_ (List.forall_mem_singleton.mpr rfl) rfl
      exact List.forall_mem_singleton.mpr fun w hw => Or.inr ⟨_, List.mem_cons_self, hw⟩
    · rename_i hnone
      refine ⟨List.forall_mem_singleton.mpr (by rintro _ ⟨⟩), ?_, ?_⟩
      · refine List.forall_mem_singleton.mpr ?_
        rintro _ ⟨⟩
        exact .homeless rfl hnone
      · simp [postFailed, Output.blames?]
  | startWatcher runtime =>
    simp only [perform, startWatcher]
    split
    · exact sends_nothing rfl (remarks_unconcerned _)
    · exact sends_nothing rfl rfl
  | stopWatcher =>
    simp only [perform, stopWatcher]
    split
    · exact sends_nothing rfl (remarks_unconcerned _)
    · exact sends_nothing rfl rfl
  | closeConnections =>
    exact sends_nothing (by simp [perform, Task.isUnconcerned, Task.addressee?, Task.blames?]) rfl
  | closeWindow id =>
    simp only [perform]
    split <;> exact sends_nothing rfl rfl
  | closeFrame =>
    simp only [perform]
    split <;> exact sends_nothing rfl rfl
  | rejectRequests => exact sends_nothing rfl (remarks_unconcerned _)
  | stopIdleWatcher =>
    simp only [perform]
    split <;> exact sends_nothing rfl rfl
  | restartWatcher =>
    simp only [perform]
    split <;> exact sends_nothing rfl rfl
  | awaitReply id timeout targets runtime =>
    simp only [perform, awaitReply]
    split
    · split
      · exact sends_nothing rfl (remarks_unconcerned (.requestSent id targets :: _))
      · exact sends_nothing rfl rfl
    · exact sends_nothing rfl (remarks_unconcerned (.requestSent id targets :: _))
  | waiting call =>
    refine sends_of_unconcerned ?_ (List.forall_mem_singleton.mpr rfl) rfl
    exact List.forall_mem_singleton.mpr fun w hw => Or.inr ⟨_, List.mem_cons_self, hw⟩
  | _ => exact sends_nothing rfl rfl

private theorem resume_sends (h : Hub) (call : Call) (reply : Reply) :
    (h.resume call reply).Sends h (.reply reply) [.waiting call] := by
  cases call with
  | post id handle data origin =>
    cases reply with
    | failed error =>
      refine ⟨List.forall_mem_singleton.mpr (by rintro _ ⟨⟩), List.forall_mem_singleton.mpr ?_,
        by simp [resume, postFailed, Output.blames?]⟩
      rintro _ ⟨⟩
      exact .failed rfl rfl
    | _ => exact sends_nothing rfl rfl
  | probe id handle =>
    cases reply with
    | closed =>
      simp only [resume]
      split <;> exact sends_nothing rfl rfl
    | _ => exact sends_nothing rfl rfl
  | _ => cases reply <;> exact sends_nothing rfl rfl

private theorem listen_sends (h : Hub) : h.listen.Sends h .listen [] := by
  unfold listen handle
  split
  · split
    · split
      · split
        · exact sends_nothing rfl rfl
        · split
          · exact sends_nothing rfl rfl
          · split
            · exact sends_nothing rfl rfl
            · refine sends_nothing rfl ?_
              dsimp only
              split <;> rfl
      · exact sends_nothing rfl rfl
    · exact sends_nothing rfl rfl
  · exact sends_nothing rfl rfl

private theorem tick_sends (h : Hub) : h.tick.Sends h .tick [] := by
  unfold tick
  split
  · split
    · split
      · exact sends_nothing h.pollTasks_unconcerned rfl
      · exact sends_nothing rfl rfl
    · exact sends_nothing rfl rfl
  · exact sends_nothing rfl rfl

private theorem wake_sends (h : Hub) (id : RequestId) : (h.wake id).Sends h (.wake id) [] := by
  obtain ⟨pending, requests, outputs, hw, hn⟩ := h.wake_eq id
  rw [hw]
  refine sends_nothing rfl (List.all_eq_true.mpr fun o ho => ?_)
  cases o with
  | emitted notice => exact absurd ho (hn notice)
  | _ => rfl

private theorem unwind_unconcerned (h : Hub) (tasks : List Task) :
    (h.unwind tasks).outputs.all Output.isUnconcerned := by
  refine List.all_eq_true.mpr fun o ho => ?_
  rcases mem_unwind_outputs ho with ⟨remark, rfl⟩ | rfl <;> rfl

end Hub

namespace Machine

private theorem Works.sends {m : Machine} {move : Move} {e : Effect} {used rest : List Task}
    (w : Works m move e used rest) (hr : m.hub.registry.Sound) : e.Sends m.hub move used := by
  cases w with
  | call op h => exact m.hub.begin_sends hr op
  | reply call reply rest h => exact m.hub.resume_sends call reply
  | proceed task rest h => exact m.hub.perform_sends task
  | listen h => exact m.hub.listen_sends
  | tick h => exact m.hub.tick_sends
  | wake id h => exact m.hub.wake_sends id
  | elapse ms h =>
    unfold Hub.elapse
    split <;> exact Hub.sends_nothing rfl rfl

end Machine

namespace Registry

/-- The id was given out for the handle: if a window is connected under it, it is with this
handle. -/
def Bears (r : Registry) (w : Endpoint) : Prop :=
  ∀ n, w.1 = .window n → n < r.nextWindow ∧ ∀ v ∈ r.windows, v.1 = w.1 → v = w

section
variable {r r' : Registry} {w : Endpoint}

private theorem Sound.bears (hr : r.Sound) (hw : w ∈ r.endpoints) : r.Bears w := by
  intro n hn
  rcases mem_endpoints.mp hw with ⟨handle, -, rfl⟩ | hw
  · exact absurd hn.symm (PreviewId.window_ne_frame n)
  · obtain ⟨k, hk, hid⟩ := hr.issued w hw
    cases PreviewId.window_injective (hid.symm.trans hn)
    exact ⟨hk, fun v hv he => hr.handle_unique hv hw he⟩

/-- Ids are not given out again. -/
private theorem Bears.change {ns : List Notice} (hb : r.Bears w) (h : Change r r' ns) :
    r'.Bears w := by
  intro n hn
  obtain ⟨hissued, hunique⟩ := hb n hn
  refine ⟨Nat.lt_of_lt_of_le hissued h.nextWindow_le, fun v hv he => ?_⟩
  rcases h.known_or_next hv with hv | hnext
  · exact hunique v hv he
  · cases PreviewId.window_injective (hnext.symm.trans (he.trans hn))
    exact absurd hissued (Nat.lt_irrefl _)

end

end Registry

namespace Site

/-- If there is a window under the id and its preview is local, then the preview is closed. -/
def IsDead (s : Site) (id : PreviewId) : Prop :=
  ∀ n, id = .window n → n < s.machine.hub.registry.nextWindow ∧
    ∀ w ∈ s.machine.hub.registry.windows, w.1 = id → ∀ p, s.previews w.2 = some p → p.isClosed

private theorem change_next (s : Site) (x : Happening) :
    ∃ ns, s.machine.hub.registry.Change (s.next x).machine.hub.registry ns := by
  rcases s.next_cases x with ⟨-, hm, -⟩ | ⟨turn, -, hm, -⟩
  · exact ⟨[], by rw [hm]; exact .nothing⟩
  · rw [hm]
    exact s.machine.change_turn turn

/-- A preview that is there after a happening was there before, and is closed if it was. -/
private theorem exists_preview {s : Site} {x : Happening} {handle : Handle} {q : LocalPreview}
    (hq : (s.next x).previews handle = some q) :
    ∃ p, s.previews handle = some p ∧ (p.isClosed → q.isClosed) := by
  rw [previews_next, Option.map_eq_some_iff] at hq
  obtain ⟨p, hp, rfl⟩ := hq
  refine ⟨p, hp, fun hc => ?_⟩
  rw [p.isClosed_acts, hc, Bool.true_or]

private theorem IsDead.next {s : Site} {id : PreviewId} (h : s.IsDead id) (x : Happening) :
    (s.next x).IsDead id := by
  obtain ⟨ns, hchange⟩ := s.change_next x
  intro n hn
  obtain ⟨hissued, hclosed⟩ := h n hn
  refine ⟨Nat.lt_of_lt_of_le hissued hchange.nextWindow_le, fun w hw hid q hq => ?_⟩
  obtain ⟨p, hp, hpq⟩ := exists_preview hq
  rcases hchange.known_or_next hw with hw | hnext
  · exact hpq (hclosed w hw hid p hp)
  · cases PreviewId.window_injective (hnext.symm.trans (hid.trans hn))
    exact absurd hissued (Nat.lt_irrefl _)

/-- A post to a local preview fails only if the preview is closed. -/
private theorem isClosed_of_failed {s : Site} {x : Happening} {id : PreviewId} {handle : Handle}
    {data : String} {origin : Origin} {error : Error} {p : LocalPreview}
    (hcall : s.machine.call? = some (.post id handle data origin))
    (hx : s.turn? x = some (.move (.reply (.failed error)))) (hp : s.previews handle = some p) :
    p.isClosed := by
  have hcalled : s.called?.isSome := by rw [called?_eq hcall rfl hp]; rfl
  cases answer_of_turn? hx hcalled
  rw [turn?_answer hcall rfl hp, Option.some.injEq, Turn.move.injEq, Move.reply.injEq] at hx
  exact (p.post_failed_iff _).mp ⟨error, hx⟩

/-- Posts go to the handles that their ids were given out for, and errors are told of windows only
that are closed. -/
structure Faithful (s : Site) (shown : List Output) : Prop where
  posts : ∀ t ∈ s.machine.agenda, ∀ w, t.addressee? = some w → s.machine.hub.registry.Bears w
  errors : ∀ t ∈ s.machine.agenda, ∀ id, t.blames? = some id → s.IsDead id
  told : ∀ o ∈ shown, ∀ id, o.blames? = some id → s.IsDead id

section
variable {s : Site} {shown : List Output} {x : Happening}

private theorem Faithful.bears_next (hs : s.Faithful shown) {t : Task} (ht : t ∈ s.machine.agenda)
    {w : Endpoint} (hw : t.addressee? = some w) :
    (s.next x).machine.hub.registry.Bears w := by
  obtain ⟨ns, hchange⟩ := s.change_next x
  exact (hs.posts t ht w hw).change hchange

/-- Where a post fails, the window is connected, if at all, with the handle that was called, and the
preview is closed. -/
private theorem Faithful.isDead_of_failed (hs : s.Faithful shown) {id : PreviewId} {handle : Handle}
    {data : String} {origin : Origin} {error : Error} {rest : List Task}
    (hagenda : s.machine.agenda = .waiting (.post id handle data origin) :: rest)
    (hx : s.turn? x = some (.move (.reply (.failed error)))) : (s.next x).IsDead id := by
  have hcall : s.machine.call? = some (.post id handle data origin) := by
    simp only [Machine.call?, hagenda]
  have hmem : .waiting (.post id handle data origin) ∈ s.machine.agenda := by simp [hagenda]
  have hbears : (s.next x).machine.hub.registry.Bears (id, handle) := hs.bears_next hmem rfl
  intro n hn
  obtain ⟨hissued, hunique⟩ := hbears n hn
  refine ⟨hissued, fun v hv hid q hq => ?_⟩
  cases hunique v hv hid
  obtain ⟨p, hp, hpq⟩ := exists_preview hq
  exact hpq (isClosed_of_failed hcall hx hp)

/-- Where nothing new comes up, the tasks may be fewer. -/
private theorem Faithful.fewer (hs : s.Faithful shown)
    (hagenda : (s.next x).machine.agenda ⊆ s.machine.agenda)
    (hsees : (s.sees x).all Output.isUnconcerned) : (s.next x).Faithful (shown ++ s.sees x) where
  posts t ht w hw := hs.bears_next (hagenda ht) hw
  errors t ht id hid := (hs.errors t (hagenda ht) id hid).next x
  told o ho id hid := by
    rcases List.mem_append.mp ho with ho | ho
    · exact (hs.told o ho id hid).next x
    · rw [Output.blames?_eq_none hsees ho] at hid
      cases hid

private theorem Faithful.works (hs : s.Faithful shown) (hr : s.machine.hub.registry.Sound)
    (hg : Machine.Gated s.machine) (hl : s.machine.hub.Linked) {move : Move}
    (hx : s.turn? x = some (.move move)) {e : Effect} {used rest : List Task}
    (work : Machine.Works s.machine move e used rest)
    (hm : (s.next x).machine = ⟨e.hub, e.tasks ++ rest⟩) (hsees : s.sees x = e.outputs) :
    (s.next x).Faithful (shown ++ s.sees x) := by
  have hsends := work.sends hr
  have hold {t : Task} (ht : t ∈ used ++ rest) : t ∈ s.machine.agenda := by rwa [work.agenda_eq]
  have hsound : (s.next x).machine.hub.registry.Sound := by
    obtain ⟨ns, hc⟩ := s.change_next x
    exact hc.sound hr
  have hagenda : (s.next x).machine.agenda = e.tasks ++ rest := by rw [hm]
  refine ⟨?_, ?_, ?_⟩
  · rw [hagenda, List.forall_mem_append]
    refine ⟨fun t ht w hw => ?_, fun t ht w hw => ?_⟩
    · rcases hsends.posts t ht w hw with hin | ⟨u, hu, huw⟩
      · exact hsound.bears (by rwa [hm])
      · exact hs.bears_next (hold (List.mem_append_left _ hu)) huw
    · exact hs.bears_next (hold (List.mem_append_right _ ht)) hw
  · rw [hagenda, List.forall_mem_append]
    refine ⟨fun t ht id hid => ?_, fun t ht id hid =>
      (hs.errors t (hold (List.mem_append_right _ ht)) id hid).next x⟩
    cases hsends.errors t ht id hid with
    | homeless hused htarget =>
      have hpost := hold (List.mem_append_left _ (hused ▸ List.mem_cons_self))
      obtain ⟨origin, ho⟩ := Machine.exists_target_of_post hg hl hpost
      cases ho.symm.trans htarget
    | failed hused hmove =>
      subst hused hmove
      exact hs.isDead_of_failed work.agenda_eq hx
  · rw [List.forall_mem_append]
    refine ⟨fun o ho id hid => (hs.told o ho id hid).next x, fun o ho id hid => ?_⟩
    rw [hsees] at ho
    obtain ⟨u, hu, huid⟩ := hsends.told o ho id hid
    exact (hs.errors u (hold (List.mem_append_left _ hu)) id huid).next x

private theorem faithful_next (hs : s.Faithful shown) (hr : s.machine.hub.registry.Sound)
    (hg : Machine.Gated s.machine) (hl : s.machine.hub.Linked) (x : Happening) :
    (s.next x).Faithful (shown ++ s.sees x) := by
  rcases s.next_cases x with ⟨-, hm, hsees⟩ | ⟨turn, hx, hm, hsees⟩
  · exact hs.fewer (by rw [hm]; exact List.Subset.refl _) (by rw [hsees]; rfl)
  cases turn with
  | breakOff =>
    refine hs.fewer ?_ ?_
    · rw [hm]
      exact s.machine.breakOff_breaks.agenda
    · rw [hsees, Machine.turn, Machine.breakOff]
      split
      · exact s.machine.hub.unwind_unconcerned _
      · rfl
  | move move =>
    rw [Machine.turn] at hm hsees
    rcases s.machine.step_cases move with hn | ⟨e, used, rest, w⟩
    · rw [hn] at hm hsees
      exact hs.fewer (by rw [hm]; exact List.Subset.refl _) (by rw [hsees]; rfl)
    · rw [w.step_eq] at hm hsees
      exact hs.works hr hg hl hx w hm hsees

/-- In every run that begins with a new hub, the law is kept. -/
theorem faithful_after {options : Options} {own : Bool} {h : Hub}
    (hb : Hub.build options own = .ok h) (previews : Handle → Option LocalPreview)
    (xs : List Happening) :
    let start : Site := ⟨⟨h, []⟩, previews⟩
    (start.after xs).Faithful (start.shown xs) := by
  intro start
  induction xs using List.reverseRecOn with
  | nil => exact ⟨List.forall_mem_nil _, List.forall_mem_nil _, List.forall_mem_nil _⟩
  | append_singleton xs x ih =>
    rw [after_concat, shown_concat]
    have hnumbered := (Machine.numbered_after (Machine.numbered_new hb) (start.turns xs)).1
    obtain ⟨hsteady, hl⟩ := Machine.linked_after hb (start.turns xs)
    have hm : (start.after xs).machine = Machine.after ⟨h, []⟩ (start.turns xs) :=
      start.machine_after xs
    rw [← hm] at hnumbered hsteady hl
    exact faithful_next ih hnumbered.registry hsteady.gated hl x

end

end Site

end PreviewHub
