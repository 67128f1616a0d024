import PreviewHub.Proofs.Accounting
import PreviewHub.Proofs.Inbound
import PreviewHub.Proofs.Subscriptions

/-! What a subscriber hears. An emission is cut into one delivery for each subscription, in the
order of the subscriptions, and nothing else addresses a subscriber. For each subscription the
notices that it has heard and those that are still to come form one line: work moves the present
along it, and news enter it at the present. -/

namespace PreviewHub

def Task.notice? : Task → Option Notice
  | .emit notice => some notice
  | .deliver _ notice => some notice
  | .waiting (.notify _ notice) => some notice
  | _ => none

def Task.isGeneral : Task → Bool
  | .deliver _ _ => false
  | .waiting (.notify _ _) => false
  | _ => true

def Output.isMute : Output → Bool
  | .emitted _ => false
  | .called (.notify _ _) => false
  | _ => true

inductive Bus.Change (b : Bus) : PreviewHub.Move → Bus → Prop where
  | nothing {move : PreviewHub.Move} : Change b move b
  | subscribe (listener : Listener) :
      Change b (.call (.subscribe listener)) (b.subscribe listener).2
  | unsubscribe (id : SubscriptionId) : Change b (.call (.unsubscribe id)) (b.unsubscribe id)

/-- How work on the tasks `used` speaks to subscribers: it cuts an emission, calls one of them, has
to do with such a call, or addresses nobody. -/
inductive Effect.Speaks (h : Hub) : Move → List Task → Effect → Prop where
  | emit (notice : Notice) :
      Speaks h .proceed [.emit notice]
        ⟨h, h.bus.subscriptions.map fun s => .deliver s notice, [.emitted notice]⟩
  | deliver (s : Subscription) (notice : Notice) :
      Speaks h .proceed [.deliver s notice]
        ⟨h, [.waiting (.notify s notice)], [.called (.notify s notice)]⟩
  | hold (s : Subscription) (notice : Notice) :
      Speaks h .proceed [.waiting (.notify s notice)] ⟨h, [.waiting (.notify s notice)], []⟩
  | back (s : Subscription) (notice : Notice) (reply : Reply) {outputs : List Output}
      (mute : outputs.all Output.isMute) :
      Speaks h (.reply reply) [.waiting (.notify s notice)] ⟨h, [], outputs⟩
  | aside {move : Move} {used : List Task} {e : Effect} (bus : h.bus.Change move e.hub.bus)
      (idle : ∀ t ∈ used, t.notice? = none) (tasks : e.tasks.all Task.isGeneral)
      (outputs : e.outputs.all Output.isMute) : Speaks h move used e

namespace Hub

private theorem remarks_mute (rs : List Remark) : (remarks rs).all Output.isMute := by
  simp [remarks, Output.isMute]

private theorem postTasks_general (h : Hub) (data : String) :
    (h.postTasks data).all Task.isGeneral := by
  simp [postTasks, Task.isGeneral]

private theorem pollTasks_general (h : Hub) : h.pollTasks.all Task.isGeneral := by
  simp [pollTasks, Task.isGeneral]

private theorem begin_speaks (h : Hub) (op : Op) : (h.begin op).Speaks h (.call op) [] := by
  have aside {op : Op} {e : Effect} (bus : h.bus.Change (.call op) e.hub.bus)
      (tasks : e.tasks.all Task.isGeneral) (outputs : e.outputs.all Output.isMute) :
      e.Speaks h (.call op) [] :=
    .aside bus (List.forall_mem_nil _) tasks outputs
  cases op with
  | start url runtime =>
    simp only [begin, start]
    split
    · exact aside .nothing rfl rfl
    · split
      · exact aside .nothing rfl rfl
      · split
        · exact aside .nothing rfl rfl
        · split <;> exact aside .nothing rfl rfl
  | registerWindow handle runtime =>
    simp only [begin, registerWindow]
    split <;> exact aside .nothing rfl rfl
  | registerFrame handle =>
    simp only [begin, registerFrame]
    split
    · exact aside .nothing rfl rfl
    · exact aside .nothing rfl (remarks_mute _)
  | unregisterFrame handle =>
    simp only [begin, unregisterFrame]
    split <;> exact aside .nothing rfl rfl
  | closeAll => exact aside .nothing rfl rfl
  | poll =>
    refine aside .nothing ?_ rfl
    rw [begin, List.all_append, h.pollTasks_general]
    rfl
  | send id message =>
    simp only [begin, send]
    split
    · split <;> exact aside .nothing rfl rfl
    · exact aside .nothing rfl rfl
  | broadcast message =>
    simp only [begin, broadcast]
    split
    · refine aside .nothing ?_ rfl
      rw [List.all_append, h.postTasks_general]
      rfl
    · exact aside .nothing rfl rfl
  | request message timeout runtime =>
    simp only [begin, request]
    split
    · split
      · exact aside .nothing rfl rfl
      · refine aside .nothing ?_ rfl
        rw [List.all_append, h.postTasks_general]
        rfl
    · exact aside .nothing rfl rfl
  | abandon id =>
    simp only [begin, abandon]
    split
    · exact aside .nothing rfl (remarks_mute _)
    · exact aside .nothing rfl rfl
  | dispatch event =>
    simp only [begin, dispatch]
    split <;> exact aside .nothing rfl rfl
  | subscribe listener => exact aside (.subscribe listener) rfl rfl
  | unsubscribe id => exact aside (.unsubscribe id) rfl (remarks_mute _)

private theorem perform_speaks (h : Hub) (task : Task) :
    (h.perform task).Speaks h .proceed [task] := by
  have aside {task : Task} {e : Effect} (ht : task.notice? = none) (bus : e.hub.bus = h.bus)
      (tasks : e.tasks.all Task.isGeneral) (outputs : e.outputs.all Output.isMute) :
      e.Speaks h .proceed [task] :=
    .aside (bus ▸ .nothing) (by simpa using ht) tasks outputs
  cases task with
  | emit notice => exact .emit notice
  | deliver s notice => exact .deliver s notice
  | post id handle data =>
    simp only [perform]
    split <;> exact aside rfl rfl rfl rfl
  | probe id handle => exact aside rfl rfl rfl rfl
  | startWatcher runtime =>
    simp only [perform, startWatcher]
    split
    · exact aside rfl rfl rfl (remarks_mute _)
    · exact aside rfl rfl rfl rfl
  | stopWatcher =>
    simp only [perform, stopWatcher]
    split
    · exact aside rfl rfl rfl (remarks_mute _)
    · exact aside rfl rfl rfl rfl
  | closeConnections => exact aside rfl rfl (by simp [perform, Task.isGeneral]) rfl
  | closeWindow id =>
    cases hd : h.detach id with
    | none =>
      simp only [perform, hd]
      exact aside rfl rfl rfl rfl
    | some x =>
      obtain ⟨registry, -, -, hh⟩ := detach_eq hd
      simp only [perform, hd, hh]
      exact aside rfl rfl rfl rfl
  | closeFrame =>
    cases hd : h.detach .frame with
    | none =>
      simp only [perform, hd]
      exact aside rfl rfl rfl rfl
    | some x =>
      obtain ⟨registry, -, -, hh⟩ := detach_eq hd
      simp only [perform, hd, hh]
      exact aside rfl rfl rfl rfl
  | rejectRequests => exact aside rfl rfl rfl (remarks_mute _)
  | stopIdleWatcher =>
    simp only [perform]
    split <;> exact aside rfl rfl rfl rfl
  | restartWatcher =>
    simp only [perform]
    split <;> exact aside rfl rfl rfl rfl
  | awaitReply id timeout targets runtime =>
    simp only [perform, awaitReply]
    split
    · split
      · rename_i hc
        obtain ⟨pending, rfl⟩ := conclude_eq hc
        exact aside rfl rfl rfl (remarks_mute _)
      · exact aside rfl rfl rfl rfl
    · exact aside rfl rfl rfl (remarks_mute _)
  | waiting call =>
    cases call with
    | notify s notice => exact .hold s notice
    | _ => exact aside rfl rfl rfl rfl
  | answer answer => exact aside rfl rfl rfl rfl

private theorem resume_speaks (h : Hub) (call : Call) (reply : Reply) :
    (h.resume call reply).Speaks h (.reply reply) [.waiting call] := by
  have aside {call : Call} {e : Effect} (ht : (Task.waiting call).notice? = none)
      (bus : e.hub.bus = h.bus) (tasks : e.tasks.all Task.isGeneral)
      (outputs : e.outputs.all Output.isMute) :
      e.Speaks h (.reply reply) [.waiting call] :=
    .aside (bus ▸ .nothing) (by simpa using ht) tasks outputs
  cases call with
  | notify s notice => cases reply <;> exact .back s notice _ rfl
  | probe id handle =>
    cases reply with
    | closed =>
      cases hd : h.detach id with
      | none =>
        simp only [resume, hd]
        exact aside rfl rfl rfl rfl
      | some x =>
        obtain ⟨registry, -, -, hh⟩ := detach_eq hd
        simp only [resume, hd, hh]
        exact aside rfl rfl rfl rfl
    | _ => exact aside rfl rfl rfl rfl
  | _ => cases reply <;> exact aside rfl rfl rfl rfl

private theorem listen_speaks (h : Hub) : h.listen.Speaks h .listen [] := by
  rcases h.listen_eq with ⟨-, he⟩ | ⟨event, inbox, rs, -, -, he⟩
  · rw [he]
    exact .aside .nothing (List.forall_mem_nil _) rfl rfl
  · rw [he]
    exact .aside .nothing (List.forall_mem_nil _) (by simp [Task.isGeneral]) (remarks_mute rs)

private theorem tick_speaks (h : Hub) : h.tick.Speaks h .tick [] := by
  unfold tick
  split
  · split
    · split
      · exact .aside .nothing (List.forall_mem_nil _) h.pollTasks_general rfl
      · exact .aside .nothing (List.forall_mem_nil _) rfl rfl
    · exact .aside .nothing (List.forall_mem_nil _) rfl rfl
  · exact .aside .nothing (List.forall_mem_nil _) rfl rfl

private theorem wake_speaks (h : Hub) (id : RequestId) : (h.wake id).Speaks h (.wake id) [] := by
  unfold wake
  split
  · exact .aside .nothing (List.forall_mem_nil _) rfl rfl
  · split
    · exact .aside .nothing (List.forall_mem_nil _) rfl rfl
    · rename_i hc
      obtain ⟨pending, rfl⟩ := conclude_eq hc
      refine .aside .nothing (List.forall_mem_nil _) rfl ?_
      rw [List.all_append, remarks_mute]
      rfl

private theorem elapse_speaks (h : Hub) (ms : Nat) : (h.elapse ms).Speaks h (.elapse ms) [] := by
  unfold elapse
  split <;> exact .aside .nothing (List.forall_mem_nil _) rfl rfl

end Hub

theorem Machine.Works.speaks {m : Machine} {move : Move} {e : Effect} {used rest : List Task}
    (w : Machine.Works m move e used rest) : e.Speaks m.hub move used := by
  cases w with
  | call op h => exact m.hub.begin_speaks op
  | reply call reply rest h => exact m.hub.resume_speaks call reply
  | proceed task rest h => exact m.hub.perform_speaks task
  | listen h => exact m.hub.listen_speaks
  | tick h => exact m.hub.tick_speaks
  | wake id h => exact m.hub.wake_speaks id
  | elapse ms h => exact m.hub.elapse_speaks ms

def Output.heard? (s : Subscription) : Output → Option Notice
  | .called (.notify other notice) => if other = s then some notice else none
  | _ => none

def Task.coming? (s : Subscription) : Task → Option Notice
  | .emit notice => some notice
  | .deliver other notice => if other = s then some notice else none
  | _ => none

def heard (s : Subscription) (outputs : List Output) : List Notice :=
  outputs.filterMap (Output.heard? s)

def coming (s : Subscription) (tasks : List Task) : List Notice := tasks.filterMap (Task.coming? s)

def Untold (p : Notice → Bool) (tasks : List Task) : Prop :=
  ∀ t ∈ tasks, ∀ notice, t.notice? = some notice → p notice = false

section
variable {s : Subscription} {p : Notice → Bool}

theorem heard_append (s : Subscription) (first second : List Output) :
    heard s (first ++ second) = heard s first ++ heard s second :=
  List.filterMap_append

theorem coming_append (s : Subscription) (first second : List Task) :
    coming s (first ++ second) = coming s first ++ coming s second :=
  List.filterMap_append

private theorem heard_mute {outputs : List Output} (h : outputs.all Output.isMute)
    (s : Subscription) :
    heard s outputs = [] := by
  refine List.filterMap_eq_nil_iff.mpr fun o ho => ?_
  have hm := List.all_eq_true.mp h o ho
  cases o with
  | called call =>
    cases call with
    | notify other notice => cases hm
    | _ => rfl
  | _ => rfl

private theorem told_mute {outputs : List Output} (h : outputs.all Output.isMute) :
    told outputs = [] := by
  refine List.filterMap_eq_nil_iff.mpr fun o ho => ?_
  have hm := List.all_eq_true.mp h o ho
  cases o with
  | emitted notice => cases hm
  | _ => rfl

private theorem Task.notice?_of_coming {t : Task} {notice : Notice}
    (h : t.coming? s = some notice) :
    t.notice? = some notice := by
  cases t with
  | emit other => exact h
  | deliver other n =>
    rw [coming?] at h
    split at h
    · exact h
    · cases h
  | _ => cases h

private theorem Task.notice?_of_owed {t : Task} {notice : Notice} (h : t.owed? = some notice) :
    t.notice? = some notice := by
  cases t with
  | emit other =>
    rw [owed?] at h
    split at h
    · exact h
    · cases h
  | _ => cases h

/-- What is still to be heard is passed on by some task. -/
theorem Untold.not_coming {tasks : List Task} (h : Untold p tasks) {notice : Notice}
    (hm : notice ∈ coming s tasks) : p notice = false := by
  obtain ⟨t, ht, hn⟩ := List.mem_filterMap.mp hm
  exact h t ht notice (Task.notice?_of_coming hn)

theorem untold_append {first second : List Task} :
    Untold p (first ++ second) ↔ Untold p first ∧ Untold p second :=
  List.forall_mem_append

theorem untold_cons {t : Task} {tasks : List Task} :
    Untold p (t :: tasks) ↔
      (∀ notice, t.notice? = some notice → p notice = false) ∧ Untold p tasks :=
  List.forall_mem_cons

theorem untold_cons_idle {t : Task} {tasks : List Task} (h : t.notice? = none) :
    Untold p (t :: tasks) ↔ Untold p tasks :=
  untold_cons.trans (and_iff_right fun _ hn => absurd (hn.symm.trans h) (Option.some_ne_none _))

theorem coming_idle {used : List Task} (h : ∀ t ∈ used, t.notice? = none) (s : Subscription) :
    coming s used = [] := by
  refine List.filterMap_eq_nil_iff.mpr fun t ht => Option.eq_none_iff_forall_ne_some.mpr ?_
  intro notice hn
  exact absurd (Task.notice?_of_coming hn) (by rw [h t ht]; exact (Option.some_ne_none _).symm)

theorem owed_idle {used : List Task} (h : ∀ t ∈ used, t.notice? = none) : owed used = [] := by
  refine List.filterMap_eq_nil_iff.mpr fun t ht => Option.eq_none_iff_forall_ne_some.mpr ?_
  intro notice hn
  exact absurd (Task.notice?_of_owed hn) (by rw [h t ht]; exact (Option.some_ne_none _).symm)

private theorem coming_deliver (s other : Subscription) (notice : Notice) (tasks : List Task) :
    coming s (.deliver other notice :: tasks) =
      if other = s then notice :: coming s tasks else coming s tasks := by
  by_cases h : other = s <;> simp [coming, Task.coming?, h]

/-- Whoever is not among the addressees gets no delivery. -/
theorem coming_deliveries_of_notMem {left : List Subscription} (hs : s ∉ left) (notice : Notice) :
    coming s (left.map fun s => .deliver s notice) = [] := by
  induction left with
  | nil => rfl
  | cons first left ih =>
    obtain ⟨hne, hs⟩ := not_or.mp (List.mem_cons.not.mp hs)
    rw [List.map_cons, coming_deliver, if_neg (Ne.symm hne), ih hs]

/-- Whoever is among them gets one. -/
theorem coming_deliveries {left : List Subscription} (hn : left.Nodup) (hs : s ∈ left)
    (notice : Notice) : coming s (left.map fun s => .deliver s notice) = [notice] := by
  induction left with
  | nil => cases hs
  | cons first left ih =>
    obtain ⟨hfirst, hn⟩ := List.nodup_cons.mp hn
    rw [List.map_cons, coming_deliver]
    rcases List.mem_cons.mp hs with rfl | hs
    · rw [if_pos rfl, coming_deliveries_of_notMem hfirst]
    · rw [if_neg fun he : first = s => hfirst (he ▸ hs), ih hn hs]

theorem Notice.isConnection_of_about {id : PreviewId} {notice : Notice} (h : notice.about id) :
    notice.isConnection := by
  cases notice with
  | opened target ids => rfl
  | closed target ids => rfl
  | _ => cases h

/-- Tasks that address nobody let a subscription hear what is owed to all. -/
private theorem filter_coming {tasks : List Task} (hg : tasks.all Task.isGeneral) (s : Subscription)
    (hp : ∀ notice, p notice → notice.isConnection) :
    (coming s tasks).filter p = (owed tasks).filter p := by
  induction tasks with
  | nil => rfl
  | cons t tasks ih =>
    obtain ⟨ht, hg⟩ := Bool.and_eq_true_iff.mp hg
    cases t with
    | emit notice =>
      have hcoming : coming s (.emit notice :: tasks) = notice :: coming s tasks := rfl
      rw [hcoming, owed, List.filterMap_cons, Task.owed?, List.filter_cons]
      by_cases ha : p notice
      · rw [if_pos ha, if_pos (hp notice ha), ih hg]
        exact (List.filter_cons_of_pos ha).symm
      · rw [if_neg ha, ih hg]
        by_cases hc : notice.isConnection
        · rw [if_pos hc]
          exact (List.filter_cons_of_neg ha).symm
        · rw [if_neg hc]
          rfl
    | deliver other notice => cases ht
    | waiting call =>
      cases call with
      | notify other notice => cases ht
      | _ => exact ih hg
    | _ => exact ih hg

end

namespace Bus

theorem Change.sound {b b' : Bus} {move : PreviewHub.Move} (h : b.Change move b') (hb : b.Sound) :
    b'.Sound := by
  cases h with
  | nothing => exact hb
  | subscribe listener => exact hb.subscribe listener
  | unsubscribe id => exact hb.unsubscribe id

/-- Whoever is not taken out stays. -/
theorem Change.subscribed {b b' : Bus} {move : PreviewHub.Move} (h : b.Change move b')
    {s : Subscription} (hs : s ∈ b.subscriptions) (hm : move ≠ .call (.unsubscribe s.id)) :
    s ∈ b'.subscriptions := by
  cases h with
  | nothing => exact hs
  | subscribe listener => exact List.mem_append_left _ hs
  | unsubscribe id =>
    exact mem_unsubscribe.mpr ⟨hs, fun he => hm (by rw [he])⟩

end Bus

namespace Machine

section
variable {m : Machine} {move : Move} {e : Effect} {used rest : List Task} {ns : List Notice}

theorem Works.bus_change (w : Works m move e used rest) : m.hub.bus.Change move e.hub.bus := by
  cases w.speaks with
  | aside bus _ _ _ => exact bus
  | _ => exact .nothing

/-- Where subscribers are spoken to there are no news. -/
theorem Works.idle_of_news (w : Works m move e used rest) (ht : e.Tells m.hub move used ns) :
    ns = [] ∨ (∀ t ∈ used, t.notice? = none) ∧ e.tasks.all Task.isGeneral ∧
      e.outputs.all Output.isMute := by
  have hbalance := ht.balance
  cases w.speaks with
  | emit notice =>
    rw [owed_plain (by simp [Task.isPlain]), List.append_nil] at hbalance
    exact Or.inl (List.self_eq_append_right.mp hbalance)
  | deliver s notice => exact Or.inl hbalance.symm
  | hold s notice => exact Or.inl hbalance.symm
  | back s notice reply mute =>
    rw [told_mute mute] at hbalance
    exact Or.inl hbalance.symm
  | aside bus idle tasks outputs => exact Or.inr ⟨idle, tasks, outputs⟩

/-- A subscription hears or is to hear what it was to hear, and then the news. -/
theorem Works.hears (w : Works m move e used rest) (ht : e.Tells m.hub move used ns)
    (hb : m.hub.bus.Sound) {s : Subscription} (hs : s ∈ m.hub.bus.subscriptions)
    {p : Notice → Bool} (hp : ∀ notice, p notice → notice.isConnection) :
    (heard s e.outputs ++ coming s e.tasks).filter p = (coming s used ++ ns).filter p := by
  have hnews (hspoken : ∃ t ∈ used, t.notice? ≠ none) : ns = [] :=
    (w.idle_of_news ht).resolve_right fun h => by
      obtain ⟨t, hm, hne⟩ := hspoken
      exact hne (h.1 t hm)
  cases w.speaks with
  | emit notice =>
    rw [hnews ⟨_, List.mem_cons_self, Option.some_ne_none _⟩, coming_deliveries hb.nodup hs]
    rfl
  | deliver other notice =>
    have hcalled : coming s [.waiting (.notify other notice)] = coming s [] := rfl
    rw [hnews ⟨_, List.mem_cons_self, Option.some_ne_none _⟩, coming_deliver, hcalled]
    by_cases h : other = s <;> simp [heard, Output.heard?, coming, h]
  | hold other notice =>
    rw [hnews ⟨_, List.mem_cons_self, Option.some_ne_none _⟩]
    rfl
  | back other notice reply mute =>
    rw [hnews ⟨_, List.mem_cons_self, Option.some_ne_none _⟩, heard_mute mute]
    rfl
  | aside bus idle tasks outputs =>
    have hbalance := ht.balance
    rw [told_mute outputs, owed_idle idle, List.nil_append, List.nil_append] at hbalance
    rw [heard_mute outputs, coming_idle idle, List.nil_append, List.nil_append,
      filter_coming tasks s hp, hbalance]

/-- What is passed on was passed on before, or is news. -/
theorem Works.untold (w : Works m move e used rest) (ht : e.Tells m.hub move used ns)
    {p : Notice → Bool} (hp : ∀ notice, p notice → notice.isConnection) (hu : Untold p used)
    (hn : ∀ notice ∈ ns, p notice = false) :
    Untold p e.tasks ∧ ∀ s, ∀ notice ∈ heard s e.outputs, p notice = false := by
  have same {t u : Task} (hu : Untold p [u]) (he : t.notice? = u.notice?) : Untold p [t] :=
    untold_cons.mpr ⟨fun notice h => (untold_cons.mp hu).1 notice (he ▸ h), List.forall_mem_nil _⟩
  cases w.speaks with
  | emit notice =>
    refine ⟨fun t hm => ?_, fun s notice h => by cases h⟩
    obtain ⟨s, -, rfl⟩ := List.mem_map.mp hm
    exact (untold_cons.mp hu).1
  | deliver other notice =>
    refine ⟨same hu rfl, fun s n h => ?_⟩
    obtain ⟨o, ho, hn⟩ := List.mem_filterMap.mp h
    rw [List.mem_singleton.mp ho, Output.heard?] at hn
    split at hn
    · exact (untold_cons.mp hu).1 n hn
    · cases hn
  | hold other notice => exact ⟨hu, fun s n h => by cases h⟩
  | back other notice reply mute =>
    exact ⟨List.forall_mem_nil _, fun s n h => by rw [heard_mute mute] at h; cases h⟩
  | aside bus idle tasks outputs =>
    refine ⟨fun t hm notice hnotice => ?_, fun s n h => by rw [heard_mute outputs] at h; cases h⟩
    have hbalance := ht.balance
    rw [told_mute outputs, owed_idle idle, List.nil_append, List.nil_append] at hbalance
    have hgeneral := List.all_eq_true.mp tasks t hm
    refine Bool.eq_false_iff.mpr fun hyes => ?_
    have howed : t.owed? = some notice := by
      cases t with
      | emit other =>
        cases hnotice
        exact if_pos (hp notice hyes)
      | deliver other n => cases hgeneral
      | waiting call =>
        cases call with
        | notify other n => cases hgeneral
        | _ => cases hnotice
      | _ => cases hnotice
    have hmem : notice ∈ ns := hbalance ▸ List.mem_filterMap.mpr ⟨t, hm, howed⟩
    rw [hn notice hmem] at hyes
    cases hyes

end

end Machine

end PreviewHub
