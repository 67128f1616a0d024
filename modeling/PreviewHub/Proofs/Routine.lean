import PreviewHub.Proofs.PlainWork
import PreviewHub.Proofs.Trace

/-! Routine work is all that neither starts a hub nor takes an event in. It leaves alone whether the
hub is started and for whom, it announces nothing but what it was to announce, and only a started
hub leaves anything to be sent. -/

namespace PreviewHub

def Notice.isInbound : Notice → Bool
  | .message _ _ => true
  | .error _ => true
  | _ => false

def Notice.isAnnouncement : Notice → Bool
  | .stateChanged => true
  | notice => notice.isInbound

theorem Notice.isAnnouncement_of_isInbound {notice : Notice} (h : notice.isInbound) :
    notice.isAnnouncement := by
  cases notice with
  | message id payload => rfl
  | error e => rfl
  | _ => cases h

theorem filter_isInbound_announcements (notices : List Notice) :
    (notices.filter Notice.isAnnouncement).filter Notice.isInbound =
      notices.filter Notice.isInbound := by
  rw [List.filter_filter]
  refine List.filter_congr fun notice _ => ?_
  cases h : notice.isInbound with
  | true => rw [Notice.isAnnouncement_of_isInbound h, Bool.and_self]
  | false => rfl

def Output.emitted? : Output → Option Notice
  | .emitted notice => some notice
  | _ => none

def emissions (outputs : List Output) : List Notice := outputs.filterMap Output.emitted?

def Task.emits? : Task → Option Notice
  | .emit notice => some notice
  | _ => none

def upcoming (tasks : List Task) : List Notice := tasks.filterMap Task.emits?

def announced (outputs : List Output) : List Notice :=
  (emissions outputs).filter Notice.isAnnouncement

def announcing (tasks : List Task) : List Notice := (upcoming tasks).filter Notice.isAnnouncement

def Output.handled? : Output → Option Inbound
  | .handled event => some event
  | _ => none

def handledEvents (outputs : List Output) : List Inbound := outputs.filterMap Output.handled?

def Output.target? : Output → Option Origin
  | .called (.post _ _ _ origin) => some origin
  | _ => none

def targets (outputs : List Output) : List Origin := outputs.filterMap Output.target?

theorem announced_append (first second : List Output) :
    announced (first ++ second) = announced first ++ announced second := by
  simp only [announced, emissions, List.filterMap_append, List.filter_append]

theorem announcing_append (first second : List Task) :
    announcing (first ++ second) = announcing first ++ announcing second := by
  simp only [announcing, upcoming, List.filterMap_append, List.filter_append]

theorem announcing_tail {tasks : List Task} (h : announcing tasks = []) :
    announcing tasks.tail = [] := by
  have hsub := (List.tail_sublist tasks).filterMap Task.emits? |>.filter Notice.isAnnouncement
  exact List.eq_nil_of_sublist_nil (h ▸ hsub)

theorem handledEvents_append (first second : List Output) :
    handledEvents (first ++ second) = handledEvents first ++ handledEvents second :=
  List.filterMap_append

def Task.isSilent : Task → Bool
  | .emit notice => !notice.isAnnouncement
  | .post _ _ _ => false
  | .awaitReply _ _ _ _ => false
  | .waiting (.post _ _ _ _) => false
  | _ => true

def Output.isSilent : Output → Bool
  | .emitted notice => !notice.isAnnouncement
  | .called (.post _ _ _ _) => false
  | .handled _ => false
  | _ => true

private theorem announcing_silent {tasks : List Task} (h : tasks.all Task.isSilent) :
    announcing tasks = [] := by
  refine List.filter_eq_nil_iff.mpr fun notice hn => ?_
  obtain ⟨t, ht, he⟩ := List.mem_filterMap.mp hn
  have hs := List.all_eq_true.mp h t ht
  cases t with
  | emit told =>
    cases he
    simpa [Task.isSilent] using hs
  | _ => cases he

theorem announced_silent {outputs : List Output} (h : outputs.all Output.isSilent) :
    announced outputs = [] := by
  refine List.filter_eq_nil_iff.mpr fun notice hn => ?_
  obtain ⟨o, ho, he⟩ := List.mem_filterMap.mp hn
  have hs := List.all_eq_true.mp h o ho
  cases o with
  | emitted told =>
    cases he
    simpa [Output.isSilent] using hs
  | _ => cases he

theorem handledEvents_silent {outputs : List Output} (h : outputs.all Output.isSilent) :
    handledEvents outputs = [] := by
  refine List.filterMap_eq_nil_iff.mpr fun o ho => ?_
  have hs := List.all_eq_true.mp h o ho
  cases o with
  | handled event => cases hs
  | _ => rfl

theorem targets_silent {outputs : List Output} (h : outputs.all Output.isSilent) :
    targets outputs = [] := by
  refine List.filterMap_eq_nil_iff.mpr fun o ho => ?_
  have hs := List.all_eq_true.mp h o ho
  cases o with
  | called call =>
    cases call with
    | post id handle data origin => cases hs
    | _ => rfl
  | _ => rfl

structure Effect.Routine (h : Hub) (used : List Task) (e : Effect) : Prop where
  started : e.hub.started = h.started
  channel : e.hub.channel = h.channel
  listening : e.hub.listening = h.listening
  announced : announced e.outputs = announcing used
  announcing : announcing e.tasks = []
  unhandled : handledEvents e.outputs = []
  targets : ∀ origin ∈ targets e.outputs, h.channel.origin = some origin
  gated : h.started = false → used.all Task.isSilent →
    e.tasks.all Task.isSilent ∧ e.outputs.all Output.isSilent

namespace Hub

section
variable {h : Hub} {used : List Task} {e : Effect}

private theorem routine_silent (hs : e.hub.started = h.started) (hc : e.hub.channel = h.channel)
    (hl : e.hub.listening = h.listening) (ht : e.tasks.all Task.isSilent)
    (ho : e.outputs.all Output.isSilent) (hu : announcing used = []) : e.Routine h used where
  started := hs
  channel := hc
  listening := hl
  announced := by rw [announced_silent ho, hu]
  announcing := announcing_silent ht
  unhandled := handledEvents_silent ho
  targets := by
    rw [targets_silent ho]
    exact nofun
  gated _ _ := ⟨ht, ho⟩

private theorem routine_sending (hh : h.started) (hs : e.hub.started = h.started)
    (hc : e.hub.channel = h.channel) (hl : e.hub.listening = h.listening)
    (ht : announcing e.tasks = []) (ho : e.outputs.all Output.isSilent) : e.Routine h [] where
  started := hs
  channel := hc
  listening := hl
  announced := announced_silent ho
  announcing := ht
  unhandled := handledEvents_silent ho
  targets := by
    rw [targets_silent ho]
    exact nofun
  gated hn := by
    rw [hh] at hn
    cases hn

end

theorem remarks_silent (rs : List Remark) : (remarks rs).all Output.isSilent := by
  simp [remarks, Output.isSilent]

private theorem pollTasks_silent (h : Hub) : h.pollTasks.all Task.isSilent := by
  simp [pollTasks, Task.isSilent]

private theorem announcing_postTasks (h : Hub) (data : String) :
    announcing (h.postTasks data) = [] := by
  have hnone : upcoming (h.postTasks data) = [] :=
    List.filterMap_eq_nil_iff.mpr fun t ht => by
      obtain ⟨endpoint, -, rfl⟩ := List.mem_map.mp ht
      rfl
  rw [announcing, hnone]
  rfl

private theorem begin_routine (h : Hub) {op : Op} (hop : ∀ url runtime, op ≠ .start url runtime) :
    (h.begin op).Routine h [] := by
  cases op with
  | start url runtime => exact absurd rfl (hop url runtime)
  | registerWindow handle runtime =>
    simp only [begin, registerWindow]
    split <;> exact routine_silent rfl rfl rfl rfl rfl rfl
  | registerFrame handle =>
    simp only [begin, registerFrame]
    split
    · exact routine_silent rfl rfl rfl rfl rfl rfl
    · exact routine_silent rfl rfl rfl rfl (remarks_silent _) rfl
  | unregisterFrame handle =>
    simp only [begin, unregisterFrame]
    split <;> exact routine_silent rfl rfl rfl rfl rfl rfl
  | closeAll => exact routine_silent rfl rfl rfl rfl rfl rfl
  | poll =>
    exact routine_silent rfl rfl rfl (by simp [begin, pollTasks_silent, Task.isSilent]) rfl rfl
  | send id message =>
    simp only [begin, send]
    split
    · rename_i hs
      split <;> exact routine_sending hs rfl rfl rfl rfl rfl
    · exact routine_silent rfl rfl rfl rfl rfl rfl
  | broadcast message =>
    simp only [begin, broadcast]
    split
    · rename_i hs
      refine routine_sending hs rfl rfl rfl ?_ rfl
      rw [announcing_append, announcing_postTasks]
      rfl
    · exact routine_silent rfl rfl rfl rfl rfl rfl
  | request message timeout runtime =>
    simp only [begin, request]
    split
    · rename_i hs
      split
      · exact routine_silent rfl rfl rfl rfl rfl rfl
      · refine routine_sending hs rfl rfl rfl ?_ rfl
        rw [announcing_append, announcing_postTasks]
        rfl
    · exact routine_silent rfl rfl rfl rfl rfl rfl
  | abandon id =>
    simp only [begin, abandon]
    split
    · exact routine_silent rfl rfl rfl rfl (remarks_silent _) rfl
    · exact routine_silent rfl rfl rfl rfl rfl rfl
  | dispatch event =>
    simp only [begin, dispatch]
    split <;> exact routine_silent rfl rfl rfl rfl rfl rfl
  | subscribe listener => exact routine_silent rfl rfl rfl rfl rfl rfl
  | unsubscribe id => exact routine_silent rfl rfl rfl rfl (remarks_silent _) rfl

private theorem deliveries_silent (subscriptions : List Subscription) (notice : Notice) :
    (subscriptions.map fun s => Task.deliver s notice).all Task.isSilent := by
  simp [Task.isSilent]

private theorem perform_routine (h : Hub) (task : Task) : (h.perform task).Routine h [task] := by
  cases task with
  | emit notice =>
    have ht := deliveries_silent h.bus.subscriptions notice
    refine ⟨rfl, rfl, rfl, rfl, announcing_silent ht, rfl, ?_, fun _ hu => ⟨ht, ?_⟩⟩
    · intro target hm
      cases hm
    · simpa [perform, Task.isSilent, Output.isSilent] using hu
  | deliver subscription notice => exact routine_silent rfl rfl rfl rfl rfl rfl
  | post id handle data =>
    simp only [perform, Channel.target]
    cases ho : h.channel.origin with
    | none => exact routine_silent rfl rfl rfl rfl rfl rfl
    | some origin =>
      refine ⟨rfl, rfl, rfl, rfl, rfl, rfl, ?_, fun _ hu => by cases hu⟩
      intro target hm
      obtain rfl : target = origin := List.mem_singleton.mp hm
      exact ho
  | probe id handle => exact routine_silent rfl rfl rfl rfl rfl rfl
  | startWatcher runtime =>
    simp only [perform, startWatcher]
    split
    · exact routine_silent rfl rfl rfl rfl (remarks_silent _) rfl
    · exact routine_silent rfl rfl rfl rfl rfl rfl
  | stopWatcher =>
    simp only [perform, stopWatcher]
    split
    · exact routine_silent rfl rfl rfl rfl (remarks_silent _) rfl
    · exact routine_silent rfl rfl rfl rfl rfl rfl
  | closeConnections =>
    exact routine_silent rfl rfl rfl (by simp [perform, Task.isSilent]) rfl rfl
  | closeWindow id =>
    simp only [perform]
    split
    · exact routine_silent rfl rfl rfl rfl rfl rfl
    · rename_i hd
      obtain ⟨registry, -, -, rfl⟩ := detach_eq hd
      exact routine_silent rfl rfl rfl rfl rfl rfl
  | closeFrame =>
    simp only [perform]
    split
    · exact routine_silent rfl rfl rfl rfl rfl rfl
    · rename_i hd
      obtain ⟨registry, -, -, rfl⟩ := detach_eq hd
      exact routine_silent rfl rfl rfl rfl rfl rfl
  | rejectRequests => exact routine_silent rfl rfl rfl rfl (remarks_silent _) rfl
  | stopIdleWatcher =>
    simp only [perform]
    split <;> exact routine_silent rfl rfl rfl rfl rfl rfl
  | restartWatcher =>
    simp only [perform]
    split <;> exact routine_silent rfl rfl rfl rfl rfl rfl
  | awaitReply id timeout targets runtime =>
    simp only [perform, awaitReply]
    split
    · split
      · rename_i hc
        obtain ⟨pending, rfl⟩ := conclude_eq hc
        exact routine_silent rfl rfl rfl rfl (remarks_silent _) rfl
      · exact routine_silent rfl rfl rfl rfl rfl rfl
    · exact routine_silent rfl rfl rfl rfl (remarks_silent _) rfl
  | waiting call =>
    refine ⟨rfl, rfl, rfl, rfl, rfl, rfl, ?_, fun _ hu => ⟨hu, rfl⟩⟩
    intro target hm
    cases hm
  | answer answer => exact routine_silent rfl rfl rfl rfl rfl rfl

private theorem resume_routine (h : Hub) (call : Call) (reply : Reply) :
    (h.resume call reply).Routine h [.waiting call] := by
  unfold resume
  split
  · exact routine_silent rfl rfl rfl rfl rfl rfl
  · exact routine_silent rfl rfl rfl rfl rfl rfl
  · exact routine_silent rfl rfl rfl rfl rfl rfl
  · split
    · exact routine_silent rfl rfl rfl rfl rfl rfl
    · rename_i hd
      obtain ⟨registry, -, -, rfl⟩ := detach_eq hd
      exact routine_silent rfl rfl rfl rfl rfl rfl
  · exact routine_silent rfl rfl rfl rfl rfl rfl
  · exact routine_silent rfl rfl rfl rfl rfl rfl
  · exact routine_silent rfl rfl rfl rfl rfl rfl

private theorem tick_routine (h : Hub) : h.tick.Routine h [] := by
  unfold tick
  split
  · split
    · split
      · exact routine_silent rfl rfl rfl h.pollTasks_silent rfl rfl
      · exact routine_silent rfl rfl rfl rfl rfl rfl
    · exact routine_silent rfl rfl rfl rfl rfl rfl
  · exact routine_silent rfl rfl rfl rfl rfl rfl

private theorem wake_routine (h : Hub) (id : RequestId) : (h.wake id).Routine h [] := by
  unfold wake
  split
  · exact routine_silent rfl rfl rfl rfl rfl rfl
  · split
    · exact routine_silent rfl rfl rfl rfl rfl rfl
    · rename_i hc
      obtain ⟨pending, rfl⟩ := conclude_eq hc
      exact routine_silent rfl rfl rfl rfl (by simp [remarks, Output.isSilent]) rfl

private theorem elapse_routine (h : Hub) (ms : Nat) : (h.elapse ms).Routine h [] := by
  unfold elapse
  split <;> exact routine_silent rfl rfl rfl rfl rfl rfl

end Hub

/-- All work is routine, but to start the hub and to listen. -/
theorem Machine.Works.routine {m : Machine} {move : Move} {e : Effect} {used rest : List Task}
    (w : Machine.Works m move e used rest) (hs : ∀ url runtime, move ≠ .call (.start url runtime))
    (hl : move ≠ .listen) : e.Routine m.hub used := by
  cases w with
  | call op h => exact m.hub.begin_routine fun url runtime he => hs url runtime (congrArg _ he)
  | reply call reply rest h => exact m.hub.resume_routine call reply
  | proceed task rest h => exact m.hub.perform_routine task
  | listen h => exact absurd rfl hl
  | tick h => exact m.hub.tick_routine
  | wake id h => exact m.hub.wake_routine id
  | elapse ms h => exact m.hub.elapse_routine ms

end PreviewHub
