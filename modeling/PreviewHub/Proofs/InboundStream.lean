import PreviewHub.Proofs.Occasions
import PreviewHub.Proofs.Progress

/-! The stream of inbound events. The events that are accepted are taken one at a time and in their
order, each when all is done that came of the one before; what is told about them is what each gives
reason to when it is taken. -/

namespace PreviewHub

/-- A reply that is told settles its request first. -/
private theorem Hub.settledBy_of_tellings {h : Hub} {event : Inbound} {id : PreviewId}
    {payload : Json}
    {request : RequestId} (ht : h.tellings event = [.message id payload])
    (hr : payload.requestId? = some request) :
    h.settledBy event = (h.pending.resolve request payload).2 := by
  have hreply : h.replyTo? event = some (request, payload) := by
    unfold tellings at ht
    split at ht
    · rename_i ho
      split at ht
      · cases ht
      · rename_i payload' hj
        split at ht
        · cases ht
        · rename_i id' hs
          cases ht
          have hsource : ∃ source ∈ event.source, source ∈ h.connected := by
            by_contra hn
            rw [(source_eq_none_iff h event.source).mpr hn] at hs
            cases hs
          rw [replyTo?, if_pos ⟨ho, hsource⟩, decodePayload, hj]
          exact congrArg (Option.map _) hr
    · cases ht
  rw [settledBy, hreply]

namespace Machine

/-- An event is taken from the front of the queue while nothing is in progress, and only so. -/
theorem Coherent.handledEvents_step {m : Machine} (hc : Coherent m) (move : Move) :
    handledEvents (m.step move).2 =
      if move = .listen ∧ m.isIdle then m.hub.inbox.head?.toList else [] := by
  by_cases hl : move = .listen ∧ m.isIdle
  · obtain ⟨rfl, hidle⟩ := hl
    have w := Works.listen (isIdle_iff.mp hidle)
    rw [if_pos ⟨rfl, hidle⟩, w.step_eq]
    change handledEvents m.hub.listen.outputs = _
    rcases hc.gated.listen_eq with ⟨hi, he⟩ | ⟨event, inbox, rs, hi, hs, he⟩
    · rw [he, hi]
      rfl
    · rw [he, hi]
      exact congrArg (event :: ·) (handledEvents_silent (Hub.remarks_silent rs))
  · rw [if_neg hl]
    rcases m.step_cases move with hn | ⟨e, used, rest, w⟩
    · rw [hn]
      rfl
    · rw [w.step_eq]
      refine w.unhandled hc.gated ?_
      rintro rfl
      cases w with
      | listen h => exact hl ⟨rfl, isIdle_iff.mpr h⟩

private theorem Coherent.inbox_listen {m : Machine} (hc : Coherent m) (hidle : m.isIdle) :
    (m.step .listen).1.hub.inbox = m.hub.inbox.tail := by
  rw [(Works.listen (isIdle_iff.mp hidle)).step_eq]
  change m.hub.listen.hub.inbox = _
  rcases hc.gated.listen_eq with ⟨hi, he⟩ | ⟨event, inbox, rs, hi, hs, he⟩
  · rw [he, hi]
    rfl
  · rw [he, hi]
    rfl

private theorem isInbound_of_mem_yields {s : Machine × Move} {notice : Notice}
    (hm : notice ∈ yields s) :
    notice.isInbound := by
  unfold yields at hm
  split at hm
  · rename_i m
    split at hm
    · obtain ⟨event, -, ht⟩ := List.mem_flatMap.mp hm
      rcases m.hub.tellings_cases event with hn | ⟨told, hi, hn⟩
      · rw [hn] at ht
        cases ht
      · rw [hn] at ht
        rwa [List.mem_singleton.mp ht]
    · cases hm
  · cases hm

private theorem filter_isInbound_bulletin (s : Machine × Move) :
    (bulletin s).filter Notice.isInbound = yields s := by
  unfold bulletin
  split
  · rename_i hs
    obtain ⟨url, runtime, e, hmove, -⟩ := exists_starts_of_answer hs.2
    rw [show s = (s.1, .call (.start url runtime)) from Prod.ext rfl hmove]
    rfl
  · exact List.filter_eq_self.mpr fun notice hm => isInbound_of_mem_yields hm

/-- What the subscribers were told and are next to be told of what came in is what the events that
were taken gave reason to. -/
theorem Coherent.inbound_run {m : Machine} (hc : Coherent m) (ha : m.agenda = [])
    (moves : List Move) :
    (emissions (m.run moves).2).filter Notice.isInbound ++
      (upcoming (m.run moves).1.agenda).filter Notice.isInbound =
      (m.trace moves).flatMap yields := by
  have hlaw := congrArg (List.filter Notice.isInbound) (hc.announced_run moves)
  rw [ha, List.filter_append, announced, announcing, filter_isInbound_announcements,
    filter_isInbound_announcements] at hlaw
  rw [hlaw]
  change ((m.trace moves).flatMap bulletin).filter Notice.isInbound = _
  rw [List.filter_flatMap]
  simp only [filter_isInbound_bulletin]

/-- A message is told next, when the request that it replies to is settled. -/
theorem Coherent.listen_message {m : Machine} (hc : Coherent m) {id : PreviewId} {payload : Json}
    (hy : yields (m, .listen) = [.message id payload]) :
    (m.step .listen).1.agenda = [.emit (.message id payload)] ∧
      ∀ request, payload.requestId? = some request →
        (m.step .listen).1.hub.pending = (m.hub.pending.resolve request payload).2 := by
  by_cases hidle : m.agenda = []
  · rw [(Works.listen hidle).step_eq]
    rcases hc.gated.listen_eq with ⟨hi, he⟩ | ⟨event, inbox, rs, hi, hs, he⟩
    · rw [yields, if_pos (isIdle_iff.mpr hidle), hi] at hy
      cases hy
    · rw [yields_cons hidle hi] at hy
      rw [he, hy]
      exact ⟨rfl, fun request hr => Hub.settledBy_of_tellings hy hr⟩
  · rw [yields, if_neg (mt isIdle_iff.mp hidle)] at hy
    cases hy

private theorem accepted_of_no_call {m : Machine} {moves : List Move}
    (hc : ∀ op, .call op ∉ moves) :
    (m.trace moves).filterMap accepted? = [] := by
  refine List.filterMap_eq_nil_iff.mpr fun s hs => ?_
  obtain ⟨first, last, hmoves, -⟩ := exists_of_mem_trace hs
  unfold accepted?
  split
  · rename_i event
    have hm : .call (.dispatch event) ∈ moves := by
      rw [hmoves]
      exact List.mem_append_right _ List.mem_cons_self
    exact absurd hm (hc _)
  · rfl

/-- With no operation from outside, all events that are queued come to be taken. -/
theorem Coherent.exists_heard {m : Machine} (hc : Coherent m) {n : Nat}
    (hn : m.hub.inbox.length ≤ n) :
    ∃ more : List Move, (∀ op, .call op ∉ more) ∧ (m.run more).1.hub.inbox = [] := by
  induction n generalizing m with
  | zero => exact ⟨[], fun _ => List.not_mem_nil, List.eq_nil_of_length_eq_zero (Nat.le_zero.mp hn)⟩
  | succ n ih =>
    obtain ⟨rest, hrest, hidle⟩ := m.exists_idle
    have hcall : ∀ op, .call op ∉ rest := fun op hm => by
      cases List.all_eq_true.mp hrest _ hm
    have hcr := hc.run rest
    have hqueue := hc.handledEvents_run rest
    rw [accepted_of_no_call hcall, List.append_nil] at hqueue
    have hlen : (m.run rest).1.hub.inbox.length ≤ m.hub.inbox.length := by
      rw [← hqueue, List.length_append]
      exact Nat.le_add_left _ _
    have hshort : ((m.run rest).1.step .listen).1.hub.inbox.length ≤ n := by
      rw [hcr.inbox_listen hidle, List.length_tail]
      omega
    obtain ⟨more, hmore, hend⟩ := ih (hcr.step .listen) hshort
    refine ⟨rest ++ .listen :: more, fun op hm => ?_, ?_⟩
    · rcases List.mem_append.mp hm with hm | hm
      · exact hcall op hm
      · cases hm with
        | tail _ hm => exact hmore op hm
    · rw [run_append]
      exact hend

/-- The events that are dispatched to a started hub, and no others, are accepted; they are taken one
at a time, in this order and each once; what is told about them is what each gives reason to then,
after the request that it replies to is settled; and none is left behind. -/
theorem inbound_in_order (options : Options) (own : Bool) (h : Hub)
    (hb : Hub.build options own = .ok h) (moves : List Move) :
    let run := Machine.run ⟨h, []⟩ moves
    let m := run.1
    let steps := Machine.trace ⟨h, []⟩ moves
    (m.isOpen → ∀ event, (m.step (.call (.dispatch event))).1.agenda =
      .answer (.queued m.hub.started) :: m.agenda) ∧
    handledEvents run.2 ++ m.hub.inbox = steps.filterMap accepted? ∧
    (∀ move, handledEvents (m.step move).2 =
      if move = .listen ∧ m.isIdle then m.hub.inbox.head?.toList else []) ∧
    (emissions run.2).filter Notice.isInbound ++ (upcoming m.agenda).filter Notice.isInbound =
      steps.flatMap yields ∧
    (m.isOpen → (upcoming m.agenda).filter Notice.isInbound = []) ∧
    (∀ id payload, yields (m, .listen) = [.message id payload] →
      (m.step .listen).1.agenda = [.emit (.message id payload)] ∧
      ∀ request, payload.requestId? = some request → ∀ other,
        (m.step .listen).1.hub.pending.phase other =
          if other = request then (m.hub.pending.phase request).settle (.reply payload)
          else m.hub.pending.phase other) ∧
    ∃ more, (∀ op, .call op ∉ more) ∧
      handledEvents (Machine.run ⟨h, []⟩ (moves ++ more)).2 = steps.filterMap accepted? := by
  intro run m steps
  have hnew : Coherent ⟨h, []⟩ := coherent_new hb
  have hc : Coherent m := hnew.run moves
  have hempty : h.inbox = [] := by rw [(Hub.build_ok hb).1]; rfl
  have hqueue (moves : List Move) := hnew.handledEvents_run moves
  rw [show ({ hub := h, agenda := [] } : Machine).hub.inbox = [] from hempty] at hqueue
  refine ⟨fun hopen event => ?_, hqueue moves, hc.handledEvents_step, hnew.inbound_run rfl moves,
    fun hopen => ?_, fun id payload hy => ?_, ?_⟩
  · rw [(Works.call (.dispatch event) hopen).step_eq, m.hub.dispatch_eq event]
    rfl
  · rw [← filter_isInbound_announcements, ← announcing, hc.announcing_open hopen]
    rfl
  · obtain ⟨hagenda, hsettled⟩ := hc.listen_message hy
    refine ⟨hagenda, fun request hr other => ?_⟩
    rw [hsettled request hr]
    have hsound := (orderly_run (orderly_new hb) moves).sound
    exact (Pending.resolve_spec hsound request payload).2.2.2 other
  · obtain ⟨more, hmore, hend⟩ := hc.exists_heard (Nat.le_refl _)
    refine ⟨more, hmore, ?_⟩
    have hlast : (Machine.run ⟨h, []⟩ (moves ++ more)).1.hub.inbox = [] := by
      rw [run_append]
      exact hend
    have hall := hqueue (moves ++ more)
    rwa [hlast, trace_append, List.filterMap_append, accepted_of_no_call hmore, List.append_nil,
      List.append_nil] at hall

/-- While a callback is told of one event, two more are dispatched: one that cannot be read and one
from elsewhere. -/
theorem inbound_in_order_nested :
    let first : Inbound := ⟨"https://a", some ⟨"game"⟩, "\x7b\x7d"⟩
    let second : Inbound := ⟨"https://a", none, "["⟩
    let third : Inbound := ⟨"https://b", some ⟨"game"⟩, "\x7b\x7d"⟩
    let moves : List Move :=
      [.call (.start "https://a" true), .proceed, .proceed, .call (.registerFrame ⟨"game"⟩),
        .proceed, .proceed, .call (.subscribe 0), .proceed, .call (.dispatch first), .proceed,
        .listen, .proceed, .proceed, .call (.dispatch second), .proceed, .call (.dispatch third),
        .proceed, .listen]
    let run := Machine.run ⟨Hub.new {} (.external false), []⟩ moves
    handledEvents run.2 = [first] ∧
      (emissions run.2).filter Notice.isInbound = [.message .frame (.obj [])] ∧
      ∃ more, (∀ op, .call op ∉ more) ∧
        handledEvents (Machine.run ⟨Hub.new {} (.external false), []⟩ (moves ++ more)).2 =
          [first, second, third] := by
  intro first second third moves run
  have hopen : run.1.isOpen := by decide +kernel
  have hinbox : run.1.hub.inbox = [second, third] := by decide +kernel
  have haccepted : (Machine.trace ⟨Hub.new {} (.external false), []⟩ moves).filterMap accepted? =
      [first, second, third] := by
    decide +kernel
  have hyields : (Machine.trace ⟨Hub.new {} (.external false), []⟩ moves).flatMap yields =
      [.message .frame (.obj [])] := by
    decide +kernel
  have hrun : run = Machine.run ⟨Hub.new {} (.external false), []⟩ moves := rfl
  clear_value run moves first second third
  subst hrun
  obtain ⟨-, hqueue, -, htold, howed, -, hall⟩ :=
    inbound_in_order {} true (Hub.new {} (.external false)) rfl moves
  rw [haccepted] at hall
  rw [haccepted, hinbox] at hqueue
  rw [howed hopen, List.append_nil, hyields] at htold
  exact ⟨List.append_cancel_right hqueue, htold, hall⟩

end Machine

end PreviewHub
