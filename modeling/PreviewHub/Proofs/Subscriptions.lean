import PreviewHub.Bus.Machine

/-! The list of subscriptions. They are numbered in the order in which they are made, and the list
holds those that were made and not ended since. An id is never given out again, so to end a
subscription, however late and however often, takes out this one or nothing. -/

namespace PreviewHub.Bus

structure Sound (b : Bus) : Prop where
  rising : b.subscriptions.Pairwise (·.id < ·.id)
  below : ∀ s ∈ b.subscriptions, s.id < b.nextId

theorem sound_new : Sound {} := ⟨.nil, List.forall_mem_nil _⟩

section
variable {b : Bus} {id : SubscriptionId}

theorem Sound.nodup (hb : b.Sound) : b.subscriptions.Nodup :=
  hb.rising.imp fun hlt he => Nat.ne_of_lt hlt (congrArg Subscription.id he)

theorem Sound.subscribe (hb : b.Sound) (listener : Listener) : (b.subscribe listener).2.Sound := by
  refine ⟨List.pairwise_append.mpr ⟨hb.rising, List.pairwise_singleton _ _, ?_⟩, ?_⟩
  · intro s hs other ho
    rw [List.mem_singleton.mp ho]
    exact hb.below s hs
  · intro s hs
    rcases List.mem_append.mp hs with hs | hs
    · exact Nat.lt_succ_of_lt (hb.below s hs)
    · rw [List.mem_singleton.mp hs]
      exact Nat.lt_succ_self _

theorem Sound.unsubscribe (hb : b.Sound) (id : SubscriptionId) : (b.unsubscribe id).Sound :=
  ⟨hb.rising.sublist List.filter_sublist, fun s hs => hb.below s (List.mem_filter.mp hs).1⟩

/-- A subscription is taken out of its place, and the others stay in theirs. -/
theorem Sound.unsubscribe_eq (hb : b.Sound) {before later : List Subscription} {s : Subscription}
    (h : b.subscriptions = before ++ s :: later) :
    (b.unsubscribe s.id).subscriptions = before ++ later := by
  have hrising := hb.rising
  rw [h, List.pairwise_append, List.pairwise_cons] at hrising
  obtain ⟨-, ⟨hlater, -⟩, hbefore⟩ := hrising
  have keep {others : List Subscription} (hne : ∀ other ∈ others, other.id ≠ s.id) :
      (others.filter fun other => other.id ≠ s.id) = others :=
    List.filter_eq_self.mpr fun other ho => decide_eq_true (hne other ho)
  rw [Bus.unsubscribe, h, List.filter_append, List.filter_cons_of_neg (by simp), keep, keep]
  · exact fun other ho => (Nat.ne_of_lt (hlater other ho)).symm
  · exact fun other ho => Nat.ne_of_lt (hbefore other ho s List.mem_cons_self)

/-- Without such a subscription there is nothing to take out and nothing to remark. -/
theorem unsubscribe_missing (h : id ∉ b.subscriptions.map (·.id)) :
    b.unsubscribe id = b ∧ b.unsubscribeRemarks id = [] := by
  have hne : ∀ s ∈ b.subscriptions, s.id ≠ id := fun s hs he => h (he ▸ List.mem_map_of_mem hs)
  constructor
  · obtain ⟨subscriptions, nextId⟩ := b
    simp only [Bus.unsubscribe, Bus.mk.injEq, and_true]
    exact List.filter_eq_self.mpr fun s hs => decide_eq_true (hne s hs)
  · refine if_neg fun hc => ?_
    obtain ⟨s, hs, he⟩ := List.any_eq_true.mp hc
    exact hne s hs (of_decide_eq_true he)

end

/-! What a sequence of calls makes of a bus. Of all moves only those that subscribe or unsubscribe
have to do with the list. -/

def Move.listener? : Move → Option Listener
  | .subscribe listener => some listener
  | _ => none

def listeners (calls : List Move) : List Listener := calls.filterMap Move.listener?

def take (b : Bus) : Move → Bus
  | .subscribe listener => (b.subscribe listener).2
  | .unsubscribe id => b.unsubscribe id
  | _ => b

/-- The subscriptions that were made and not ended later, in the order in which they were made, the
first of them under the number `next`. -/
def standing (next : SubscriptionId) : List Move → List Subscription
  | [] => []
  | .subscribe listener :: later =>
    (if .unsubscribe next ∈ later then [] else [⟨next, listener⟩]) ++ standing (next + 1) later
  | _ :: later => standing next later

private theorem le_of_mem_standing {next : SubscriptionId} {calls : List Move} {s : Subscription}
    (h : s ∈ standing next calls) : next ≤ s.id := by
  fun_induction standing next calls with
  | case1 => cases h
  | case2 next listener later ih =>
    rcases List.mem_append.mp h with h | h
    · split at h
      · cases h
      · exact Nat.le_of_eq (congrArg Subscription.id (List.mem_singleton.mp h)).symm
    · exact Nat.le_of_succ_le (ih h)
  | case3 _ _ _ _ ih => exact ih h

section
variable {b : Bus}

private theorem Sound.take (hb : b.Sound) (move : Move) : (b.take move).Sound := by
  cases move with
  | subscribe listener => exact hb.subscribe listener
  | unsubscribe id => exact hb.unsubscribe id
  | _ => exact hb

private theorem Sound.takeAll (hb : b.Sound) (calls : List Move) :
    (calls.foldl Bus.take b).Sound := by
  induction calls generalizing b with
  | nil => exact hb
  | cons move calls ih => exact ih (hb.take move)

/-- What is on the list was there before or was made since, and was not ended. -/
theorem subscriptions_takeAll (b : Bus) (calls : List Move) :
    (calls.foldl take b).subscriptions =
      (b.subscriptions.filter fun s => .unsubscribe s.id ∉ calls) ++ standing b.nextId calls := by
  induction calls generalizing b with
  | nil =>
    rw [standing, List.append_nil]
    exact (List.filter_eq_self.mpr fun s _ => decide_eq_true List.not_mem_nil).symm
  | cons move calls ih =>
    rw [List.foldl_cons, ih]
    cases move with
    | subscribe listener =>
      by_cases hm : Move.unsubscribe b.nextId ∈ calls <;>
        simp [take, subscribe, standing, List.filter_append, hm]
    | unsubscribe id =>
      simp only [take, unsubscribe, standing, List.filter_filter, List.mem_cons,
        Move.unsubscribe.injEq, not_or, Bool.decide_and, Bool.and_comm]
    | _ => simp [take, standing]

private theorem nextId_takeAll (b : Bus) (calls : List Move) :
    (calls.foldl take b).nextId = b.nextId + (listeners calls).length := by
  induction calls generalizing b with
  | nil => rfl
  | cons move calls ih =>
    rw [List.foldl_cons, ih]
    cases move with
    | subscribe listener => exact Nat.add_right_comm _ _ _
    | _ => rfl

/-- A subscription that was ended is on the list no more. -/
theorem ended_takeAll {calls early later : List Move} {id : SubscriptionId}
    (hcalls : calls = early ++ .unsubscribe id :: later)
    (hid : id < b.nextId + (listeners early).length) :
    id ∉ (calls.foldl Bus.take b).subscriptions.map (·.id) := by
  rw [hcalls, List.foldl_append, List.foldl_cons, subscriptions_takeAll]
  intro hm
  obtain ⟨s, hs, rfl⟩ := List.mem_map.mp hm
  rcases List.mem_append.mp hs with hs | hs
  · exact (mem_unsubscribe.mp (List.mem_filter.mp hs).1).2 rfl
  · have hle : (early.foldl Bus.take b).nextId ≤ s.id := le_of_mem_standing hs
    rw [nextId_takeAll] at hle
    exact Nat.lt_irrefl _ (Nat.lt_of_lt_of_le hid hle)

end

def Output.id? : Output → Option SubscriptionId
  | .subscribed id => some id
  | _ => none

namespace Machine

def accepted (m : Machine) : List Move → List Move
  | [] => []
  | move :: moves =>
    (if m.isOpen then [move] else []) ++ (m.step move).1.accepted moves

def handedOut (outputs : List Output) : List SubscriptionId := outputs.filterMap Output.id?

theorem run_cons (m : Machine) (move : Move) (moves : List Move) :
    m.run (move :: moves) = (((m.step move).1.run moves).1,
      (m.step move).2 ++ ((m.step move).1.run moves).2) := rfl

section
variable {m : Machine}

private theorem bus_step (m : Machine) (move : Move) :
    (m.step move).1.bus = if m.isOpen then m.bus.take move else m.bus := by
  cases move with
  | reply panicked =>
    have hbus : (m.reply panicked).1.bus = m.bus := by
      unfold reply
      split <;> rfl
    exact hbus.trans (ite_self _).symm
  | proceed =>
    have hbus : m.proceed.1.bus = m.bus := by
      unfold proceed
      split <;> rfl
    exact hbus.trans (ite_self _).symm
  | _ =>
    simp only [step]
    split <;> rfl

private theorem bus_run (m : Machine) (moves : List Move) :
    (m.run moves).1.bus = (m.accepted moves).foldl Bus.take m.bus := by
  induction moves generalizing m with
  | nil => rfl
  | cons move moves ih =>
    rw [accepted, List.foldl_append, run, ih, bus_step]
    split <;> rfl

theorem sound_run (hm : m.bus.Sound) (moves : List Move) : (m.run moves).1.bus.Sound :=
  (m.bus_run moves).symm ▸ hm.takeAll _

private theorem handedOut_append (first second : List Output) :
    handedOut (first ++ second) = handedOut first ++ handedOut second :=
  List.filterMap_append

/-- Whoever subscribes is given the next number, and nobody else is given one. -/
private theorem handedOut_step (m : Machine) (move : Move) :
    handedOut (m.step move).2 =
      List.range' m.bus.nextId (listeners (if m.isOpen then [move] else [])).length := by
  cases move with
  | subscribe listener =>
    simp only [step]
    split <;> rfl
  | unsubscribe id =>
    simp only [step]
    split
    · unfold unsubscribeRemarks
      split <;> rfl
    · rfl
  | reply panicked =>
    have hnone : handedOut (m.reply panicked).2 = [] := by
      unfold reply
      split
      · cases panicked <;> rfl
      · rfl
    refine hnone.trans ?_
    split <;> rfl
  | proceed =>
    have hnone : handedOut m.proceed.2 = [] := by
      unfold proceed
      split <;> rfl
    refine hnone.trans ?_
    split <;> rfl
  | _ =>
    simp only [step]
    split <;> rfl

private theorem handedOut_run (m : Machine) (moves : List Move) :
    handedOut (m.run moves).2 =
      List.range' m.bus.nextId (listeners (m.accepted moves)).length := by
  induction moves generalizing m with
  | nil => rfl
  | cons move moves ih =>
    have hnext : (m.step move).1.bus.nextId =
        m.bus.nextId + (listeners (if m.isOpen then [move] else [])).length := by
      rw [bus_step, ← nextId_takeAll]
      split <;> rfl
    rw [run, handedOut_append, handedOut_step, ih, hnext, List.range'_append_1, accepted, listeners,
      listeners, listeners, List.filterMap_append, List.length_append]

/-- A bus that is gone stays as it is, whatever is tried. -/
theorem run_gone (hm : m.agenda = []) (ho : m.owned = false) (moves : List Move) :
    m.run moves = (m, []) := by
  have hopen : m.isOpen = false := by rw [isOpen, hm, ho]
  induction moves with
  | nil => rfl
  | cons move moves ih =>
    have hstep : m.step move = (m, []) := by
      cases move with
      | reply panicked => simp only [step, reply, hm]
      | proceed => simp only [step, proceed, hm]
      | _ => simp only [step, hopen, Bool.false_eq_true, if_false]
    rw [run_cons, hstep, ih]
    rfl

/-- Whatever is done with a bus, from outside or by those it calls: the subscriptions are numbered
from zero on in the order in which they are made, and the list holds those that were made and not
ended since, in this order. To end one takes it out and leaves all others as they are, those of the
same listener too. To end one that is not on the list, and so to end one a second time, changes
nothing, and neither does anything once the bus is gone. -/
theorem subscriptions_made_and_kept (moves : List Move) :
    let m := (run {} moves).1
    let ids := handedOut (run {} moves).2
    let calls := accepted {} moves
    let list := m.bus.subscriptions
    (ids = List.range (listeners calls).length ∧
      ∀ id ∈ ids, subscriptionText id = "sub-" ++ toString id) ∧
    (list = standing 0 calls ∧ list.Pairwise (·.id < ·.id)) ∧
    (m.isOpen → ∀ listener, m.step (.subscribe listener) =
      ({ m with bus := ⟨list ++ [⟨ids.length, listener⟩], ids.length + 1⟩ },
        [.remark (.subscribed ids.length), .subscribed ids.length])) ∧
    (m.isOpen → ∀ before s later, list = before ++ s :: later →
      m.step (.unsubscribe s.id) =
        ({ m with bus := { m.bus with subscriptions := before ++ later } },
          [.remark (.unsubscribed s.id)])) ∧
    (∀ id, id ∉ list.map (·.id) → m.step (.unsubscribe id) = (m, [])) ∧
    (∀ early later id, calls = early ++ .unsubscribe id :: later → id < (listeners early).length →
      id ∉ list.map (·.id)) ∧
    (m.agenda = [] → m.owned = false → ∀ later, m.run later = (m, [])) := by
  intro m ids calls list
  have hbus : m.bus = calls.foldl Bus.take {} := bus_run {} moves
  have hsound : m.bus.Sound := sound_run sound_new moves
  have hids : ids = List.range (listeners calls).length := by
    rw [List.range_eq_range']
    exact handedOut_run {} moves
  have hnext : m.bus.nextId = ids.length := by
    rw [hbus, nextId_takeAll, hids, List.length_range]
    exact Nat.zero_add _
  refine ⟨⟨hids, fun _ _ => rfl⟩, ⟨?_, hsound.rising⟩, fun hopen listener => ?_,
    fun hopen before s later hlist => ?_, fun id hid => ?_, fun early later id hcalls hid => ?_,
    run_gone⟩
  · change m.bus.subscriptions = _
    rw [hbus, subscriptions_takeAll]
    rfl
  · rw [← hnext, step, if_pos hopen]
    rfl
  · have hs : s ∈ list := by
      rw [hlist]
      exact List.mem_append_right _ List.mem_cons_self
    have hin : m.bus.contains s.id := List.any_eq_true.mpr ⟨s, hs, decide_eq_true rfl⟩
    rw [step, if_pos hopen, ← hsound.unsubscribe_eq hlist, unsubscribeRemarks, if_pos hin]
    rfl
  · obtain ⟨hkeeps, hsilent⟩ := unsubscribe_missing hid
    rw [step, hkeeps, hsilent]
    exact ite_self _
  · change id ∉ m.bus.subscriptions.map (·.id)
    rw [hbus]
    exact ended_takeAll hcalls ((Nat.zero_add _).symm ▸ hid)

/-- One listener subscribes twice. On its first call it ends the first subscription, another one
subscribes, and it panics; on its second call it ends the first subscription once more. -/
theorem subscriptions_made_and_kept_nested :
    let moves : List Move := [.subscribe 7, .subscribe 7, .emit .stateChanged, .proceed,
      .unsubscribe 0, .subscribe 9, .reply true, .proceed, .unsubscribe 0, .reply false, .proceed]
    let m := (run {} moves).1
    let gone := (run {} (moves ++ [.letGo])).1
    m.bus.subscriptions = [⟨1, 7⟩, ⟨2, 9⟩] ∧
      m.step (.subscribe 7) = ({ m with bus := ⟨[⟨1, 7⟩, ⟨2, 9⟩, ⟨3, 7⟩], 4⟩ },
        [.remark (.subscribed 3), .subscribed 3]) ∧
      m.step (.unsubscribe 1) = ({ m with bus := ⟨[⟨2, 9⟩], 3⟩ }, [.remark (.unsubscribed 1)]) ∧
      m.step (.unsubscribe 0) = (m, []) ∧
      gone.run [.unsubscribe 1, .subscribe 7] = (gone, []) := by
  intro moves m gone
  obtain ⟨-, -, hsubscribe, hends, hmissing, hended, -⟩ := subscriptions_made_and_kept moves
  obtain ⟨-, -, -, -, -, -, hgone⟩ := subscriptions_made_and_kept (moves ++ [.letGo])
  have hopen : m.isOpen := by decide
  refine ⟨by decide, hsubscribe hopen 7, hends hopen [] ⟨1, 7⟩ [⟨2, 9⟩] (by decide), ?_,
    hgone (by decide) (by decide) _⟩
  exact hmissing 0 (hended [.subscribe 7, .subscribe 7, .emit .stateChanged]
    [.subscribe 9, .reply true, .unsubscribe 0, .reply false] 0 (by decide) (by decide))

end

end Machine

end PreviewHub.Bus
