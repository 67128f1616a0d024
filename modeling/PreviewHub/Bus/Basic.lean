import PreviewHub.Log

/-! Subscriptions. Each has a number of its own, and they stand in the order in which they were
made; one listener may have several. -/

namespace PreviewHub

abbrev Listener := Nat

structure Subscription where
  id : SubscriptionId
  listener : Listener
  deriving DecidableEq, Repr

structure Bus where
  subscriptions : List Subscription := []
  nextId : SubscriptionId := 0
  deriving DecidableEq, Repr, Inhabited

namespace Bus

def size (b : Bus) : Nat := b.subscriptions.length

def subscribe (b : Bus) (listener : Listener) : SubscriptionId × Bus :=
  (b.nextId,
    { subscriptions := b.subscriptions ++ [⟨b.nextId, listener⟩], nextId := b.nextId + 1 })

def unsubscribe (b : Bus) (id : SubscriptionId) : Bus :=
  { b with subscriptions := b.subscriptions.filter fun s => s.id ≠ id }

def contains (b : Bus) (id : SubscriptionId) : Bool := b.subscriptions.any fun s => s.id = id

def unsubscribeRemarks (b : Bus) (id : SubscriptionId) : List Remark :=
  if b.contains id then [.unsubscribed id] else []

@[simp]
theorem size_subscribe (b : Bus) (listener : Listener) :
    (b.subscribe listener).2.size = b.size + 1 := by
  simp [subscribe, size]

theorem mem_unsubscribe {b : Bus} {id : SubscriptionId} {s : Subscription} :
    s ∈ (b.unsubscribe id).subscriptions ↔ s ∈ b.subscriptions ∧ s.id ≠ id := by
  simp [unsubscribe]

end Bus

end PreviewHub
