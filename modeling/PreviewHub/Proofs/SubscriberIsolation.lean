import PreviewHub.Proofs.Turns

/-! Subscribers that panic. A hub catches what a subscriber throws, notes it in the log and goes on
as if the subscriber had returned. Here the others are not fixed beforehand: each of their turns may
depend on the whole machine and on all that was seen so far, so whatever a panic could bring about
would reach them and could be amplified by them. -/

namespace PreviewHub

abbrev History := List (List Output)

/-- The events on which subscribers panic, which may be others each time. -/
abbrev Panics := History → Subscription → Notice → Bool

/-- Those outside. The quiet subscribers never call back: they return or panic. All other turns,
those of the hub itself and of time included, are up to `act`. As the history tells how many turns
there were, every course of turns in which the quiet ones do not call back is some company's. -/
structure Company where
  quiet : Subscription → Bool
  act : Machine → History → Turn

namespace Company

def addressed? (c : Company) (m : Machine) : Option (Subscription × Notice) :=
  match m.call? with
  | some (.notify s notice) => if c.quiet s then some (s, notice) else none
  | _ => none

def turn (c : Company) (panics : Panics) (m : Machine) (history : History) : Turn :=
  match c.addressed? m with
  | some (s, notice) => .move (.reply (if panics history s notice then .panicked else .done))
  | none => c.act m history

def play (c : Company) (panics : Panics) (m : Machine) : Nat → Machine × History
  | 0 => (m, [])
  | n + 1 =>
    let (m, history) := c.play panics m n
    let (m, outputs) := m.turn (c.turn panics m history)
    (m, history ++ [seen outputs])

private theorem play_succ (c : Company) (panics : Panics) (m : Machine) (n : Nat) :
    c.play panics m (n + 1) =
      (((c.play panics m n).1.turn (c.turn panics (c.play panics m n).1 (c.play panics m n).2)).1,
        (c.play panics m n).2 ++
          [seen ((c.play panics m n).1.turn
            (c.turn panics (c.play panics m n).1 (c.play panics m n).2)).2]) := rfl

/-- Whoever is addressed is the one that the call under way is for. -/
private theorem agenda_of_addressed {c : Company} {m : Machine} {s : Subscription} {notice : Notice}
    (h : c.addressed? m = some (s, notice)) :
    ∃ rest, m.agenda = .waiting (.notify s notice) :: rest := by
  unfold addressed? at h
  split at h
  · rename_i other n hcall
    split at h
    · cases h
      unfold Machine.call? at hcall
      split at hcall
      · rename_i rest hagenda
        cases hcall
        exact ⟨rest, hagenda⟩
      · cases hcall
    · cases h
  · cases h

end Company

/-- However a subscriber returns, the call is over then, and nothing is seen of it but a line in the
log. -/
private theorem Machine.turn_notify {m : Machine} {s : Subscription} {notice : Notice}
    {rest : List Task}
    (hm : m.agenda = .waiting (.notify s notice) :: rest) (reply : Reply) :
    (m.turn (.move (.reply reply))).1 = ⟨m.hub, rest⟩ ∧
      seen (m.turn (.move (.reply reply))).2 = [] := by
  obtain ⟨rs, he⟩ := m.hub.resume_indifferent (.notify s notice) rfl reply
  have hstep : m.turn (.move (.reply reply)) = (⟨m.hub, rest⟩, Hub.remarks rs) := by
    rw [turn, (Works.reply _ reply rest hm).step_eq, he]
    rfl
  rw [hstep]
  exact ⟨rfl, seen_remarks rs⟩

namespace Company

/-- One turn, whoever has it, leads to the same machine and shows the same whether quiet subscribers
panic in it or not. -/
theorem turn_irrespective (c : Company) (panics others : Panics) (m : Machine)
    (history : History) :
    (m.turn (c.turn panics m history)).1 = (m.turn (c.turn others m history)).1 ∧
      seen (m.turn (c.turn panics m history)).2 = seen (m.turn (c.turn others m history)).2 := by
  unfold turn
  split
  · rename_i s notice ha
    obtain ⟨rest, hm⟩ := agenda_of_addressed ha
    obtain ⟨hfirst, hseen⟩ := Machine.turn_notify hm
      (if panics history s notice then .panicked else .done)
    obtain ⟨hfirst', hseen'⟩ := Machine.turn_notify hm
      (if others history s notice then .panicked else .done)
    exact ⟨hfirst.trans hfirst'.symm, hseen.trans hseen'.symm⟩
  · exact ⟨rfl, rfl⟩

/-- Whether and on what quiet subscribers panic makes no difference. After any number of turns of
any company, from any machine on, the hub is the same, with its registry, its pending requests, its
watcher and its subscriptions, and so is the work that is left; and the same was seen turn by turn:
the answers to all operations, the outcomes of all requests, and every call of a handle, a watcher
or a subscriber. -/
theorem play_irrespective_of_panics (c : Company) (panics others : Panics) (m : Machine) (n : Nat) :
    c.play panics m n = c.play others m n := by
  induction n with
  | zero => rfl
  | succ n ih =>
    rw [play_succ, play_succ, ih]
    obtain ⟨hmachine, hseen⟩ :=
      c.turn_irrespective panics others (c.play others m n).1 (c.play others m n).2
    rw [hmachine, hseen]

end Company

end PreviewHub
