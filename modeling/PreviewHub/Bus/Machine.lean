import PreviewHub.Bus.Basic

/-! A bus at work. An emission calls the subscribers that are there when it begins, one after the
other. While one is called it may subscribe, unsubscribe and emit; an emission that begins inside a
call is over before the call returns. The bus is there as long as its owner has it or an emission is
under way. A move that is not possible changes nothing. -/

namespace PreviewHub.Bus

inductive Task where
  | deliver (subscription : Subscription) (notice : Notice)
  /-- The subscriber is being called. -/
  | waiting (subscription : Subscription) (notice : Notice)
  /-- The emission is over. -/
  | finish
  deriving DecidableEq, Repr

inductive Output where
  | remark (remark : Remark)
  | subscribed (id : SubscriptionId)
  | called (subscription : Subscription) (notice : Notice)
  | finished
  deriving DecidableEq, Repr

inductive Move where
  | subscribe (listener : Listener)
  | unsubscribe (id : SubscriptionId)
  | emit (notice : Notice)
  /-- The owner of the bus lets go of it. -/
  | letGo
  /-- The subscriber that is being called returns, or panics. -/
  | reply (panicked : Bool)
  /-- The bus does its next task. -/
  | proceed
  deriving DecidableEq, Repr

/-- A bus and what it still has to do, first things first. -/
structure Machine where
  bus : Bus := {}
  agenda : List Task := []
  /-- Whether the owner still has the bus. -/
  owned : Bool := true
  deriving DecidableEq, Repr

namespace Machine

def isOpen (m : Machine) : Bool :=
  match m.agenda with
  | [] => m.owned
  | .waiting _ _ :: _ => true
  | _ => false

def proceed (m : Machine) : Machine × List Output :=
  match m.agenda with
  | .deliver s notice :: rest =>
    ({ m with agenda := .waiting s notice :: rest }, [.called s notice])
  | .finish :: rest => ({ m with agenda := rest }, [.finished])
  | _ => (m, [])

def reply (m : Machine) (panicked : Bool) : Machine × List Output :=
  match m.agenda with
  | .waiting s notice :: rest =>
    ({ m with agenda := rest },
      if panicked then [.remark (.subscriberPanicked s.id notice.kind)] else [])
  | _ => (m, [])

def step (m : Machine) : Move → Machine × List Output
  | .subscribe listener =>
    if m.isOpen then
      let (id, bus) := m.bus.subscribe listener
      ({ m with bus }, [.remark (.subscribed id), .subscribed id])
    else (m, [])
  | .unsubscribe id =>
    if m.isOpen then
      ({ m with bus := m.bus.unsubscribe id }, (m.bus.unsubscribeRemarks id).map .remark)
    else (m, [])
  | .emit notice =>
    if m.isOpen then
      ({ m with
          agenda :=
            m.bus.subscriptions.map (fun s => .deliver s notice) ++ .finish :: m.agenda }, [])
    else (m, [])
  | .letGo => if m.isOpen then ({ m with owned := false }, []) else (m, [])
  | .reply panicked => m.reply panicked
  | .proceed => m.proceed

def run (m : Machine) : List Move → Machine × List Output
  | [] => (m, [])
  | move :: moves =>
    let (m, outputs) := m.step move
    let (m, later) := m.run moves
    (m, outputs ++ later)

end Machine

end PreviewHub.Bus
