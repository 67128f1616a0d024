import PreviewHub.Log

/-! Requests that wait for a reply. A request is open until a reply, a rejection or its removal
takes it out; its ticket, which stays with the one who asks, holds the outcome until it is
collected. -/

namespace PreviewHub

inductive Outcome where
  | reply (payload : Json)
  | failed (error : Error)
  deriving DecidableEq, Repr

/-- The asking side of a request. -/
inductive Ticket where
  | blank
  | settled (outcome : Outcome)
  | spent
  deriving DecidableEq, Repr

inductive Glance where
  | waiting
  | over (outcome : Outcome)
  deriving DecidableEq, Repr

structure Pending where
  limit : Nat
  nextId : RequestId := 1
  waiting : List RequestId := []
  tickets : List (RequestId × Ticket) := []
  deriving DecidableEq, Repr

namespace Pending

def size (p : Pending) : Nat := p.waiting.length

def ticket? (p : Pending) (id : RequestId) : Option Ticket :=
  (p.tickets.find? fun entry => entry.1 = id).map (·.2)

def setTicket (p : Pending) (id : RequestId) (ticket : Ticket) : Pending :=
  { p with tickets := p.tickets.map fun entry => if entry.1 = id then (id, ticket) else entry }

def refusal (p : Pending) : Error :=
  .protocol ("Too many pending requests: " ++ toString p.size ++ "/" ++ toString p.limit)

/-- Opens a request under a fresh id, unless as many as allowed are open. -/
def register (p : Pending) : Except Error (RequestId × Pending) :=
  if p.limit ≤ p.size then .error p.refusal
  else
    .ok (p.nextId,
      { p with
        nextId := p.nextId + 1
        waiting := p.waiting ++ [p.nextId]
        tickets := p.tickets ++ [(p.nextId, .blank)] })

def registerRemark (p : Pending) : Remark :=
  if p.limit ≤ p.size then .requestRefused p.size p.limit else .requestRegistered p.nextId

def resolve (p : Pending) (id : RequestId) (reply : Json) : Bool × Pending :=
  if id ∈ p.waiting then
    (true, { p with waiting := p.waiting.erase id }.setTicket id (.settled (.reply reply)))
  else (false, p)

def remove (p : Pending) (id : RequestId) : Bool × Pending :=
  if id ∈ p.waiting then (true, { p with waiting := p.waiting.erase id }) else (false, p)

def rejectAll (p : Pending) (error : Error) : Nat × Pending :=
  (p.size,
    { p with
      waiting := []
      tickets := p.tickets.map fun entry =>
        if entry.1 ∈ p.waiting then (entry.1, .settled (.failed error)) else entry })

def rejectRemarks (count : Nat) : List Remark := if 0 < count then [.requestsRejected count] else []

def spentError (id : RequestId) : Error :=
  .protocol ("Reply for messageId " ++ toString id ++ " already consumed")

/-- Looks whether a request is over. The outcome of one that was taken out unsettled is that its
channel is closed; an outcome is given once. -/
def collect (p : Pending) (id : RequestId) : Glance × Pending :=
  match p.ticket? id with
  | some (.settled outcome) => (.over outcome, p.setTicket id .spent)
  | some .spent => (.over (.failed (spentError id)), p)
  | some .blank =>
    if id ∈ p.waiting then (.waiting, p)
    else (.over (.failed .channelClosed), p.setTicket id .spent)
  | none => (.over (.failed (spentError id)), p)

/-- Throws a ticket away; the request is no longer open then. -/
def discard (p : Pending) (id : RequestId) : Pending :=
  { p with
    waiting := p.waiting.erase id
    tickets := p.tickets.filter fun entry => entry.1 ≠ id }

def discardRemarks (p : Pending) (id : RequestId) : List Remark :=
  if id ∈ p.waiting then [.requestAbandoned id] else []

theorem register_eq_error_iff {p : Pending} {e : Error} :
    p.register = .error e ↔ p.limit ≤ p.size ∧ e = p.refusal := by
  by_cases h : p.limit ≤ p.size <;> simp [register, h, eq_comm]

end Pending

end PreviewHub
