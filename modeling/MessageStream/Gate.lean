import MessageStream.Operation

/-!
Gates: places where operations wait to be let through, one for each notification.

A gate keeps at most one permit. A notification goes to the oldest operation waiting there and is
kept as the permit where nobody waits. An operation that has been let through but has not been
polled since still holds its notification, and passes it on when it is cancelled.
-/
namespace MessageStream

structure Gate where
  permit : Bool := false
  waiting : List Ticket := []
  released : List Ticket := []
  deriving Repr, Inhabited

namespace Gate

/-- Lets the oldest waiter through, or keeps the permit for the next one to come. -/
def notify (gate : Gate) : Gate :=
  match gate.waiting with
  | [] => { gate with permit := true }
  | ticket :: rest => { gate with waiting := rest, released := gate.released ++ [ticket] }

def pass (gate : Gate) (ticket : Ticket) : Gate × Bool :=
  if ticket ∈ gate.released then ({ gate with released := gate.released.erase ticket }, true)
  else if ticket ∈ gate.waiting then (gate, false)
  else if gate.permit then ({ gate with permit := false }, true)
  else ({ gate with waiting := gate.waiting ++ [ticket] }, false)

/-- Stops waiting. A notification already received goes to the next in turn. -/
def leave (gate : Gate) (ticket : Ticket) : Gate :=
  if ticket ∈ gate.released then { gate with released := gate.released.erase ticket }.notify
  else { gate with waiting := gate.waiting.erase ticket }

theorem pass_refused (gate : Gate) (ticket : Ticket) (refused : (gate.pass ticket).2 = false) :
    ticket ∈ (gate.pass ticket).1.waiting := by
  unfold pass at refused ⊢
  split at refused
  · simp at refused
  · split at refused
    · rename_i absent present
      simp [absent, present]
    · split at refused
      · simp at refused
      · rename_i absent missing closed
        simp [absent, missing, closed]

end Gate

abbrev Gates := Nat → Gate

namespace Gates

def set (gates : Gates) (number : Nat) (gate : Gate) : Gates :=
  fun other => if other = number then gate else gates other

def notify (gates : Gates) (number : Nat) : Gates := gates.set number (gates number).notify

def pass (gates : Gates) (number : Nat) (ticket : Ticket) : Gates × Bool :=
  (gates.set number ((gates number).pass ticket).1, ((gates number).pass ticket).2)

def leave (gates : Gates) (number : Nat) (ticket : Ticket) : Gates :=
  gates.set number ((gates number).leave ticket)

@[simp] theorem set_same (gates : Gates) (number : Nat) (gate : Gate) :
    gates.set number gate number = gate := by
  simp [set]

@[simp] theorem set_other (gates : Gates) (number other : Nat) (gate : Gate)
    (different : other ≠ number) : gates.set number gate other = gates other := by
  simp [set, different]

end Gates

end MessageStream
