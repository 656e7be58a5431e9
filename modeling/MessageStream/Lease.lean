import MessageStream.Operation

/-!
Shared ownership of a connection. It belongs to its owner and to the calls that are using it at the
moment, and ends when the last of them lets go.
-/
namespace MessageStream

structure Lease where
  owned : Bool
  borrowers : List Ticket := []
  deriving Repr, Inhabited

namespace Lease

def live (lease : Lease) : Bool := lease.owned || !lease.borrowers.isEmpty

def borrow (lease : Lease) (ticket : Ticket) : Lease :=
  { lease with borrowers := ticket :: lease.borrowers }

def giveBack (lease : Lease) (ticket : Ticket) : Lease :=
  { lease with borrowers := lease.borrowers.erase ticket }

def surrender (lease : Lease) : Lease := { lease with owned := false }

theorem giveBack_borrow (lease : Lease) (ticket : Ticket) :
    (lease.borrow ticket).giveBack ticket = lease := by
  simp [borrow, giveBack]

end Lease

end MessageStream
