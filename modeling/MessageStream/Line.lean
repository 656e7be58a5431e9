import MessageStream.Operation

/-!
Waiting lines: exclusive use of something, handed out in order of arrival.

The line holds everyone who has asked and not yet left, and whoever stands first has the use. So the
use passes to the next in line at the moment the first one leaves, and a newcomer never overtakes.
-/
namespace MessageStream

abbrev Line := List Ticket

namespace Line

/-- Asks for the use; asking again changes nothing. -/
def join (line : Line) (ticket : Ticket) : Line :=
  if ticket ∈ line then line else line ++ [ticket]

def leave (line : Line) (ticket : Ticket) : Line := line.erase ticket

def admits (line : Line) (ticket : Ticket) : Bool := line.head? == some ticket

theorem mem_join (line : Line) (ticket : Ticket) : ticket ∈ line.join ticket := by
  unfold join
  split
  · assumption
  · simp

theorem join_admitted (line : Line) (holder ticket : Ticket) (held : line.admits holder = true) :
    (line.join ticket).admits holder = true := by
  unfold join
  split
  · exact held
  · cases line with
    | nil => simp [admits] at held
    | cons first rest => simpa [admits] using held

theorem admits_unique (line : Line) (first second : Ticket) (one : line.admits first = true)
    (other : line.admits second = true) : first = second := by
  simp only [admits, beq_iff_eq] at one other
  exact Option.some.inj (one.symm.trans other)

end Line

end MessageStream
