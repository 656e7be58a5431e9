import MessageStream.Journal

/-!
Counters of messages and bytes in each direction, sixty-four bits wide. A counter appears with its
first change, even a change by nothing.
-/
namespace MessageStream

inductive Quantity where
  | bytes
  | messages
  deriving DecidableEq, Repr

def Quantity.name : Quantity → String
  | bytes => "framestream_bytes_total"
  | messages => "framestream_messages_total"

structure Counter where
  quantity : Quantity
  direction : Direction
  deriving DecidableEq, Repr

namespace Counter

def all : List Counter :=
  [⟨.bytes, .inbound⟩, ⟨.bytes, .outbound⟩, ⟨.messages, .inbound⟩, ⟨.messages, .outbound⟩]

def label (counter : Counter) : String := "direction=" ++ counter.direction.name

end Counter

/-- The counters that have appeared, with their values. -/
abbrev Counters := Counter → Option UInt64

namespace Counters

def zero : Counters := fun _ => none

def value (counters : Counters) (counter : Counter) : UInt64 := (counters counter).getD 0

def add (counters : Counters) (counter : Counter) (amount : Nat) : Counters :=
  fun other =>
    if other = counter then some (counters.value counter + UInt64.ofNat amount) else counters other

/-- What an event counts: the counter it changes, and by how much. -/
def change? : Event → Option (Counter × Nat)
  | .inboundMoved count => some (⟨.bytes, .inbound⟩, count)
  | .inboundExhausted _ => some (⟨.messages, .inbound⟩, 1)
  | .outboundMoved count => some (⟨.bytes, .outbound⟩, count)
  | .outboundFinalized _ => some (⟨.messages, .outbound⟩, 1)
  | _ => none

def observe (counters : Counters) (event : Event) : Counters :=
  match change? event with
  | some (counter, amount) => counters.add counter amount
  | none => counters

def ofJournal (journal : Journal) : Counters := journal.foldl observe zero

def snapshot (counters : Counters) : List (Counter × UInt64) :=
  Counter.all.filterMap fun counter => (counters counter).map (counter, ·)

@[simp] theorem add_same (counters : Counters) (counter : Counter) (amount : Nat) :
    (counters.add counter amount).value counter = counters.value counter + UInt64.ofNat amount := by
  simp [add, value]

@[simp] theorem add_other (counters : Counters) (counter other : Counter) (amount : Nat)
    (different : other ≠ counter) :
    (counters.add counter amount).value other = counters.value other := by
  simp [add, value, different]

theorem ofJournal_append (before after : Journal) :
    ofJournal (before ++ after) = after.foldl observe (ofJournal before) :=
  List.foldl_append

end Counters

end MessageStream
