import MessageStream.Journal

/-!
A queue of log lines, held by one reader at a time. Searching it empties it.
-/
namespace MessageStream

structure RecordQueue where
  records : List Record := []
  deriving Repr

namespace RecordQueue

def push (queue : RecordQueue) (record : Record) : RecordQueue := ⟨queue.records ++ [record]⟩

def pushAll (queue : RecordQueue) (records : List Record) : RecordQueue :=
  ⟨queue.records ++ records⟩

def size (queue : RecordQueue) : Nat := queue.records.length

def pop (queue : RecordQueue) : RecordQueue × Option Record :=
  (⟨queue.records.tail⟩, queue.records.head?)

def occurs (needle : List Char) : List Char → Bool
  | [] => needle.isEmpty
  | c :: rest => needle.isPrefixOf (c :: rest) || occurs needle rest

/-- Takes every line, and tells whether one of their texts contains the needle. -/
def contains (queue : RecordQueue) (needle : String) : RecordQueue × Bool :=
  (⟨[]⟩, queue.records.any fun record => occurs needle.toList record.text.toList)

def renew (_ : RecordQueue) : RecordQueue := ⟨[]⟩

theorem occurs_iff (needle text : List Char) :
    occurs needle text = true ↔ needle.IsInfix text := by
  induction text with
  | nil => simp [occurs]
  | cons c rest ih =>
    simp only [occurs, Bool.or_eq_true, List.isPrefixOf_iff_prefix, ih, List.infix_cons_iff]

end RecordQueue

end MessageStream
