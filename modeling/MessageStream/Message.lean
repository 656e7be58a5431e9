/-!
Messages: payload bytes and the two kinds of message a connection can carry.
-/
namespace MessageStream

abbrev Bytes := List UInt8

/-- The kind of an outbound message. Text is the default. -/
inductive MessageKind where
  | text
  | binary
  deriving DecidableEq, Repr, Inhabited

namespace MessageKind

def name : MessageKind → String
  | text => "text"
  | binary => "binary"

def label : MessageKind → String
  | text => "Text"
  | binary => "Binary"

/-- Every kind, in the order in which refusals list them. -/
def all : List MessageKind := [text, binary]

theorem mem_all (kind : MessageKind) : kind ∈ all := by
  cases kind <;> simp [all]

theorem name_injective {first second : MessageKind} (same : first.name = second.name) :
    first = second := by
  cases first <;> cases second <;> simp_all [name]

end MessageKind

structure Message where
  kind : MessageKind
  payload : Bytes
  deriving DecidableEq, Repr

end MessageStream
