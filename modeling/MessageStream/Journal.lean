import MessageStream.Message

/-!
The journal of a stream: what it did, in order. Log lines and counters are both derived from it.
-/
namespace MessageStream

inductive Direction where
  | inbound
  | outbound
  deriving DecidableEq, Repr, Inhabited

def Direction.name : Direction → String
  | inbound => "inbound"
  | outbound => "outbound"

inductive Level where
  | error
  | warn
  | info
  | debug
  | trace
  deriving DecidableEq, Repr, Inhabited

namespace Level

def all : List Level := [error, warn, info, debug, trace]

def name : Level → String
  | error => "ERROR"
  | warn => "WARN"
  | info => "INFO"
  | debug => "DEBUG"
  | trace => "TRACE"

def ofName? (text : String) : Option Level := all.find? (fun level => level.name == text)

theorem ofName?_name (level : Level) : ofName? level.name = some level := by
  cases level <;> rfl

end Level

structure Record where
  level : Level
  text : String
  deriving DecidableEq, Repr

def Record.line (record : Record) : String := record.level.name ++ " " ++ record.text

inductive Event where
  | inboundOpened
  | inboundMoved (count : Nat)
  | inboundExhausted (filled : Nat)
  | inboundDiscarded
  | outboundOpened (kind : MessageKind)
  | outboundMoved (count : Nat)
  | outboundFinalized (written : Nat)
  | outboundDiscarded (kind : MessageKind)
  | closed
  deriving DecidableEq, Repr

/-- The log line of an event. Moved bytes are counted and not logged. -/
def Event.record? : Event → Option Record
  | inboundOpened => some ⟨.trace, "inbound message opened"⟩
  | inboundMoved _ => none
  | inboundExhausted filled => some ⟨.trace, "inbound message exhausted filled=" ++ toString filled⟩
  | inboundDiscarded => some ⟨.debug, "discarding inbound message opened after close"⟩
  | outboundOpened kind => some ⟨.trace, "outbound message opened kind=" ++ kind.name⟩
  | outboundMoved _ => none
  | outboundFinalized written =>
    some ⟨.trace, "outbound message finalized written=" ++ toString written⟩
  | outboundDiscarded kind =>
    some ⟨.debug, "discarding outbound message opened after close kind=" ++ kind.name⟩
  | closed => some ⟨.debug, "stream adapter closed"⟩

abbrev Journal := List Event

def Journal.records (journal : Journal) : List Record := journal.filterMap Event.record?

end MessageStream
