import MessageStream.Message

/-!
Configuration of a stream: the kind of its outbound messages, and what a write of nothing does.
-/
namespace MessageStream

/-- A write of no bytes is answered at once without touching the connection, or sends an empty
message. -/
inductive EmptyWrite where
  | skip
  | emitMessage
  deriving DecidableEq, Repr, Inhabited

namespace EmptyWrite

def name : EmptyWrite → String
  | skip => "skip"
  | emitMessage => "emit_message"

def label : EmptyWrite → String
  | skip => "Skip"
  | emitMessage => "EmitMessage"

def all : List EmptyWrite := [skip, emitMessage]

theorem mem_all (policy : EmptyWrite) : policy ∈ all := by
  cases policy <;> simp [all]

theorem name_injective {first second : EmptyWrite} (same : first.name = second.name) :
    first = second := by
  cases first <;> cases second <;> simp_all [name]

end EmptyWrite

structure Configuration where
  messageKind : MessageKind := .text
  emptyWrite : EmptyWrite := .skip
  deriving DecidableEq, Repr, Inhabited

namespace Configuration

inductive Change where
  | kind (kind : MessageKind)
  | policy (policy : EmptyWrite)
  deriving DecidableEq, Repr

def apply (config : Configuration) : Change → Configuration
  | .kind kind => { config with messageKind := kind }
  | .policy policy => { config with emptyWrite := policy }

/-- The configurations passed through by a list of changes, the first and the last included. -/
def history (config : Configuration) : List Change → List Configuration
  | [] => [config]
  | change :: rest => config :: (config.apply change).history rest

def debug (config : Configuration) : String :=
  "AdapterConfig \x7b message_kind: " ++ config.messageKind.label ++ ", empty_write: " ++
    config.emptyWrite.label ++ " \x7d"

def skips (config : Configuration) (data : Bytes) : Bool :=
  data.isEmpty && config.emptyWrite == .skip

end Configuration

end MessageStream
