import MessageStream.Text.Quoted

/-!
Failures a connection reports. A failure has a kind and a cause; the text a reader sees is derived
from the two and stored nowhere.
-/
namespace MessageStream

inductive FailureKind where
  | notFound
  | permissionDenied
  | connectionRefused
  | connectionReset
  | connectionAborted
  | notConnected
  | addrInUse
  | addrNotAvailable
  | brokenPipe
  | alreadyExists
  | wouldBlock
  | invalidInput
  | invalidData
  | timedOut
  | writeZero
  | interrupted
  | unsupported
  | unexpectedEof
  | outOfMemory
  | other
  deriving DecidableEq, Repr, Inhabited

namespace FailureKind

def all : List FailureKind :=
  [notFound, permissionDenied, connectionRefused, connectionReset, connectionAborted, notConnected,
    addrInUse, addrNotAvailable, brokenPipe, alreadyExists, wouldBlock, invalidInput, invalidData,
    timedOut, writeZero, interrupted, unsupported, unexpectedEof, outOfMemory, other]

def name : FailureKind → String
  | notFound => "NotFound"
  | permissionDenied => "PermissionDenied"
  | connectionRefused => "ConnectionRefused"
  | connectionReset => "ConnectionReset"
  | connectionAborted => "ConnectionAborted"
  | notConnected => "NotConnected"
  | addrInUse => "AddrInUse"
  | addrNotAvailable => "AddrNotAvailable"
  | brokenPipe => "BrokenPipe"
  | alreadyExists => "AlreadyExists"
  | wouldBlock => "WouldBlock"
  | invalidInput => "InvalidInput"
  | invalidData => "InvalidData"
  | timedOut => "TimedOut"
  | writeZero => "WriteZero"
  | interrupted => "Interrupted"
  | unsupported => "Unsupported"
  | unexpectedEof => "UnexpectedEof"
  | outOfMemory => "OutOfMemory"
  | other => "Other"

def description : FailureKind → String
  | notFound => "entity not found"
  | permissionDenied => "permission denied"
  | connectionRefused => "connection refused"
  | connectionReset => "connection reset"
  | connectionAborted => "connection aborted"
  | notConnected => "not connected"
  | addrInUse => "address in use"
  | addrNotAvailable => "address not available"
  | brokenPipe => "broken pipe"
  | alreadyExists => "entity already exists"
  | wouldBlock => "operation would block"
  | invalidInput => "invalid input parameter"
  | invalidData => "invalid data"
  | timedOut => "timed out"
  | writeZero => "write zero"
  | interrupted => "operation interrupted"
  | unsupported => "unsupported"
  | unexpectedEof => "unexpected end of file"
  | outOfMemory => "out of memory"
  | other => "other error"

def ofName? (text : String) : Option FailureKind :=
  all.find? (fun kind => kind.name == text)

theorem ofName?_name (kind : FailureKind) : ofName? kind.name = some kind := by
  cases kind <;> rfl

end FailureKind

inductive Cause where
  | bare
  | text (words : String)
  | streamClosed
  deriving DecidableEq, Repr

/-- A failure reported by a connection, or handed on in a connection's place. -/
structure Failure where
  kind : FailureKind
  cause : Cause
  deriving DecidableEq, Repr

namespace Failure

def closedText : String := "stream adapter is closed"

def bare (kind : FailureKind) : Failure := ⟨kind, .bare⟩

def withText (kind : FailureKind) (words : String) : Failure := ⟨kind, .text words⟩

def message (failure : Failure) : String :=
  match failure.cause with
  | .bare => failure.kind.description
  | .text words => words
  | .streamClosed => closedText

/-- The text for developers: a bare kind, or the kind with its quoted text. -/
def debug (failure : Failure) : String :=
  match failure.cause with
  | .bare => "Kind(" ++ failure.kind.name ++ ")"
  | .text words =>
    "Custom \x7b kind: " ++ failure.kind.name ++ ", error: " ++ Text.quoted words ++ " \x7d"
  | .streamClosed => "Custom \x7b kind: " ++ failure.kind.name ++ ", error: Closed \x7d"

end Failure

end MessageStream
