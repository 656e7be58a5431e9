import MessageStream.Failure

/-!
Errors of a stream: it was closed, or its connection failed after some bytes had been moved.
-/
namespace MessageStream

inductive StreamError where
  | closed
  | transport (transferred : Nat) (source : Failure)
  deriving DecidableEq, Repr

namespace StreamError

def isClosed : StreamError → Bool
  | closed => true
  | transport _ _ => false

def transferred : StreamError → Nat
  | closed => 0
  | transport count _ => count

def source? : StreamError → Option Failure
  | closed => none
  | transport _ source => some source

def message : StreamError → String
  | closed => Failure.closedText
  | transport count source =>
    "transport error after " ++ toString count ++ " bytes: " ++ source.message

def debug : StreamError → String
  | closed => "Closed"
  | transport count source =>
    "Transport \x7b transferred: " ++ toString count ++ ", source: " ++ source.debug ++ " \x7d"

/-- The failure a byte-oriented caller sees: a closed stream is a broken pipe, and the failure of a
connection is passed on as it is. -/
def toFailure : StreamError → Failure
  | closed => ⟨.brokenPipe, .streamClosed⟩
  | transport _ source => source

end StreamError

/-- The stream error still carried by a failure: only the one for a closed stream. -/
def Failure.streamError? (failure : Failure) : Option StreamError :=
  match failure.cause with
  | .streamClosed => some .closed
  | _ => none

end MessageStream
