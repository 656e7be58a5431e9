import MessageStream.Stream.Read
import MessageStream.Configuration.Basic

/-!
What a session is told to do, and what it answers.
-/
namespace MessageStream.Session

inductive Mode where
  | stream
  | bridged
  | bare
  deriving DecidableEq, Repr, Inhabited

structure EndSetup where
  mode : Mode := .stream
  config : Configuration := {}
  deriving Inhabited

/-- A call that may have to wait. The number of an end is its site. -/
inductive Call where
  | read (site room : Nat)
  | write (site : Nat) (data : Bytes)
  | close (site : Nat)
  | nextReader (site : Nat) (handle : String)
  | nextWriter (site : Nat) (handle : String) (kind : MessageKind)
  | closeConnection (site : Nat)
  | receive (site : Nat)
  | readHandle (handle : String) (room : Nat)
  | writeHandle (handle : String) (data : Bytes)
  | finishHandle (handle : String)

inductive Command where
  | call (task : String) (call : Call)
  | poll (task : String)
  | pollAll
  | cancel (task : String)
  | notify (gate : Nat)
  | debug (site : Nat)
  | config (site : Nat)
  | letGo (site : Nat)
  | send (site : Nat) (message : Message)
  | dropHandle (handle : String)
  | bridge (site : Nat)
  | dropBridge (bridge : Nat)
  | pollRead (bridge room : Nat) (held : Bytes)
  | pollWrite (bridge : Nat) (data : Bytes)
  | pollFlush (bridge : Nat)
  | pollShutdown (bridge : Nat)
  | unknown

inductive Answer where
  | pending
  | skipped
  | done
  | count (number : Nat)
  | text (words : String)
  | read (outcome : ReadOutcome)
  | yielded (data : Bytes)
  | buffer (data : Bytes)
  | message (message : Message)
  | broken (error : StreamError)
  | failed (failure : Failure)
  | tasks (answers : List (String × Answer))

namespace Answer

def ofStream : Except StreamError Unit → Answer
  | .ok () => done
  | .error error => broken error

def ofCount : Except StreamError Nat → Answer
  | .ok number => count number
  | .error error => broken error

def ofResult {Value : Type} (change : Value → Answer) : Except Failure Value → Answer
  | .ok value => change value
  | .error failure => failed failure

def ofPolled {Value : Type} (change : Value → Answer) : Option (Except Failure Value) → Answer
  | none => pending
  | some result => ofResult change result

end Answer

end MessageStream.Session
