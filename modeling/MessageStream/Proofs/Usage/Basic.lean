import MessageStream.Stream.Close
import MessageStream.Stream.Read
import MessageStream.Stream.Write
import MessageStream.Transport.Recorded

/-!
A stream in use. Any number of calls are begun on one stream, polled in any order and given up at
any of their waits, and between two polls the world of the connection may change in any way. The
connection keeps a record of the calls made on it. A call is known by its place in the order in
which calls were begun, and this is its ticket.
-/
namespace MessageStream

inductive Demand where
  | read (room : Nat)
  | write (data : Bytes)
  | close
  deriving DecidableEq, Repr

/-- A call given up keeps the stage where it stood, if it had been polled. -/
inductive Phase (Stage Answer : Type) where
  | fresh
  | waiting (stage : Stage)
  | answered (answer : Answer)
  | dropped (stage : Option Stage)

namespace Phase

variable {World Stage Answer : Type}

def answer? : Phase Stage Answer → Option Answer
  | answered answer => some answer
  | _ => none

def ofProgress : Progress Stage Answer → Phase Stage Answer
  | .waiting stage => waiting stage
  | .ready answer => answered answer

/-- Polls a call once. A call that has ended stays as it is. -/
def poll (operation : Operation World Stage Answer) (ticket : Ticket) :
    World × Phase Stage Answer → World × Phase Stage Answer
  | (world, fresh) =>
    let polled := operation.poll ticket none world
    (polled.1, ofProgress polled.2)
  | (world, waiting stage) =>
    let polled := operation.poll ticket (some stage) world
    (polled.1, ofProgress polled.2)
  | (world, ended) => (world, ended)

def drop (operation : Operation World Stage Answer) (ticket : Ticket) :
    World × Phase Stage Answer → World × Phase Stage Answer
  | (world, fresh) => (world, dropped none)
  | (world, waiting stage) => (operation.cancel ticket stage world, dropped (some stage))
  | (world, ended) => (world, ended)

end Phase

inductive Call (S : Signature) where
  | read (room : Nat) (phase : Phase (ReadStage S) ReadOutcome)
  | write (data : Bytes) (phase : Phase (WriteStage S) WriteOutcome)
  | close (phase : Phase (CloseStage S) CloseOutcome)

namespace Call

variable {S : Signature}

def begin : Demand → Call S
  | .read room => read room .fresh
  | .write data => write data .fresh
  | .close => close .fresh

def poll (T : Transport S) (ticket : Ticket) : Stream S × Call S → Stream S × Call S
  | (stream, read room phase) =>
    (Phase.poll (Stream.read T room) ticket (stream, phase)).map id (read room)
  | (stream, write data phase) =>
    (Phase.poll (Stream.write T data) ticket (stream, phase)).map id (write data)
  | (stream, close phase) => (Phase.poll (Stream.close T) ticket (stream, phase)).map id close

def drop (T : Transport S) (ticket : Ticket) : Stream S × Call S → Stream S × Call S
  | (stream, read room phase) =>
    (Phase.drop (Stream.read T room) ticket (stream, phase)).map id (read room)
  | (stream, write data phase) =>
    (Phase.drop (Stream.write T data) ticket (stream, phase)).map id (write data)
  | (stream, close phase) => (Phase.drop (Stream.close T) ticket (stream, phase)).map id close

end Call

/-- A stream over a recorded connection, and every call begun on it. -/
structure Usage (S : Signature) where
  stream : Stream S.recorded
  calls : List (Call S.recorded) := []

/-- One step of a stream's use. The world of its connection may also change by itself. -/
inductive Action (World : Type) where
  | begin (demand : Demand)
  | poll (ticket : Ticket)
  | drop (ticket : Ticket)
  | change (become : World → World)

namespace Usage

variable {S : Signature}

def start (config : Configuration) (world : S.World) : Usage S where
  stream := { state := .new config, world := { inner := world } }

def traffic (usage : Usage S) : List Traffic := usage.stream.world.traffic

def onCall (act : Stream S.recorded × Call S.recorded → Stream S.recorded × Call S.recorded)
    (ticket : Ticket) (usage : Usage S) : Usage S :=
  match usage.calls[ticket]? with
  | none => usage
  | some call =>
    { stream := (act (usage.stream, call)).1
      calls := usage.calls.set ticket (act (usage.stream, call)).2 }

def step (T : Transport S) (usage : Usage S) : Action S.World → Usage S
  | .begin demand => { usage with calls := usage.calls ++ [.begin demand] }
  | .poll ticket => usage.onCall (Call.poll T.recorded ticket) ticket
  | .drop ticket => usage.onCall (Call.drop T.recorded ticket) ticket
  | .change become =>
    { usage with stream := { usage.stream with
        world := { usage.stream.world with inner := become usage.stream.world.inner } } }

def run (T : Transport S) (usage : Usage S) (actions : List (Action S.World)) : Usage S :=
  actions.foldl (step T) usage

theorem run_append (T : Transport S) (usage : Usage S) (before after : List (Action S.World)) :
    usage.run T (before ++ after) = (usage.run T before).run T after :=
  List.foldl_append

end Usage

end MessageStream
