import MessageStream.Configuration.Basic
import MessageStream.Journal
import MessageStream.Lease
import MessageStream.Line
import MessageStream.StreamError
import MessageStream.Transport.Basic

/-!
The state of a stream over one connection.

The stream keeps the connection until it is closed, at most one inbound message for reads to go on
with and at most one outbound message for writes to fill. A message is used under its own waiting
line, so several calls can refer to one. Messages keep their number for good; the two slots say
which of them are current. This module holds the state and its elementary changes; the calls are
built from them.
-/
namespace MessageStream

/-- A message that calls use one at a time. -/
structure Cursor (Content : Type) where
  content : Content
  line : Line := []

/-- An outbound message and whether it has been finished, or its finishing begun. -/
structure Outbound (Writer : Type) where
  writer : Writer
  finished : Bool := false

structure Stream.State (S : Signature) where
  config : Configuration
  lease : Lease
  inbound : Option Nat := none
  outbound : Option Nat := none
  readers : List (Cursor S.Reader) := []
  writers : List (Cursor (Outbound S.Writer)) := []

/-- A stream in its surroundings: its state, the world of its connection, and its journal. -/
structure Stream (S : Signature) where
  state : Stream.State S
  world : S.World
  journal : Journal := []

def lineOf {Content : Type} (cursors : List (Cursor Content)) (number : Nat) : Line :=
  match cursors[number]? with
  | some cursor => cursor.line
  | none => []

namespace Stream.State

variable {S : Signature}

def new (config : Configuration) : State S := { config, lease := { owned := true } }

def isClosed (state : State S) : Bool := !state.lease.owned

def debug (state : State S) : String :=
  "StreamAdapter \x7b closed: " ++ toString state.isClosed ++ ", reading: " ++
    toString state.inbound.isSome ++ ", writing: " ++ toString state.outbound.isSome ++
    ", config: " ++ state.config.debug ++ " \x7d"

end Stream.State

namespace Stream

variable {S : Signature}

def record (stream : Stream S) (event : Event) : Stream S :=
  { stream with journal := stream.journal ++ [event] }

def recordIf (stream : Stream S) (condition : Bool) (event : Event) : Stream S :=
  { stream with journal := if condition then stream.journal ++ [event] else stream.journal }

def modify (stream : Stream S) (change : State S → State S) : Stream S :=
  { stream with state := change stream.state }

def joinReader (stream : Stream S) (number : Nat) (ticket : Ticket) : Stream S :=
  stream.modify fun state => { state with
    readers := state.readers.modify number fun cursor =>
      { cursor with line := cursor.line.join ticket } }

def leaveReader (stream : Stream S) (number : Nat) (ticket : Ticket) : Stream S :=
  stream.modify fun state => { state with
    readers := state.readers.modify number fun cursor =>
      { cursor with line := cursor.line.leave ticket } }

def joinWriter (stream : Stream S) (number : Nat) (ticket : Ticket) : Stream S :=
  stream.modify fun state => { state with
    writers := state.writers.modify number fun cursor =>
      { cursor with line := cursor.line.join ticket } }

/-- Gives an outbound message up once it is neither current nor in anyone's use. -/
def settleWriter (T : Transport S) (number : Nat) (stream : Stream S) : Stream S :=
  { stream with world :=
      match stream.state.writers[number]? with
      | none => stream.world
      | some cursor =>
        if stream.state.outbound = some number || !cursor.line.isEmpty then stream.world
        else T.dropWriter cursor.content.writer stream.world }

def leaveWriter (T : Transport S) (stream : Stream S) (number : Nat) (ticket : Ticket) : Stream S :=
  (stream.modify fun state => { state with
    writers := state.writers.modify number fun cursor =>
      { cursor with line := cursor.line.leave ticket } }).settleWriter T number

/-- Makes an inbound message current no longer, unless another has taken its place. -/
def clearInbound (stream : Stream S) (number : Nat) : Stream S :=
  stream.modify fun state => { state with
    inbound := if state.inbound = some number then none else state.inbound }

/-- A call has done with an outbound message: it leaves the line, and the message is current no
longer, unless another has taken its place. -/
def retireWriter (T : Transport S) (stream : Stream S) (number : Nat) (ticket : Ticket) :
    Stream S :=
  (stream.modify fun state => { state with
    writers := state.writers.modify number fun cursor =>
      { cursor with line := cursor.line.leave ticket }
    outbound := if state.outbound = some number then none else state.outbound }).settleWriter T
      number

def borrow (stream : Stream S) (ticket : Ticket) : Stream S :=
  stream.modify fun state => { state with lease := state.lease.borrow ticket }

def giveBack (T : Transport S) (stream : Stream S) (ticket : Ticket) : Stream S :=
  { stream with
    state := { stream.state with lease := stream.state.lease.giveBack ticket }
    world := if (stream.state.lease.giveBack ticket).live then stream.world
      else T.drop stream.world }

def openReader (stream : Stream S) (reader : S.Reader) (ticket : Ticket) : Stream S :=
  stream.modify fun state => { state with
    readers := state.readers ++ [{ content := reader, line := [ticket] }]
    inbound := some state.readers.length }

def discardReader (stream : Stream S) (reader : S.Reader) : Stream S :=
  stream.modify fun state => { state with
    readers := state.readers ++ [{ content := reader }] }

def enterWriter (stream : Stream S) (writer : S.Writer) (ticket : Ticket) : Stream S :=
  stream.modify fun state => { state with
    writers := state.writers ++ [{ content := { writer }, line := [ticket] }] }

/-- Enters a new outbound message that the given call is going to fill, and makes it current. The
one it displaces is given up if nobody uses it. -/
def openWriter (T : Transport S) (stream : Stream S) (writer : S.Writer) (ticket : Ticket) :
    Stream S :=
  let opened := (stream.enterWriter writer ticket).modify fun state => { state with
    outbound := some stream.state.writers.length }
  { opened with world :=
      match stream.state.outbound with
      | none => stream.world
      | some displaced => (opened.settleWriter T displaced).world }

def onConnection {Stage Answer : Type} (operation : Operation S.World Stage Answer) :
    Operation (Stream S) Stage Answer :=
  operation.within (·.world) fun stream world => { stream with world }

def onReader {Stage Answer : Type} (number : Nat)
    (operation : Operation (S.Reader × S.World) Stage Answer) :
    Operation (Stream S) Stage (Option Answer) :=
  operation.withinOption
    (fun stream => stream.state.readers[number]?.map fun cursor => (cursor.content, stream.world))
    fun stream changed => { stream with
      state := { stream.state with
        readers := stream.state.readers.modify number fun cursor =>
          { cursor with content := changed.1 } }
      world := changed.2 }

def onWriter {Stage Answer : Type} (number : Nat)
    (operation : Operation (Outbound S.Writer × S.World) Stage Answer) :
    Operation (Stream S) Stage (Option Answer) :=
  operation.withinOption
    (fun stream => stream.state.writers[number]?.map fun cursor => (cursor.content, stream.world))
    fun stream changed => { stream with
      state := { stream.state with
        writers := stream.state.writers.modify number fun cursor =>
          { cursor with content := changed.1 } }
      world := changed.2 }

@[simp] theorem record_state (stream : Stream S) (event : Event) :
    (stream.record event).state = stream.state := rfl

@[simp] theorem recordIf_state (stream : Stream S) (condition : Bool) (event : Event) :
    (stream.recordIf condition event).state = stream.state := rfl

@[simp] theorem modify_state (stream : Stream S) (change : State S → State S) :
    (stream.modify change).state = change stream.state := rfl

@[simp] theorem settleWriter_state (T : Transport S) (number : Nat) (stream : Stream S) :
    (stream.settleWriter T number).state = stream.state := rfl

@[simp] theorem giveBack_state (T : Transport S) (stream : Stream S) (ticket : Ticket) :
    (stream.giveBack T ticket).state =
      { stream.state with lease := stream.state.lease.giveBack ticket } := rfl

theorem giveBack_standing (T : Transport S) (stream : Stream S) (ticket : Ticket)
    (standing : stream.state.isClosed = false) :
    (stream.giveBack T ticket).world = stream.world := by
  have owned : stream.state.lease.owned = true := by simpa [State.isClosed] using standing
  simp [giveBack, Lease.live, Lease.giveBack, owned]

@[simp] theorem onConnection_state {Stage Answer : Type}
    (operation : Operation S.World Stage Answer) (ticket : Ticket) (stage : Option Stage)
    (stream : Stream S) :
    ((onConnection operation).poll ticket stage stream).1.state = stream.state := rfl

end Stream

namespace Outbound

variable {S : Signature}

def write (T : Transport S) (data : Bytes) :
    Operation (Outbound S.Writer × S.World) S.Writing (Except Failure Nat) :=
  (T.write data).within (fun whole => (whole.1.writer, whole.2))
    fun whole changed => ({ whole.1 with writer := changed.1 }, changed.2)

/-- The finish of an outbound message. Only the first reaches the connection; every later one
succeeds and does nothing. -/
def finish (T : Transport S) :
    Operation (Outbound S.Writer × S.World) S.Finishing (Except Failure Unit) where
  poll ticket stage whole :=
    if stage.isNone && whole.1.finished then (whole, .ready (.ok ()))
    else
      let polled := T.finish.poll ticket stage (whole.1.writer, whole.2)
      (({ writer := polled.1.1, finished := true }, polled.1.2), polled.2)
  cancel ticket stage whole :=
    let cancelled := T.finish.cancel ticket stage (whole.1.writer, whole.2)
    ({ whole.1 with writer := cancelled.1 }, cancelled.2)

end Outbound

end MessageStream
