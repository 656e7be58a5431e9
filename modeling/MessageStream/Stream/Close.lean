import MessageStream.Stream.Basic

/-!
Closing. A close takes the connection and both current messages in one stretch, so whoever looks
afterwards finds the stream closed. It finishes the outbound message, in turn after the write
filling it, and then shuts the connection down.
-/
namespace MessageStream

inductive CloseStage (S : Signature) where
  | start
  | queued (number : Nat)
  | finishing (number : Nat) (stage : Option S.Finishing)
  | closing (stage : Option S.Closing)

abbrev CloseOutcome := Except StreamError Unit

namespace Close

variable {S : Signature}

/-- Takes the connection, if it is still there, and both current messages. -/
def take (ticket : Ticket) (stream : Stream S) : Stream S :=
  stream.modify fun state => { state with
    lease := if state.lease.owned then (state.lease.borrow ticket).surrender else state.lease
    inbound := none
    outbound := none }

def shutDown (ticket : Ticket) (stream : Stream S) : Stream S × Step (CloseStage S) CloseOutcome :=
  if ticket ∈ stream.state.lease.borrowers then (stream, .onward (.closing none))
  else (stream, .ready (.ok ()))

def start (ticket : Ticket) (stream : Stream S) : Stream S × Step (CloseStage S) CloseOutcome :=
  match stream.state.outbound with
  | some number => ((take ticket stream).joinWriter number ticket, .onward (.queued number))
  | none => shutDown ticket (take ticket stream)

def letGo (T : Transport S) (ticket : Ticket) (stream : Stream S) : Stream S :=
  if ticket ∈ stream.state.lease.borrowers then stream.giveBack T ticket else stream

def advance (T : Transport S) (ticket : Ticket) :
    CloseStage S → Stream S → Stream S × Step (CloseStage S) CloseOutcome
  | .start, stream => start ticket stream
  | .queued number, stream =>
    if (lineOf stream.state.writers number).admits ticket then
      (stream, .onward (.finishing number none))
    else (stream, .waiting (.queued number))
  | .finishing number stage, stream =>
    match (Stream.onWriter number (Outbound.finish T)).poll ticket stage stream with
    | (stream, .waiting stage) => (stream, .waiting (.finishing number (some stage)))
    | (stream, .ready (some (.error source))) =>
      (letGo T ticket (stream.leaveWriter T number ticket), .ready (.error (.transport 0 source)))
    | (stream, .ready _) => shutDown ticket (stream.leaveWriter T number ticket)
  | .closing stage, stream =>
    match (Stream.onConnection T.close).poll ticket stage stream with
    | (stream, .waiting stage) => (stream, .waiting (.closing (some stage)))
    | (stream, .ready (.error source)) =>
      (stream.giveBack T ticket, .ready (.error (.transport 0 source)))
    | (stream, .ready (.ok ())) => ((stream.record .closed).giveBack T ticket, .ready (.ok ()))

/-- What a close gives up when it is cancelled: its place in a line and the connection it took,
which is released without being shut down. -/
def cancel (T : Transport S) (ticket : Ticket) : CloseStage S → Stream S → Stream S
  | .start, stream => stream
  | .queued number, stream => letGo T ticket (stream.leaveWriter T number ticket)
  | .finishing number none, stream => letGo T ticket (stream.leaveWriter T number ticket)
  | .finishing number (some stage), stream =>
    letGo T ticket (((Stream.onWriter number (Outbound.finish T)).cancel ticket stage
      stream).leaveWriter T number ticket)
  | .closing none, stream => stream.giveBack T ticket
  | .closing (some stage), stream =>
    ((Stream.onConnection T.close).cancel ticket stage stream).giveBack T ticket

def limit : Nat := 8

end Close

def Stream.close {S : Signature} (T : Transport S) :
    Operation (Stream S) (CloseStage S) CloseOutcome where
  poll ticket stage stream :=
    Step.run (Close.advance T ticket) Close.limit (stage.getD .start) stream
  cancel := Close.cancel T

/-- The stream is given up by its last owner, unclosed or closed: both current messages go, and with
them the connection if the stream still owns it. -/
def Stream.dismiss {S : Signature} (T : Transport S) (stream : Stream S) : Stream S :=
  let dismissed := stream.modify fun state => { state with
    lease := state.lease.surrender
    inbound := none
    outbound := none }
  let settled := match stream.state.outbound with
    | some number => (dismissed.settleWriter T number).world
    | none => stream.world
  { dismissed with world :=
      if stream.state.lease.owned && !dismissed.state.lease.live then T.drop settled
      else settled }

end MessageStream
