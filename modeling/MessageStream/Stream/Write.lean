import MessageStream.Stream.Basic

/-!
Writes. A write sends its bytes as one message: it opens a message where none is current, fills it,
and finishes it whatever happens on the way. A message found finished by another call is retired,
and the write begins again. A message that is opened too late for the stream is finished empty.
-/
namespace MessageStream

inductive WriteStage (S : Signature) where
  | start
  | opening (stage : S.WriterOpening)
  | discarding (number : Nat) (stage : Option S.Finishing)
  | queued (number : Nat)
  | filling (number : Nat) (written : Nat) (stage : Option S.Writing)
  | finishing (number : Nat) (written : Nat) (failure : Option Failure) (stage : Option S.Finishing)

abbrev WriteOutcome := Except StreamError Nat

def WriteOutcome.moved : WriteOutcome → Nat
  | .ok count => count
  | .error error => error.transferred

namespace Write

variable {S : Signature}

/-- If the stream has been closed meanwhile, the message comes too late and is finished empty. -/
def opened (T : Transport S) (writer : S.Writer) (ticket : Ticket) (stream : Stream S) :
    Stream S × Step (WriteStage S) WriteOutcome :=
  let number := stream.state.writers.length
  let kind := stream.state.config.messageKind
  if stream.state.isClosed then
    ((stream.enterWriter writer ticket).record (.outboundDiscarded kind),
      .onward (.discarding number none))
  else
    (((stream.openWriter T writer ticket).record (.outboundOpened kind)).giveBack T ticket,
      .onward (.queued number))

def ask (T : Transport S) (ticket : Ticket) (stage : Option S.WriterOpening) (stream : Stream S) :
    Stream S × Step (WriteStage S) WriteOutcome :=
  match (Stream.onConnection (T.nextWriter stream.state.config.messageKind)).poll ticket stage
    stream with
  | (stream, .waiting stage) => (stream, .waiting (.opening stage))
  | (stream, .ready (.error source)) =>
    (stream.giveBack T ticket, .ready (.error (.transport 0 source)))
  | (stream, .ready (.ok writer)) => opened T writer ticket stream

/-- The write looks at the state: is the stream closed, is there anything to do, which message is
it? It asks for a message in the same stretch in which it finds none. -/
def start (T : Transport S) (data : Bytes) (ticket : Ticket) (stream : Stream S) :
    Stream S × Step (WriteStage S) WriteOutcome :=
  if stream.state.isClosed then (stream, .ready (.error .closed))
  else if stream.state.config.skips data then (stream, .ready (.ok 0))
  else match stream.state.outbound with
    | some number => (stream.joinWriter number ticket, .onward (.queued number))
    | none => ask T ticket none (stream.borrow ticket)

def fillOrFinish (data : Bytes) (number written : Nat) : WriteStage S :=
  if written < data.length then .filling number written none
  else .finishing number written none none

def admitted (T : Transport S) (data : Bytes) (number : Nat) (ticket : Ticket) (stream : Stream S) :
    Stream S × Step (WriteStage S) WriteOutcome :=
  match stream.state.writers[number]? with
  | some cursor =>
    if cursor.content.finished then (stream.retireWriter T number ticket, .onward .start)
    else (stream, .onward (fillOrFinish data number 0))
  | none => (stream, .onward .start)

/-- The message has been finished. A failure to fill it goes before a failure to finish it. -/
def finished (T : Transport S) (number written : Nat) (failure : Option Failure)
    (result : Except Failure Unit) (ticket : Ticket) (stream : Stream S) :
    Stream S × Step (WriteStage S) WriteOutcome :=
  let stream := (stream.retireWriter T number ticket).record (.outboundMoved written)
  match failure, result with
  | some source, _ => (stream, .ready (.error (.transport written source)))
  | none, .error source => (stream, .ready (.error (.transport written source)))
  | none, .ok () => (stream.record (.outboundFinalized written), .ready (.ok written))

def advance (T : Transport S) (data : Bytes) (ticket : Ticket) :
    WriteStage S → Stream S → Stream S × Step (WriteStage S) WriteOutcome
  | .start, stream => start T data ticket stream
  | .opening stage, stream => ask T ticket (some stage) stream
  | .discarding number stage, stream =>
    match (Stream.onWriter number (Outbound.finish T)).poll ticket stage stream with
    | (stream, .waiting stage) => (stream, .waiting (.discarding number (some stage)))
    | (stream, .ready _) =>
      ((stream.leaveWriter T number ticket).giveBack T ticket, .ready (.error .closed))
  | .queued number, stream =>
    if (lineOf stream.state.writers number).admits ticket then
      admitted T data number ticket stream
    else (stream, .waiting (.queued number))
  | .filling number written stage, stream =>
    match (Stream.onWriter number (Outbound.write T (data.drop written))).poll ticket stage
      stream with
    | (stream, .waiting stage) => (stream, .waiting (.filling number written (some stage)))
    | (stream, .ready (some (.error source))) =>
      (stream, .onward (.finishing number written (some source) none))
    | (stream, .ready (some (.ok (taken + 1)))) =>
      (stream, .onward (fillOrFinish data number (written + (taken + 1))))
    | (stream, .ready _) =>
      (stream, .onward (.finishing number written (some (.bare .writeZero)) none))
  | .finishing number written failure stage, stream =>
    match (Stream.onWriter number (Outbound.finish T)).poll ticket stage stream with
    | (stream, .waiting stage) =>
      (stream, .waiting (.finishing number written failure (some stage)))
    | (stream, .ready result) =>
      finished T number written failure (result.getD (.ok ())) ticket stream

/-- What a write gives up when it is cancelled: its use of the connection or its place in a line.
The bytes a message has taken stay in it. -/
def cancel (T : Transport S) (data : Bytes) (ticket : Ticket) :
    WriteStage S → Stream S → Stream S
  | .start, stream => stream
  | .opening stage, stream =>
    ((Stream.onConnection (T.nextWriter stream.state.config.messageKind)).cancel ticket stage
      stream).giveBack T ticket
  | .discarding number none, stream => (stream.leaveWriter T number ticket).giveBack T ticket
  | .discarding number (some stage), stream =>
    (((Stream.onWriter number (Outbound.finish T)).cancel ticket stage stream).leaveWriter T number
      ticket).giveBack T ticket
  | .queued number, stream => stream.leaveWriter T number ticket
  | .filling number _ none, stream => stream.leaveWriter T number ticket
  | .filling number written (some stage), stream =>
    ((Stream.onWriter number (Outbound.write T (data.drop written))).cancel ticket stage
      stream).leaveWriter T number ticket
  | .finishing number _ _ none, stream => stream.leaveWriter T number ticket
  | .finishing number _ _ (some stage), stream =>
    ((Stream.onWriter number (Outbound.finish T)).cancel ticket stage stream).leaveWriter T number
      ticket

def limit (data : Bytes) : Nat := data.length + 16

end Write

def Stream.write {S : Signature} (T : Transport S) (data : Bytes) :
    Operation (Stream S) (WriteStage S) WriteOutcome where
  poll ticket stage stream :=
    Step.run (Write.advance T data ticket) (Write.limit data) (stage.getD .start) stream
  cancel := Write.cancel T data

end MessageStream
