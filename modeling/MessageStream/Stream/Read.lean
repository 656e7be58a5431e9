import MessageStream.Stream.Basic

/-!
Reads. A read goes on with the current inbound message, or waits for the next one where there is
none, and copies bytes until its room is used up or the message ends. A message that ends before it
has yielded a byte is passed over, so only a read without room answers with no bytes.
-/
namespace MessageStream

/-- What a read comes to. A read that fails has copied the bytes it came to before. -/
inductive ReadOutcome where
  | filled (data : Bytes)
  | closed
  | broken (data : Bytes) (source : Failure)
  deriving DecidableEq, Repr

namespace ReadOutcome

def data : ReadOutcome → Bytes
  | filled data => data
  | closed => []
  | broken data _ => data

def result : ReadOutcome → Except StreamError Nat
  | filled data => .ok data.length
  | closed => .error .closed
  | broken data source => .error (.transport data.length source)

end ReadOutcome

inductive ReadStage (S : Signature) where
  | start
  | opening (stage : S.ReaderOpening)
  | queued (number : Nat)
  | draining (number : Nat) (copied : Bytes) (stage : Option S.Reading)

namespace Read

variable {S : Signature}

/-- If the stream has been closed meanwhile, the message comes too late. -/
def opened (T : Transport S) (reader : S.Reader) (ticket : Ticket) (stream : Stream S) :
    Stream S × Step (ReadStage S) ReadOutcome :=
  if stream.state.isClosed then
    (((stream.discardReader reader).record .inboundDiscarded).giveBack T ticket, .ready .closed)
  else
    (((stream.openReader reader ticket).record .inboundOpened).giveBack T ticket,
      .onward (.queued stream.state.readers.length))

def ask (T : Transport S) (ticket : Ticket) (stage : Option S.ReaderOpening) (stream : Stream S) :
    Stream S × Step (ReadStage S) ReadOutcome :=
  match (Stream.onConnection T.nextReader).poll ticket stage stream with
  | (stream, .waiting stage) => (stream, .waiting (.opening stage))
  | (stream, .ready (.error source)) => (stream.giveBack T ticket, .ready (.broken [] source))
  | (stream, .ready (.ok reader)) => opened T reader ticket stream

/-- The read looks at the state: is the stream closed, is there anything to do, which message is
it? It asks for a message in the same stretch in which it finds none. -/
def start (T : Transport S) (room : Nat) (ticket : Ticket) (stream : Stream S) :
    Stream S × Step (ReadStage S) ReadOutcome :=
  if stream.state.isClosed then (stream, .ready .closed)
  else if room = 0 then (stream, .ready (.filled []))
  else match stream.state.inbound with
    | some number => (stream.joinReader number ticket, .onward (.queued number))
    | none => ask T ticket none (stream.borrow ticket)

def exhausted (number : Nat) (copied : Bytes) (stream : Stream S) :
    Stream S × Step (ReadStage S) ReadOutcome :=
  ((stream.clearInbound number).recordIf (stream.state.inbound == some number)
      (.inboundExhausted copied.length),
    if copied.isEmpty then .onward .start else .ready (.filled copied))

def yielded (room number : Nat) (copied bytes : Bytes) (ticket : Ticket) (stream : Stream S) :
    Stream S × Step (ReadStage S) ReadOutcome :=
  if !bytes.isEmpty && (copied ++ bytes).length < room then
    (stream, .onward (.draining number (copied ++ bytes) none))
  else
    let stream := (stream.leaveReader number ticket).record
      (.inboundMoved (copied ++ bytes).length)
    if bytes.isEmpty then exhausted number copied stream
    else (stream, .ready (.filled (copied ++ bytes)))

def advance (T : Transport S) (room : Nat) (ticket : Ticket) :
    ReadStage S → Stream S → Stream S × Step (ReadStage S) ReadOutcome
  | .start, stream => start T room ticket stream
  | .opening stage, stream => ask T ticket (some stage) stream
  | .queued number, stream =>
    if (lineOf stream.state.readers number).admits ticket then
      (stream, .onward (.draining number [] none))
    else (stream, .waiting (.queued number))
  | .draining number copied stage, stream =>
    match (Stream.onReader number (T.read (room - copied.length))).poll ticket stage stream with
    | (stream, .waiting stage) => (stream, .waiting (.draining number copied (some stage)))
    | (stream, .ready (some (.error source))) =>
      ((stream.leaveReader number ticket).record (.inboundMoved copied.length),
        .ready (.broken copied source))
    | (stream, .ready (some (.ok bytes))) => yielded room number copied bytes ticket stream
    | (stream, .ready none) => yielded room number copied [] ticket stream

def cancel (T : Transport S) (room : Nat) (ticket : Ticket) :
    ReadStage S → Stream S → Stream S
  | .start, stream => stream
  | .opening stage, stream =>
    ((Stream.onConnection T.nextReader).cancel ticket stage stream).giveBack T ticket
  | .queued number, stream => stream.leaveReader number ticket
  | .draining number _ none, stream => stream.leaveReader number ticket
  | .draining number copied (some stage), stream =>
    ((Stream.onReader number (T.read (room - copied.length))).cancel ticket stage
      stream).leaveReader number ticket

/-- Enough stretches for one poll: four for each message the connection can hand out without a wait
and a few to spare, and one for each byte there is room for. -/
def limit (T : Transport S) (room : Nat) (stream : Stream S) : Nat :=
  4 * (T.supply stream.world + 4) + room

end Read

def Stream.read {S : Signature} (T : Transport S) (room : Nat) :
    Operation (Stream S) (ReadStage S) ReadOutcome where
  poll ticket stage stream :=
    Step.run (Read.advance T room ticket) (Read.limit T room stream) (stage.getD .start) stream
  cancel := Read.cancel T room

end MessageStream
