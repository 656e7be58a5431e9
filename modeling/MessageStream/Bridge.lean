import MessageStream.Stream.Read
import MessageStream.Stream.Write
import MessageStream.Stream.Close

/-!
Bridges. A bridge lets a caller that polls with buffers of its own use a stream. It keeps the call
it has begun until that is done, whoever asked for it: a read for an earlier buffer may bring more
than the present one holds, and a write whose caller has gone settles by itself. What cannot be
handed over at once is kept: surplus bytes, and the failure behind a partial success.

The bridge knows the stream only by three calls, so this module serves any stream.
-/
namespace MessageStream

/-- The three calls of a stream, and what each has to remember while it waits. -/
structure StreamCalls (World Reading Writing Closing : Type) where
  read : Nat → Operation World Reading ReadOutcome
  write : Bytes → Operation World Writing WriteOutcome
  close : Operation World Closing CloseOutcome

def Stream.calls {S : Signature} (T : Transport S) :
    StreamCalls (Stream S) (ReadStage S) (WriteStage S) (CloseStage S) where
  read := Stream.read T
  write := Stream.write T
  close := Stream.close T

structure InFlight (Request Stage : Type) where
  ticket : Ticket
  request : Request
  stage : Option Stage := none

/-- The calls in flight, the bytes of a read that found no room with how many of them have been
handed over, the bytes of the write in flight, and the failures of a read and of a write that are
still to be reported. -/
structure Bridge (Reading Writing Closing : Type) where
  reading : Option (InFlight Nat Reading) := none
  leftover : Bytes := []
  position : Nat := 0
  readFailure : Option Failure := none
  writing : Option (InFlight Bytes Writing) := none
  inFlight : Option Bytes := none
  writeFailure : Option Failure := none
  closing : Option (InFlight Unit Closing) := none

abbrev Polled (Value : Type) := Option (Except Failure Value)

namespace Bridge

variable {World Reading Writing Closing : Type}

def pollCall {Request Stage Answer : Type} (operation : Operation World Stage Answer)
    (call : InFlight Request Stage) (world : World) :
    World × Progress (InFlight Request Stage) Answer :=
  let polled := operation.poll call.ticket call.stage world
  (polled.1, polled.2.mapStage fun stage => { call with stage := some stage })

def cancelCall {Request Stage Answer : Type} (operation : Operation World Stage Answer)
    (call : InFlight Request Stage) (world : World) : World :=
  match call.stage with
  | none => world
  | some stage => operation.cancel call.ticket stage world

def takeLeftover (bridge : Bridge Reading Writing Closing) (room : Nat) :
    Bridge Reading Writing Closing × Option Bytes :=
  if bridge.leftover.length ≤ bridge.position then (bridge, none)
  else
    let count := min (bridge.leftover.length - bridge.position) room
    let handed := (bridge.leftover.drop bridge.position).take count
    let position := bridge.position + count
    if position = bridge.leftover.length then
      ({ bridge with leftover := [], position := 0 }, some handed)
    else ({ bridge with position }, some handed)

def deliver (bridge : Bridge Reading Writing Closing) (data : Bytes) (room : Nat) :
    Bridge Reading Writing Closing × Bytes :=
  let count := min data.length room
  if count < data.length then
    ({ bridge with leftover := data, position := count }, data.take count)
  else (bridge, data.take count)

/-- The end of a read: its bytes are handed over, and its failure is reported at once only if it
brought none. -/
def readDone (bridge : Bridge Reading Writing Closing) (outcome : ReadOutcome) (room : Nat) :
    Bridge Reading Writing Closing × Polled Bytes :=
  let bridge := { bridge with reading := none }
  match outcome.result with
  | .ok _ =>
    let delivered := bridge.deliver outcome.data room
    (delivered.1, some (.ok delivered.2))
  | .error error =>
    if 0 < error.transferred then
      let delivered :=
        { bridge with readFailure := some error.toFailure }.deliver outcome.data room
      (delivered.1, some (.ok delivered.2))
    else (bridge, some (.error error.toFailure))

/-- Polls for bytes into a buffer with so much room. A read in flight is gone on with, whatever room
it was begun for; the ticket is for a new one. -/
def pollRead (calls : StreamCalls World Reading Writing Closing) (ticket : Ticket) (room : Nat)
    (bridge : Bridge Reading Writing Closing) (world : World) :
    (Bridge Reading Writing Closing × World) × Polled Bytes :=
  match bridge.takeLeftover room with
  | (bridge, some handed) => ((bridge, world), some (.ok handed))
  | (bridge, none) =>
    match bridge.readFailure with
    | some failure => (({ bridge with readFailure := none }, world), some (.error failure))
    | none =>
      if room = 0 then ((bridge, world), some (.ok []))
      else
        let call := bridge.reading.getD { ticket, request := room }
        match pollCall (calls.read call.request) call world with
        | (world, .waiting call) => (({ bridge with reading := some call }, world), none)
        | (world, .ready outcome) =>
          let done := bridge.readDone outcome room
          ((done.1, world), done.2)

/-- The end of a write: a partial one reports its bytes and keeps its failure for the next call. -/
def writeDone (bridge : Bridge Reading Writing Closing) (outcome : WriteOutcome) :
    Bridge Reading Writing Closing × Except Failure Nat :=
  let bridge := { bridge with writing := none, inFlight := none }
  match outcome with
  | .ok count => (bridge, .ok count)
  | .error error =>
    if 0 < error.transferred then
      ({ bridge with writeFailure := some error.toFailure }, .ok error.transferred)
    else (bridge, .error error.toFailure)

inductive WriteProgress where
  | idle
  | waiting
  | done (result : Except Failure Nat)

def pollWriting (calls : StreamCalls World Reading Writing Closing)
    (bridge : Bridge Reading Writing Closing) (world : World) :
    (Bridge Reading Writing Closing × World) × WriteProgress :=
  match bridge.writing with
  | none => ((bridge, world), .idle)
  | some call =>
    match pollCall (calls.write call.request) call world with
    | (world, .waiting call) => (({ bridge with writing := some call }, world), .waiting)
    | (world, .ready outcome) =>
      let done := bridge.writeDone outcome
      ((done.1, world), .done done.2)

/-- Settles a write whose caller has gone. Its count is nobody's and is dropped; a failure is
kept for the next call, unless one is kept already. The answer is whether the bridge is free of
writes. -/
def settle (calls : StreamCalls World Reading Writing Closing)
    (bridge : Bridge Reading Writing Closing) (world : World) :
    (Bridge Reading Writing Closing × World) × Bool :=
  match bridge.pollWriting calls world with
  | (state, .idle) => (state, true)
  | (state, .waiting) => (state, false)
  | (state, .done (.ok _)) => (state, true)
  | ((bridge, world), .done (.error failure)) =>
    (({ bridge with writeFailure := some (bridge.writeFailure.getD failure) }, world), true)

def beginWrite (ticket : Ticket) (data : Bytes) (bridge : Bridge Reading Writing Closing) :
    Bridge Reading Writing Closing × Option Failure :=
  if bridge.writing.isSome then (bridge, none)
  else match bridge.writeFailure with
    | some failure => ({ bridge with writeFailure := none }, some failure)
    | none =>
      ({ bridge with writing := some { ticket, request := data }, inFlight := some data }, none)

/-- Polls for a write of these bytes. A write in flight with the same bytes is taken to be this one;
one with others has lost its caller and is settled first. The ticket is for a new one. -/
def pollWrite (calls : StreamCalls World Reading Writing Closing) (ticket : Ticket) (data : Bytes)
    (bridge : Bridge Reading Writing Closing) (world : World) :
    (Bridge Reading Writing Closing × World) × Polled Nat :=
  let abandoned := bridge.inFlight.any fun given => given != data
  match if abandoned then bridge.settle calls world else ((bridge, world), true) with
  | (state, false) => (state, none)
  | ((bridge, world), true) =>
    match bridge.beginWrite ticket data with
    | (bridge, some failure) => ((bridge, world), some (.error failure))
    | (bridge, none) =>
      match bridge.pollWriting calls world with
      | (state, .idle) => (state, some (.ok 0))
      | (state, .waiting) => (state, none)
      | (state, .done result) => (state, some result)

def pollFlush (calls : StreamCalls World Reading Writing Closing)
    (bridge : Bridge Reading Writing Closing) (world : World) :
    (Bridge Reading Writing Closing × World) × Polled Unit :=
  match bridge.settle calls world with
  | (state, false) => (state, none)
  | ((bridge, world), true) =>
    match bridge.writeFailure with
    | some failure => (({ bridge with writeFailure := none }, world), some (.error failure))
    | none => ((bridge, world), some (.ok ()))

def pollShutdown (calls : StreamCalls World Reading Writing Closing) (ticket : Ticket)
    (bridge : Bridge Reading Writing Closing) (world : World) :
    (Bridge Reading Writing Closing × World) × Polled Unit :=
  match bridge.settle calls world with
  | (state, false) => (state, none)
  | ((bridge, world), true) =>
    let call := bridge.closing.getD { ticket, request := () }
    match pollCall calls.close call world with
    | (world, .waiting call) => (({ bridge with closing := some call }, world), none)
    | (world, .ready outcome) =>
      (({ bridge with closing := none }, world), some (outcome.mapError StreamError.toFailure))

def dismiss (calls : StreamCalls World Reading Writing Closing)
    (bridge : Bridge Reading Writing Closing) (world : World) : World :=
  let world := match bridge.reading with
    | some call => cancelCall (calls.read call.request) call world
    | none => world
  let world := match bridge.writing with
    | some call => cancelCall (calls.write call.request) call world
    | none => world
  match bridge.closing with
  | some call => cancelCall calls.close call world
  | none => world

end Bridge

end MessageStream
