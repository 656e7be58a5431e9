import MessageStream.Gate
import MessageStream.Transport.Basic

/-!
Scripted connections: inbound messages come from a list, outbound messages go to a record, and gates
and faults can be put in the way. Of its calls only openings and writes can wait, each at its gate.
-/
namespace MessageStream.Scripted

abbrev Inbound := Except FailureKind Bytes

/-- The settings of a scripted connection. A setting left out puts nothing in the way. -/
structure Setup where
  readChunk : Option Nat := none
  writeChunk : Option Nat := none
  writeLimit : Option Nat := none
  failNextWriter : Bool := false
  failFinish : Bool := false
  failClose : Bool := false
  readerGate : Option Nat := none
  writerGate : Option Nat := none
  writeGate : Option Nat := none

structure World where
  inbound : List Inbound
  closed : Bool := false
  gates : Gates := fun _ => {}
  sent : List Message := []
  readersOpened : Nat := 0
  writersOpened : Nat := 0
  finishes : Nat := 0
  closes : Nat := 0

structure Writer where
  kind : MessageKind
  payload : Bytes := []
  finished : Bool := false

/-- An opening waits holding what it has taken from the list. A reader is the rest of its
message. -/
@[reducible] def signature : Signature where
  World := World
  Reader := Bytes
  Writer := Writer
  ReaderOpening := Option Inbound
  WriterOpening := Unit
  Reading := Empty
  Writing := Unit
  Finishing := Empty
  Closing := Empty

def notConnected : Failure := .withText .notConnected "connection closed"

def alreadyFinal : Failure := .withText .other "message already finalized"

def pass (gate : Option Nat) (ticket : Ticket) (world : World) : World × Bool :=
  match gate with
  | none => (world, true)
  | some number =>
    let passed := world.gates.pass number ticket
    ({ world with gates := passed.1 }, passed.2)

def leave (gate : Option Nat) (ticket : Ticket) (world : World) : World :=
  match gate with
  | none => world
  | some number => { world with gates := world.gates.leave number ticket }

def handOut (item : Option Inbound) (world : World) : World × Except Failure Bytes :=
  match item with
  | some (.ok payload) => ({ world with readersOpened := world.readersOpened + 1 }, .ok payload)
  | some (.error kind) => (world, .error (.withText kind "scripted inbound failure"))
  | none => (world, .error (.withText .connectionAborted "inbound script exhausted"))

def handOutAt (gate : Option Nat) (item : Option Inbound) (ticket : Ticket) (world : World) :
    World × Progress (Option Inbound) (Except Failure Bytes) :=
  match pass gate ticket world with
  | (world, true) =>
    let handed := handOut item world
    (handed.1, .ready handed.2)
  | (world, false) => (world, .waiting item)

def nextReader (setup : Setup) :
    Operation World (Option Inbound) (Except Failure Bytes) where
  poll ticket stage world :=
    match stage with
    | some item => handOutAt setup.readerGate item ticket world
    | none =>
      if world.closed then (world, .ready (.error notConnected))
      else handOutAt setup.readerGate world.inbound.head? ticket
        { world with inbound := world.inbound.tail }
  cancel ticket _ world := leave setup.readerGate ticket world

def writerAt (setup : Setup) (kind : MessageKind) (ticket : Ticket) (world : World) :
    World × Progress Unit (Except Failure Writer) :=
  match pass setup.writerGate ticket world with
  | (world, true) => (world, .ready (.ok { kind }))
  | (world, false) => (world, .waiting ())

def nextWriter (setup : Setup) (kind : MessageKind) :
    Operation World Unit (Except Failure Writer) where
  poll ticket stage world :=
    match stage with
    | some () => writerAt setup kind ticket world
    | none =>
      if world.closed then (world, .ready (.error notConnected))
      else if setup.failNextWriter then
        (world, .ready (.error (.withText .connectionReset "scripted writer failure")))
      else writerAt setup kind ticket { world with writersOpened := world.writersOpened + 1 }
  cancel ticket _ world := leave setup.writerGate ticket world

def bounded (bound : Option Nat) (count : Nat) : Nat :=
  match bound with
  | none => count
  | some most => min count most

theorem bounded_le (bound : Option Nat) (count : Nat) : bounded bound count ≤ count := by
  cases bound with
  | none => exact Nat.le_refl count
  | some most => exact Nat.min_le_left count most

def read (setup : Setup) (room : Nat) : Operation (Bytes × World) Empty (Except Failure Bytes) :=
  .instant fun whole =>
    let count := bounded setup.readChunk (min room whole.1.length)
    ((whole.1.drop count, whole.2), .ok (whole.1.take count))

def accepts (setup : Setup) (writer : Writer) (offered : Nat) : Nat :=
  bounded setup.writeChunk (bounded (setup.writeLimit.map (· - writer.payload.length)) offered)

def writeNow (setup : Setup) (data : Bytes) (writer : Writer) : Writer × Except Failure Nat :=
  if writer.finished then (writer, .error alreadyFinal)
  else
    let count := accepts setup writer data.length
    ({ writer with payload := writer.payload ++ data.take count }, .ok count)

def write (setup : Setup) (data : Bytes) :
    Operation (Writer × World) Unit (Except Failure Nat) where
  poll ticket _ whole :=
    match pass setup.writeGate ticket whole.2 with
    | (world, true) =>
      let written := writeNow setup data whole.1
      ((written.1, world), .ready written.2)
    | (world, false) => ((whole.1, world), .waiting ())
  cancel ticket _ whole := (whole.1, leave setup.writeGate ticket whole.2)

/-- Finishing counts every attempt. A message whose finishing fails is neither sent nor emptied. -/
def finishNow (setup : Setup) (writer : Writer) (world : World) :
    (Writer × World) × Except Failure Unit :=
  let world := { world with finishes := world.finishes + 1 }
  if writer.finished then ((writer, world), .error alreadyFinal)
  else if setup.failFinish then
    (({ writer with finished := true }, world), .error (.withText .brokenPipe "finish failed"))
  else
    (({ writer with finished := true, payload := [] },
      { world with sent := world.sent ++ [⟨writer.kind, writer.payload⟩] }), .ok ())

def finish (setup : Setup) : Operation (Writer × World) Empty (Except Failure Unit) :=
  .instant fun whole => finishNow setup whole.1 whole.2

def close (setup : Setup) : Operation World Empty (Except Failure Unit) :=
  .instant fun world =>
    ({ world with closes := world.closes + 1, closed := true },
      if setup.failClose then .error (.withText .brokenPipe "close failed") else .ok ())

def transport (setup : Setup) : Transport signature where
  nextReader := nextReader setup
  nextWriter := nextWriter setup
  read := read setup
  write := write setup
  finish := finish setup
  close := close setup
  dropWriter _ world := world
  drop world := world
  supply world := world.inbound.length

end MessageStream.Scripted
