import MessageStream.Line
import MessageStream.Transport.Basic

/-!
Pairs of connections in memory. A message finished on one end arrives whole and in order on the
other.

Each end has an inbox, which lives as long as the connection of that end has an owner. The senders
into an inbox are counted: the opposite connection is one until it is closed or gone, and so is each
of its unfinished writers. An inbox that is empty and has no senders left is at its end.
-/
namespace MessageStream.Pair

inductive Side where
  | left
  | right
  deriving DecidableEq, Repr, Inhabited

def Side.other : Side → Side
  | left => right
  | right => left

@[simp] theorem Side.other_other (side : Side) : side.other.other = side := by
  cases side <;> rfl

theorem Side.other_ne (side : Side) : side.other ≠ side := by
  cases side <;> simp [other]

structure Endpoint where
  alive : Bool := true
  closed : Bool := false
  inbox : List Message := []
  senders : Nat := 1
  line : Line := []

structure World where
  left : Endpoint := {}
  right : Endpoint := {}

namespace World

def endpoint (world : World) : Side → Endpoint
  | .left => world.left
  | .right => world.right

def change (world : World) (side : Side) (change : Endpoint → Endpoint) : World :=
  match side with
  | .left => { world with left := change world.left }
  | .right => { world with right := change world.right }

@[simp] theorem endpoint_change_same (world : World) (side : Side) (change : Endpoint → Endpoint) :
    (world.change side change).endpoint side = change (world.endpoint side) := by
  cases side <;> rfl

@[simp] theorem endpoint_change_other (world : World) (side : Side) (change : Endpoint → Endpoint) :
    (world.change side change).endpoint side.other = world.endpoint side.other := by
  cases side <;> rfl

@[simp] theorem endpoint_change_from_other (world : World) (side : Side)
    (change : Endpoint → Endpoint) :
    (world.change side.other change).endpoint side = world.endpoint side := by
  cases side <;> rfl

end World

structure Writer where
  side : Side
  kind : MessageKind
  payload : Bytes := []
  finished : Bool := false

/-- Only the wait for a message can last. A reader is the rest of its message. -/
@[reducible] def signature : Signature where
  World := World
  Reader := Bytes
  Writer := Writer
  ReaderOpening := Unit
  WriterOpening := Empty
  Reading := Empty
  Writing := Empty
  Finishing := Empty
  Closing := Empty

def notConnected : Failure := .withText .notConnected "connection closed"

def peerClosed (kind : FailureKind) : Failure := .withText kind "peer closed connection"

def alreadyFinal : Failure := .withText .other "message already finalized"

def put (side : Side) (message : Message) (world : World) : World × Except Failure Unit :=
  if (world.endpoint side.other).alive then
    (world.change side.other fun peer => { peer with inbox := peer.inbox ++ [message] }, .ok ())
  else (world, .error (peerClosed .brokenPipe))

def dropSender (side : Side) (world : World) : World :=
  world.change side.other fun peer => { peer with senders := peer.senders - 1 }

def send (side : Side) (message : Message) (world : World) : World × Except Failure Unit :=
  if (world.endpoint side).closed then (world, .error notConnected) else put side message world

def take (side : Side) (ticket : Ticket) (world : World) :
    World × Progress Unit (Except Failure Message) :=
  let endpoint := world.endpoint side
  let leave := world.change side fun endpoint =>
    { endpoint with line := endpoint.line.leave ticket }
  if endpoint.closed then (leave, .ready (.error notConnected))
  else match endpoint.inbox with
    | message :: rest =>
      (leave.change side fun endpoint => { endpoint with inbox := rest }, .ready (.ok message))
    | [] =>
      if endpoint.senders = 0 then (leave, .ready (.error (peerClosed .unexpectedEof)))
      else (world, .waiting ())

/-- Receives the next message. Receives are served in order of arrival; one already begun fails when
its turn comes on an end closed meanwhile. -/
def receive (side : Side) : Operation World Unit (Except Failure Message) where
  poll ticket stage world :=
    if stage.isNone && (world.endpoint side).closed then (world, .ready (.error notConnected))
    else
      let world := world.change side fun endpoint =>
        { endpoint with line := endpoint.line.join ticket }
      if (world.endpoint side).line.admits ticket then take side ticket world
      else (world, .waiting ())
  cancel ticket _ world :=
    world.change side fun endpoint => { endpoint with line := endpoint.line.leave ticket }

def nextReader (side : Side) : Operation World Unit (Except Failure Bytes) :=
  (receive side).map fun result => result.map (·.payload)

/-- A new writer is one more sender into the inbox opposite. -/
def nextWriter (side : Side) (kind : MessageKind) :
    Operation World Empty (Except Failure Writer) :=
  .instant fun world =>
    if (world.endpoint side).closed then (world, .error notConnected)
    else (world.change side.other fun peer => { peer with senders := peer.senders + 1 },
      .ok { side, kind })

def read (room : Nat) : Operation (Bytes × World) Empty (Except Failure Bytes) :=
  .instant fun whole => ((whole.1.drop room, whole.2), .ok (whole.1.take room))

def writeNow (data : Bytes) (writer : Writer) : Writer × Except Failure Nat :=
  if writer.finished then (writer, .error alreadyFinal)
  else ({ writer with payload := writer.payload ++ data }, .ok data.length)

def write (data : Bytes) : Operation (Writer × World) Empty (Except Failure Nat) :=
  .instant fun whole =>
    let written := writeNow data whole.1
    ((written.1, whole.2), written.2)

/-- Finishing sends the message and gives the writer's place among the senders up, whether or not
the message arrives. -/
def finishNow (writer : Writer) (world : World) : (Writer × World) × Except Failure Unit :=
  if writer.finished then ((writer, world), .error alreadyFinal)
  else
    let delivered := put writer.side ⟨writer.kind, writer.payload⟩ world
    (({ writer with finished := true, payload := [] }, dropSender writer.side delivered.1),
      delivered.2)

def finish : Operation (Writer × World) Empty (Except Failure Unit) :=
  .instant fun whole => finishNow whole.1 whole.2

def close (side : Side) : Operation World Empty (Except Failure Unit) :=
  .instant fun world =>
    if (world.endpoint side).closed then (world, .error notConnected)
    else
      (dropSender side (world.change side fun endpoint => { endpoint with closed := true }),
        .ok ())

def dropWriter (writer : Writer) (world : World) : World :=
  if writer.finished then world else dropSender writer.side world

/-- Without an owner a connection loses its inbox, and its place among the senders unless closing
has given that up before. -/
def drop (side : Side) (world : World) : World :=
  let gone := world.change side fun endpoint => { endpoint with alive := false, inbox := [] }
  if (world.endpoint side).closed then gone else dropSender side gone

def transport (side : Side) : Transport signature where
  nextReader := nextReader side
  nextWriter := nextWriter side
  read := read
  write := write
  finish := finish
  close := close side
  dropWriter := dropWriter
  drop := drop side
  supply world := (world.endpoint side).inbox.length

end MessageStream.Pair
