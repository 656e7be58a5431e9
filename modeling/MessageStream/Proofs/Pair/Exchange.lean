import MessageStream.Proofs.Pair.Talk

/-!
Everything the two ends of a pair can be used for, in any order: messages are sent whole, or written
and finished; receives wait in line, race against a close of their own end and are given up; ends
are closed and given up. A record is kept of what has been done and what came of it.

A receive that could bring a message on an end that has just been closed may do so or fail. The
receives here leave that open, and those of a connection are the ones that always fail.
-/
namespace MessageStream

def Operation.now {World Answer : Type} (operation : Operation World Empty Answer) (world : World) :
    World × Answer :=
  match operation.poll 0 none world with
  | (_, .waiting stage) => nomatch stage
  | (world, .ready answer) => (world, answer)

namespace Pair

/-- A receive whose turn it is. The wait for a message and the wait for a close are over at the same
time where the end is closed and a message, or the end of all messages, is there as well. Either may
then be noticed first. -/
def takeRacing (messageFirst : Bool) (side : Side) (ticket : Ticket) (world : World) :
    World × Progress Unit (Except Failure Message) :=
  let endpoint := world.endpoint side
  let leave := world.change side fun endpoint =>
    { endpoint with line := endpoint.line.leave ticket }
  let refused := (leave, .ready (.error notConnected))
  match endpoint.inbox with
  | message :: rest =>
    if endpoint.closed && !messageFirst then refused
    else (leave.change side fun endpoint => { endpoint with inbox := rest }, .ready (.ok message))
  | [] =>
    if endpoint.senders = 0 then
      if endpoint.closed && !messageFirst then refused
      else (leave, .ready (.error (peerClosed .unexpectedEof)))
    else if endpoint.closed then refused
    else (world, .waiting ())

theorem takeRacing_false (side : Side) (ticket : Ticket) (world : World) :
    takeRacing false side ticket world = take side ticket world := by
  simp only [takeRacing, take, Bool.not_false, Bool.and_true]
  cases (world.endpoint side).inbox with
  | cons message rest => rfl
  | nil => split <;> split <;> simp_all

def receiveRacing (messageFirst : Bool) (side : Side) :
    Operation World Unit (Except Failure Message) where
  poll ticket stage world :=
    if stage.isNone && (world.endpoint side).closed then (world, .ready (.error notConnected))
    else
      let world := world.change side fun endpoint =>
        { endpoint with line := endpoint.line.join ticket }
      if (world.endpoint side).line.admits ticket then takeRacing messageFirst side ticket world
      else (world, .waiting ())
  cancel := (receive side).cancel

theorem receiveRacing_false (side : Side) : receiveRacing false side = receive side := by
  unfold receiveRacing receive
  simp only [takeRacing_false]

/-- What a poll of a receive can do. Its place in the line is its own affair. -/
inductive Turn (side : Side) (world : World) :
    World → Progress Unit (Except Failure Message) → Prop where
  | refuses (line : Line) (closed : (world.endpoint side).closed = true) :
    Turn side world (world.change side fun endpoint => { endpoint with line })
      (.ready (.error notConnected))
  | waits (line : Line) :
    Turn side world (world.change side fun endpoint => { endpoint with line }) (.waiting ())
  | takes (line : Line) {message : Message} {rest : List Message}
      (arrived : (world.endpoint side).inbox = message :: rest) :
    Turn side world (world.change side fun endpoint => { endpoint with line, inbox := rest })
      (.ready (.ok message))
  | ends (line : Line) (empty : (world.endpoint side).inbox = [])
      (alone : (world.endpoint side).senders = 0) :
    Turn side world (world.change side fun endpoint => { endpoint with line })
      (.ready (.error (peerClosed .unexpectedEof)))

theorem World.change_line (world : World) (side : Side) :
    (world.change side fun endpoint => { endpoint with line := (world.endpoint side).line }) =
      world := by
  cases side <;> rfl

theorem World.change_own_line (world : World) (side : Side) (move : Line → Line) :
    (world.change side fun endpoint => { endpoint with line := move endpoint.line }) =
      world.change side fun endpoint =>
        { endpoint with line := move (world.endpoint side).line } := by
  cases side <;> rfl

theorem takeRacing_turns (messageFirst : Bool) (side : Side) (ticket : Ticket) (world : World) :
    Turn side world (takeRacing messageFirst side ticket world).1
      (takeRacing messageFirst side ticket world).2 := by
  unfold takeRacing
  rw [world.change_own_line side fun line => line.leave ticket]
  dsimp only
  split
  · rename_i message rest arrived
    split
    · rename_i refused
      exact .refuses _ (Bool.and_eq_true_iff.mp refused).1
    · rw [World.change_change]
      exact .takes _ arrived
  · rename_i empty
    split
    · rename_i alone
      split
      · rename_i refused
        exact .refuses _ (Bool.and_eq_true_iff.mp refused).1
      · exact .ends _ empty alone
    · split
      · rename_i closed
        exact .refuses _ closed
      · have waits : Turn side world _ (.waiting ()) := .waits (world.endpoint side).line
        rwa [world.change_line] at waits

theorem Turn.of_line {side : Side} {world after : World}
    {progress : Progress Unit (Except Failure Message)} (line : Line)
    (turn : Turn side (world.change side fun endpoint => { endpoint with line }) after progress) :
    Turn side world after progress := by
  cases turn with
  | refuses line closed =>
    rw [World.change_change]
    rw [World.endpoint_change_same] at closed
    exact .refuses line closed
  | waits line =>
    rw [World.change_change]
    exact .waits line
  | takes line arrived =>
    rw [World.change_change]
    rw [World.endpoint_change_same] at arrived
    exact .takes line arrived
  | ends line empty alone =>
    rw [World.change_change]
    rw [World.endpoint_change_same] at empty alone
    exact .ends line empty alone

theorem receiveRacing_turns (messageFirst : Bool) (side : Side) (ticket : Ticket)
    (stage : Option Unit) (world : World) :
    Turn side world ((receiveRacing messageFirst side).poll ticket stage world).1
      ((receiveRacing messageFirst side).poll ticket stage world).2 := by
  simp only [receiveRacing]
  split
  · rename_i refused
    have refuses : Turn side world _ (.ready (.error notConnected)) :=
      .refuses (world.endpoint side).line (Bool.and_eq_true_iff.mp refused).2
    rwa [world.change_line] at refuses
  · rw [world.change_own_line side fun line => line.join ticket]
    split
    · exact (takeRacing_turns messageFirst side ticket _).of_line
    · exact .waits _

/-- What a receive asks for: the next message, or a reader of it. -/
inductive Wanted where
  | message
  | reader
  deriving DecidableEq

/-- What a receive brings: a whole message, or a reader with its payload. -/
inductive Receipt where
  | message (message : Message)
  | reader (payload : Bytes)
  deriving DecidableEq

def Wanted.receipt : Wanted → Message → Receipt
  | .message, whole => .message whole
  | .reader, whole => .reader whole.payload

def Wanted.receive (wanted : Wanted) (messageFirst : Bool) (side : Side) :
    Operation World Unit (Except Failure Receipt) :=
  (receiveRacing messageFirst side).map fun result => result.map wanted.receipt

theorem Wanted.message_receive (side : Side) :
    message.receive false side = (Pair.receive side).map fun result => result.map .message := by
  rw [Wanted.receive, receiveRacing_false]
  rfl

theorem Wanted.reader_receive (side : Side) :
    reader.receive false side = (nextReader side).map fun result => result.map .reader := by
  rw [Wanted.receive, receiveRacing_false, nextReader]
  simp only [Operation.map]
  congr 1
  funext ticket stage world
  rcases ((Pair.receive side).poll ticket stage world).2 with stage | failure | message <;> rfl

/-- A message as its author sees it: the kind asked for, the bytes that have been taken, and the
writer unless it has been given up. -/
structure Draft where
  side : Side
  kind : MessageKind
  payload : Bytes := []
  writer : Option Writer

def Draft.unfinished (draft : Draft) : Bool := draft.writer.any fun writer => !writer.finished

structure Reception where
  side : Side
  wanted : Wanted
  phase : Phase Unit (Except Failure Receipt) := .fresh

/-- What has been done with the ends of a pair, and what came of it. A message counts as sent
whether it was sent whole or finished in its writer. -/
inductive Deed where
  | sent (side : Side) (message : Message) (result : Except Failure Unit)
  | opened (side : Side) (kind : MessageKind) (result : Except Failure Unit)
  | received (side : Side) (result : Except Failure Receipt)
  | closed (side : Side) (result : Except Failure Unit)
  | gone (side : Side)
  deriving DecidableEq

/-- The two ends in use. -/
structure Exchange where
  world : World := {}
  drafts : List Draft := []
  receptions : List Reception := []
  record : List Deed := []

namespace Exchange

inductive Action where
  | send (side : Side) (message : Message)
  | openWriter (side : Side) (kind : MessageKind)
  | write (number : Nat) (data : Bytes)
  | finish (number : Nat)
  | dropWriter (number : Nat)
  | receive (side : Side) (wanted : Wanted)
  | poll (number : Nat) (messageFirst : Bool)
  | cancel (number : Nat)
  | close (side : Side)
  | drop (side : Side)

def owned (exchange : Exchange) (side : Side) : Bool := (exchange.world.endpoint side).alive

def note (exchange : Exchange) (deed : Deed) : Exchange :=
  { exchange with record := exchange.record ++ [deed] }

def send (exchange : Exchange) (side : Side) (message : Message) : Exchange :=
  let sent := Pair.send side message exchange.world
  note { exchange with world := sent.1 } (.sent side message sent.2)

def openWriter (exchange : Exchange) (side : Side) (kind : MessageKind) : Exchange :=
  match ((transport side).nextWriter kind).now exchange.world with
  | (world, .error failure) => note { exchange with world } (.opened side kind (.error failure))
  | (world, .ok writer) =>
    note { exchange with
      world
      drafts := exchange.drafts ++ [{ side, kind, writer := some writer }] }
      (.opened side kind (.ok ()))

def onWriter (exchange : Exchange) (number : Nat)
    (act : Draft → Writer → Exchange → Draft × Exchange) : Exchange :=
  match exchange.drafts[number]? with
  | some draft =>
    match draft.writer with
    | some writer =>
      let acted := act draft writer exchange
      { acted.2 with drafts := acted.2.drafts.set number acted.1 }
    | none => exchange
  | none => exchange

def write (data : Bytes) (draft : Draft) (writer : Writer) (exchange : Exchange) :
    Draft × Exchange :=
  let written := ((transport draft.side).write data).now (writer, exchange.world)
  let taken := match written.2 with
    | .ok count => data.take count
    | .error _ => []
  ({ draft with payload := draft.payload ++ taken, writer := some written.1.1 },
    { exchange with world := written.1.2 })

def finish (draft : Draft) (writer : Writer) (exchange : Exchange) : Draft × Exchange :=
  let finished := (transport draft.side).finish.now (writer, exchange.world)
  ({ draft with writer := some finished.1.1 },
    note { exchange with world := finished.1.2 }
      (.sent draft.side ⟨draft.kind, draft.payload⟩ finished.2))

def dropWriter (draft : Draft) (writer : Writer) (exchange : Exchange) : Draft × Exchange :=
  ({ draft with writer := none },
    { exchange with world := (transport draft.side).dropWriter writer exchange.world })

def poll (exchange : Exchange) (number : Nat) (messageFirst : Bool) : Exchange :=
  match exchange.receptions[number]? with
  | some reception =>
    if reception.phase.isOver then exchange
    else
      let polled := Phase.poll (reception.wanted.receive messageFirst reception.side) number
        (exchange.world, reception.phase)
      { exchange with
        world := polled.1
        receptions := exchange.receptions.set number { reception with phase := polled.2 }
        record := exchange.record ++ (polled.2.answer?.map (.received reception.side)).toList }
  | none => exchange

def cancel (exchange : Exchange) (number : Nat) : Exchange :=
  match exchange.receptions[number]? with
  | some reception =>
    let dropped := Phase.drop (reception.wanted.receive false reception.side) number
      (exchange.world, reception.phase)
    { exchange with
      world := dropped.1
      receptions := exchange.receptions.set number { reception with phase := dropped.2 } }
  | none => exchange

def close (exchange : Exchange) (side : Side) : Exchange :=
  let closed := (transport side).close.now exchange.world
  note { exchange with world := closed.1 } (.closed side closed.2)

def idle (exchange : Exchange) (side : Side) : Bool :=
  exchange.receptions.all fun reception => reception.side != side || reception.phase.isOver

/-- A step in the use of a pair. Writers outlive the end they were opened on; for everything else
the end must have an owner. -/
def step (exchange : Exchange) : Action → Exchange
  | .send side message => if exchange.owned side then exchange.send side message else exchange
  | .openWriter side kind => if exchange.owned side then exchange.openWriter side kind else exchange
  | .write number data => exchange.onWriter number (write data)
  | .finish number => exchange.onWriter number finish
  | .dropWriter number => exchange.onWriter number dropWriter
  | .receive side wanted =>
    if exchange.owned side then
      { exchange with receptions := exchange.receptions ++ [{ side, wanted }] }
    else exchange
  | .poll number messageFirst => exchange.poll number messageFirst
  | .cancel number => exchange.cancel number
  | .close side => if exchange.owned side then exchange.close side else exchange
  | .drop side =>
    if exchange.owned side && exchange.idle side then
      note { exchange with world := (transport side).drop exchange.world } (.gone side)
    else exchange

def run (exchange : Exchange) (actions : List Action) : Exchange := actions.foldl step exchange

end Exchange

end Pair

end MessageStream
