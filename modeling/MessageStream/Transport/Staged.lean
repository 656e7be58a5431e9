import MessageStream.Gate
import MessageStream.Line
import MessageStream.Transport.Basic

/-!
Staged connections: every call has a list of actions, which say where it waits, how it fails and
what it yields. They produce the faults that other connections do not show.
-/
namespace MessageStream.Staged

inductive Action where
  | yield (data : Bytes)
  | take (count : Nat)
  | fail (failure : Failure)
  | wait (gate : Nat)

structure ReaderPlan where
  opening : List Action := []
  reading : List Action := []

structure WriterPlan where
  opening : List Action := []
  writing : List Action := []
  finishing : List Action := []

structure World where
  readers : List ReaderPlan := []
  writers : List WriterPlan := []
  closing : List Action := []
  closeLine : Line := []
  gates : Gates := fun _ => {}
  sent : List Message := []

structure Writer where
  kind : MessageKind
  plan : WriterPlan
  payload : Bytes := []

/-- An opening waits with the plan it has taken. A reader is the rest of its actions. -/
@[reducible] def signature : Signature where
  World := World
  Reader := List Action
  Writer := Writer
  ReaderOpening := ReaderPlan
  WriterOpening := WriterPlan
  Reading := Unit
  Writing := Unit
  Finishing := Unit
  Closing := Unit

inductive Clearing where
  | waiting
  | failed (failure : Failure)
  | clear

/-- Passes the waits at the front of a list, and takes a failure found behind them. A wait is
removed once it is over. -/
def clear (ticket : Ticket) : List Action → Gates → (List Action × Gates) × Clearing
  | .wait gate :: rest, gates =>
    match gates.pass gate ticket with
    | (gates, true) => clear ticket rest gates
    | (gates, false) => ((.wait gate :: rest, gates), .waiting)
  | .fail failure :: rest, gates => ((rest, gates), .failed failure)
  | actions, gates => ((actions, gates), .clear)

def leave (ticket : Ticket) : List Action → Gates → Gates
  | .wait gate :: _, gates => gates.leave gate ticket
  | _, gates => gates

def openPlan {Plan Opened : Type} (front : Plan → List Action) (replace : Plan → List Action → Plan)
    (result : Plan → Opened) (ticket : Ticket) (plan : Plan) (world : World) :
    World × Progress Plan (Except Failure Opened) :=
  match clear ticket (front plan) world.gates with
  | ((actions, gates), .waiting) => ({ world with gates }, .waiting (replace plan actions))
  | ((_, gates), .failed failure) => ({ world with gates }, .ready (.error failure))
  | ((_, gates), .clear) => ({ world with gates }, .ready (.ok (result plan)))

def openReader (ticket : Ticket) (plan : ReaderPlan) (world : World) :
    World × Progress ReaderPlan (Except Failure (List Action)) :=
  openPlan (·.opening) (fun plan opening => { plan with opening }) (·.reading) ticket plan world

def nextReader : Operation World ReaderPlan (Except Failure (List Action)) where
  poll ticket stage world :=
    match stage, world.readers with
    | some plan, _ => openReader ticket plan world
    | none, [] => (world, .ready (.error (.withText .connectionAborted "no more readers")))
    | none, plan :: rest => openReader ticket plan { world with readers := rest }
  cancel ticket plan world := { world with gates := leave ticket plan.opening world.gates }

def openWriter (kind : MessageKind) (ticket : Ticket) (plan : WriterPlan) (world : World) :
    World × Progress WriterPlan (Except Failure Writer) :=
  openPlan (·.opening) (fun plan opening => { plan with opening }) (fun plan => { kind, plan })
    ticket plan world

def nextWriter (kind : MessageKind) : Operation World WriterPlan (Except Failure Writer) where
  poll ticket stage world :=
    match stage with
    | some plan => openWriter kind ticket plan world
    | none =>
      openWriter kind ticket (world.writers.headD {}) { world with writers := world.writers.tail }
  cancel ticket plan world := { world with gates := leave ticket plan.opening world.gates }

/-- What a read past its waits takes from the actions. Anything but bytes is the end of the message,
and stays. -/
def yieldFrom (room : Nat) : List Action → List Action × Bytes
  | .yield data :: rest =>
    if data.length ≤ room then (rest, data)
    else (.yield (data.drop room) :: rest, data.take room)
  | actions => (actions, [])

def read (room : Nat) : Operation (List Action × World) Unit (Except Failure Bytes) where
  poll ticket _ whole :=
    match clear ticket whole.1 whole.2.gates with
    | ((actions, gates), .waiting) => ((actions, { whole.2 with gates }), .waiting ())
    | ((actions, gates), .failed failure) =>
      ((actions, { whole.2 with gates }), .ready (.error failure))
    | ((actions, gates), .clear) =>
      let taken := yieldFrom room actions
      ((taken.1, { whole.2 with gates }), .ready (.ok taken.2))
  cancel ticket _ whole := (whole.1, { whole.2 with gates := leave ticket whole.1 whole.2.gates })

def acceptBy (offered : Nat) : List Action → List Action × Nat
  | .take count :: rest => (rest, min offered count)
  | actions => (actions, offered)

def write (data : Bytes) : Operation (Writer × World) Unit (Except Failure Nat) where
  poll ticket _ whole :=
    let resume := fun actions : List Action =>
      { whole.1 with plan := { whole.1.plan with writing := actions } }
    match clear ticket whole.1.plan.writing whole.2.gates with
    | ((actions, gates), .waiting) => ((resume actions, { whole.2 with gates }), .waiting ())
    | ((actions, gates), .failed failure) =>
      ((resume actions, { whole.2 with gates }), .ready (.error failure))
    | ((actions, gates), .clear) =>
      let accepted := acceptBy data.length actions
      (({ resume accepted.1 with payload := whole.1.payload ++ data.take accepted.2 },
        { whole.2 with gates }), .ready (.ok accepted.2))
  cancel ticket _ whole :=
    (whole.1, { whole.2 with gates := leave ticket whole.1.plan.writing whole.2.gates })

/-- Finishing sends what has been written since the last finish. -/
def finish : Operation (Writer × World) Unit (Except Failure Unit) where
  poll ticket _ whole :=
    let resume := fun actions : List Action =>
      { whole.1 with plan := { whole.1.plan with finishing := actions } }
    match clear ticket whole.1.plan.finishing whole.2.gates with
    | ((actions, gates), .waiting) => ((resume actions, { whole.2 with gates }), .waiting ())
    | ((actions, gates), .failed failure) =>
      ((resume actions, { whole.2 with gates }), .ready (.error failure))
    | ((actions, gates), .clear) =>
      (({ resume actions with payload := [] },
        { whole.2 with gates, sent := whole.2.sent ++ [⟨whole.1.kind, whole.1.payload⟩] }),
        .ready (.ok ()))
  cancel ticket _ whole :=
    (whole.1, { whole.2 with gates := leave ticket whole.1.plan.finishing whole.2.gates })

def closeInTurn (ticket : Ticket) (world : World) : World × Progress Unit (Except Failure Unit) :=
  let done := fun (actions : List Action) (gates : Gates) =>
    { world with closing := actions, gates, closeLine := world.closeLine.leave ticket }
  match clear ticket world.closing world.gates with
  | ((actions, gates), .waiting) => ({ world with closing := actions, gates }, .waiting ())
  | ((actions, gates), .failed failure) => (done actions gates, .ready (.error failure))
  | ((actions, gates), .clear) => (done actions gates, .ready (.ok ()))

def close : Operation World Unit (Except Failure Unit) where
  poll ticket _ world :=
    let world := { world with closeLine := world.closeLine.join ticket }
    if world.closeLine.admits ticket then closeInTurn ticket world else (world, .waiting ())
  cancel ticket _ world :=
    { world with
      gates := if world.closeLine.admits ticket then leave ticket world.closing world.gates
        else world.gates
      closeLine := world.closeLine.leave ticket }

def transport : Transport signature where
  nextReader := nextReader
  nextWriter := nextWriter
  read := read
  write := write
  finish := finish
  close := close
  dropWriter _ world := world
  drop world := world
  supply world := world.readers.length

end MessageStream.Staged
