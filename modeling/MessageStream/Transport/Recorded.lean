import MessageStream.Transport.Basic

/-!
Recorded connections: any connection, with a record of the calls made on it. A call is recorded when
it begins, before any wait, and again when it ends or is cancelled. Readers and writers are numbered
in the order in which they were handed out.
-/
namespace MessageStream

/-- A call on a connection, or on a reader or writer by number. -/
inductive Request where
  | nextReader
  | nextWriter (kind : MessageKind)
  | read (reader room : Nat)
  | write (writer : Nat) (data : Bytes)
  | finish (writer : Nat)
  | close
  deriving DecidableEq, Repr

inductive Reply where
  | opened (number : Nat)
  | yielded (data : Bytes)
  | accepted (count : Nat)
  | done
  | failed (failure : Failure)
  deriving DecidableEq, Repr

inductive Traffic where
  | begun (caller : Ticket) (request : Request)
  | ended (caller : Ticket) (request : Request) (reply : Reply)
  | cancelled (caller : Ticket) (request : Request)
  deriving DecidableEq, Repr

structure Numbered (Content : Type) where
  number : Nat
  content : Content

structure Recorded (World : Type) where
  inner : World
  traffic : List Traffic := []
  readers : Nat := 0
  writers : Nat := 0

namespace Request

def line : Request → String
  | nextReader => "next_reader"
  | nextWriter kind => "next_writer(" ++ kind.name ++ ")"
  | read reader room => "r" ++ toString reader ++ ".read(" ++ toString room ++ ")"
  | write writer data => "w" ++ toString writer ++ ".write(" ++ toString data.length ++ ")"
  | finish writer => "w" ++ toString writer ++ ".finish"
  | close => "close"

end Request

namespace Recorded

variable {World : Type}

def begun (recorded : Recorded World) : List Request :=
  recorded.traffic.filterMap fun
    | .begun _ request => some request
    | _ => none

def note (recorded : Recorded World) (entry : Traffic) : Recorded World :=
  { recorded with traffic := recorded.traffic ++ [entry] }

def noteBegin {Stage : Type} (stage : Option Stage) (ticket : Ticket) (request : Request)
    (recorded : Recorded World) : Recorded World :=
  if stage.isNone then recorded.note (.begun ticket request) else recorded

def noteEnd {Stage Answer : Type} (reply : Answer → Reply) (ticket : Ticket) (request : Request)
    (progress : Progress Stage (Except Failure Answer)) (recorded : Recorded World) :
    Recorded World :=
  match progress with
  | .waiting _ => recorded
  | .ready (.ok answer) => recorded.note (.ended ticket request (reply answer))
  | .ready (.error failure) => recorded.note (.ended ticket request (.failed failure))

def call {Stage Answer : Type} (request : Request) (reply : Answer → Reply)
    (operation : Operation World Stage (Except Failure Answer)) :
    Operation (Recorded World) Stage (Except Failure Answer) where
  poll ticket stage recorded :=
    let recorded := noteBegin stage ticket request recorded
    let polled := operation.poll ticket stage recorded.inner
    (noteEnd reply ticket request polled.2 { recorded with inner := polled.1 }, polled.2)
  cancel ticket stage recorded :=
    { recorded with inner := operation.cancel ticket stage recorded.inner }.note
      (.cancelled ticket request)

/-- A recorded call on a numbered reader or writer. -/
def callOn {Content Stage Answer : Type} (request : Nat → Request) (reply : Answer → Reply)
    (operation : Operation (Content × World) Stage (Except Failure Answer)) :
    Operation (Numbered Content × Recorded World) Stage (Except Failure Answer) where
  poll ticket stage whole :=
    let recorded := noteBegin stage ticket (request whole.1.number) whole.2
    let polled := operation.poll ticket stage (whole.1.content, recorded.inner)
    (({ whole.1 with content := polled.1.1 },
        noteEnd reply ticket (request whole.1.number) polled.2
          { recorded with inner := polled.1.2 }),
      polled.2)
  cancel ticket stage whole :=
    let cancelled := operation.cancel ticket stage (whole.1.content, whole.2.inner)
    ({ whole.1 with content := cancelled.1 },
      { whole.2 with inner := cancelled.2 }.note (.cancelled ticket (request whole.1.number)))

/-- A recorded opening: what is handed out gets the next number. -/
def opening {Stage Content : Type} (request : Request) (count : Recorded World → Nat)
    (counted : Recorded World → Recorded World)
    (operation : Operation World Stage (Except Failure Content)) :
    Operation (Recorded World) Stage (Except Failure (Numbered Content)) where
  poll ticket stage recorded :=
    let recorded := noteBegin stage ticket request recorded
    let polled := operation.poll ticket stage recorded.inner
    let recorded := { recorded with inner := polled.1 }
    let number := count recorded
    match polled.2 with
    | .waiting stage => (recorded, .waiting stage)
    | .ready (.error failure) =>
      (recorded.note (.ended ticket request (.failed failure)), .ready (.error failure))
    | .ready (.ok content) =>
      ((counted recorded).note (.ended ticket request (.opened number)),
        .ready (.ok { number, content }))
  cancel ticket stage recorded :=
    { recorded with inner := operation.cancel ticket stage recorded.inner }.note
      (.cancelled ticket request)

end Recorded

@[reducible] def Signature.recorded (S : Signature) : Signature where
  World := Recorded S.World
  Reader := Numbered S.Reader
  Writer := Numbered S.Writer
  ReaderOpening := S.ReaderOpening
  WriterOpening := S.WriterOpening
  Reading := S.Reading
  Writing := S.Writing
  Finishing := S.Finishing
  Closing := S.Closing

/-- The connection with a record of the calls made on it. -/
def Transport.recorded {S : Signature} (T : Transport S) : Transport S.recorded where
  nextReader := Recorded.opening .nextReader (·.readers)
    (fun recorded => { recorded with readers := recorded.readers + 1 }) T.nextReader
  nextWriter kind := Recorded.opening (.nextWriter kind) (·.writers)
    (fun recorded => { recorded with writers := recorded.writers + 1 }) (T.nextWriter kind)
  read room := Recorded.callOn (.read · room) .yielded (T.read room)
  write data := Recorded.callOn (.write · data) .accepted (T.write data)
  finish := Recorded.callOn .finish (fun () => .done) T.finish
  close := Recorded.call .close (fun () => .done) T.close
  dropWriter writer recorded :=
    { recorded with inner := T.dropWriter writer.content recorded.inner }
  drop recorded := { recorded with inner := T.drop recorded.inner }
  supply recorded := T.supply recorded.inner

end MessageStream
