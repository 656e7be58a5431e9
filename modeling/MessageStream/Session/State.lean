import MessageStream.Bridge
import MessageStream.Session.Command
import MessageStream.Session.Fabric

/-!
The state of a session: its ends, the bridges over them, the handles it has taken from bare ends,
and the calls in flight.
-/
namespace MessageStream.Session

inductive Occupant (S : Signature) where
  | stream (state : Stream.State S)
  | bare (lease : Lease)

structure End (S : Signature) where
  occupant : Occupant S
  held : Bool := true

/-- A bridge and the end it stands on. -/
structure Span (S : Signature) where
  site : Nat
  bridge : Bridge (ReadStage S) (WriteStage S) (CloseStage S) := {}

structure Handle (Content : Type) where
  site : Nat
  cursor : Cursor Content

structure Handles (Content : Type) where
  entries : List (Handle Content) := []
  names : List (String × Nat) := []

namespace Handles

variable {Content : Type}

def find? (handles : Handles Content) (name : String) : Option Nat := handles.names.lookup name

def forget (handles : Handles Content) (name : String) : Handles Content :=
  { handles with names := handles.names.filter fun entry => entry.1 != name }

def enter (handles : Handles Content) (name : String) (site : Nat) (content : Content) :
    Handles Content where
  entries := handles.entries ++ [{ site, cursor := { content } }]
  names := (name, handles.entries.length) :: (handles.forget name).names

def named (handles : Handles Content) (number : Nat) : Bool :=
  handles.names.any fun entry => entry.2 == number

def changeCursor (handles : Handles Content) (number : Nat)
    (change : Cursor Content → Cursor Content) : Handles Content :=
  { handles with entries := handles.entries.modify number fun handle =>
      { handle with cursor := change handle.cursor } }

def line (handles : Handles Content) (number : Nat) : Line :=
  lineOf (handles.entries.map (·.cursor)) number

end Handles

inductive Job (S : Signature) where
  | read (site room : Nat) (stage : Option (ReadStage S))
  | write (site : Nat) (data : Bytes) (stage : Option (WriteStage S))
  | close (site : Nat) (stage : Option (CloseStage S))
  | nextReader (site : Nat) (handle : String) (stage : Option S.ReaderOpening)
  | nextWriter (site : Nat) (handle : String) (kind : MessageKind) (stage : Option S.WriterOpening)
  | closeConnection (site : Nat) (stage : Option S.Closing)
  | receive (site : Nat) (exchange : Exchange S) (stage : Option S.ReaderOpening)
  | readHandle (number room : Nat) (stage : Option S.Reading)
  | writeHandle (number : Nat) (data : Bytes) (stage : Option S.Writing)
  | finishHandle (number : Nat) (stage : Option S.Finishing)

def Job.stream? {S : Signature} : Job S → Option Nat
  | .read site _ _ => some site
  | .write site _ _ => some site
  | .close site _ => some site
  | _ => none

structure Task (S : Signature) where
  name : String
  ticket : Ticket
  job : Job S

end Session

open Session in
structure Session (S : Signature) where
  world : S.World
  journal : Journal := []
  ends : List (End S)
  bridges : List (Option (Span S)) := []
  readers : Handles S.Reader := {}
  writers : Handles S.Writer := {}
  tasks : List (Task S) := []
  tickets : Ticket := 0

namespace Session

variable {S : Signature}

def stream? (session : Session S) (site : Nat) : Option (Stream S) :=
  match session.ends[site]? with
  | some { occupant := .stream state, .. } =>
    some { state, world := session.world, journal := session.journal }
  | _ => none

def held? (session : Session S) (site : Nat) (asStream : Bool) : Option (End S) :=
  session.ends[site]?.filter fun place =>
    place.held && (match place.occupant with
      | .stream _ => asStream
      | .bare _ => !asStream)

def setStream (session : Session S) (site : Nat) (stream : Stream S) : Session S :=
  { session with
    world := stream.world
    journal := stream.journal
    ends := session.ends.modify site fun place =>
      { place with occupant := .stream stream.state } }

def onStream {Stage Answer : Type} (site : Nat) (operation : Operation (Stream S) Stage Answer) :
    Operation (Session S) Stage (Option Answer) :=
  operation.withinOption (fun session => session.stream? site)
    fun session stream => session.setStream site stream

def onWorld {Stage Answer : Type} (operation : Operation S.World Stage Answer) :
    Operation (Session S) Stage Answer :=
  operation.within (fun session => session.world) fun session world => { session with world }

def changeLease (T : Transport S) (site : Nat) (change : Lease → Lease) (session : Session S) :
    Session S :=
  match session.ends[site]? with
  | some { occupant := .bare lease, .. } =>
    { session with
      ends := session.ends.modify site fun place =>
        { place with occupant := .bare (change lease) }
      world := if lease.live && !(change lease).live then T.drop session.world else session.world }
  | _ => session

/-- Whether anything still refers to the stream at an end: the session, a bridge, or a call. -/
def keepsStream (session : Session S) (site : Nat) : Bool :=
  (match session.ends[site]? with
    | some place => place.held
    | none => false) ||
  session.bridges.any (fun span => span.any (fun span => span.site == site)) ||
  session.tasks.any (fun task => task.job.stream? == some site)

def sweepSite (F : Fabric S) (session : Session S) (site : Nat) : Session S :=
  if session.keepsStream site then session
  else match session.stream? site with
    | some stream => session.setStream site (stream.dismiss (F.transport site))
    | none => session

/-- Gives up every stream to which nothing refers. -/
def sweep (F : Fabric S) (session : Session S) : Session S :=
  (List.range session.ends.length).foldl (sweepSite F) session

/-- Gives up a writer that has neither a name nor a user. -/
def settleHandle (F : Fabric S) (number : Nat) (session : Session S) : Session S :=
  match session.writers.entries[number]? with
  | none => session
  | some handle =>
    if session.writers.named number || !handle.cursor.line.isEmpty then session
    else { session with
      world := (F.transport handle.site).dropWriter handle.cursor.content session.world }

/-- Enters a writer under a name. An earlier one of that name is given up if nobody uses it. -/
def enterWriter (F : Fabric S) (name : String) (site : Nat) (writer : S.Writer)
    (session : Session S) : Session S :=
  let entered := { session with writers := session.writers.enter name site writer }
  match session.writers.find? name with
  | none => entered
  | some displaced => entered.settleHandle F displaced

def enterReader (name : String) (site : Nat) (reader : S.Reader) (session : Session S) :
    Session S :=
  { session with readers := session.readers.enter name site reader }

def dropHandle (F : Fabric S) (name : String) (session : Session S) : Session S :=
  let forgotten := { session with
    readers := session.readers.forget name
    writers := session.writers.forget name }
  match session.writers.find? name with
  | none => forgotten
  | some number => forgotten.settleHandle F number

def onReaderHandle {Stage Answer : Type} (number : Nat)
    (operation : Operation (S.Reader × S.World) Stage Answer) :
    Operation (Session S) Stage (Option Answer) :=
  operation.withinOption
    (fun session => session.readers.entries[number]?.map fun handle =>
      (handle.cursor.content, session.world))
    fun session changed => { session with
      readers := session.readers.changeCursor number fun cursor =>
        { cursor with content := changed.1 }
      world := changed.2 }

def onWriterHandle {Stage Answer : Type} (number : Nat)
    (operation : Operation (S.Writer × S.World) Stage Answer) :
    Operation (Session S) Stage (Option Answer) :=
  operation.withinOption
    (fun session => session.writers.entries[number]?.map fun handle =>
      (handle.cursor.content, session.world))
    fun session changed => { session with
      writers := session.writers.changeCursor number fun cursor =>
        { cursor with content := changed.1 }
      world := changed.2 }

def joinReaderHandle (number : Nat) (ticket : Ticket) (session : Session S) : Session S :=
  { session with readers := session.readers.changeCursor number fun cursor =>
      { cursor with line := cursor.line.join ticket } }

def leaveReaderHandle (number : Nat) (ticket : Ticket) (session : Session S) : Session S :=
  { session with readers := session.readers.changeCursor number fun cursor =>
      { cursor with line := cursor.line.leave ticket } }

def joinWriterHandle (number : Nat) (ticket : Ticket) (session : Session S) : Session S :=
  { session with writers := session.writers.changeCursor number fun cursor =>
      { cursor with line := cursor.line.join ticket } }

def leaveWriterHandle (F : Fabric S) (number : Nat) (ticket : Ticket) (session : Session S) :
    Session S :=
  ({ session with writers := session.writers.changeCursor number fun cursor =>
      { cursor with line := cursor.line.leave ticket } }).settleHandle F number

def readerTransport (F : Fabric S) (session : Session S) (number : Nat) : Transport S :=
  F.transport ((session.readers.entries[number]?.map (·.site)).getD 0)

def writerTransport (F : Fabric S) (session : Session S) (number : Nat) : Transport S :=
  F.transport ((session.writers.entries[number]?.map (·.site)).getD 0)

end Session

end MessageStream
