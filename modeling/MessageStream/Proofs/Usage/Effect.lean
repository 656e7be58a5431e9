import MessageStream.Proofs.Usage.Basic

/-!
What the polls of a recorded connection do to a stream. A poll of a call on the connection, on a
reader or on a writer changes the world of the connection and the thing called, and adds to the
record at most the beginning and the end of the call. Nothing else of the stream changes.
-/
namespace MessageStream

/-- What one poll of a call adds to the record: its beginning, unless the call is being resumed, and
its end, if it has come. -/
def Traffic.ofPoll (caller : Ticket) (request : Request) (resumed : Bool) (reply : Option Reply) :
    List Traffic :=
  (if resumed then [] else [.begun caller request]) ++ (reply.map (.ended caller request)).toList

def Traffic.caller : Traffic → Ticket
  | .begun caller _ => caller
  | .ended caller _ _ => caller
  | .cancelled caller _ => caller

def Traffic.request : Traffic → Request
  | .begun _ request => request
  | .ended _ request _ => request
  | .cancelled _ request => request

theorem Traffic.mem_ofPoll {caller : Ticket} {request : Request} {resumed : Bool}
    {reply : Option Reply} {entry : Traffic}
    (member : entry ∈ Traffic.ofPoll caller request resumed reply) :
    entry.caller = caller ∧ entry.request = request := by
  rcases List.mem_append.mp member with started | ended
  · cases resumed with
    | true => simp at started
    | false =>
      rw [if_neg Bool.false_ne_true, List.mem_singleton] at started
      exact started ▸ ⟨rfl, rfl⟩
  · cases reply with
    | none => simp at ended
    | some reply =>
      have same : entry = .ended caller request reply := by simpa using ended
      exact same ▸ ⟨rfl, rfl⟩

theorem Traffic.ofPoll_flatMap {Item : Type} (count : Traffic → List Item)
    (silent : ∀ caller request, count (.begun caller request) = []) (caller : Ticket)
    (request : Request) (resumed : Bool) (reply : Option Reply) :
    (Traffic.ofPoll caller request resumed reply).flatMap count =
      match reply with
      | none => []
      | some reply => count (.ended caller request reply) := by
  cases resumed <;> cases reply <;> simp [Traffic.ofPoll, silent]

def Progress.reply? {Stage Answer : Type} (reply : Answer → Reply) :
    Progress Stage (Except Failure Answer) → Option Reply
  | .waiting _ => none
  | .ready (.ok answer) => some (reply answer)
  | .ready (.error failure) => some (.failed failure)

namespace Recorded

variable {World Content Stage Answer : Type}

def heard (recorded : Recorded World) (inner : World) (entries : List Traffic) : Recorded World :=
  { recorded with inner, traffic := recorded.traffic ++ entries }

theorem call_poll (request : Request) (reply : Answer → Reply)
    (operation : Operation World Stage (Except Failure Answer)) (ticket : Ticket)
    (stage : Option Stage) (recorded : Recorded World) :
    (call request reply operation).poll ticket stage recorded =
      (recorded.heard (operation.poll ticket stage recorded.inner).1
        (Traffic.ofPoll ticket request stage.isSome
          ((operation.poll ticket stage recorded.inner).2.reply? reply)),
      (operation.poll ticket stage recorded.inner).2) := by
  rcases stage with _ | stage
  · rcases result : operation.poll ticket none recorded.inner with
      ⟨inner, later | failure | answer⟩ <;>
      simp [call, noteBegin, noteEnd, note, heard, Traffic.ofPoll, Progress.reply?, result]
  · rcases result : operation.poll ticket (some stage) recorded.inner with
      ⟨inner, later | failure | answer⟩ <;>
      simp [call, noteBegin, noteEnd, note, heard, Traffic.ofPoll, Progress.reply?, result]

theorem callOn_poll (request : Nat → Request) (reply : Answer → Reply)
    (operation : Operation (Content × World) Stage (Except Failure Answer)) (ticket : Ticket)
    (stage : Option Stage) (numbered : Numbered Content) (recorded : Recorded World) :
    (callOn request reply operation).poll ticket stage (numbered, recorded) =
      let polled := operation.poll ticket stage (numbered.content, recorded.inner)
      (({ numbered with content := polled.1.1 },
        recorded.heard polled.1.2
          (Traffic.ofPoll ticket (request numbered.number) stage.isSome (polled.2.reply? reply))),
      polled.2) := by
  rcases stage with _ | stage
  · rcases result : operation.poll ticket none (numbered.content, recorded.inner) with
      ⟨⟨content, inner⟩, later | failure | answer⟩ <;>
      simp [callOn, noteBegin, noteEnd, note, heard, Traffic.ofPoll, Progress.reply?, result]
  · rcases result : operation.poll ticket (some stage) (numbered.content, recorded.inner) with
      ⟨⟨content, inner⟩, later | failure | answer⟩ <;>
      simp [callOn, noteBegin, noteEnd, note, heard, Traffic.ofPoll, Progress.reply?, result]

theorem opening_poll (request : Request) (count : Recorded World → Nat)
    (counted : Recorded World → Recorded World)
    (operation : Operation World Stage (Except Failure Content))
    (commutes : ∀ recorded entry, counted (note recorded entry) = (counted recorded).note entry)
    (keeps : ∀ recorded inner entries, count (heard recorded inner entries) = count recorded)
    (ticket : Ticket) (stage : Option Stage) (recorded : Recorded World) :
    (opening request count counted operation).poll ticket stage recorded =
      match operation.poll ticket stage recorded.inner with
      | (inner, .waiting later) =>
        (recorded.heard inner (Traffic.ofPoll ticket request stage.isSome none), .waiting later)
      | (inner, .ready (.error failure)) =>
        (recorded.heard inner (Traffic.ofPoll ticket request stage.isSome (some (.failed failure))),
          .ready (.error failure))
      | (inner, .ready (.ok content)) =>
        (counted (recorded.heard inner
            (Traffic.ofPoll ticket request stage.isSome (some (.opened (count recorded))))),
          .ready (.ok { number := count recorded, content })) := by
  -- The beginning is noted before the poll and the end after it, next to each other either way.
  have begun : ({ noteBegin stage ticket request recorded with
      inner := (operation.poll ticket stage recorded.inner).1 } : Recorded World) =
      recorded.heard (operation.poll ticket stage recorded.inner).1
        (Traffic.ofPoll ticket request stage.isSome none) := by
    cases stage <;> simp [noteBegin, note, heard, Traffic.ofPoll]
  have same : (noteBegin stage ticket request recorded).inner = recorded.inner := by
    cases stage <;> rfl
  have ended (reply : Reply) (inner : World) :
      (recorded.heard inner (Traffic.ofPoll ticket request stage.isSome none)).note
        (.ended ticket request reply) =
      recorded.heard inner (Traffic.ofPoll ticket request stage.isSome (some reply)) := by
    simp [note, heard, Traffic.ofPoll]
  simp only [opening, same, begun, keeps]
  rcases operation.poll ticket stage recorded.inner with ⟨inner, later | failure | content⟩
  · rfl
  · simp only [ended]
  · simp only [← ended, commutes]

end Recorded

namespace Stream

variable {S : Signature}

def heard (stream : Stream S.recorded) (inner : S.World) (entries : List Traffic) :
    Stream S.recorded :=
  { stream with world := stream.world.heard inner entries }

def countReader (stream : Stream S.recorded) : Stream S.recorded :=
  { stream with world := { stream.world with readers := stream.world.readers + 1 } }

def countWriter (stream : Stream S.recorded) : Stream S.recorded :=
  { stream with world := { stream.world with writers := stream.world.writers + 1 } }

def putReader (stream : Stream S.recorded) (number : Nat) (content : S.Reader) :
    Stream S.recorded :=
  stream.modify fun state => { state with
    readers := state.readers.modify number fun cursor =>
      { cursor with content := { number, content } } }

def putWriter (stream : Stream S.recorded) (number : Nat) (content : S.Writer) (finished : Bool) :
    Stream S.recorded :=
  stream.modify fun state => { state with
    writers := state.writers.modify number fun cursor =>
      { cursor with content := { writer := { number, content }, finished } } }

/-- Readers and writers are known to the record by their numbers in the stream, and the current
messages are among them. -/
structure Enumerated (stream : Stream S.recorded) : Prop where
  readers : stream.state.readers.map (·.content.number) = List.range stream.world.readers
  writers : stream.state.writers.map (·.content.writer.number) = List.range stream.world.writers
  inbound : ∀ number, stream.state.inbound = some number → number < stream.state.readers.length
  outbound : ∀ number, stream.state.outbound = some number → number < stream.state.writers.length

namespace Enumerated

variable {stream : Stream S.recorded}

theorem reader_count (enumerated : stream.Enumerated) :
    stream.world.readers = stream.state.readers.length := by
  simpa using (congrArg List.length enumerated.readers).symm

theorem writer_count (enumerated : stream.Enumerated) :
    stream.world.writers = stream.state.writers.length := by
  simpa using (congrArg List.length enumerated.writers).symm

theorem reader_number (enumerated : stream.Enumerated) {number : Nat}
    {cursor : Cursor (Numbered S.Reader)}
    (found : stream.state.readers[number]? = some cursor) : cursor.content.number = number := by
  obtain ⟨inside, rfl⟩ := List.getElem?_eq_some_iff.mp found
  simpa [enumerated.reader_count, inside] using congrArg (·[number]?) enumerated.readers

theorem writer_number (enumerated : stream.Enumerated) {number : Nat}
    {cursor : Cursor (Outbound (Numbered S.Writer))}
    (found : stream.state.writers[number]? = some cursor) :
    cursor.content.writer.number = number := by
  obtain ⟨inside, rfl⟩ := List.getElem?_eq_some_iff.mp found
  simpa [enumerated.writer_count, inside] using congrArg (·[number]?) enumerated.writers

end Enumerated

/-- A poll of the connection for the next inbound message. -/
theorem nextReader_poll (T : Transport S) (ticket : Ticket) (stage : Option S.ReaderOpening)
    (stream : Stream S.recorded) :
    (Stream.onConnection T.recorded.nextReader).poll ticket stage stream =
      let heard := fun inner reply =>
        stream.heard inner (Traffic.ofPoll ticket .nextReader stage.isSome reply)
      match T.nextReader.poll ticket stage stream.world.inner with
      | (inner, .waiting later) => (heard inner none, .waiting later)
      | (inner, .ready (.error source)) =>
        (heard inner (some (.failed source)), .ready (.error source))
      | (inner, .ready (.ok reader)) =>
        ((heard inner (some (.opened stream.world.readers))).countReader,
          .ready (.ok ⟨stream.world.readers, reader⟩)) := by
  have called := Recorded.opening_poll .nextReader (·.readers)
    (fun recorded => { recorded with readers := recorded.readers + 1 }) T.nextReader
    (fun _ _ => rfl) (fun _ _ _ => rfl) ticket stage stream.world
  simp only [Stream.onConnection, Operation.within, Transport.recorded, called]
  rcases T.nextReader.poll ticket stage stream.world.inner with
    ⟨inner, later | source | reader⟩ <;> rfl

theorem nextWriter_poll (T : Transport S) (kind : MessageKind) (ticket : Ticket)
    (stage : Option S.WriterOpening) (stream : Stream S.recorded) :
    (Stream.onConnection (T.recorded.nextWriter kind)).poll ticket stage stream =
      let heard := fun inner reply =>
        stream.heard inner (Traffic.ofPoll ticket (.nextWriter kind) stage.isSome reply)
      match (T.nextWriter kind).poll ticket stage stream.world.inner with
      | (inner, .waiting later) => (heard inner none, .waiting later)
      | (inner, .ready (.error source)) =>
        (heard inner (some (.failed source)), .ready (.error source))
      | (inner, .ready (.ok writer)) =>
        ((heard inner (some (.opened stream.world.writers))).countWriter,
          .ready (.ok ⟨stream.world.writers, writer⟩)) := by
  have called := Recorded.opening_poll (.nextWriter kind) (·.writers)
    (fun recorded => { recorded with writers := recorded.writers + 1 }) (T.nextWriter kind)
    (fun _ _ => rfl) (fun _ _ _ => rfl) ticket stage stream.world
  simp only [Stream.onConnection, Operation.within, Transport.recorded, called]
  rcases (T.nextWriter kind).poll ticket stage stream.world.inner with
    ⟨inner, later | source | writer⟩ <;> rfl

theorem reader_poll (T : Transport S) (number room : Nat) (ticket : Ticket)
    (stage : Option S.Reading) (stream : Stream S.recorded) (enumerated : stream.Enumerated)
    (cursor : Cursor (Numbered S.Reader)) (found : stream.state.readers[number]? = some cursor) :
    (Stream.onReader number (T.recorded.read room)).poll ticket stage stream =
      let polled := (T.read room).poll ticket stage (cursor.content.content, stream.world.inner)
      ((stream.putReader number polled.1.1).heard polled.1.2
        (Traffic.ofPoll ticket (.read number room) stage.isSome (polled.2.reply? .yielded)),
      polled.2.map some) := by
  have same := enumerated.reader_number found
  have called := Recorded.callOn_poll (.read · room) .yielded (T.read room) ticket stage
    cursor.content stream.world
  simp only [Stream.onReader, Operation.withinOption, found, Option.map_some, Transport.recorded,
    called]
  simp [Stream.putReader, Stream.heard, Stream.modify, same]

theorem writer_poll (T : Transport S) (number : Nat) (data : Bytes) (ticket : Ticket)
    (stage : Option S.Writing) (stream : Stream S.recorded) (enumerated : stream.Enumerated)
    (cursor : Cursor (Outbound (Numbered S.Writer)))
    (found : stream.state.writers[number]? = some cursor) :
    (Stream.onWriter number (Outbound.write T.recorded data)).poll ticket stage stream =
      let polled := (T.write data).poll ticket stage
        (cursor.content.writer.content, stream.world.inner)
      ((stream.putWriter number polled.1.1 cursor.content.finished).heard polled.1.2
        (Traffic.ofPoll ticket (.write number data) stage.isSome (polled.2.reply? .accepted)),
      polled.2.map some) := by
  have same := enumerated.writer_number found
  have called := Recorded.callOn_poll (.write · data) .accepted (T.write data) ticket stage
    cursor.content.writer stream.world
  simp only [Stream.onWriter, Operation.withinOption, found, Option.map_some, Outbound.write,
    Operation.within, Transport.recorded, called]
  simp [Stream.putWriter, Stream.heard, Stream.modify, same]

theorem reader_cancel (T : Transport S) (number room : Nat) (ticket : Ticket) (stage : S.Reading)
    (stream : Stream S.recorded) (enumerated : stream.Enumerated)
    (cursor : Cursor (Numbered S.Reader)) (found : stream.state.readers[number]? = some cursor) :
    (Stream.onReader number (T.recorded.read room)).cancel ticket stage stream =
      let cancelled := (T.read room).cancel ticket stage
        (cursor.content.content, stream.world.inner)
      (stream.putReader number cancelled.1).heard cancelled.2
        [.cancelled ticket (.read number room)] := by
  have same := enumerated.reader_number found
  simp only [Stream.onReader, Operation.withinOption, found, Option.map_some, Transport.recorded,
    Recorded.callOn, Recorded.note]
  simp [Stream.putReader, Stream.heard, Recorded.heard, Stream.modify, same]

theorem writer_cancel (T : Transport S) (number : Nat) (data : Bytes) (ticket : Ticket)
    (stage : S.Writing) (stream : Stream S.recorded) (enumerated : stream.Enumerated)
    (cursor : Cursor (Outbound (Numbered S.Writer)))
    (found : stream.state.writers[number]? = some cursor) :
    (Stream.onWriter number (Outbound.write T.recorded data)).cancel ticket stage stream =
      let cancelled := (T.write data).cancel ticket stage
        (cursor.content.writer.content, stream.world.inner)
      (stream.putWriter number cancelled.1 cursor.content.finished).heard cancelled.2
        [.cancelled ticket (.write number data)] := by
  have same := enumerated.writer_number found
  simp only [Stream.onWriter, Operation.withinOption, found, Option.map_some, Outbound.write,
    Operation.within, Transport.recorded, Recorded.callOn, Recorded.note]
  simp [Stream.putWriter, Stream.heard, Recorded.heard, Stream.modify, same]

theorem finish_cancel (T : Transport S) (number : Nat) (ticket : Ticket) (stage : S.Finishing)
    (stream : Stream S.recorded) (enumerated : stream.Enumerated)
    (cursor : Cursor (Outbound (Numbered S.Writer)))
    (found : stream.state.writers[number]? = some cursor) :
    (Stream.onWriter number (Outbound.finish T.recorded)).cancel ticket stage stream =
      let cancelled := T.finish.cancel ticket stage
        (cursor.content.writer.content, stream.world.inner)
      (stream.putWriter number cancelled.1 cursor.content.finished).heard cancelled.2
        [.cancelled ticket (.finish number)] := by
  have same := enumerated.writer_number found
  simp only [Stream.onWriter, Operation.withinOption, found, Option.map_some, Outbound.finish,
    Transport.recorded, Recorded.callOn, Recorded.note]
  simp [Stream.putWriter, Stream.heard, Recorded.heard, Stream.modify, same]

theorem putWriter_same (stream : Stream S.recorded) (number : Nat)
    (cursor : Cursor (Outbound (Numbered S.Writer)))
    (found : stream.state.writers[number]? = some cursor) :
    stream.modify (fun state => { state with
      writers := state.writers.modify number fun other =>
        { other with content := cursor.content } }) = stream := by
  have same : (stream.state.writers.modify number fun other =>
      { other with content := cursor.content }) = stream.state.writers := by
    apply List.ext_getElem?
    intro other
    rw [List.getElem?_modify]
    by_cases here : number = other
    · subst here
      simp [found]
    · simp [here]
  simp only [Stream.modify, same]

end Stream

end MessageStream
