import MessageStream.Proofs.Usage.Effect
import MessageStream.Stream.Close

/-!
What the elementary changes of a stream make of its state, and what they leave alone. Giving
something up may change the world of the connection and leaves the record as it is. None of the
changes breaks the numbering of readers and writers.
-/
namespace MessageStream.Stream

variable {S : Signature} (T : Transport S) (stream : Stream S.recorded)

@[simp] theorem joinReader_state (number : Nat) (ticket : Ticket) :
    (stream.joinReader number ticket).state = { stream.state with
      readers := stream.state.readers.modify number fun cursor =>
        { cursor with line := cursor.line.join ticket } } := rfl

@[simp] theorem joinReader_world (number : Nat) (ticket : Ticket) :
    (stream.joinReader number ticket).world = stream.world := rfl

@[simp] theorem joinReader_journal (number : Nat) (ticket : Ticket) :
    (stream.joinReader number ticket).journal = stream.journal := rfl

@[simp] theorem leaveReader_state (number : Nat) (ticket : Ticket) :
    (stream.leaveReader number ticket).state = { stream.state with
      readers := stream.state.readers.modify number fun cursor =>
        { cursor with line := cursor.line.leave ticket } } := rfl

@[simp] theorem leaveReader_world (number : Nat) (ticket : Ticket) :
    (stream.leaveReader number ticket).world = stream.world := rfl

@[simp] theorem leaveReader_journal (number : Nat) (ticket : Ticket) :
    (stream.leaveReader number ticket).journal = stream.journal := rfl

@[simp] theorem joinWriter_state (number : Nat) (ticket : Ticket) :
    (stream.joinWriter number ticket).state = { stream.state with
      writers := stream.state.writers.modify number fun cursor =>
        { cursor with line := cursor.line.join ticket } } := rfl

@[simp] theorem joinWriter_journal (number : Nat) (ticket : Ticket) :
    (stream.joinWriter number ticket).journal = stream.journal := rfl

@[simp] theorem settleWriter_traffic (number : Nat) :
    (stream.settleWriter T.recorded number).world.traffic = stream.world.traffic := by
  unfold settleWriter
  dsimp only
  split
  · rfl
  · split <;> rfl

@[simp] theorem settleWriter_readers (number : Nat) :
    (stream.settleWriter T.recorded number).world.readers = stream.world.readers := by
  unfold settleWriter
  dsimp only
  split
  · rfl
  · split <;> rfl

@[simp] theorem settleWriter_writers (number : Nat) :
    (stream.settleWriter T.recorded number).world.writers = stream.world.writers := by
  unfold settleWriter
  dsimp only
  split
  · rfl
  · split <;> rfl

@[simp] theorem leaveWriter_state (number : Nat) (ticket : Ticket) :
    (stream.leaveWriter T.recorded number ticket).state = { stream.state with
      writers := stream.state.writers.modify number fun cursor =>
        { cursor with line := cursor.line.leave ticket } } := rfl

@[simp] theorem leaveWriter_traffic (number : Nat) (ticket : Ticket) :
    (stream.leaveWriter T.recorded number ticket).world.traffic = stream.world.traffic :=
  settleWriter_traffic T _ number

@[simp] theorem leaveWriter_journal (number : Nat) (ticket : Ticket) :
    (stream.leaveWriter T.recorded number ticket).journal = stream.journal := rfl

@[simp] theorem clearInbound_state (number : Nat) :
    (stream.clearInbound number).state = { stream.state with
      inbound := if stream.state.inbound = some number then none else stream.state.inbound } := rfl

@[simp] theorem clearInbound_world (number : Nat) :
    (stream.clearInbound number).world = stream.world := rfl

@[simp] theorem clearInbound_journal (number : Nat) :
    (stream.clearInbound number).journal = stream.journal := rfl

@[simp] theorem retireWriter_state (number : Nat) (ticket : Ticket) :
    (stream.retireWriter T.recorded number ticket).state = { stream.state with
      writers := stream.state.writers.modify number fun cursor =>
        { cursor with line := cursor.line.leave ticket }
      outbound := if stream.state.outbound = some number then none
        else stream.state.outbound } := rfl

@[simp] theorem retireWriter_traffic (number : Nat) (ticket : Ticket) :
    (stream.retireWriter T.recorded number ticket).world.traffic = stream.world.traffic :=
  settleWriter_traffic T _ number

@[simp] theorem retireWriter_journal (number : Nat) (ticket : Ticket) :
    (stream.retireWriter T.recorded number ticket).journal = stream.journal := rfl

@[simp] theorem borrow_state (ticket : Ticket) :
    (stream.borrow ticket).state =
      { stream.state with lease := stream.state.lease.borrow ticket } := rfl

@[simp] theorem borrow_world (ticket : Ticket) : (stream.borrow ticket).world = stream.world := rfl

@[simp] theorem borrow_journal (ticket : Ticket) :
    (stream.borrow ticket).journal = stream.journal := rfl

@[simp] theorem giveBack_traffic (ticket : Ticket) :
    (stream.giveBack T.recorded ticket).world.traffic = stream.world.traffic := by
  unfold giveBack
  dsimp only
  split <;> rfl

@[simp] theorem giveBack_journal (ticket : Ticket) :
    (stream.giveBack T.recorded ticket).journal = stream.journal := rfl

@[simp] theorem openReader_state (reader : Numbered S.Reader) (ticket : Ticket) :
    (stream.openReader reader ticket).state = { stream.state with
      readers := stream.state.readers ++ [{ content := reader, line := [ticket] }]
      inbound := some stream.state.readers.length } := rfl

@[simp] theorem openReader_world (reader : Numbered S.Reader) (ticket : Ticket) :
    (stream.openReader reader ticket).world = stream.world := rfl

@[simp] theorem openReader_journal (reader : Numbered S.Reader) (ticket : Ticket) :
    (stream.openReader reader ticket).journal = stream.journal := rfl

@[simp] theorem discardReader_state (reader : Numbered S.Reader) :
    (stream.discardReader reader).state = { stream.state with
      readers := stream.state.readers ++ [{ content := reader }] } := rfl

@[simp] theorem discardReader_world (reader : Numbered S.Reader) :
    (stream.discardReader reader).world = stream.world := rfl

@[simp] theorem discardReader_journal (reader : Numbered S.Reader) :
    (stream.discardReader reader).journal = stream.journal := rfl

@[simp] theorem enterWriter_state (writer : Numbered S.Writer) (ticket : Ticket) :
    (stream.enterWriter writer ticket).state = { stream.state with
      writers := stream.state.writers ++ [{ content := { writer }, line := [ticket] }] } := rfl

@[simp] theorem enterWriter_world (writer : Numbered S.Writer) (ticket : Ticket) :
    (stream.enterWriter writer ticket).world = stream.world := rfl

@[simp] theorem enterWriter_journal (writer : Numbered S.Writer) (ticket : Ticket) :
    (stream.enterWriter writer ticket).journal = stream.journal := rfl

@[simp] theorem openWriter_state (writer : Numbered S.Writer) (ticket : Ticket) :
    (stream.openWriter T.recorded writer ticket).state = { stream.state with
      writers := stream.state.writers ++ [{ content := { writer }, line := [ticket] }]
      outbound := some stream.state.writers.length } := rfl

@[simp] theorem openWriter_traffic (writer : Numbered S.Writer) (ticket : Ticket) :
    (stream.openWriter T.recorded writer ticket).world.traffic = stream.world.traffic := by
  unfold openWriter
  dsimp only
  split
  · rfl
  · exact settleWriter_traffic T _ _

@[simp] theorem openWriter_journal (writer : Numbered S.Writer) (ticket : Ticket) :
    (stream.openWriter T.recorded writer ticket).journal = stream.journal := rfl

@[simp] theorem heard_state (inner : S.World) (entries : List Traffic) :
    (stream.heard inner entries).state = stream.state := rfl

@[simp] theorem heard_inner (inner : S.World) (entries : List Traffic) :
    (stream.heard inner entries).world.inner = inner := rfl

@[simp] theorem heard_traffic (inner : S.World) (entries : List Traffic) :
    (stream.heard inner entries).world.traffic = stream.world.traffic ++ entries := rfl

@[simp] theorem heard_journal (inner : S.World) (entries : List Traffic) :
    (stream.heard inner entries).journal = stream.journal := rfl

@[simp] theorem countReader_state : stream.countReader.state = stream.state := rfl

@[simp] theorem countReader_inner :
    stream.countReader.world.inner = stream.world.inner := rfl

@[simp] theorem countReader_traffic :
    stream.countReader.world.traffic = stream.world.traffic := rfl

@[simp] theorem countReader_journal : stream.countReader.journal = stream.journal := rfl

@[simp] theorem countWriter_state : stream.countWriter.state = stream.state := rfl

@[simp] theorem countWriter_inner :
    stream.countWriter.world.inner = stream.world.inner := rfl

@[simp] theorem countWriter_journal : stream.countWriter.journal = stream.journal := rfl

@[simp] theorem putReader_state (number : Nat) (content : S.Reader) :
    (stream.putReader number content).state = { stream.state with
      readers := stream.state.readers.modify number fun cursor =>
        { cursor with content := { number, content } } } := rfl

@[simp] theorem putReader_world (number : Nat) (content : S.Reader) :
    (stream.putReader number content).world = stream.world := rfl

@[simp] theorem putReader_journal (number : Nat) (content : S.Reader) :
    (stream.putReader number content).journal = stream.journal := rfl

@[simp] theorem putWriter_state (number : Nat) (content : S.Writer) (finished : Bool) :
    (stream.putWriter number content finished).state = { stream.state with
      writers := stream.state.writers.modify number fun cursor =>
        { cursor with content := { writer := { number, content }, finished } } } := rfl

@[simp] theorem putWriter_world (number : Nat) (content : S.Writer) (finished : Bool) :
    (stream.putWriter number content finished).world = stream.world := rfl

@[simp] theorem putWriter_journal (number : Nat) (content : S.Writer) (finished : Bool) :
    (stream.putWriter number content finished).journal = stream.journal := rfl

@[simp] theorem record_world (event : Event) : (stream.record event).world = stream.world := rfl

@[simp] theorem record_journal (event : Event) :
    (stream.record event).journal = stream.journal ++ [event] := rfl

@[simp] theorem recordIf_world (condition : Bool) (event : Event) :
    (stream.recordIf condition event).world = stream.world := rfl

@[simp] theorem take_state (ticket : Ticket) :
    (Close.take ticket stream).state = { stream.state with
      lease := if stream.state.lease.owned then (stream.state.lease.borrow ticket).surrender
        else stream.state.lease
      inbound := none
      outbound := none } := rfl

@[simp] theorem take_world (ticket : Ticket) : (Close.take ticket stream).world = stream.world :=
  rfl

theorem map_modify_same {Content Part : Type} (part : Content → Part) (change : Content → Content)
    (contents : List Content) (number : Nat)
    (same : ∀ content, contents[number]? = some content → part (change content) = part content) :
    (contents.modify number change).map part = contents.map part := by
  apply List.ext_getElem?
  intro other
  rw [List.getElem?_map, List.getElem?_map, List.getElem?_modify]
  cases found : contents[other]? with
  | none => rfl
  | some content =>
    by_cases here : number = other
    · subst here
      simp [same content found]
    · simp [here]

namespace Enumerated

variable {T stream} (enumerated : stream.Enumerated)
include enumerated

theorem after_borrow (ticket : Ticket) : (stream.borrow ticket).Enumerated :=
  ⟨enumerated.readers, enumerated.writers, enumerated.inbound, enumerated.outbound⟩

theorem after_giveBack (ticket : Ticket) : (stream.giveBack T.recorded ticket).Enumerated := by
  have counts : (stream.giveBack T.recorded ticket).world.readers = stream.world.readers ∧
      (stream.giveBack T.recorded ticket).world.writers = stream.world.writers := by
    unfold Stream.giveBack
    dsimp only
    split <;> exact ⟨rfl, rfl⟩
  constructor
  · rw [counts.1]
    exact enumerated.readers
  · rw [counts.2]
    exact enumerated.writers
  · exact enumerated.inbound
  · exact enumerated.outbound

theorem after_record (event : Event) : (stream.record event).Enumerated :=
  ⟨enumerated.readers, enumerated.writers, enumerated.inbound, enumerated.outbound⟩

theorem after_recordIf (condition : Bool) (event : Event) :
    (stream.recordIf condition event).Enumerated :=
  ⟨enumerated.readers, enumerated.writers, enumerated.inbound, enumerated.outbound⟩

theorem after_heard (inner : S.World) (entries : List Traffic) :
    (stream.heard inner entries).Enumerated :=
  ⟨enumerated.readers, enumerated.writers, enumerated.inbound, enumerated.outbound⟩

theorem after_clearInbound (number : Nat) : (stream.clearInbound number).Enumerated := by
  refine ⟨enumerated.readers, enumerated.writers, ?_, enumerated.outbound⟩
  intro other current
  rw [clearInbound_state] at current
  split at current
  · cases current
  · exact enumerated.inbound other current

theorem after_take (ticket : Ticket) : (Close.take ticket stream).Enumerated :=
  ⟨enumerated.readers, enumerated.writers, nofun, nofun⟩

theorem after_joinReader (number : Nat) (ticket : Ticket) :
    (stream.joinReader number ticket).Enumerated := by
  refine ⟨?_, enumerated.writers, ?_, enumerated.outbound⟩
  · refine (map_modify_same _ _ _ number ?_).trans enumerated.readers
    exact fun _ _ => rfl
  · simpa using enumerated.inbound

theorem after_leaveReader (number : Nat) (ticket : Ticket) :
    (stream.leaveReader number ticket).Enumerated := by
  refine ⟨?_, enumerated.writers, ?_, enumerated.outbound⟩
  · refine (map_modify_same _ _ _ number ?_).trans enumerated.readers
    exact fun _ _ => rfl
  · simpa using enumerated.inbound

theorem after_putReader (number : Nat) (content : S.Reader) :
    (stream.putReader number content).Enumerated := by
  refine ⟨?_, enumerated.writers, ?_, enumerated.outbound⟩
  · refine (map_modify_same _ _ _ number ?_).trans enumerated.readers
    exact fun _ found => (enumerated.reader_number found).symm
  · simpa using enumerated.inbound

theorem after_joinWriter (number : Nat) (ticket : Ticket) :
    (stream.joinWriter number ticket).Enumerated := by
  refine ⟨enumerated.readers, ?_, enumerated.inbound, ?_⟩
  · refine (map_modify_same _ _ _ number ?_).trans enumerated.writers
    exact fun _ _ => rfl
  · simpa using enumerated.outbound

theorem after_putWriter (number : Nat) (content : S.Writer) (finished : Bool) :
    (stream.putWriter number content finished).Enumerated := by
  refine ⟨enumerated.readers, ?_, enumerated.inbound, ?_⟩
  · refine (map_modify_same _ _ _ number ?_).trans enumerated.writers
    exact fun _ found => (enumerated.writer_number found).symm
  · simpa using enumerated.outbound

theorem after_settleWriter (number : Nat) : (stream.settleWriter T.recorded number).Enumerated := by
  constructor
  · rw [settleWriter_readers]
    exact enumerated.readers
  · rw [settleWriter_writers]
    exact enumerated.writers
  · exact enumerated.inbound
  · exact enumerated.outbound

theorem after_leaveWriter (number : Nat) (ticket : Ticket) :
    (stream.leaveWriter T.recorded number ticket).Enumerated := by
  apply after_settleWriter
  refine ⟨enumerated.readers, ?_, enumerated.inbound, ?_⟩
  · refine (map_modify_same _ _ _ number ?_).trans enumerated.writers
    exact fun _ _ => rfl
  · simpa using enumerated.outbound

theorem after_retireWriter (number : Nat) (ticket : Ticket) :
    (stream.retireWriter T.recorded number ticket).Enumerated := by
  apply after_settleWriter
  refine ⟨enumerated.readers, ?_, enumerated.inbound, ?_⟩
  · refine (map_modify_same _ _ _ number ?_).trans enumerated.writers
    exact fun _ _ => rfl
  · intro other current
    dsimp only [modify_state] at current
    split at current
    · cases current
    · simpa using enumerated.outbound other current

theorem after_letGo (ticket : Ticket) : (Close.letGo T.recorded ticket stream).Enumerated := by
  unfold Close.letGo
  split
  · exact enumerated.after_giveBack ticket
  · exact enumerated

/-- A reader handed out is entered under its number. -/
theorem after_discardReader (reader : S.Reader) :
    (stream.countReader.discardReader ⟨stream.state.readers.length, reader⟩).Enumerated := by
  refine ⟨?_, enumerated.writers, ?_, enumerated.outbound⟩
  · have grown : List.range (stream.world.readers + 1) =
        List.range stream.world.readers ++ [stream.world.readers] := List.range_succ
    simpa [countReader, enumerated.readers, enumerated.reader_count] using grown.symm
  · intro number current
    have inside := enumerated.inbound number current
    simpa using Nat.lt_succ_of_lt inside

theorem after_openReader (reader : S.Reader) (ticket : Ticket) :
    (stream.countReader.openReader ⟨stream.state.readers.length, reader⟩ ticket).Enumerated := by
  obtain ⟨readers, writers, -, outbound⟩ := enumerated.after_discardReader reader
  refine ⟨?_, writers, ?_, outbound⟩
  · simpa using readers
  · rintro number ⟨⟩
    simp

theorem after_enterWriter (writer : S.Writer) (ticket : Ticket) :
    (stream.countWriter.enterWriter ⟨stream.state.writers.length, writer⟩ ticket).Enumerated := by
  refine ⟨enumerated.readers, ?_, enumerated.inbound, ?_⟩
  · have grown : List.range (stream.world.writers + 1) =
        List.range stream.world.writers ++ [stream.world.writers] := List.range_succ
    simpa [countWriter, enumerated.writers, enumerated.writer_count] using grown.symm
  · intro number current
    have inside := enumerated.outbound number current
    simpa using Nat.lt_succ_of_lt inside

theorem after_openWriter (writer : S.Writer) (ticket : Ticket) :
    (stream.countWriter.openWriter T.recorded ⟨stream.state.writers.length, writer⟩
      ticket).Enumerated := by
  obtain ⟨readers, writers, inbound, -⟩ := enumerated.after_enterWriter writer ticket
  have counts : (stream.countWriter.openWriter T.recorded ⟨stream.state.writers.length, writer⟩
      ticket).world.readers = stream.world.readers ∧
      (stream.countWriter.openWriter T.recorded ⟨stream.state.writers.length, writer⟩
        ticket).world.writers = stream.world.writers + 1 := by
    unfold Stream.openWriter
    dsimp only
    split
    · exact ⟨rfl, rfl⟩
    · exact ⟨settleWriter_readers T _ _, settleWriter_writers T _ _⟩
  constructor
  · rw [counts.1]
    exact readers
  · rw [counts.2]
    exact writers
  · exact inbound
  · rintro number ⟨⟩
    simp

end Enumerated

end MessageStream.Stream
