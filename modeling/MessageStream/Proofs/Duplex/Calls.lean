import MessageStream.Proofs.Duplex.Halves

/-!
Reads and writes keep to their halves: every stretch of a read, whichever stage it is at, depends on
the half of the stream that reads find and leaves the other half alone, and so does giving a read
up. The same holds of writes the other way round.
-/
namespace MessageStream

variable {S : Signature} {In Out : Type} {T : Transport S} {inward : S.World → In}
  {outward : S.World → Out} (divides : T.Divides inward outward)

namespace Read

theorem exhausted_tracks (number : Nat) (copied : Bytes) :
    Tracks (Stream.readHalf (S := S) inward) (exhausted number copied) := by
  intro left right same
  have current : left.state.inbound = right.state.inbound := congrArg ReadHalf.current same
  unfold exhausted
  rw [current, Stream.recordIf_eq, Stream.recordIf_eq]
  split <;> exact ⟨rfl, by simp [same]⟩

theorem exhausted_spares (number : Nat) (copied : Bytes) :
    Spares (Stream.writeHalf outward) (exhausted (S := S) number copied) := by
  intro stream
  unfold exhausted
  rw [Stream.recordIf_eq]
  split
  · simp [Journal.along, Event.direction?]
  · rfl

theorem yielded_tracks (room number : Nat) (copied bytes : Bytes) (ticket : Ticket) :
    Tracks (Stream.readHalf inward) (yielded (S := S) room number copied bytes ticket) := by
  intro left right same
  have moved : ((left.leaveReader number ticket).record
      (.inboundMoved (copied ++ bytes).length)).readHalf inward =
      ((right.leaveReader number ticket).record
        (.inboundMoved (copied ++ bytes).length)).readHalf inward := by
    simp [same]
  unfold yielded
  dsimp only
  split
  · exact ⟨rfl, same⟩
  · split
    · exact exhausted_tracks number copied moved
    · exact ⟨rfl, moved⟩

theorem yielded_spares (room number : Nat) (copied bytes : Bytes) (ticket : Ticket) :
    Spares (Stream.writeHalf outward) (yielded (S := S) room number copied bytes ticket) := by
  intro stream
  have moved : ((stream.leaveReader number ticket).record
      (.inboundMoved (copied ++ bytes).length)).writeHalf outward = stream.writeHalf outward := by
    simp [Journal.along, Event.direction?]
  unfold yielded
  dsimp only
  split
  · rfl
  · split
    · exact (exhausted_spares number copied _).trans moved
    · exact moved

include divides

theorem opened_tracks (reader : S.Reader) (ticket : Ticket) :
    Tracks (Stream.readHalf inward) (opened T reader ticket) := by
  intro left right same
  have closed : left.state.isClosed = right.state.isClosed := congrArg ReadHalf.closed same
  have readers : left.state.readers = right.state.readers := congrArg ReadHalf.readers same
  unfold opened
  rw [closed, readers]
  split <;> exact ⟨rfl, by simp [Stream.giveBack_readHalf _ _ divides, same]⟩

theorem opened_spares (reader : S.Reader) (ticket : Ticket) :
    Spares (Stream.writeHalf outward) (opened T reader ticket) := by
  intro stream
  unfold opened
  split <;> simp [Stream.giveBack_writeHalf _ _ divides, Journal.along, Event.direction?]

theorem ask_tracks (ticket : Ticket) (stage : Option S.ReaderOpening) :
    Tracks (Stream.readHalf inward) (ask T ticket stage) := by
  intro left right same
  have confined := Stream.onConnection_reads divides.nextReader
  obtain ⟨progress, leftAfter, rightAfter, one, other, agree⟩ :=
    (confined.poll ticket stage).same_answer same
  simp only [ask, one, other]
  rcases progress with later | source | reader
  · exact ⟨rfl, agree⟩
  · exact ⟨rfl, by simpa [Stream.giveBack_readHalf _ _ divides] using agree⟩
  · exact opened_tracks divides reader ticket agree

theorem ask_spares (ticket : Ticket) (stage : Option S.ReaderOpening) :
    Spares (Stream.writeHalf outward) (ask T ticket stage) := by
  intro stream
  have spares := (Stream.onConnection_reads divides.nextReader).pollSpares ticket stage stream
  unfold ask
  rcases polled : (Stream.onConnection T.nextReader).poll ticket stage stream with
    ⟨after, later | source | reader⟩ <;> rw [polled] at spares
  · exact spares
  · exact (Stream.giveBack_writeHalf _ _ divides).trans spares
  · exact (opened_spares divides reader ticket after).trans spares

theorem start_tracks (room : Nat) (ticket : Ticket) :
    Tracks (Stream.readHalf inward) (start T room ticket) := by
  intro left right same
  have closed : left.state.isClosed = right.state.isClosed := congrArg ReadHalf.closed same
  have current : left.state.inbound = right.state.inbound := congrArg ReadHalf.current same
  unfold start
  rw [closed, current]
  split
  · exact ⟨rfl, same⟩
  · split
    · exact ⟨rfl, same⟩
    · split
      · exact ⟨rfl, by simp [same]⟩
      · exact ask_tracks divides ticket none same

theorem start_spares (room : Nat) (ticket : Ticket) :
    Spares (Stream.writeHalf outward) (start T room ticket) := by
  intro stream
  unfold start
  split
  · rfl
  · split
    · rfl
    · split
      · rfl
      · exact ask_spares divides ticket none (stream.borrow ticket)

theorem advance_tracks (room : Nat) (ticket : Ticket) (stage : ReadStage S) :
    Tracks (Stream.readHalf inward) (advance T room ticket stage) := by
  intro left right same
  cases stage with
  | start => exact start_tracks divides room ticket same
  | opening stage => exact ask_tracks divides ticket (some stage) same
  | queued number =>
    have readers : left.state.readers = right.state.readers := congrArg ReadHalf.readers same
    simp only [advance, readers]
    split
    · exact ⟨rfl, same⟩
    · exact ⟨rfl, same⟩
  | draining number copied stage =>
    have confined := Stream.onReader_reads number (divides.read (room - copied.length))
    obtain ⟨progress, leftAfter, rightAfter, one, other, agree⟩ :=
      (confined.poll ticket stage).same_answer same
    simp only [advance, one, other]
    rcases progress with later | _ | source | bytes
    · exact ⟨rfl, agree⟩
    · exact yielded_tracks room number copied [] ticket agree
    · exact ⟨rfl, by simp [agree]⟩
    · exact yielded_tracks room number copied bytes ticket agree

theorem advance_spares (room : Nat) (ticket : Ticket) (stage : ReadStage S) :
    Spares (Stream.writeHalf outward) (advance T room ticket stage) := by
  intro stream
  cases stage with
  | start => exact start_spares divides room ticket stream
  | opening stage => exact ask_spares divides ticket (some stage) stream
  | queued number =>
    simp only [advance]
    split <;> rfl
  | draining number copied stage =>
    have confined := Stream.onReader_reads number (divides.read (room - copied.length))
    have spares := confined.pollSpares ticket stage stream
    simp only [advance]
    rcases polled : (Stream.onReader number (T.read (room - copied.length))).poll ticket stage
      stream with ⟨after, later | _ | source | bytes⟩ <;> rw [polled] at spares
    · exact spares
    · exact (yielded_spares room number copied [] ticket after).trans spares
    · simpa [Journal.along, Event.direction?] using spares
    · exact (yielded_spares room number copied bytes ticket after).trans spares

theorem cancel_tracks (room : Nat) (ticket : Ticket) (stage : ReadStage S) {left right : Stream S}
    (same : left.readHalf inward = right.readHalf inward) :
    (cancel T room ticket stage left).readHalf inward =
      (cancel T room ticket stage right).readHalf inward := by
  cases stage with
  | start => exact same
  | opening stage =>
    have agree := (Stream.onConnection_reads divides.nextReader).cancel ticket stage same
    simpa [cancel, Stream.giveBack_readHalf _ _ divides] using agree
  | queued number => simp [cancel, same]
  | draining number copied stage =>
    cases stage with
    | none => simp [cancel, same]
    | some stage =>
      have confined := Stream.onReader_reads number (divides.read (room - copied.length))
      simp [cancel, confined.cancel ticket stage same]

theorem cancel_spares (room : Nat) (ticket : Ticket) (stage : ReadStage S) (stream : Stream S) :
    (cancel T room ticket stage stream).writeHalf outward = stream.writeHalf outward := by
  cases stage with
  | start => rfl
  | opening stage =>
    exact (Stream.giveBack_writeHalf _ _ divides).trans
      ((Stream.onConnection_reads divides.nextReader).cancelSpares ticket stage stream)
  | queued number => rfl
  | draining number copied stage =>
    cases stage with
    | none => rfl
    | some stage =>
      have confined := Stream.onReader_reads number (divides.read (room - copied.length))
      exact confined.cancelSpares ticket stage stream

end Read

/-- Reads keep to the half of a stream that they find there. -/
theorem Stream.read_confined (divides : T.Divides inward outward) (room : Nat) :
    (Stream.read T room).Confined (readHalf inward) (writeHalf outward) where
  poll ticket stage left right same := by
    -- How many stretches a poll may run depends on what the connection can supply.
    have limit : Read.limit T room left = Read.limit T room right := by
      simp only [Read.limit, divides.supply (congrArg ReadHalf.world same)]
    simp only [read, limit]
    exact Step.run_tracks (Read.advance_tracks divides room ticket) _ _ same
  pollSpares ticket stage stream :=
    Step.run_spares (Read.advance_spares divides room ticket) _ _ stream
  cancel ticket stage _ _ := Read.cancel_tracks divides room ticket stage
  cancelSpares := Read.cancel_spares divides room

namespace Write

include divides

theorem opened_tracks (writer : S.Writer) (ticket : Ticket) :
    Tracks (Stream.writeHalf outward) (opened T writer ticket) := by
  intro left right same
  have closed : left.state.isClosed = right.state.isClosed := congrArg WriteHalf.closed same
  have config : left.state.config = right.state.config := congrArg WriteHalf.config same
  have writers : left.state.writers = right.state.writers := congrArg WriteHalf.writers same
  unfold opened
  dsimp only
  rw [closed, config, writers]
  split
  · exact ⟨rfl, by simp [same]⟩
  · have opened := Stream.openWriter_writeHalf ticket divides writer same
    exact ⟨rfl, by simp [Stream.giveBack_writeHalf _ _ divides, opened]⟩

theorem opened_spares (writer : S.Writer) (ticket : Ticket) :
    Spares (Stream.readHalf inward) (opened T writer ticket) := by
  intro stream
  unfold opened
  dsimp only
  split
  · simp [Journal.along, Event.direction?]
  · simp [Stream.giveBack_readHalf _ _ divides, Stream.openWriter_readHalf _ _ divides,
      Journal.along, Event.direction?]

theorem ask_tracks (ticket : Ticket) (stage : Option S.WriterOpening) :
    Tracks (Stream.writeHalf outward) (ask T ticket stage) := by
  intro left right same
  have config : left.state.config = right.state.config := congrArg WriteHalf.config same
  have confined := Stream.onConnection_writes (divides.nextWriter right.state.config.messageKind)
  obtain ⟨progress, leftAfter, rightAfter, one, other, agree⟩ :=
    (confined.poll ticket stage).same_answer same
  simp only [ask, config, one, other]
  rcases progress with later | source | writer
  · exact ⟨rfl, agree⟩
  · exact ⟨rfl, by simpa [Stream.giveBack_writeHalf _ _ divides] using agree⟩
  · exact opened_tracks divides writer ticket agree

theorem ask_spares (ticket : Ticket) (stage : Option S.WriterOpening) :
    Spares (Stream.readHalf inward) (ask T ticket stage) := by
  intro stream
  have confined := Stream.onConnection_writes (divides.nextWriter stream.state.config.messageKind)
  have spares := confined.pollSpares ticket stage stream
  unfold ask
  rcases polled : (Stream.onConnection (T.nextWriter stream.state.config.messageKind)).poll ticket
    stage stream with ⟨after, later | source | writer⟩ <;> rw [polled] at spares
  · exact spares
  · exact (Stream.giveBack_readHalf _ _ divides).trans spares
  · exact (opened_spares divides writer ticket after).trans spares

theorem start_tracks (data : Bytes) (ticket : Ticket) :
    Tracks (Stream.writeHalf outward) (start T data ticket) := by
  intro left right same
  have closed : left.state.isClosed = right.state.isClosed := congrArg WriteHalf.closed same
  have config : left.state.config = right.state.config := congrArg WriteHalf.config same
  have current : left.state.outbound = right.state.outbound := congrArg WriteHalf.current same
  unfold start
  rw [closed, config, current]
  split
  · exact ⟨rfl, same⟩
  · split
    · exact ⟨rfl, same⟩
    · split
      · exact ⟨rfl, by simp [same]⟩
      · exact ask_tracks divides ticket none same

theorem start_spares (data : Bytes) (ticket : Ticket) :
    Spares (Stream.readHalf inward) (start T data ticket) := by
  intro stream
  unfold start
  split
  · rfl
  · split
    · rfl
    · split
      · rfl
      · exact ask_spares divides ticket none (stream.borrow ticket)

theorem admitted_tracks (data : Bytes) (number : Nat) (ticket : Ticket) :
    Tracks (Stream.writeHalf outward) (admitted T data number ticket) := by
  intro left right same
  have writers : left.state.writers = right.state.writers := congrArg WriteHalf.writers same
  unfold admitted
  rw [writers]
  split
  · split
    · exact ⟨rfl, Stream.retireWriter_writeHalf number ticket divides same⟩
    · exact ⟨rfl, same⟩
  · exact ⟨rfl, same⟩

theorem admitted_spares (data : Bytes) (number : Nat) (ticket : Ticket) :
    Spares (Stream.readHalf inward) (admitted T data number ticket) := by
  intro stream
  unfold admitted
  split
  · split
    · exact Stream.retireWriter_readHalf stream number ticket divides
    · rfl
  · rfl

theorem finished_tracks (number written : Nat) (failure : Option Failure)
    (result : Except Failure Unit) (ticket : Ticket) :
    Tracks (Stream.writeHalf outward) (finished T number written failure result ticket) := by
  intro left right same
  have retired := Stream.retireWriter_writeHalf number ticket divides same
  unfold finished
  dsimp only
  split <;> exact ⟨rfl, by simp [retired]⟩

theorem finished_spares (number written : Nat) (failure : Option Failure)
    (result : Except Failure Unit) (ticket : Ticket) :
    Spares (Stream.readHalf inward) (finished T number written failure result ticket) := by
  intro stream
  have retired := Stream.retireWriter_readHalf stream number ticket divides
  unfold finished
  dsimp only
  split <;> simp [retired, Journal.along, Event.direction?]

theorem advance_tracks (data : Bytes) (ticket : Ticket) (stage : WriteStage S) :
    Tracks (Stream.writeHalf outward) (advance T data ticket stage) := by
  intro left right same
  cases stage with
  | start => exact start_tracks divides data ticket same
  | opening stage => exact ask_tracks divides ticket (some stage) same
  | discarding number stage =>
    have confined := Stream.onWriter_writes number (Outbound.finish_confined divides)
    obtain ⟨progress, leftAfter, rightAfter, one, other, agree⟩ :=
      (confined.poll ticket stage).same_answer same
    simp only [advance, one, other]
    cases progress with
    | waiting later => exact ⟨rfl, agree⟩
    | ready result =>
      have left := Stream.leaveWriter_writeHalf number ticket divides agree
      exact ⟨rfl, by simpa [Stream.giveBack_writeHalf _ _ divides] using left⟩
  | queued number =>
    have writers : left.state.writers = right.state.writers := congrArg WriteHalf.writers same
    simp only [advance, writers]
    split
    · exact admitted_tracks divides data number ticket same
    · exact ⟨rfl, same⟩
  | filling number written stage =>
    have confined := Stream.onWriter_writes number
      (Outbound.write_confined divides (data.drop written))
    obtain ⟨progress, leftAfter, rightAfter, one, other, agree⟩ :=
      (confined.poll ticket stage).same_answer same
    simp only [advance, one, other]
    rcases progress with later | _ | source | _ | taken <;> exact ⟨rfl, agree⟩
  | finishing number written failure stage =>
    have confined := Stream.onWriter_writes number (Outbound.finish_confined divides)
    obtain ⟨progress, leftAfter, rightAfter, one, other, agree⟩ :=
      (confined.poll ticket stage).same_answer same
    simp only [advance, one, other]
    cases progress with
    | waiting later => exact ⟨rfl, agree⟩
    | ready result => exact finished_tracks divides number written failure _ ticket agree

theorem advance_spares (data : Bytes) (ticket : Ticket) (stage : WriteStage S) :
    Spares (Stream.readHalf inward) (advance T data ticket stage) := by
  intro stream
  cases stage with
  | start => exact start_spares divides data ticket stream
  | opening stage => exact ask_spares divides ticket (some stage) stream
  | discarding number stage =>
    have confined := Stream.onWriter_writes number (Outbound.finish_confined divides)
    have spares := confined.pollSpares ticket stage stream
    simp only [advance]
    rcases polled : (Stream.onWriter number (Outbound.finish T)).poll ticket stage stream with
      ⟨after, later | result⟩ <;> rw [polled] at spares
    · exact spares
    · exact (Stream.giveBack_readHalf _ _ divides).trans
        ((Stream.leaveWriter_readHalf after number ticket divides).trans spares)
  | queued number =>
    simp only [advance]
    split
    · exact admitted_spares divides data number ticket stream
    · rfl
  | filling number written stage =>
    have confined := Stream.onWriter_writes number
      (Outbound.write_confined divides (data.drop written))
    have spares := confined.pollSpares ticket stage stream
    simp only [advance]
    rcases polled : (Stream.onWriter number (Outbound.write T (data.drop written))).poll ticket
      stage stream with ⟨after, later | _ | source | _ | taken⟩ <;> rw [polled] at spares <;>
      exact spares
  | finishing number written failure stage =>
    have confined := Stream.onWriter_writes number (Outbound.finish_confined divides)
    have spares := confined.pollSpares ticket stage stream
    simp only [advance]
    rcases polled : (Stream.onWriter number (Outbound.finish T)).poll ticket stage stream with
      ⟨after, later | result⟩ <;> rw [polled] at spares
    · exact spares
    · exact (finished_spares divides number written failure _ ticket after).trans spares

theorem cancel_tracks (data : Bytes) (ticket : Ticket) (stage : WriteStage S)
    {left right : Stream S} (same : left.writeHalf outward = right.writeHalf outward) :
    (cancel T data ticket stage left).writeHalf outward =
      (cancel T data ticket stage right).writeHalf outward := by
  have finish (number : Nat) := Stream.onWriter_writes number (Outbound.finish_confined divides)
  have config : left.state.config = right.state.config := congrArg WriteHalf.config same
  rcases stage with _ | stage | ⟨number, _ | stage⟩ | number | ⟨number, written, _ | stage⟩ |
    ⟨number, written, failure, _ | stage⟩
  · exact same
  · have confined := Stream.onConnection_writes
      (divides.nextWriter right.state.config.messageKind)
    simp only [cancel, config, Stream.giveBack_writeHalf _ _ divides]
    exact confined.cancel ticket stage same
  · simp only [cancel, Stream.giveBack_writeHalf _ _ divides]
    exact Stream.leaveWriter_writeHalf number ticket divides same
  · simp only [cancel, Stream.giveBack_writeHalf _ _ divides]
    exact Stream.leaveWriter_writeHalf number ticket divides
      ((finish number).cancel ticket stage same)
  · exact Stream.leaveWriter_writeHalf number ticket divides same
  · exact Stream.leaveWriter_writeHalf number ticket divides same
  · have confined := Stream.onWriter_writes number
      (Outbound.write_confined divides (data.drop written))
    exact Stream.leaveWriter_writeHalf number ticket divides (confined.cancel ticket stage same)
  · exact Stream.leaveWriter_writeHalf number ticket divides same
  · exact Stream.leaveWriter_writeHalf number ticket divides
      ((finish number).cancel ticket stage same)

theorem cancel_spares (data : Bytes) (ticket : Ticket) (stage : WriteStage S) (stream : Stream S) :
    (cancel T data ticket stage stream).readHalf inward = stream.readHalf inward := by
  have leave (left : Stream S) (number : Nat) :=
    Stream.leaveWriter_readHalf left number ticket divides
  have finish (number : Nat) := Stream.onWriter_writes number (Outbound.finish_confined divides)
  rcases stage with _ | stage | ⟨number, _ | stage⟩ | number | ⟨number, written, _ | stage⟩ |
    ⟨number, written, failure, _ | stage⟩
  · rfl
  · have confined := Stream.onConnection_writes
      (divides.nextWriter stream.state.config.messageKind)
    exact (Stream.giveBack_readHalf _ _ divides).trans (confined.cancelSpares ticket stage stream)
  · exact (Stream.giveBack_readHalf _ _ divides).trans (leave stream number)
  · exact (Stream.giveBack_readHalf _ _ divides).trans
      ((leave _ number).trans ((finish number).cancelSpares ticket stage stream))
  · exact leave stream number
  · exact leave stream number
  · have confined := Stream.onWriter_writes number
      (Outbound.write_confined divides (data.drop written))
    exact (leave _ number).trans (confined.cancelSpares ticket stage stream)
  · exact leave stream number
  · exact (leave _ number).trans ((finish number).cancelSpares ticket stage stream)

end Write

/-- Writes keep to the half of a stream that they find there. -/
theorem Stream.write_confined (divides : T.Divides inward outward) (data : Bytes) :
    (Stream.write T data).Confined (writeHalf outward) (readHalf inward) where
  poll ticket _ _ _ same :=
    Step.run_tracks (Write.advance_tracks divides data ticket) _ _ same
  pollSpares ticket _ stream :=
    Step.run_spares (Write.advance_spares divides data ticket) _ _ stream
  cancel ticket stage _ _ := Write.cancel_tracks divides data ticket stage
  cancelSpares := Write.cancel_spares divides data

end MessageStream
