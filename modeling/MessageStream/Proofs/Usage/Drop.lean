import MessageStream.Proofs.Usage.Move

/-!
Drops: everything that giving a call up can do to a stream. A call that is given up leaves the line
it stands in and lets go of the connection; what it had begun of a call on the connection is broken
off.
-/
namespace MessageStream

variable {S : Signature}

inductive ReadDrop (T : Transport S) (ticket : Ticket) :
    ReadStage S.recorded → Stream S.recorded → Stream S.recorded → Prop where
  | starts {stream : Stream S.recorded} : ReadDrop T ticket .start stream stream
  | asks {stage : S.ReaderOpening} {stream : Stream S.recorded} {inner : S.World} :
    ReadDrop T ticket (.opening stage) stream
      ((stream.heard inner [.cancelled ticket .nextReader]).giveBack T.recorded ticket)
  | leaves {stage : ReadStage S.recorded} {number : Nat} {turn : Bool}
      {stream : Stream S.recorded} (stands : stage.place = some (number, turn)) :
    ReadDrop T ticket stage stream (stream.leaveReader number ticket)
  | breaksOff {stage : ReadStage S.recorded} {number room : Nat} {turn : Bool}
      {stream : Stream S.recorded} {content : S.Reader} {inner : S.World}
      (stands : stage.place = some (number, turn)) :
    ReadDrop T ticket stage stream
      (((stream.putReader number content).heard inner
        [.cancelled ticket (.read number room)]).leaveReader number ticket)

/-- Breaking off the call on an outbound message that a call had under way, if it had one. -/
inductive BreakOff (ticket : Ticket) (number : Nat) (stream : Stream S.recorded) :
    Option Request → Stream S.recorded → Prop where
  | idle : BreakOff ticket number stream none stream
  | busy {cursor : Cursor (Outbound (Numbered S.Writer))} {content : S.Writer} {inner : S.World}
      {request : Request} (found : stream.state.writers[number]? = some cursor) :
    BreakOff ticket number stream (some request)
      ((stream.putWriter number content cursor.content.finished).heard inner
        [.cancelled ticket request])

inductive WriteDrop (T : Transport S) (data : Bytes) (ticket : Ticket) :
    WriteStage S.recorded → Stream S.recorded → Stream S.recorded → Prop where
  | starts {stream : Stream S.recorded} : WriteDrop T data ticket .start stream stream
  | asks {stage : S.WriterOpening} {stream : Stream S.recorded} {inner : S.World}
      {kind : MessageKind} :
    WriteDrop T data ticket (.opening stage) stream
      ((stream.heard inner [.cancelled ticket (.nextWriter kind)]).giveBack T.recorded ticket)
  | leaves {stage : WriteStage S.recorded} {number : Nat} {turn : Bool}
      {stream after : Stream S.recorded} (stands : stage.place = some (number, turn))
      (breaks : BreakOff ticket number stream (stage.pending data) after) :
    WriteDrop T data ticket stage stream (after.leaveWriter T.recorded number ticket)
  | discards {stage : Option S.Finishing} {number : Nat} {stream after : Stream S.recorded}
      (breaks : BreakOff ticket number stream
        (WriteStage.pending (S := S.recorded) data (.discarding number stage)) after) :
    WriteDrop T data ticket (.discarding number stage) stream
      ((after.leaveWriter T.recorded number ticket).giveBack T.recorded ticket)

inductive CloseDrop (T : Transport S) (ticket : Ticket) :
    CloseStage S.recorded → Stream S.recorded → Stream S.recorded → Prop where
  | starts {stream : Stream S.recorded} : CloseDrop T ticket .start stream stream
  | leaves {stage : CloseStage S.recorded} {number : Nat} {turn : Bool}
      {stream after : Stream S.recorded} (stands : stage.place = some (number, turn))
      (breaks : BreakOff ticket number stream stage.pending after) :
    CloseDrop T ticket stage stream
      (Close.letGo T.recorded ticket (after.leaveWriter T.recorded number ticket))
  | rests {stream : Stream S.recorded} :
    CloseDrop T ticket (.closing none) stream (stream.giveBack T.recorded ticket)
  | shuts {stage : S.Closing} {stream : Stream S.recorded} {inner : S.World} :
    CloseDrop T ticket (.closing (some stage)) stream
      ((stream.heard inner [.cancelled ticket .close]).giveBack T.recorded ticket)

theorem Read.cancel_drops (T : Transport S) (room : Nat) (ticket : Ticket)
    (stage : ReadStage S.recorded) (stream : Stream S.recorded) (enumerated : stream.Enumerated)
    (known : ∀ number turn, stage.place = some (number, turn) →
      number < stream.state.readers.length) :
    ReadDrop T ticket stage stream (Read.cancel T.recorded room ticket stage stream) := by
  cases stage with
  | start => exact .starts
  | opening stage => exact .asks
  | queued number => exact .leaves rfl
  | draining number copied stage =>
    cases stage with
    | none => exact .leaves rfl
    | some stage =>
      have cancelled := Stream.reader_cancel T number (room - copied.length) ticket stage stream
        enumerated _ (List.getElem?_eq_getElem (known number true rfl))
      simp only [cancel, cancelled]
      exact .breaksOff rfl

theorem Stream.finish_breaks (T : Transport S) (number : Nat) (ticket : Ticket)
    (stage : S.Finishing) (stream : Stream S.recorded) (enumerated : stream.Enumerated)
    (known : number < stream.state.writers.length) :
    BreakOff ticket number stream (some (.finish number))
      ((Stream.onWriter number (Outbound.finish T.recorded)).cancel ticket stage stream) := by
  have found := List.getElem?_eq_getElem known
  rw [Stream.finish_cancel T number ticket stage stream enumerated _ found]
  exact .busy found

theorem Write.cancel_drops (T : Transport S) (data : Bytes) (ticket : Ticket)
    (stage : WriteStage S.recorded) (stream : Stream S.recorded) (enumerated : stream.Enumerated)
    (known : ∀ number turn, stage.place = some (number, turn) →
      number < stream.state.writers.length) :
    WriteDrop T data ticket stage stream (Write.cancel T.recorded data ticket stage stream) := by
  cases stage with
  | start => exact .starts
  | opening stage => exact .asks
  | discarding number stage =>
    cases stage with
    | none => exact .discards .idle
    | some stage =>
      exact .discards
        (Stream.finish_breaks T number ticket stage stream enumerated (known number true rfl))
  | queued number => exact .leaves rfl .idle
  | filling number written stage =>
    cases stage with
    | none => exact .leaves rfl .idle
    | some stage =>
      have found := List.getElem?_eq_getElem (known number true rfl)
      simp only [cancel, Stream.writer_cancel T number (data.drop written) ticket stage stream
        enumerated _ found]
      exact .leaves rfl (.busy found)
  | finishing number written failure stage =>
    cases stage with
    | none => exact .leaves rfl .idle
    | some stage =>
      exact .leaves rfl
        (Stream.finish_breaks T number ticket stage stream enumerated (known number true rfl))

theorem Close.cancel_drops (T : Transport S) (ticket : Ticket) (stage : CloseStage S.recorded)
    (stream : Stream S.recorded) (enumerated : stream.Enumerated)
    (known : ∀ number turn, stage.place = some (number, turn) →
      number < stream.state.writers.length) :
    CloseDrop T ticket stage stream (Close.cancel T.recorded ticket stage stream) := by
  cases stage with
  | start => exact .starts
  | queued number => exact .leaves rfl .idle
  | finishing number stage =>
    cases stage with
    | none => exact .leaves rfl .idle
    | some stage =>
      exact .leaves rfl
        (Stream.finish_breaks T number ticket stage stream enumerated (known number true rfl))
  | closing stage =>
    cases stage with
    | none => exact .rests
    | some stage => exact .shuts

end MessageStream
