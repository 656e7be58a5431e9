import MessageStream.Proofs.Usage.Frame
import MessageStream.Proofs.Usage.Turns

/-!
Moves: everything one stretch of a call can do to a stream, whatever the connection answers. Each
rule names the guards under which it applies and the stream it leads to; what the connection may
decide freely appears as a variable. The theorems at the end say that every stretch is a move.
-/
namespace MessageStream

variable {S : Signature}

def ReadStage.place : ReadStage S → Place
  | .start => none
  | .opening _ => none
  | .queued number => some (number, false)
  | .draining number _ _ => some (number, true)

def WriteStage.place : WriteStage S → Place
  | .start => none
  | .opening _ => none
  | .discarding number _ => some (number, true)
  | .queued number => some (number, false)
  | .filling number _ _ => some (number, true)
  | .finishing number _ _ _ => some (number, true)

def CloseStage.place : CloseStage S → Place
  | .start => none
  | .queued number => some (number, false)
  | .finishing number _ => some (number, true)
  | .closing _ => none

def WriteStage.pending (data : Bytes) : WriteStage S → Option Request
  | .discarding number (some _) => some (.finish number)
  | .filling number written (some _) => some (.write number (data.drop written))
  | .finishing number _ _ (some _) => some (.finish number)
  | _ => none

def CloseStage.pending : CloseStage S → Option Request
  | .finishing number (some _) => some (.finish number)
  | _ => none

/-- What comes of asking for the next inbound message. -/
inductive ReaderComes (T : Transport S) (ticket : Ticket) (asked : Option S.ReaderOpening)
    (stream : Stream S.recorded) :
    Step (ReadStage S.recorded) ReadOutcome → Stream S.recorded → Prop where
  | waits {inner : S.World} {later : S.ReaderOpening}
      (polled : T.nextReader.poll ticket asked stream.world.inner = (inner, .waiting later)) :
    ReaderComes T ticket asked stream (.waiting (.opening later))
      (stream.heard inner (Traffic.ofPoll ticket .nextReader asked.isSome none))
  | fails {inner : S.World} {source : Failure}
      (polled : T.nextReader.poll ticket asked stream.world.inner =
        (inner, .ready (.error source))) :
    ReaderComes T ticket asked stream (.ready (.broken [] source))
      ((stream.heard inner (Traffic.ofPoll ticket .nextReader asked.isSome
        (some (.failed source)))).giveBack T.recorded ticket)
  | late {inner : S.World} {reader : S.Reader}
      (closed : stream.state.isClosed = true)
      (polled : T.nextReader.poll ticket asked stream.world.inner =
        (inner, .ready (.ok reader))) :
    ReaderComes T ticket asked stream (.ready .closed)
      ((((stream.heard inner (Traffic.ofPoll ticket .nextReader asked.isSome
        (some (.opened stream.state.readers.length)))).countReader.discardReader
          ⟨stream.state.readers.length, reader⟩).record .inboundDiscarded).giveBack T.recorded
            ticket)
  | opens {inner : S.World} {reader : S.Reader}
      (standing : stream.state.isClosed = false)
      (polled : T.nextReader.poll ticket asked stream.world.inner =
        (inner, .ready (.ok reader))) :
    ReaderComes T ticket asked stream (.onward (.queued stream.state.readers.length))
      ((((stream.heard inner (Traffic.ofPoll ticket .nextReader asked.isSome
        (some (.opened stream.state.readers.length)))).countReader.openReader
          ⟨stream.state.readers.length, reader⟩ ticket).record .inboundOpened).giveBack T.recorded
            ticket)

/-- The moves of a read. -/
inductive ReadMove (T : Transport S) (room : Nat) (ticket : Ticket) :
    ReadStage S.recorded → Stream S.recorded →
      Step (ReadStage S.recorded) ReadOutcome → Stream S.recorded → Prop where
  | refused {stream : Stream S.recorded} (closed : stream.state.isClosed = true) :
    ReadMove T room ticket .start stream (.ready .closed) stream
  | idles {stream : Stream S.recorded} (standing : stream.state.isClosed = false)
      (roomless : room = 0) : ReadMove T room ticket .start stream (.ready (.filled [])) stream
  | joins {stream : Stream S.recorded} {number : Nat} (standing : stream.state.isClosed = false)
      (roomy : room ≠ 0) (current : stream.state.inbound = some number) :
    ReadMove T room ticket .start stream (.onward (.queued number))
      (stream.joinReader number ticket)
  | asks {stream : Stream S.recorded} {step : Step (ReadStage S.recorded) ReadOutcome}
      {after : Stream S.recorded} (standing : stream.state.isClosed = false) (roomy : room ≠ 0)
      (vacant : stream.state.inbound = none)
      (comes : ReaderComes T ticket none (stream.borrow ticket) step after) :
    ReadMove T room ticket .start stream step after
  | hears {stage : S.ReaderOpening} {stream : Stream S.recorded}
      {step : Step (ReadStage S.recorded) ReadOutcome} {after : Stream S.recorded}
      (comes : ReaderComes T ticket (some stage) stream step after) :
    ReadMove T room ticket (.opening stage) stream step after
  | queues {number : Nat} {stream : Stream S.recorded}
      (blocked : (lineOf stream.state.readers number).admits ticket = false) :
    ReadMove T room ticket (.queued number) stream (.waiting (.queued number)) stream
  | enters {number : Nat} {stream : Stream S.recorded}
      (turn : (lineOf stream.state.readers number).admits ticket = true) :
    ReadMove T room ticket (.queued number) stream (.onward (.draining number [] none)) stream
  | pends {number : Nat} {copied : Bytes} {stage : Option S.Reading} {stream : Stream S.recorded}
      {cursor : Cursor (Numbered S.Reader)} {content : S.Reader} {inner : S.World}
      {later : S.Reading} (found : stream.state.readers[number]? = some cursor)
      (polled : (T.read (room - copied.length)).poll ticket stage
        (cursor.content.content, stream.world.inner) = ((content, inner), .waiting later)) :
    ReadMove T room ticket (.draining number copied stage) stream
      (.waiting (.draining number copied (some later)))
      ((stream.putReader number content).heard inner
        (Traffic.ofPoll ticket (.read number (room - copied.length)) stage.isSome none))
  | fails {number : Nat} {copied : Bytes} {stage : Option S.Reading} {stream : Stream S.recorded}
      {cursor : Cursor (Numbered S.Reader)} {content : S.Reader} {inner : S.World}
      {source : Failure} (found : stream.state.readers[number]? = some cursor)
      (polled : (T.read (room - copied.length)).poll ticket stage
        (cursor.content.content, stream.world.inner) =
          ((content, inner), .ready (.error source))) :
    ReadMove T room ticket (.draining number copied stage) stream
      (.ready (.broken copied source))
      ((((stream.putReader number content).heard inner
        (Traffic.ofPoll ticket (.read number (room - copied.length)) stage.isSome
          (some (.failed source)))).leaveReader number ticket).record
            (.inboundMoved copied.length))
  | goesOn {number : Nat} {copied : Bytes} {stage : Option S.Reading}
      {stream : Stream S.recorded} {cursor : Cursor (Numbered S.Reader)} {content : S.Reader}
      {inner : S.World} {bytes : Bytes} (found : stream.state.readers[number]? = some cursor)
      (polled : (T.read (room - copied.length)).poll ticket stage
        (cursor.content.content, stream.world.inner) = ((content, inner), .ready (.ok bytes)))
      (gained : bytes ≠ []) (short : (copied ++ bytes).length < room) :
    ReadMove T room ticket (.draining number copied stage) stream
      (.onward (.draining number (copied ++ bytes) none))
      ((stream.putReader number content).heard inner
        (Traffic.ofPoll ticket (.read number (room - copied.length)) stage.isSome
          (some (.yielded bytes))))
  | fulfils {number : Nat} {copied : Bytes} {stage : Option S.Reading}
      {stream : Stream S.recorded} {cursor : Cursor (Numbered S.Reader)} {content : S.Reader}
      {inner : S.World} {bytes : Bytes} (found : stream.state.readers[number]? = some cursor)
      (polled : (T.read (room - copied.length)).poll ticket stage
        (cursor.content.content, stream.world.inner) = ((content, inner), .ready (.ok bytes)))
      (gained : bytes ≠ []) (full : ¬ (copied ++ bytes).length < room) :
    ReadMove T room ticket (.draining number copied stage) stream
      (.ready (.filled (copied ++ bytes)))
      ((((stream.putReader number content).heard inner
        (Traffic.ofPoll ticket (.read number (room - copied.length)) stage.isSome
          (some (.yielded bytes)))).leaveReader number ticket).record
            (.inboundMoved (copied ++ bytes).length))
  | passes {number : Nat} {stage : Option S.Reading} {stream : Stream S.recorded}
      {cursor : Cursor (Numbered S.Reader)} {content : S.Reader} {inner : S.World}
      (found : stream.state.readers[number]? = some cursor)
      (polled : (T.read room).poll ticket stage (cursor.content.content, stream.world.inner) =
        ((content, inner), .ready (.ok []))) :
    ReadMove T room ticket (.draining number [] stage) stream (.onward .start)
      ((((((stream.putReader number content).heard inner
        (Traffic.ofPoll ticket (.read number room) stage.isSome
          (some (.yielded [])))).leaveReader number ticket).record
            (.inboundMoved 0)).clearInbound number).recordIf
              (stream.state.inbound == some number) (.inboundExhausted 0))
  | ends {number : Nat} {copied : Bytes} {stage : Option S.Reading} {stream : Stream S.recorded}
      {cursor : Cursor (Numbered S.Reader)} {content : S.Reader} {inner : S.World}
      (found : stream.state.readers[number]? = some cursor)
      (polled : (T.read (room - copied.length)).poll ticket stage
        (cursor.content.content, stream.world.inner) = ((content, inner), .ready (.ok [])))
      (gained : copied ≠ []) :
    ReadMove T room ticket (.draining number copied stage) stream (.ready (.filled copied))
      ((((((stream.putReader number content).heard inner
        (Traffic.ofPoll ticket (.read number (room - copied.length)) stage.isSome
          (some (.yielded [])))).leaveReader number ticket).record
            (.inboundMoved copied.length)).clearInbound number).recordIf
              (stream.state.inbound == some number) (.inboundExhausted copied.length))

inductive WriterComes (T : Transport S) (ticket : Ticket) (resumed : Bool)
    (stream : Stream S.recorded) :
    Step (WriteStage S.recorded) WriteOutcome → Stream S.recorded → Prop where
  | waits {stage : Option S.WriterOpening} {inner : S.World} {later : S.WriterOpening}
      (polled : (T.nextWriter stream.state.config.messageKind).poll ticket stage
        stream.world.inner = (inner, .waiting later)) :
    WriterComes T ticket resumed stream (.waiting (.opening later))
      (stream.heard inner
        (Traffic.ofPoll ticket (.nextWriter stream.state.config.messageKind) resumed none))
  | fails {stage : Option S.WriterOpening} {inner : S.World} {source : Failure}
      (polled : (T.nextWriter stream.state.config.messageKind).poll ticket stage
        stream.world.inner = (inner, .ready (.error source))) :
    WriterComes T ticket resumed stream (.ready (.error (.transport 0 source)))
      ((stream.heard inner
        (Traffic.ofPoll ticket (.nextWriter stream.state.config.messageKind) resumed
          (some (.failed source)))).giveBack T.recorded ticket)
  | late {stage : Option S.WriterOpening} {inner : S.World} {writer : S.Writer}
      (closed : stream.state.isClosed = true)
      (polled : (T.nextWriter stream.state.config.messageKind).poll ticket stage
        stream.world.inner = (inner, .ready (.ok writer))) :
    WriterComes T ticket resumed stream
      (.onward (.discarding stream.state.writers.length none))
      (((stream.heard inner
        (Traffic.ofPoll ticket (.nextWriter stream.state.config.messageKind) resumed
          (some (.opened stream.state.writers.length)))).countWriter.enterWriter
            ⟨stream.state.writers.length, writer⟩ ticket).record
              (.outboundDiscarded stream.state.config.messageKind))
  | opens {stage : Option S.WriterOpening} {inner : S.World} {writer : S.Writer}
      (standing : stream.state.isClosed = false)
      (polled : (T.nextWriter stream.state.config.messageKind).poll ticket stage
        stream.world.inner = (inner, .ready (.ok writer))) :
    WriterComes T ticket resumed stream (.onward (.queued stream.state.writers.length))
      ((((stream.heard inner
        (Traffic.ofPoll ticket (.nextWriter stream.state.config.messageKind) resumed
          (some (.opened stream.state.writers.length)))).countWriter.openWriter T.recorded
            ⟨stream.state.writers.length, writer⟩ ticket).record
              (.outboundOpened stream.state.config.messageKind)).giveBack T.recorded ticket)

/-- What comes of finishing an outbound message. One that has been finished is left alone. -/
inductive FinishComes (T : Transport S) (ticket : Ticket) (number : Nat) (resumed : Bool)
    (stream : Stream S.recorded) :
    Progress S.Finishing (Except Failure Unit) → Stream S.recorded → Prop where
  | settled {cursor : Cursor (Outbound (Numbered S.Writer))} (fresh : resumed = false)
      (found : stream.state.writers[number]? = some cursor)
      (finished : cursor.content.finished = true) :
    FinishComes T ticket number resumed stream (.ready (.ok ())) stream
  | polls {stage : Option S.Finishing} {cursor : Cursor (Outbound (Numbered S.Writer))}
      {content : S.Writer} {inner : S.World}
      {progress : Progress S.Finishing (Except Failure Unit)}
      (found : stream.state.writers[number]? = some cursor)
      (unsettled : resumed = true ∨ cursor.content.finished = false)
      (polled : T.finish.poll ticket stage (cursor.content.writer.content, stream.world.inner) =
        ((content, inner), progress)) :
    FinishComes T ticket number resumed stream progress
      ((stream.putWriter number content true).heard inner
        (Traffic.ofPoll ticket (.finish number) resumed (progress.reply? fun () => .done)))

/-- The moves of a write. -/
inductive WriteMove (T : Transport S) (data : Bytes) (ticket : Ticket) :
    WriteStage S.recorded → Stream S.recorded →
      Step (WriteStage S.recorded) WriteOutcome → Stream S.recorded → Prop where
  | refused {stream : Stream S.recorded} (closed : stream.state.isClosed = true) :
    WriteMove T data ticket .start stream (.ready (.error .closed)) stream
  | skips {stream : Stream S.recorded} (standing : stream.state.isClosed = false)
      (skipped : stream.state.config.skips data = true) :
    WriteMove T data ticket .start stream (.ready (.ok 0)) stream
  | joins {stream : Stream S.recorded} {number : Nat} (standing : stream.state.isClosed = false)
      (sent : stream.state.config.skips data = false)
      (current : stream.state.outbound = some number) :
    WriteMove T data ticket .start stream (.onward (.queued number))
      (stream.joinWriter number ticket)
  | asks {stream : Stream S.recorded} {step : Step (WriteStage S.recorded) WriteOutcome}
      {after : Stream S.recorded} (standing : stream.state.isClosed = false)
      (sent : stream.state.config.skips data = false) (vacant : stream.state.outbound = none)
      (comes : WriterComes T ticket false (stream.borrow ticket) step after) :
    WriteMove T data ticket .start stream step after
  | hears {stage : S.WriterOpening} {stream : Stream S.recorded}
      {step : Step (WriteStage S.recorded) WriteOutcome} {after : Stream S.recorded}
      (comes : WriterComes T ticket true stream step after) :
    WriteMove T data ticket (.opening stage) stream step after
  | discardPends {number : Nat} {stage : Option S.Finishing} {stream after : Stream S.recorded}
      {later : S.Finishing}
      (comes : FinishComes T ticket number stage.isSome stream (.waiting later) after) :
    WriteMove T data ticket (.discarding number stage) stream
      (.waiting (.discarding number (some later))) after
  | discards {number : Nat} {stage : Option S.Finishing} {stream after : Stream S.recorded}
      {result : Except Failure Unit}
      (comes : FinishComes T ticket number stage.isSome stream (.ready result) after) :
    WriteMove T data ticket (.discarding number stage) stream (.ready (.error .closed))
      ((after.leaveWriter T.recorded number ticket).giveBack T.recorded ticket)
  | queues {number : Nat} {stream : Stream S.recorded}
      (blocked : (lineOf stream.state.writers number).admits ticket = false) :
    WriteMove T data ticket (.queued number) stream (.waiting (.queued number)) stream
  | retires {number : Nat} {stream : Stream S.recorded}
      {cursor : Cursor (Outbound (Numbered S.Writer))}
      (turn : (lineOf stream.state.writers number).admits ticket = true)
      (found : stream.state.writers[number]? = some cursor)
      (finished : cursor.content.finished = true) :
    WriteMove T data ticket (.queued number) stream (.onward .start)
      (stream.retireWriter T.recorded number ticket)
  | enters {number : Nat} {stream : Stream S.recorded}
      {cursor : Cursor (Outbound (Numbered S.Writer))}
      (turn : (lineOf stream.state.writers number).admits ticket = true)
      (found : stream.state.writers[number]? = some cursor)
      (unfinished : cursor.content.finished = false) :
    WriteMove T data ticket (.queued number) stream
      (.onward (Write.fillOrFinish data number 0)) stream
  | pends {number written : Nat} {stage : Option S.Writing} {stream : Stream S.recorded}
      {cursor : Cursor (Outbound (Numbered S.Writer))} {content : S.Writer} {inner : S.World}
      {later : S.Writing} (found : stream.state.writers[number]? = some cursor)
      (polled : (T.write (data.drop written)).poll ticket stage
        (cursor.content.writer.content, stream.world.inner) =
          ((content, inner), .waiting later)) :
    WriteMove T data ticket (.filling number written stage) stream
      (.waiting (.filling number written (some later)))
      ((stream.putWriter number content cursor.content.finished).heard inner
        (Traffic.ofPoll ticket (.write number (data.drop written)) stage.isSome none))
  | breaks {number written : Nat} {stage : Option S.Writing} {stream : Stream S.recorded}
      {cursor : Cursor (Outbound (Numbered S.Writer))} {content : S.Writer} {inner : S.World}
      {source : Failure} (found : stream.state.writers[number]? = some cursor)
      (polled : (T.write (data.drop written)).poll ticket stage
        (cursor.content.writer.content, stream.world.inner) =
          ((content, inner), .ready (.error source))) :
    WriteMove T data ticket (.filling number written stage) stream
      (.onward (.finishing number written (some source) none))
      ((stream.putWriter number content cursor.content.finished).heard inner
        (Traffic.ofPoll ticket (.write number (data.drop written)) stage.isSome
          (some (.failed source))))
  | takes {number written : Nat} {stage : Option S.Writing} {stream : Stream S.recorded}
      {cursor : Cursor (Outbound (Numbered S.Writer))} {content : S.Writer} {inner : S.World}
      {taken : Nat} (found : stream.state.writers[number]? = some cursor)
      (polled : (T.write (data.drop written)).poll ticket stage
        (cursor.content.writer.content, stream.world.inner) =
          ((content, inner), .ready (.ok taken)))
      (gained : taken ≠ 0) :
    WriteMove T data ticket (.filling number written stage) stream
      (.onward (Write.fillOrFinish data number (written + taken)))
      ((stream.putWriter number content cursor.content.finished).heard inner
        (Traffic.ofPoll ticket (.write number (data.drop written)) stage.isSome
          (some (.accepted taken))))
  | stalls {number written : Nat} {stage : Option S.Writing} {stream : Stream S.recorded}
      {cursor : Cursor (Outbound (Numbered S.Writer))} {content : S.Writer} {inner : S.World}
      (found : stream.state.writers[number]? = some cursor)
      (polled : (T.write (data.drop written)).poll ticket stage
        (cursor.content.writer.content, stream.world.inner) = ((content, inner), .ready (.ok 0))) :
    WriteMove T data ticket (.filling number written stage) stream
      (.onward (.finishing number written (some (.bare .writeZero)) none))
      ((stream.putWriter number content cursor.content.finished).heard inner
        (Traffic.ofPoll ticket (.write number (data.drop written)) stage.isSome
          (some (.accepted 0))))
  | finishPends {number written : Nat} {failure : Option Failure} {stage : Option S.Finishing}
      {stream after : Stream S.recorded} {later : S.Finishing}
      (comes : FinishComes T ticket number stage.isSome stream (.waiting later) after) :
    WriteMove T data ticket (.finishing number written failure stage) stream
      (.waiting (.finishing number written failure (some later))) after
  | failed {number written : Nat} {source : Failure} {stage : Option S.Finishing}
      {stream after : Stream S.recorded} {result : Except Failure Unit}
      (comes : FinishComes T ticket number stage.isSome stream (.ready result) after) :
    WriteMove T data ticket (.finishing number written (some source) stage) stream
      (.ready (.error (.transport written source)))
      ((after.retireWriter T.recorded number ticket).record (.outboundMoved written))
  | finishFails {number written : Nat} {source : Failure} {stage : Option S.Finishing}
      {stream after : Stream S.recorded}
      (comes : FinishComes T ticket number stage.isSome stream (.ready (.error source)) after) :
    WriteMove T data ticket (.finishing number written none stage) stream
      (.ready (.error (.transport written source)))
      ((after.retireWriter T.recorded number ticket).record (.outboundMoved written))
  | delivers {number written : Nat} {stage : Option S.Finishing}
      {stream after : Stream S.recorded}
      (comes : FinishComes T ticket number stage.isSome stream (.ready (.ok ())) after) :
    WriteMove T data ticket (.finishing number written none stage) stream
      (.ready (.ok written))
      (((after.retireWriter T.recorded number ticket).record (.outboundMoved written)).record
        (.outboundFinalized written))

inductive Shuts (ticket : Ticket) (stream : Stream S.recorded) :
    Step (CloseStage S.recorded) CloseOutcome → Prop where
  | owner (taken : ticket ∈ stream.state.lease.borrowers) :
    Shuts ticket stream (.onward (.closing none))
  | other (absent : ticket ∉ stream.state.lease.borrowers) : Shuts ticket stream (.ready (.ok ()))

/-- The moves of a close. -/
inductive CloseMove (T : Transport S) (ticket : Ticket) :
    CloseStage S.recorded → Stream S.recorded →
      Step (CloseStage S.recorded) CloseOutcome → Stream S.recorded → Prop where
  | takes {stream : Stream S.recorded} {number : Nat}
      (current : stream.state.outbound = some number) :
    CloseMove T ticket .start stream (.onward (.queued number))
      ((Close.take ticket stream).joinWriter number ticket)
  | takesIdle {stream : Stream S.recorded} {step : Step (CloseStage S.recorded) CloseOutcome}
      (vacant : stream.state.outbound = none)
      (shuts : Shuts ticket (Close.take ticket stream) step) :
    CloseMove T ticket .start stream step (Close.take ticket stream)
  | queues {number : Nat} {stream : Stream S.recorded}
      (blocked : (lineOf stream.state.writers number).admits ticket = false) :
    CloseMove T ticket (.queued number) stream (.waiting (.queued number)) stream
  | enters {number : Nat} {stream : Stream S.recorded}
      (turn : (lineOf stream.state.writers number).admits ticket = true) :
    CloseMove T ticket (.queued number) stream (.onward (.finishing number none)) stream
  | finishPends {number : Nat} {stage : Option S.Finishing} {stream after : Stream S.recorded}
      {later : S.Finishing}
      (comes : FinishComes T ticket number stage.isSome stream (.waiting later) after) :
    CloseMove T ticket (.finishing number stage) stream
      (.waiting (.finishing number (some later))) after
  | finishFails {number : Nat} {stage : Option S.Finishing} {stream after : Stream S.recorded}
      {source : Failure}
      (comes : FinishComes T ticket number stage.isSome stream (.ready (.error source)) after) :
    CloseMove T ticket (.finishing number stage) stream (.ready (.error (.transport 0 source)))
      (Close.letGo T.recorded ticket (after.leaveWriter T.recorded number ticket))
  | finishes {number : Nat} {stage : Option S.Finishing} {stream after : Stream S.recorded}
      {step : Step (CloseStage S.recorded) CloseOutcome}
      (comes : FinishComes T ticket number stage.isSome stream (.ready (.ok ())) after)
      (shuts : Shuts ticket (after.leaveWriter T.recorded number ticket) step) :
    CloseMove T ticket (.finishing number stage) stream step
      (after.leaveWriter T.recorded number ticket)
  | pends {stage : Option S.Closing} {stream : Stream S.recorded} {inner : S.World}
      {later : S.Closing}
      (polled : T.close.poll ticket stage stream.world.inner = (inner, .waiting later)) :
    CloseMove T ticket (.closing stage) stream (.waiting (.closing (some later)))
      (stream.heard inner (Traffic.ofPoll ticket .close stage.isSome none))
  | fails {stage : Option S.Closing} {stream : Stream S.recorded} {inner : S.World}
      {source : Failure}
      (polled : T.close.poll ticket stage stream.world.inner =
        (inner, .ready (.error source))) :
    CloseMove T ticket (.closing stage) stream (.ready (.error (.transport 0 source)))
      ((stream.heard inner (Traffic.ofPoll ticket .close stage.isSome
        (some (.failed source)))).giveBack T.recorded ticket)
  | closes {stage : Option S.Closing} {stream : Stream S.recorded} {inner : S.World}
      (polled : T.close.poll ticket stage stream.world.inner = (inner, .ready (.ok ()))) :
    CloseMove T ticket (.closing stage) stream (.ready (.ok ()))
      (((stream.heard inner (Traffic.ofPoll ticket .close stage.isSome
        (some .done))).record .closed).giveBack T.recorded ticket)

theorem Read.ask_comes (T : Transport S) (ticket : Ticket) (stage : Option S.ReaderOpening)
    (stream : Stream S.recorded) (enumerated : stream.Enumerated) :
    ReaderComes T ticket stage stream (Read.ask T.recorded ticket stage stream).2
      (Read.ask T.recorded ticket stage stream).1 := by
  unfold ask
  rw [Stream.nextReader_poll]
  rcases result : T.nextReader.poll ticket stage stream.world.inner with
    ⟨inner, later | source | reader⟩
  · exact .waits result
  · exact .fails result
  · simp only [enumerated.reader_count, opened]
    split
    · rename_i closed
      exact .late closed result
    · rename_i standing
      exact .opens (by simpa using standing) result

theorem Read.start_moves (T : Transport S) (room : Nat) (ticket : Ticket)
    (stream : Stream S.recorded) (enumerated : stream.Enumerated) :
    ReadMove T room ticket .start stream (Read.start T.recorded room ticket stream).2
      (Read.start T.recorded room ticket stream).1 := by
  unfold Read.start
  split
  · rename_i closed
    exact .refused closed
  · rename_i standing
    rw [Bool.not_eq_true] at standing
    split
    · rename_i roomless
      exact .idles standing roomless
    · rename_i roomy
      split
      · rename_i number current
        exact .joins standing roomy current
      · rename_i vacant
        exact .asks standing roomy vacant
          (Read.ask_comes T ticket none (stream.borrow ticket) (enumerated.after_borrow ticket))

theorem Read.advance_moves (T : Transport S) (room : Nat) (ticket : Ticket)
    (stage : ReadStage S.recorded) (stream : Stream S.recorded) (enumerated : stream.Enumerated)
    (known : ∀ number turn, stage.place = some (number, turn) →
      number < stream.state.readers.length) :
    ReadMove T room ticket stage stream (Read.advance T.recorded room ticket stage stream).2
      (Read.advance T.recorded room ticket stage stream).1 := by
  cases stage with
  | start => exact start_moves T room ticket stream enumerated
  | opening stage => exact .hears (ask_comes T ticket (some stage) stream enumerated)
  | queued number =>
    simp only [advance]
    split
    · rename_i turn
      exact .enters turn
    · rename_i blocked
      exact .queues (by simpa using blocked)
  | draining number copied stage =>
    obtain ⟨cursor, found⟩ : ∃ cursor, stream.state.readers[number]? = some cursor :=
      ⟨_, List.getElem?_eq_getElem (known number _ rfl)⟩
    have polled := Stream.reader_poll T number (room - copied.length) ticket stage stream enumerated
      cursor found
    rcases result : (T.read (room - copied.length)).poll ticket stage
      (cursor.content.content, stream.world.inner) with ⟨⟨content, inner⟩, later | source | bytes⟩
    · rw [result] at polled
      simp only [advance, polled, Progress.map, Progress.reply?]
      exact .pends found result
    · rw [result] at polled
      simp only [advance, polled, Progress.map, Progress.reply?]
      exact .fails found result
    · rw [result] at polled
      simp only [advance, polled, Progress.map, Progress.reply?]
      -- A reader that yields nothing is at its end. The read goes on to the next message unless
      -- it has copied something.
      cases bytes with
      | nil =>
        simp only [yielded, List.isEmpty_nil, Bool.not_true, Bool.false_and, Bool.false_eq_true,
          ↓reduceIte, List.append_nil, exhausted]
        cases copied with
        | nil => exact .passes found result
        | cons first rest =>
          exact .ends found result (by simp)
      | cons first rest =>
        have some : first :: rest ≠ [] := List.cons_ne_nil first rest
        by_cases short : (copied ++ first :: rest).length < room
        · simp only [yielded, List.isEmpty_cons, Bool.not_false, Bool.true_and, short, decide_true,
            ↓reduceIte]
          exact .goesOn found result some short
        · simp only [yielded, List.isEmpty_cons, Bool.not_false, Bool.true_and, short, decide_false,
            Bool.false_eq_true, ↓reduceIte]
          exact .fulfils found result some short

theorem Write.ask_comes (T : Transport S) (ticket : Ticket) (stage : Option S.WriterOpening)
    (stream : Stream S.recorded) (enumerated : stream.Enumerated) :
    WriterComes T ticket stage.isSome stream (Write.ask T.recorded ticket stage stream).2
      (Write.ask T.recorded ticket stage stream).1 := by
  unfold ask
  rw [Stream.nextWriter_poll]
  rcases result : (T.nextWriter stream.state.config.messageKind).poll ticket stage
    stream.world.inner with ⟨inner, later | source | writer⟩
  · exact .waits result
  · exact .fails result
  · simp only [enumerated.writer_count, opened]
    split
    · rename_i closed
      exact .late closed result
    · rename_i standing
      exact .opens (by simpa using standing) result

theorem Write.start_moves (T : Transport S) (data : Bytes) (ticket : Ticket)
    (stream : Stream S.recorded) (enumerated : stream.Enumerated) :
    WriteMove T data ticket .start stream (Write.start T.recorded data ticket stream).2
      (Write.start T.recorded data ticket stream).1 := by
  unfold Write.start
  split
  · rename_i closed
    exact .refused closed
  · rename_i standing
    rw [Bool.not_eq_true] at standing
    split
    · rename_i skipped
      exact .skips standing skipped
    · rename_i sent
      rw [Bool.not_eq_true] at sent
      split
      · rename_i number current
        exact .joins standing sent current
      · rename_i vacant
        exact .asks standing sent vacant
          (Write.ask_comes T ticket none (stream.borrow ticket) (enumerated.after_borrow ticket))

theorem Stream.finish_poll (T : Transport S) (number : Nat) (ticket : Ticket)
    (stage : Option S.Finishing) (stream : Stream S.recorded) (enumerated : stream.Enumerated)
    (known : number < stream.state.writers.length) :
    ∃ after progress,
      (Stream.onWriter number (Outbound.finish T.recorded)).poll ticket stage stream =
        (after, progress.map some) ∧
      FinishComes T ticket number stage.isSome stream progress after := by
  obtain ⟨cursor, found⟩ : ∃ cursor, stream.state.writers[number]? = some cursor :=
    ⟨_, List.getElem?_eq_getElem known⟩
  have same := enumerated.writer_number found
  -- A finish that is resumed goes on, even if the message has been marked as finished since.
  by_cases settled : (stage.isNone && cursor.content.finished) = true
  · obtain ⟨fresh, finished⟩ := Bool.and_eq_true_iff.mp settled
    have unchanged := Stream.putWriter_same stream number cursor found
    refine ⟨stream, .ready (.ok ()), ?_, .settled (by simpa using fresh) found finished⟩
    simp only [Stream.onWriter, Operation.withinOption, found, Option.map_some, Outbound.finish,
      settled, ↓reduceIte]
    rw [Stream.modify] at unchanged
    rw [unchanged]
  · have called := Recorded.callOn_poll .finish (fun () => .done) T.finish ticket stage
      cursor.content.writer stream.world
    have unsettled : stage.isSome = true ∨ cursor.content.finished = false := by
      cases stage <;> simp_all
    rcases result : T.finish.poll ticket stage
      (cursor.content.writer.content, stream.world.inner) with ⟨⟨content, inner⟩, progress⟩
    rw [result] at called
    refine ⟨_, progress, ?_, .polls found unsettled result⟩
    simp only [Stream.onWriter, Operation.withinOption, found, Option.map_some, Outbound.finish,
      settled, Bool.false_eq_true, ↓reduceIte, Transport.recorded, called, same]
    rfl

theorem Write.advance_moves (T : Transport S) (data : Bytes) (ticket : Ticket)
    (stage : WriteStage S.recorded) (stream : Stream S.recorded) (enumerated : stream.Enumerated)
    (known : ∀ number turn, stage.place = some (number, turn) →
      number < stream.state.writers.length) :
    WriteMove T data ticket stage stream (Write.advance T.recorded data ticket stage stream).2
      (Write.advance T.recorded data ticket stage stream).1 := by
  cases stage with
  | start => exact start_moves T data ticket stream enumerated
  | opening stage => exact .hears (ask_comes T ticket (some stage) stream enumerated)
  | discarding number stage =>
    obtain ⟨after, progress, result, comes⟩ :=
      Stream.finish_poll T number ticket stage stream enumerated (known number _ rfl)
    simp only [advance, result]
    cases progress with
    | waiting later => exact .discardPends comes
    | ready answer => exact .discards comes
  | queued number =>
    obtain ⟨cursor, found⟩ : ∃ cursor, stream.state.writers[number]? = some cursor :=
      ⟨_, List.getElem?_eq_getElem (known number _ rfl)⟩
    simp only [advance]
    split
    · rename_i turn
      simp only [admitted, found]
      split
      · rename_i finished
        exact .retires turn found finished
      · rename_i unfinished
        exact .enters turn found (by simpa using unfinished)
    · rename_i blocked
      exact .queues (by simpa using blocked)
  | filling number written stage =>
    obtain ⟨cursor, found⟩ : ∃ cursor, stream.state.writers[number]? = some cursor :=
      ⟨_, List.getElem?_eq_getElem (known number _ rfl)⟩
    have polled := Stream.writer_poll T number (data.drop written) ticket stage stream enumerated
      cursor found
    rcases result : (T.write (data.drop written)).poll ticket stage
      (cursor.content.writer.content, stream.world.inner) with
      ⟨⟨content, inner⟩, later | source | taken⟩
    · rw [result] at polled
      simp only [advance, polled, Progress.map, Progress.reply?]
      exact .pends found result
    · rw [result] at polled
      simp only [advance, polled, Progress.map, Progress.reply?]
      exact .breaks found result
    · rw [result] at polled
      simp only [advance, polled, Progress.map, Progress.reply?]
      cases taken with
      | zero => exact .stalls found result
      | succ taken => exact .takes found result (Nat.succ_ne_zero taken)
  | finishing number written failure stage =>
    obtain ⟨after, progress, result, comes⟩ :=
      Stream.finish_poll T number ticket stage stream enumerated (known number _ rfl)
    simp only [advance, result]
    cases progress with
    | waiting later => exact .finishPends comes
    | ready answer =>
      cases failure with
      | some source => exact .failed comes
      | none =>
        cases answer with
        | error source => exact .finishFails comes
        | ok nothing => exact .delivers comes

theorem Close.shutDown_shuts (ticket : Ticket) (stream : Stream S.recorded) :
    (Close.shutDown ticket stream).1 = stream ∧
      Shuts ticket stream (Close.shutDown ticket stream).2 := by
  unfold Close.shutDown
  split
  · rename_i taken
    exact ⟨rfl, .owner taken⟩
  · rename_i absent
    exact ⟨rfl, .other absent⟩

theorem Close.advance_moves (T : Transport S) (ticket : Ticket) (stage : CloseStage S.recorded)
    (stream : Stream S.recorded) (enumerated : stream.Enumerated)
    (known : ∀ number turn, stage.place = some (number, turn) →
      number < stream.state.writers.length) :
    CloseMove T ticket stage stream (Close.advance T.recorded ticket stage stream).2
      (Close.advance T.recorded ticket stage stream).1 := by
  cases stage with
  | start =>
    simp only [advance, start]
    split
    · rename_i number current
      exact .takes current
    · rename_i vacant
      obtain ⟨same, shuts⟩ := shutDown_shuts ticket (take ticket stream)
      rw [same]
      exact .takesIdle vacant shuts
  | queued number =>
    simp only [advance]
    split
    · rename_i turn
      exact .enters turn
    · rename_i blocked
      exact .queues (by simpa using blocked)
  | finishing number stage =>
    obtain ⟨after, progress, result, comes⟩ :=
      Stream.finish_poll T number ticket stage stream enumerated (known number _ rfl)
    simp only [advance, result]
    cases progress with
    | waiting later => exact .finishPends comes
    | ready answer =>
      cases answer with
      | error source => exact .finishFails comes
      | ok nothing =>
        obtain ⟨same, shuts⟩ := shutDown_shuts ticket (after.leaveWriter T.recorded number ticket)
        simp only [Progress.map]
        rw [same]
        exact .finishes comes shuts
  | closing stage =>
    have called := Recorded.call_poll .close (fun () => .done) T.close ticket stage stream.world
    rcases result : T.close.poll ticket stage stream.world.inner with
      ⟨inner, later | source | nothing⟩
    · rw [result] at called
      simp only [advance, Stream.onConnection, Operation.within, Transport.recorded, called]
      exact .pends result
    · rw [result] at called
      simp only [advance, Stream.onConnection, Operation.within, Transport.recorded, called]
      exact .fails result
    · rw [result] at called
      simp only [advance, Stream.onConnection, Operation.within, Transport.recorded, called]
      exact .closes result

end MessageStream
