import MessageStream.Proofs.Usage.Drop
import MessageStream.Proofs.Usage.Stretch

/-!
Where calls stand. A call stands in the line its stage names, and every move and every drop shifts
it in that line and in no other. Readers and writers keep their numbers throughout, and none but a
close takes the connection.
-/
namespace MessageStream

variable {S : Signature}

/-- Where a call stands after a stretch. -/
def Step.place {Stage Answer : Type} (place : Stage → Place) : Step Stage Answer → Place
  | .waiting stage => place stage
  | .onward stage => place stage
  | .ready _ => none

namespace Phase

variable {Stage Answer : Type}

def place (place : Stage → Place) : Phase Stage Answer → Place
  | waiting stage => place stage
  | _ => none

/-- The stage from which the next stretch of a call goes on, if there is one. -/
def next? (start : Stage) : Phase Stage Answer → Option Stage
  | fresh => some start
  | waiting stage => some stage
  | _ => none

theorem place_ofStep (place : Stage → Place) (step : Step Stage Answer) :
    (ofStep step).place place = step.place place := by
  cases step <;> rfl

theorem place_next (place : Stage → Place) (start : Stage) (away : place start = none)
    {phase : Phase Stage Answer} {stage : Stage} (next : phase.next? start = some stage) :
    phase.place place = place stage := by
  cases phase <;> cases next
  · exact away.symm
  · rfl

end Phase

namespace Call

def reader : Call S → Place
  | read _ phase => phase.place ReadStage.place
  | _ => none

def writer : Call S → Place
  | read _ _ => none
  | write _ phase => phase.place WriteStage.place
  | close phase => phase.place CloseStage.place

end Call

theorem FinishComes.enumerated {T : Transport S} {ticket : Ticket} {number : Nat} {resumed : Bool}
    {stream after : Stream S.recorded} {progress : Progress S.Finishing (Except Failure Unit)}
    (comes : FinishComes T ticket number resumed stream progress after)
    (enumerated : stream.Enumerated) : after.Enumerated := by
  cases comes with
  | settled fresh found finished => exact enumerated
  | polls found unsettled => exact (enumerated.after_putWriter _ _ _).after_heard _ _

theorem FinishComes.lines_same {T : Transport S} {ticket : Ticket} {number : Nat} {resumed : Bool}
    {stream after : Stream S.recorded} {progress : Progress S.Finishing (Except Failure Unit)}
    (comes : FinishComes T ticket number resumed stream progress after) :
    lineOf after.state.writers = lineOf stream.state.writers := by
  cases comes with
  | settled fresh found finished => rfl
  | polls found unsettled => simp

theorem FinishComes.readers_same {T : Transport S} {ticket : Ticket} {number : Nat} {resumed : Bool}
    {stream after : Stream S.recorded} {progress : Progress S.Finishing (Except Failure Unit)}
    (comes : FinishComes T ticket number resumed stream progress after) :
    after.state.readers = stream.state.readers := by
  cases comes with
  | settled fresh found finished => rfl
  | polls found unsettled => rfl

theorem FinishComes.inbound_same {T : Transport S} {ticket : Ticket} {number : Nat} {resumed : Bool}
    {stream after : Stream S.recorded} {progress : Progress S.Finishing (Except Failure Unit)}
    (comes : FinishComes T ticket number resumed stream progress after) :
    after.state.inbound = stream.state.inbound := by
  cases comes <;> rfl

theorem BreakOff.enumerated {ticket : Ticket} {number : Nat} {request : Option Request}
    {stream after : Stream S.recorded} (breaks : BreakOff ticket number stream request after)
    (enumerated : stream.Enumerated) :
    after.Enumerated := by
  cases breaks with
  | idle => exact enumerated
  | busy found => exact (enumerated.after_putWriter _ _ _).after_heard _ _

theorem BreakOff.lines_same {ticket : Ticket} {number : Nat} {request : Option Request}
    {stream after : Stream S.recorded} (breaks : BreakOff ticket number stream request after) :
    lineOf after.state.writers = lineOf stream.state.writers := by
  cases breaks with
  | idle => rfl
  | busy found => simp

theorem BreakOff.readers_same {ticket : Ticket} {number : Nat} {request : Option Request}
    {stream after : Stream S.recorded} (breaks : BreakOff ticket number stream request after) :
    after.state.readers = stream.state.readers := by
  cases breaks with
  | idle => rfl
  | busy found => rfl

theorem BreakOff.inbound_same {ticket : Ticket} {number : Nat} {request : Option Request}
    {stream after : Stream S.recorded} (breaks : BreakOff ticket number stream request after) :
    after.state.inbound = stream.state.inbound := by
  cases breaks <;> rfl

section Reads

variable {T : Transport S} {room : Nat} {ticket : Ticket} {stage : ReadStage S.recorded}
  {step : Step (ReadStage S.recorded) ReadOutcome} {stream after : Stream S.recorded}

theorem ReaderComes.enumerated {asked : Option S.ReaderOpening}
    (comes : ReaderComes T ticket asked stream step after) (enumerated : stream.Enumerated) :
    after.Enumerated := by
  cases comes with
  | waits => exact enumerated.after_heard _ _
  | fails => exact (enumerated.after_heard _ _).after_giveBack _
  | late closed =>
    exact (((enumerated.after_heard _ _).after_discardReader _).after_record _).after_giveBack _
  | opens standing =>
    exact (((enumerated.after_heard _ _).after_openReader _ _).after_record _).after_giveBack _

theorem ReadMove.enumerated (move : ReadMove T room ticket stage stream step after)
    (enumerated : stream.Enumerated) : after.Enumerated := by
  cases move with
  | refused closed => exact enumerated
  | idles standing roomless => exact enumerated
  | joins standing roomy current => exact enumerated.after_joinReader _ _
  | asks standing roomy vacant comes => exact comes.enumerated (enumerated.after_borrow _)
  | hears comes => exact comes.enumerated enumerated
  | queues blocked => exact enumerated
  | enters turn => exact enumerated
  | pends found polled => exact (enumerated.after_putReader _ _).after_heard _ _
  | fails found polled =>
    exact (((enumerated.after_putReader _ _).after_heard _ _).after_leaveReader _ _).after_record _
  | goesOn found polled gained short => exact (enumerated.after_putReader _ _).after_heard _ _
  | fulfils found polled gained full =>
    exact (((enumerated.after_putReader _ _).after_heard _ _).after_leaveReader _ _).after_record _
  | passes found polled =>
    exact (((enumerated.after_putReader _ _).after_heard _ _).after_leaveReader _ _)
      |>.after_record _ |>.after_clearInbound _ |>.after_recordIf _ _
  | ends found polled gained =>
    exact (((enumerated.after_putReader _ _).after_heard _ _).after_leaveReader _ _)
      |>.after_record _ |>.after_clearInbound _ |>.after_recordIf _ _

theorem ReaderComes.shifts {asked : Option S.ReaderOpening}
    (comes : ReaderComes T ticket asked stream step after) :
    Shift ticket (lineOf stream.state.readers) none (step.place ReadStage.place)
      (lineOf after.state.readers) := by
  have beyond := lineOf_outside stream.state.readers (Nat.le_refl _)
  cases comes with
  | waits => exact .stays
  | fails => exact .stays
  | late closed =>
    -- The late message has nobody in line, as every message has that is not there.
    have same : Function.update (lineOf stream.state.readers) stream.state.readers.length [] =
        lineOf stream.state.readers := beyond ▸ Function.update_eq_self _ _
    simpa [lineOf_enter, same, Step.place] using Shift.stays
  | opens standing =>
    have joined : Shift ticket (lineOf stream.state.readers) none
        (some (stream.state.readers.length, false)) _ := .joins nofun
    simpa [lineOf_enter, beyond, Line.join, Step.place, ReadStage.place] using joined

theorem ReadMove.shifts (move : ReadMove T room ticket stage stream step after)
    (enumerated : stream.Enumerated) :
    Shift ticket (lineOf stream.state.readers) stage.place (step.place ReadStage.place)
      (lineOf after.state.readers) := by
  cases move with
  | refused closed => exact .stays
  | idles standing roomless => exact .stays
  | joins standing roomy current =>
    rename_i number
    rw [Stream.joinReader_state, lineOf_join _ _ _ (enumerated.inbound number current)]
    exact .joins nofun
  | asks standing roomy vacant comes => exact comes.shifts
  | hears comes => exact comes.shifts
  | queues blocked => exact .stays
  | enters turn => exact .enters turn
  | pends found polled => simpa [Step.place, ReadStage.place] using Shift.stays
  | fails found polled =>
    simp only [Stream.record_state, Stream.leaveReader_state, Stream.heard_state,
      Stream.putReader_state, lineOf_leave, lineOf_content]
    exact .leaves
  | goesOn found polled gained short => simpa [Step.place, ReadStage.place] using Shift.stays
  | fulfils found polled gained full =>
    simp only [Stream.record_state, Stream.leaveReader_state, Stream.heard_state,
      Stream.putReader_state, lineOf_leave, lineOf_content]
    exact .leaves
  | passes found polled =>
    simp only [Stream.record_state, Stream.recordIf_state, Stream.clearInbound_state,
      Stream.leaveReader_state, Stream.heard_state, Stream.putReader_state, lineOf_leave,
      lineOf_content]
    exact .leaves
  | ends found polled gained =>
    simp only [Stream.record_state, Stream.recordIf_state, Stream.clearInbound_state,
      Stream.leaveReader_state, Stream.heard_state, Stream.putReader_state, lineOf_leave,
      lineOf_content]
    exact .leaves

theorem ReaderComes.writers_same {asked : Option S.ReaderOpening}
    (comes : ReaderComes T ticket asked stream step after) :
    after.state.writers = stream.state.writers := by
  cases comes <;> rfl

theorem ReadMove.writers_same (move : ReadMove T room ticket stage stream step after) :
    after.state.writers = stream.state.writers := by
  cases move with
  | asks standing roomy vacant comes => exact comes.writers_same
  | hears comes => exact comes.writers_same
  | _ => rfl

theorem ReadDrop.enumerated (drop : ReadDrop T ticket stage stream after)
    (enumerated : stream.Enumerated) : after.Enumerated := by
  cases drop with
  | starts => exact enumerated
  | asks => exact (enumerated.after_heard _ _).after_giveBack _
  | leaves stands => exact enumerated.after_leaveReader _ _
  | breaksOff stands =>
    exact ((enumerated.after_putReader _ _).after_heard _ _).after_leaveReader _ _

theorem ReadDrop.shifts (drop : ReadDrop T ticket stage stream after) :
    Shift ticket (lineOf stream.state.readers) stage.place none (lineOf after.state.readers) := by
  cases drop with
  | starts => exact .stays
  | asks => exact .stays
  | leaves stands =>
    rw [stands, Stream.leaveReader_state, lineOf_leave]
    exact .leaves
  | breaksOff stands =>
    simp only [stands, Stream.leaveReader_state, Stream.heard_state, Stream.putReader_state,
      lineOf_leave, lineOf_content]
    exact .leaves

theorem ReadDrop.writers_same (drop : ReadDrop T ticket stage stream after) :
    after.state.writers = stream.state.writers := by
  cases drop <;> rfl

end Reads

section Writes

variable {T : Transport S} {data : Bytes} {ticket : Ticket} {stage : WriteStage S.recorded}
  {step : Step (WriteStage S.recorded) WriteOutcome} {stream after : Stream S.recorded}

theorem WriterComes.enumerated {resumed : Bool}
    (comes : WriterComes T ticket resumed stream step after) (enumerated : stream.Enumerated) :
    after.Enumerated := by
  cases comes with
  | waits => exact enumerated.after_heard _ _
  | fails => exact (enumerated.after_heard _ _).after_giveBack _
  | late closed => exact ((enumerated.after_heard _ _).after_enterWriter _ _).after_record _
  | opens standing =>
    exact (((enumerated.after_heard _ _).after_openWriter _ _).after_record _).after_giveBack _

theorem WriteMove.enumerated (move : WriteMove T data ticket stage stream step after)
    (enumerated : stream.Enumerated) : after.Enumerated := by
  cases move with
  | refused closed => exact enumerated
  | skips standing skipped => exact enumerated
  | joins standing sent current => exact enumerated.after_joinWriter _ _
  | asks standing sent vacant comes => exact comes.enumerated (enumerated.after_borrow _)
  | hears comes => exact comes.enumerated enumerated
  | discardPends comes => exact comes.enumerated enumerated
  | discards comes => exact ((comes.enumerated enumerated).after_leaveWriter _ _).after_giveBack _
  | queues blocked => exact enumerated
  | retires turn found finished => exact enumerated.after_retireWriter _ _
  | enters turn found unfinished => exact enumerated
  | pends found => exact (enumerated.after_putWriter _ _ _).after_heard _ _
  | breaks found => exact (enumerated.after_putWriter _ _ _).after_heard _ _
  | takes found polled gained => exact (enumerated.after_putWriter _ _ _).after_heard _ _
  | stalls found => exact (enumerated.after_putWriter _ _ _).after_heard _ _
  | finishPends comes => exact comes.enumerated enumerated
  | failed comes => exact ((comes.enumerated enumerated).after_retireWriter _ _).after_record _
  | finishFails comes => exact ((comes.enumerated enumerated).after_retireWriter _ _).after_record _
  | delivers comes =>
    exact (((comes.enumerated enumerated).after_retireWriter _ _).after_record _).after_record _

theorem WriterComes.shifts {resumed : Bool}
    (comes : WriterComes T ticket resumed stream step after) :
    Shift ticket (lineOf stream.state.writers) none (step.place WriteStage.place)
      (lineOf after.state.writers) := by
  have beyond := lineOf_outside stream.state.writers (Nat.le_refl _)
  have joined (turn : Bool) : Shift ticket (lineOf stream.state.writers) none
      (some (stream.state.writers.length, turn)) _ := .joins fun _ => beyond
  cases comes with
  | waits => exact .stays
  | fails => exact .stays
  | late closed =>
    simpa [lineOf_enter, beyond, Line.join, Step.place, WriteStage.place] using joined true
  | opens standing =>
    simpa [lineOf_enter, beyond, Line.join, Step.place, WriteStage.place] using joined false

theorem WriteMove.shifts (move : WriteMove T data ticket stage stream step after)
    (enumerated : stream.Enumerated) :
    Shift ticket (lineOf stream.state.writers) stage.place (step.place WriteStage.place)
      (lineOf after.state.writers) := by
  cases move with
  | refused closed => exact .stays
  | skips standing skipped => exact .stays
  | joins standing sent current =>
    rename_i number
    rw [Stream.joinWriter_state, lineOf_join _ _ _ (enumerated.outbound number current)]
    exact .joins nofun
  | asks standing sent vacant comes => exact comes.shifts
  | hears comes => exact comes.shifts
  | discardPends comes =>
    rw [comes.lines_same]
    exact .stays
  | discards comes =>
    rw [Stream.giveBack_state, Stream.leaveWriter_state, lineOf_leave, comes.lines_same]
    exact .leaves
  | queues blocked => exact .stays
  | retires turn found finished =>
    rw [Stream.retireWriter_state, lineOf_leave]
    exact .leaves
  | enters turn found unfinished =>
    unfold Write.fillOrFinish
    split <;> exact .enters turn
  | pends found => simpa [Step.place, WriteStage.place] using Shift.stays
  | breaks found => simpa [Step.place, WriteStage.place] using Shift.stays
  | takes found polled gained =>
    unfold Write.fillOrFinish
    split <;> simpa [Step.place, WriteStage.place] using Shift.stays
  | stalls found => simpa [Step.place, WriteStage.place] using Shift.stays
  | finishPends comes =>
    rw [comes.lines_same]
    exact .stays
  | failed comes =>
    rw [Stream.record_state, Stream.retireWriter_state, lineOf_leave, comes.lines_same]
    exact .leaves
  | finishFails comes =>
    rw [Stream.record_state, Stream.retireWriter_state, lineOf_leave, comes.lines_same]
    exact .leaves
  | delivers comes =>
    rw [Stream.record_state, Stream.record_state, Stream.retireWriter_state, lineOf_leave,
      comes.lines_same]
    exact .leaves

theorem WriterComes.readers_same {resumed : Bool}
    (comes : WriterComes T ticket resumed stream step after) :
    after.state.readers = stream.state.readers := by
  cases comes <;> rfl

theorem WriteMove.readers_same (move : WriteMove T data ticket stage stream step after) :
    after.state.readers = stream.state.readers := by
  cases move with
  | asks standing sent vacant comes => exact comes.readers_same
  | hears comes => exact comes.readers_same
  | discardPends comes => exact comes.readers_same
  | discards comes => exact comes.readers_same
  | finishPends comes => exact comes.readers_same
  | failed comes => exact comes.readers_same
  | finishFails comes => exact comes.readers_same
  | delivers comes => exact comes.readers_same
  | _ => rfl

theorem WriterComes.inbound_same {resumed : Bool}
    (comes : WriterComes T ticket resumed stream step after) :
    after.state.inbound = stream.state.inbound := by
  cases comes <;> rfl

theorem WriteMove.inbound_same (move : WriteMove T data ticket stage stream step after) :
    after.state.inbound = stream.state.inbound := by
  cases move with
  | asks standing sent vacant comes => exact comes.inbound_same
  | hears comes => exact comes.inbound_same
  | discardPends comes => exact comes.inbound_same
  | discards comes => exact comes.inbound_same
  | finishPends comes => exact comes.inbound_same
  | failed comes => exact comes.inbound_same
  | finishFails comes => exact comes.inbound_same
  | delivers comes => exact comes.inbound_same
  | _ => rfl

theorem WriteDrop.enumerated (drop : WriteDrop T data ticket stage stream after)
    (enumerated : stream.Enumerated) : after.Enumerated := by
  cases drop with
  | starts => exact enumerated
  | asks => exact (enumerated.after_heard _ _).after_giveBack _
  | leaves stands breaks => exact (breaks.enumerated enumerated).after_leaveWriter _ _
  | discards breaks => exact ((breaks.enumerated enumerated).after_leaveWriter _ _).after_giveBack _

theorem WriteDrop.shifts (drop : WriteDrop T data ticket stage stream after) :
    Shift ticket (lineOf stream.state.writers) stage.place none (lineOf after.state.writers) := by
  cases drop with
  | starts => exact .stays
  | asks => exact .stays
  | leaves stands breaks =>
    rw [stands, Stream.leaveWriter_state, lineOf_leave, breaks.lines_same]
    exact .leaves
  | discards breaks =>
    rw [Stream.giveBack_state, Stream.leaveWriter_state, lineOf_leave, breaks.lines_same]
    exact .leaves

theorem WriteDrop.readers_same (drop : WriteDrop T data ticket stage stream after) :
    after.state.readers = stream.state.readers := by
  cases drop with
  | leaves stands breaks => exact breaks.readers_same
  | discards breaks => exact breaks.readers_same
  | _ => rfl

theorem WriteDrop.inbound_same (drop : WriteDrop T data ticket stage stream after) :
    after.state.inbound = stream.state.inbound := by
  cases drop with
  | leaves stands breaks => exact breaks.inbound_same
  | discards breaks => exact breaks.inbound_same
  | _ => rfl

end Writes

section Closes

variable {T : Transport S} {ticket : Ticket} {stage : CloseStage S.recorded}
  {step : Step (CloseStage S.recorded) CloseOutcome} {stream after : Stream S.recorded}

@[simp] theorem Close.letGo_lines : (Close.letGo T.recorded ticket stream).state.readers =
    stream.state.readers ∧ (Close.letGo T.recorded ticket stream).state.writers =
    stream.state.writers := by
  unfold Close.letGo
  split <;> exact ⟨rfl, rfl⟩

theorem Shuts.place_none (shuts : Shuts ticket stream step) :
    step.place CloseStage.place = none := by
  cases shuts <;> rfl

theorem CloseMove.enumerated (move : CloseMove T ticket stage stream step after)
    (enumerated : stream.Enumerated) : after.Enumerated := by
  cases move with
  | takes current => exact (enumerated.after_take _).after_joinWriter _ _
  | takesIdle vacant shuts => exact enumerated.after_take _
  | queues blocked => exact enumerated
  | enters turn => exact enumerated
  | finishPends comes => exact comes.enumerated enumerated
  | finishFails comes => exact ((comes.enumerated enumerated).after_leaveWriter _ _).after_letGo _
  | finishes comes shuts => exact (comes.enumerated enumerated).after_leaveWriter _ _
  | pends => exact enumerated.after_heard _ _
  | fails => exact (enumerated.after_heard _ _).after_giveBack _
  | closes => exact ((enumerated.after_heard _ _).after_record _).after_giveBack _

theorem CloseMove.shifts (move : CloseMove T ticket stage stream step after)
    (enumerated : stream.Enumerated) :
    Shift ticket (lineOf stream.state.writers) stage.place (step.place CloseStage.place)
      (lineOf after.state.writers) := by
  cases move with
  | takes current =>
    rename_i number
    rw [Stream.joinWriter_state, Stream.take_state,
      lineOf_join _ _ _ (enumerated.outbound number current)]
    exact .joins nofun
  | takesIdle vacant shuts =>
    rw [shuts.place_none]
    exact .stays
  | queues blocked => exact .stays
  | enters turn => exact .enters turn
  | finishPends comes =>
    rw [comes.lines_same]
    exact .stays
  | finishFails comes =>
    rw [Close.letGo_lines.2, Stream.leaveWriter_state, lineOf_leave, comes.lines_same]
    exact .leaves
  | finishes comes shuts =>
    rw [shuts.place_none, Stream.leaveWriter_state, lineOf_leave, comes.lines_same]
    exact .leaves
  | pends => exact .stays
  | fails => exact .stays
  | closes => exact .stays

theorem CloseMove.readers_same (move : CloseMove T ticket stage stream step after) :
    after.state.readers = stream.state.readers := by
  cases move with
  | finishPends comes => exact comes.readers_same
  | finishFails comes => exact Close.letGo_lines.1.trans comes.readers_same
  | finishes comes shuts => exact comes.readers_same
  | _ => rfl

theorem CloseDrop.enumerated (drop : CloseDrop T ticket stage stream after)
    (enumerated : stream.Enumerated) : after.Enumerated := by
  cases drop with
  | starts => exact enumerated
  | leaves stands breaks =>
    exact ((breaks.enumerated enumerated).after_leaveWriter _ _).after_letGo _
  | rests => exact enumerated.after_giveBack _
  | shuts => exact (enumerated.after_heard _ _).after_giveBack _

theorem CloseDrop.shifts (drop : CloseDrop T ticket stage stream after) :
    Shift ticket (lineOf stream.state.writers) stage.place none (lineOf after.state.writers) := by
  cases drop with
  | starts => exact .stays
  | leaves stands breaks =>
    rw [stands, Close.letGo_lines.2, Stream.leaveWriter_state, lineOf_leave, breaks.lines_same]
    exact .leaves
  | rests => exact .stays
  | shuts => exact .stays

theorem CloseDrop.readers_same (drop : CloseDrop T ticket stage stream after) :
    after.state.readers = stream.state.readers := by
  cases drop with
  | leaves stands breaks => exact Close.letGo_lines.1.trans breaks.readers_same
  | _ => rfl

end Closes

section Ownership

variable {T : Transport S} {ticket : Ticket} {stream after : Stream S.recorded}

theorem ReaderComes.owned_same {asked : Option S.ReaderOpening}
    {step : Step (ReadStage S.recorded) ReadOutcome}
    (comes : ReaderComes T ticket asked stream step after) :
    after.state.lease.owned = stream.state.lease.owned := by
  cases comes <;> rfl

theorem ReadMove.owned_same {room : Nat} {stage : ReadStage S.recorded}
    {step : Step (ReadStage S.recorded) ReadOutcome}
    (move : ReadMove T room ticket stage stream step after) :
    after.state.lease.owned = stream.state.lease.owned := by
  cases move with
  | asks standing roomy vacant comes => exact comes.owned_same
  | hears comes => exact comes.owned_same
  | _ => rfl

theorem ReadDrop.owned_same {stage : ReadStage S.recorded}
    (drop : ReadDrop T ticket stage stream after) :
    after.state.lease.owned = stream.state.lease.owned := by
  cases drop <;> rfl

theorem FinishComes.owned_same {number : Nat} {resumed : Bool}
    {progress : Progress S.Finishing (Except Failure Unit)}
    (comes : FinishComes T ticket number resumed stream progress after) :
    after.state.lease.owned = stream.state.lease.owned := by
  cases comes <;> rfl

theorem BreakOff.owned_same {number : Nat} {request : Option Request}
    (breaks : BreakOff ticket number stream request after) :
    after.state.lease.owned = stream.state.lease.owned := by
  cases breaks <;> rfl

theorem WriterComes.owned_same {resumed : Bool} {step : Step (WriteStage S.recorded) WriteOutcome}
    (comes : WriterComes T ticket resumed stream step after) :
    after.state.lease.owned = stream.state.lease.owned := by
  cases comes <;> rfl

theorem WriteMove.owned_same {data : Bytes} {stage : WriteStage S.recorded}
    {step : Step (WriteStage S.recorded) WriteOutcome}
    (move : WriteMove T data ticket stage stream step after) :
    after.state.lease.owned = stream.state.lease.owned := by
  cases move with
  | asks standing sent vacant comes => exact comes.owned_same
  | hears comes => exact comes.owned_same
  | discardPends comes => exact comes.owned_same
  | discards comes => exact comes.owned_same
  | finishPends comes => exact comes.owned_same
  | failed comes => exact comes.owned_same
  | finishFails comes => exact comes.owned_same
  | delivers comes => exact comes.owned_same
  | _ => rfl

theorem WriteDrop.owned_same {data : Bytes} {stage : WriteStage S.recorded}
    (drop : WriteDrop T data ticket stage stream after) :
    after.state.lease.owned = stream.state.lease.owned := by
  cases drop with
  | leaves stands breaks => exact breaks.owned_same
  | discards breaks => exact breaks.owned_same
  | _ => rfl

end Ownership

end MessageStream
