import MessageStream.Proofs.Usage.Sound

/-!
Who uses the connection. Each move and each drop lends it to the call that makes it, or takes it
back from that call, and from no other. So whoever uses the connection has been polled, and goes on
using it until it gives it back itself.
-/
namespace MessageStream

variable {S : Signature} {T : Transport S}

def Stream.borrowers (stream : Stream S) : List Ticket := stream.state.lease.borrowers

/-- Nobody else has begun or ended to use the connection. -/
def Stream.Lends (ticket : Ticket) (stream after : Stream S.recorded) : Prop :=
  ∀ other, other ≠ ticket → (other ∈ after.borrowers ↔ other ∈ stream.borrowers)

namespace Stream.Lends

variable {ticket : Ticket} {stream middle after : Stream S.recorded}

theorem of_same (lease : after.state.lease = stream.state.lease) :
    Stream.Lends ticket stream after := by
  intro other different
  rw [borrowers, borrowers, lease]

theorem of_giveBack (lease : after.state.lease = stream.state.lease.giveBack ticket) :
    Stream.Lends ticket stream after := by
  intro other different
  rw [borrowers, borrowers, lease]
  exact List.mem_erase_of_ne different

theorem of_borrow : Stream.Lends ticket stream (stream.borrow ticket) := by
  intro other different
  simp [borrowers, Lease.borrow, different]

theorem trans (first : Stream.Lends ticket stream middle)
    (second : Stream.Lends ticket middle after) : Stream.Lends ticket stream after :=
  fun other different => (second other different).trans (first other different)

end Stream.Lends

section Moves

variable {ticket : Ticket} {stream after : Stream S.recorded}

theorem ReaderComes.lends {asked : Option S.ReaderOpening}
    {step : Step (ReadStage S.recorded) ReadOutcome}
    (comes : ReaderComes T ticket asked stream step after) : stream.Lends ticket after := by
  cases comes with
  | waits => exact .of_same rfl
  | fails => exact .of_giveBack rfl
  | late closed => exact .of_giveBack rfl
  | opens standing => exact .of_giveBack rfl

theorem ReadMove.lends {room : Nat} {stage : ReadStage S.recorded}
    {step : Step (ReadStage S.recorded) ReadOutcome}
    (move : ReadMove T room ticket stage stream step after) : stream.Lends ticket after := by
  cases move with
  | asks standing roomy vacant comes => exact Stream.Lends.of_borrow.trans comes.lends
  | hears comes => exact comes.lends
  | _ => exact .of_same rfl

theorem ReadDrop.lends {stage : ReadStage S.recorded}
    (drop : ReadDrop T ticket stage stream after) : stream.Lends ticket after := by
  cases drop with
  | asks => exact .of_giveBack rfl
  | _ => exact .of_same rfl

theorem FinishComes.lease_same {number : Nat} {resumed : Bool}
    {progress : Progress S.Finishing (Except Failure Unit)}
    (comes : FinishComes T ticket number resumed stream progress after) :
    after.state.lease = stream.state.lease := by
  cases comes <;> rfl

theorem BreakOff.lease_same {number : Nat} {request : Option Request}
    (breaks : BreakOff ticket number stream request after) :
    after.state.lease = stream.state.lease := by
  cases breaks <;> rfl

theorem WriterComes.lends {resumed : Bool} {step : Step (WriteStage S.recorded) WriteOutcome}
    (comes : WriterComes T ticket resumed stream step after) : stream.Lends ticket after := by
  cases comes with
  | waits => exact .of_same rfl
  | fails => exact .of_giveBack rfl
  | late closed => exact .of_same rfl
  | opens standing => exact .of_giveBack rfl

theorem WriteMove.lends {data : Bytes} {stage : WriteStage S.recorded}
    {step : Step (WriteStage S.recorded) WriteOutcome}
    (move : WriteMove T data ticket stage stream step after) : stream.Lends ticket after := by
  cases move with
  | asks standing sent vacant comes => exact Stream.Lends.of_borrow.trans comes.lends
  | hears comes => exact comes.lends
  | discardPends comes => exact .of_same comes.lease_same
  | discards comes => exact .of_giveBack (congrArg (Lease.giveBack · ticket) comes.lease_same)
  | finishPends comes => exact .of_same comes.lease_same
  | failed comes => exact .of_same comes.lease_same
  | finishFails comes => exact .of_same comes.lease_same
  | delivers comes => exact .of_same comes.lease_same
  | _ => exact .of_same rfl

theorem WriteDrop.lends {data : Bytes} {stage : WriteStage S.recorded}
    (drop : WriteDrop T data ticket stage stream after) : stream.Lends ticket after := by
  cases drop with
  | starts => exact .of_same rfl
  | asks => exact .of_giveBack rfl
  | leaves stands breaks => exact .of_same breaks.lease_same
  | discards breaks => exact .of_giveBack (congrArg (Lease.giveBack · ticket) breaks.lease_same)

theorem Close.take_lends : stream.Lends ticket (Close.take ticket stream) := by
  intro other different
  rw [Stream.borrowers, Stream.borrowers, Stream.take_state]
  dsimp only
  split
  · simp [Lease.surrender, Lease.borrow, different]
  · rfl

theorem Close.letGo_lends : stream.Lends ticket (Close.letGo T.recorded ticket stream) := by
  unfold letGo
  split
  · exact .of_giveBack rfl
  · exact .of_same rfl

theorem CloseMove.lends {stage : CloseStage S.recorded}
    {step : Step (CloseStage S.recorded) CloseOutcome}
    (move : CloseMove T ticket stage stream step after) : stream.Lends ticket after := by
  cases move with
  | takes current => exact Close.take_lends
  | takesIdle vacant shuts => exact Close.take_lends
  | finishPends comes => exact .of_same comes.lease_same
  | finishFails comes => exact .trans (.of_same comes.lease_same) Close.letGo_lends
  | finishes comes shuts => exact .of_same comes.lease_same
  | fails => exact .of_giveBack rfl
  | closes => exact .of_giveBack rfl
  | _ => exact .of_same rfl

theorem CloseDrop.lends {stage : CloseStage S.recorded}
    (drop : CloseDrop T ticket stage stream after) : stream.Lends ticket after := by
  cases drop with
  | starts => exact .of_same rfl
  | leaves stands breaks => exact .trans (.of_same breaks.lease_same) Close.letGo_lends
  | rests => exact .of_giveBack rfl
  | shuts => exact .of_giveBack rfl

end Moves

end MessageStream
