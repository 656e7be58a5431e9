import MessageStream.Proofs.Usage.Sound

/-!
What a call adds to the record of the connection. Every entry is of the call that makes the move,
and each kind of call makes calls of its own on the connection: a read opens and reads inbound
messages, a write opens, fills and finishes outbound ones, and a close finishes one and shuts the
connection down.
-/
namespace MessageStream

variable {S : Signature} {T : Transport S}

namespace Request

def reads : Request → Bool
  | nextReader => true
  | read _ _ => true
  | _ => false

def sends : Request → Bool
  | nextWriter _ => true
  | write _ _ => true
  | finish _ => true
  | _ => false

def shuts : Request → Bool
  | finish _ => true
  | close => true
  | _ => false

end Request

/-- The record has grown by entries of one call about certain calls on the connection. -/
def Stream.Adds (ticket : Ticket) (makes : Request → Bool) (stream after : Stream S.recorded) :
    Prop :=
  ∃ entries, after.world.traffic = stream.world.traffic ++ entries ∧
    ∀ entry ∈ entries, entry.caller = ticket ∧ makes entry.request = true

namespace Stream.Adds

variable {ticket : Ticket} {makes : Request → Bool} {stream after : Stream S.recorded}

theorem of_same_traffic (same : after.world.traffic = stream.world.traffic) :
    Stream.Adds ticket makes stream after :=
  ⟨[], by rw [same, List.append_nil], List.forall_mem_nil _⟩

theorem of_poll {request : Request} (made : makes request = true) (resumed : Bool)
    (reply : Option Reply)
    (grown : after.world.traffic =
      stream.world.traffic ++ Traffic.ofPoll ticket request resumed reply) :
    Stream.Adds ticket makes stream after := by
  refine ⟨_, grown, ?_⟩
  intro entry member
  obtain ⟨caller, same⟩ := Traffic.mem_ofPoll member
  exact ⟨caller, same ▸ made⟩

theorem of_cancelled {request : Request} (made : makes request = true)
    (grown : after.world.traffic = stream.world.traffic ++ [.cancelled ticket request]) :
    Stream.Adds ticket makes stream after := by
  refine ⟨_, grown, ?_⟩
  intro entry member
  rw [List.mem_singleton.mp member]
  exact ⟨rfl, made⟩

/-- What adds nothing to the record may follow. -/
theorem then_same {later : Stream S.recorded} (adds : stream.Adds ticket makes after)
    (same : later.world.traffic = after.world.traffic) : stream.Adds ticket makes later := by
  obtain ⟨entries, grown, made⟩ := adds
  exact ⟨entries, same.trans grown, made⟩

theorem of_weaker {other : Request → Bool} (adds : stream.Adds ticket makes after)
    (weaker : ∀ request, makes request = true → other request = true) :
    stream.Adds ticket other after := by
  obtain ⟨entries, grown, made⟩ := adds
  exact ⟨entries, grown, fun entry member =>
    ⟨(made entry member).1, weaker _ (made entry member).2⟩⟩

theorem traffic_grows (adds : stream.Adds ticket makes after) :
    stream.world.traffic <+: after.world.traffic := by
  obtain ⟨entries, grown, -⟩ := adds
  exact ⟨entries, grown.symm⟩

end Stream.Adds

section Moves

variable {ticket : Ticket} {stream after : Stream S.recorded}

theorem ReaderComes.adds {asked : Option S.ReaderOpening}
    {step : Step (ReadStage S.recorded) ReadOutcome}
    (comes : ReaderComes T ticket asked stream step after) :
    stream.Adds ticket Request.reads after := by
  have made : Request.reads .nextReader = true := rfl
  cases comes with
  | waits => exact .of_poll made asked.isSome _ rfl
  | fails => exact .of_poll made asked.isSome _ (Stream.giveBack_traffic T _ ticket)
  | late closed => exact .of_poll made asked.isSome _ (Stream.giveBack_traffic T _ ticket)
  | opens standing => exact .of_poll made asked.isSome _ (Stream.giveBack_traffic T _ ticket)

theorem ReadMove.adds {room : Nat} {stage : ReadStage S.recorded}
    {step : Step (ReadStage S.recorded) ReadOutcome}
    (move : ReadMove T room ticket stage stream step after) :
    stream.Adds ticket Request.reads after := by
  have made (number space : Nat) : Request.reads (.read number space) = true := rfl
  cases move with
  | refused closed => exact .of_same_traffic rfl
  | idles standing roomless => exact .of_same_traffic rfl
  | joins standing roomy current => exact .of_same_traffic rfl
  | asks standing roomy vacant comes => exact comes.adds
  | hears comes => exact comes.adds
  | queues blocked => exact .of_same_traffic rfl
  | enters turn => exact .of_same_traffic rfl
  | pends found polled => exact .of_poll (made _ _) _ _ rfl
  | fails found polled => exact .of_poll (made _ _) _ _ rfl
  | goesOn found polled gained short => exact .of_poll (made _ _) _ _ rfl
  | fulfils found polled gained full => exact .of_poll (made _ _) _ _ rfl
  | passes found polled => exact .of_poll (made _ _) _ _ rfl
  | ends found polled gained => exact .of_poll (made _ _) _ _ rfl

theorem ReadDrop.adds {stage : ReadStage S.recorded}
    (drop : ReadDrop T ticket stage stream after) : stream.Adds ticket Request.reads after := by
  cases drop with
  | starts => exact .of_same_traffic rfl
  | asks => exact .of_cancelled rfl (Stream.giveBack_traffic T _ ticket)
  | leaves stands => exact .of_same_traffic rfl
  | breaksOff stands => exact .of_cancelled rfl rfl

theorem FinishComes.adds {number : Nat} {resumed : Bool} {makes : Request → Bool}
    (made : makes (.finish number) = true)
    {progress : Progress S.Finishing (Except Failure Unit)}
    (comes : FinishComes T ticket number resumed stream progress after) :
    stream.Adds ticket makes after := by
  cases comes with
  | settled fresh found finished => exact .of_same_traffic rfl
  | polls found unsettled => exact .of_poll made resumed _ rfl

theorem BreakOff.adds {number : Nat} {request : Option Request} {makes : Request → Bool}
    (breaks : BreakOff ticket number stream request after)
    (made : ∀ broken, request = some broken → makes broken = true) :
    stream.Adds ticket makes after := by
  cases breaks with
  | idle => exact .of_same_traffic rfl
  | busy found => exact .of_cancelled (made _ rfl) rfl

theorem WriterComes.adds {resumed : Bool} {makes : Request → Bool}
    {step : Step (WriteStage S.recorded) WriteOutcome}
    (comes : WriterComes T ticket resumed stream step after)
    (made : ∀ kind, makes (.nextWriter kind) = true) : stream.Adds ticket makes after := by
  cases comes with
  | waits => exact .of_poll (made _) resumed _ rfl
  | fails => exact .of_poll (made _) resumed _ (Stream.giveBack_traffic T _ ticket)
  | late closed => exact .of_poll (made _) resumed _ rfl
  | opens standing =>
    refine .of_poll (made stream.state.config.messageKind) resumed
      (some (.opened stream.state.writers.length)) ?_
    exact (Stream.giveBack_traffic T _ ticket).trans (Stream.openWriter_traffic T _ _ ticket)

theorem WriteMove.adds {data : Bytes} {stage : WriteStage S.recorded}
    {step : Step (WriteStage S.recorded) WriteOutcome}
    (move : WriteMove T data ticket stage stream step after) :
    stream.Adds ticket Request.sends after := by
  have made (number : Nat) (rest : Bytes) : Request.sends (.write number rest) = true := rfl
  cases move with
  | refused closed => exact .of_same_traffic rfl
  | skips standing skipped => exact .of_same_traffic rfl
  | joins standing sent current => exact .of_same_traffic rfl
  | asks standing sent vacant comes =>
    have adds : (stream.borrow ticket).Adds ticket Request.sends after := comes.adds fun _ => rfl
    exact adds
  | hears comes => exact comes.adds fun _ => rfl
  | discardPends comes => exact comes.adds rfl
  | discards comes => exact (comes.adds rfl).then_same (by simp)
  | queues blocked => exact .of_same_traffic rfl
  | retires turn found finished => exact .of_same_traffic (Stream.retireWriter_traffic T _ _ ticket)
  | enters turn found unfinished => exact .of_same_traffic rfl
  | pends found => exact .of_poll (made _ _) _ _ rfl
  | breaks found => exact .of_poll (made _ _) _ _ rfl
  | takes found polled gained => exact .of_poll (made _ _) _ _ rfl
  | stalls found => exact .of_poll (made _ _) _ _ rfl
  | finishPends comes => exact comes.adds rfl
  | failed comes => exact (comes.adds rfl).then_same (by simp)
  | finishFails comes => exact (comes.adds rfl).then_same (by simp)
  | delivers comes => exact (comes.adds rfl).then_same (by simp)

theorem WriteStage.pending_sends {data : Bytes} {stage : WriteStage S} {request : Request}
    (under : stage.pending data = some request) : request.sends = true := by
  rcases stage with _ | _ | ⟨number, _ | stage⟩ | _ | ⟨number, written, _ | stage⟩ |
    ⟨number, written, failure, _ | stage⟩ <;> cases under <;> rfl

theorem CloseStage.pending_shuts {stage : CloseStage S} {request : Request}
    (under : stage.pending = some request) : request.shuts = true := by
  rcases stage with _ | _ | ⟨number, _ | stage⟩ | _ <;> cases under
  rfl

theorem WriteDrop.adds {data : Bytes} {stage : WriteStage S.recorded}
    (drop : WriteDrop T data ticket stage stream after) :
    stream.Adds ticket Request.sends after := by
  cases drop with
  | starts => exact .of_same_traffic rfl
  | asks => exact .of_cancelled rfl (Stream.giveBack_traffic T _ ticket)
  | leaves stands breaks =>
    exact (breaks.adds fun _ => WriteStage.pending_sends).then_same (by simp)
  | discards breaks =>
    exact (breaks.adds fun _ => WriteStage.pending_sends).then_same (by simp)

@[simp] theorem Close.letGo_traffic :
    (Close.letGo T.recorded ticket stream).world.traffic = stream.world.traffic := by
  unfold Close.letGo
  split
  · exact Stream.giveBack_traffic T stream ticket
  · rfl

theorem CloseMove.adds {stage : CloseStage S.recorded}
    {step : Step (CloseStage S.recorded) CloseOutcome}
    (move : CloseMove T ticket stage stream step after) :
    stream.Adds ticket Request.shuts after := by
  cases move with
  | takes current => exact .of_same_traffic rfl
  | takesIdle vacant shuts => exact .of_same_traffic rfl
  | queues blocked => exact .of_same_traffic rfl
  | enters turn => exact .of_same_traffic rfl
  | finishPends comes => exact comes.adds rfl
  | finishFails comes => exact (comes.adds rfl).then_same (by simp)
  | finishes comes shuts => exact (comes.adds rfl).then_same (by simp)
  | pends => exact .of_poll rfl _ _ rfl
  | fails => exact .of_poll rfl _ _ (Stream.giveBack_traffic T _ ticket)
  | closes => exact .of_poll rfl _ _ (Stream.giveBack_traffic T _ ticket)

theorem CloseDrop.adds {stage : CloseStage S.recorded}
    (drop : CloseDrop T ticket stage stream after) : stream.Adds ticket Request.shuts after := by
  cases drop with
  | starts => exact .of_same_traffic rfl
  | leaves stands breaks =>
    exact (breaks.adds fun _ => CloseStage.pending_shuts).then_same (by simp)
  | rests => exact .of_same_traffic (Stream.giveBack_traffic T _ ticket)
  | shuts => exact .of_cancelled rfl (Stream.giveBack_traffic T _ ticket)

end Moves

end MessageStream
