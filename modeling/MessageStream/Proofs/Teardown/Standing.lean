import MessageStream.Proofs.Outbound.FinishedOnce
import MessageStream.Proofs.Usage.Trace

/-!
The close that took the connection. What it records until it has answered is determined step by
step: it finishes the message it took, unless that has been done, and then shuts the connection
down. A close that finds the stream closed and both slots empty has nothing to do.
-/
namespace MessageStream

variable {S : Signature} {T : Transport S}

def Traffic.shutsDown : Traffic → Bool
  | .begun _ .close => true
  | _ => false

/-- What a close records of finishing the message it took, if all goes well: nothing where there is
none or it has been finished by its write. -/
def Finalized (ticket : Ticket) (taken : Option Nat) (own : List Traffic) : Prop :=
  own = [] ∨ ∃ number, taken = some number ∧
    own = [.begun ticket (.finish number), .ended ticket (.finish number) .done]

/-- What the close that took the connection and the current message has recorded when it answers,
and how it answers. -/
inductive TornDown (ticket : Ticket) (taken : Option Nat) : List Traffic → CloseOutcome → Prop where
  | unfinished {number : Nat} {source : Failure} (current : taken = some number) :
    TornDown ticket taken
      [.begun ticket (.finish number), .ended ticket (.finish number) (.failed source)]
      (.error (.transport 0 source))
  | shut {own : List Traffic} (finalized : Finalized ticket taken own) :
    TornDown ticket taken (own ++ [.begun ticket .close, .ended ticket .close .done]) (.ok ())
  | failed {own : List Traffic} {source : Failure} (finalized : Finalized ticket taken own) :
    TornDown ticket taken (own ++ [.begun ticket .close, .ended ticket .close (.failed source)])
      (.error (.transport 0 source))

/-- How far the close that took the connection has come, and what it has recorded so far. -/
inductive Standing (ticket : Ticket) (taken : Option Nat) :
    Phase (CloseStage S) CloseOutcome → List Traffic → Prop where
  | queued {number : Nat} (current : taken = some number) :
    Standing ticket taken (.waiting (.queued number)) []
  | admitted {number : Nat} (current : taken = some number) :
    Standing ticket taken (.waiting (.finishing number none)) []
  | finishing {number : Nat} {stage : S.Finishing} (current : taken = some number) :
    Standing ticket taken (.waiting (.finishing number (some stage)))
      [.begun ticket (.finish number)]
  | ready {own : List Traffic} (finalized : Finalized ticket taken own) :
    Standing ticket taken (.waiting (.closing none)) own
  | closing {own : List Traffic} {stage : S.Closing} (finalized : Finalized ticket taken own) :
    Standing ticket taken (.waiting (.closing (some stage))) (own ++ [.begun ticket .close])
  | answered {own : List Traffic} {outcome : CloseOutcome}
      (torn : TornDown ticket taken own outcome) : Standing ticket taken (.answered outcome) own
  | dropped {own : List Traffic} {stage : CloseStage S}
      (once : own.countP Traffic.shutsDown ≤ 1) : Standing ticket taken (.dropped (some stage)) own

theorem Finalized.no_close_begun {ticket : Ticket} {taken : Option Nat} {own : List Traffic}
    (finalized : Finalized ticket taken own) : own.countP Traffic.shutsDown = 0 := by
  rcases finalized with rfl | ⟨number, -, rfl⟩ <;> rfl

theorem Standing.shuts_down_once {ticket : Ticket} {taken : Option Nat}
    {phase : Phase (CloseStage S) CloseOutcome} {own : List Traffic}
    (stands : Standing ticket taken phase own) : own.countP Traffic.shutsDown ≤ 1 := by
  cases stands with
  | queued current => exact Nat.zero_le 1
  | admitted current => exact Nat.zero_le 1
  | finishing current => exact Nat.zero_le 1
  | ready finalized => simp [finalized.no_close_begun]
  | closing finalized =>
    rw [List.countP_append, finalized.no_close_begun]
    exact Nat.le_refl 1
  | answered torn =>
    cases torn with
    | unfinished current => exact Nat.zero_le 1
    | shut finalized =>
      rw [List.countP_append, finalized.no_close_begun]
      exact Nat.le_refl 1
    | failed finalized =>
      rw [List.countP_append, finalized.no_close_begun]
      exact Nat.le_refl 1
  | dropped once => exact once

theorem Standing.call_shuts {ticket : Ticket} {taken : Option Nat}
    {phase : Phase (CloseStage S) CloseOutcome} {own : List Traffic}
    (stands : Standing ticket taken phase own) : (Call.close phase).shuts = true := by
  cases stands <;> rfl

section Moves

variable {ticket : Ticket} {taken : Option Nat} {stream after : Stream S.recorded}
  {own : List Traffic}

theorem FinishComes.traffic_of_finish {number : Nat} {stage : Option S.Finishing}
    {progress : Progress S.Finishing (Except Failure Unit)}
    (comes : FinishComes T ticket number stage.isSome stream progress after)
    (standing : Standing ticket taken
      (.waiting (.finishing number stage) : Phase (CloseStage S.recorded) CloseOutcome) own) :
    ∃ entries, after.world.traffic = stream.world.traffic ++ entries ∧
      taken = some number ∧
      match progress with
      | .waiting _ => own ++ entries = [.begun ticket (.finish number)]
      | .ready (.ok ()) => Finalized ticket taken (own ++ entries)
      | .ready (.error source) => own ++ entries =
          [.begun ticket (.finish number), .ended ticket (.finish number) (.failed source)] := by
  cases comes with
  | settled fresh found finished =>
    cases standing with
    | admitted current => exact ⟨[], (List.append_nil _).symm, current, .inl rfl⟩
    | finishing current => cases fresh
  | polls found unsettled =>
    refine ⟨_, rfl, ?_⟩
    cases standing with
    | admitted current =>
      refine ⟨current, ?_⟩
      rcases progress with later | source | ⟨⟩
      · rfl
      · rfl
      · exact .inr ⟨number, current, rfl⟩
    | finishing current =>
      refine ⟨current, ?_⟩
      rcases progress with later | source | ⟨⟩
      · rfl
      · rfl
      · exact .inr ⟨number, current, rfl⟩

theorem CloseMove.standing_after {stage : CloseStage S.recorded}
    {step : Step (CloseStage S.recorded) CloseOutcome}
    (move : CloseMove T ticket stage stream step after)
    (standing : Standing ticket taken (.waiting stage) own) (borrows : ticket ∈ stream.borrowers) :
    ∃ entries, after.world.traffic = stream.world.traffic ++ entries ∧
      Standing ticket taken (.ofStep step : Phase (CloseStage S.recorded) CloseOutcome)
        (own ++ entries) := by
  cases move with
  | takes current => cases standing
  | takesIdle vacant shuts => cases standing
  | queues blocked =>
    refine ⟨[], (List.append_nil _).symm, ?_⟩
    rw [List.append_nil]
    exact standing
  | enters turn =>
    cases standing with
    | queued current => exact ⟨[], by simp, .admitted current⟩
  | finishPends comes =>
    obtain ⟨entries, grown, current, told⟩ := comes.traffic_of_finish standing
    exact ⟨entries, grown, told ▸ .finishing current⟩
  | finishFails comes =>
    obtain ⟨entries, grown, current, told⟩ := comes.traffic_of_finish standing
    refine ⟨entries, by simpa using grown, ?_⟩
    exact .answered (told ▸ .unfinished current)
  | finishes comes shuts =>
    obtain ⟨entries, grown, current, told⟩ := comes.traffic_of_finish standing
    refine ⟨entries, by simpa using grown, ?_⟩
    cases shuts with
    | owner taken => exact .ready told
    | other absent =>
      refine absurd ?_ absent
      rw [Stream.leaveWriter_state, comes.lease_same]
      exact borrows
  | pends =>
    refine ⟨_, rfl, ?_⟩
    cases standing with
    | ready finalized => exact .closing finalized
    | closing finalized => simpa [Traffic.ofPoll, Phase.ofStep] using Standing.closing finalized
  | fails =>
    refine ⟨_, Stream.giveBack_traffic T _ ticket, ?_⟩
    cases standing with
    | ready finalized => exact .answered (.failed finalized)
    | closing finalized => exact .answered (by simpa [Traffic.ofPoll] using .failed finalized)
  | closes =>
    refine ⟨_, Stream.giveBack_traffic T _ ticket, ?_⟩
    cases standing with
    | ready finalized => exact .answered (.shut finalized)
    | closing finalized => exact .answered (by simpa [Traffic.ofPoll] using .shut finalized)

theorem CloseMove.adds_no_close {stage : CloseStage S.recorded}
    {step : Step (CloseStage S.recorded) CloseOutcome}
    (move : CloseMove T ticket stage stream step after) (away : ∀ later, stage ≠ .closing later) :
    stream.Adds ticket (· != .close) after := by
  cases move with
  | takes current => exact .of_same_traffic rfl
  | takesIdle vacant shuts => exact .of_same_traffic rfl
  | queues blocked => exact .of_same_traffic rfl
  | enters turn => exact .of_same_traffic rfl
  | finishPends comes => exact comes.adds rfl
  | finishFails comes => exact (comes.adds rfl).then_same (by simp)
  | finishes comes shuts => exact (comes.adds rfl).then_same (by simp)
  | pends => exact absurd rfl (away _)
  | fails => exact absurd rfl (away _)
  | closes => exact absurd rfl (away _)

theorem CloseMove.traffic_of_closing {stage : Option S.Closing}
    {step : Step (CloseStage S.recorded) CloseOutcome}
    (move : CloseMove T ticket (.closing stage) stream step after) :
    ∃ reply, after.world.traffic =
      stream.world.traffic ++ Traffic.ofPoll ticket .close stage.isSome reply := by
  cases move with
  | pends => exact ⟨_, rfl⟩
  | fails => exact ⟨_, Stream.giveBack_traffic T _ ticket⟩
  | closes => exact ⟨_, Stream.giveBack_traffic T _ ticket⟩

theorem CloseMove.still_borrower {stage later : CloseStage S.recorded}
    {step : Step (CloseStage S.recorded) CloseOutcome}
    (move : CloseMove T ticket stage stream step after) (borrows : ticket ∈ stream.borrowers)
    (goes : (.ofStep step : Phase (CloseStage S.recorded) CloseOutcome) = .waiting later) :
    ticket ∈ after.borrowers := by
  have lent : ticket ∈ (Close.take ticket stream).borrowers := by
    rw [Stream.borrowers, Stream.take_state]
    dsimp only
    split
    · exact List.mem_cons_self
    · exact borrows
  cases move with
  | takes current => exact lent
  | takesIdle vacant shuts => exact lent
  | finishPends comes =>
    rw [Stream.borrowers, comes.lease_same]
    exact borrows
  | finishFails comes => cases goes
  | finishes comes shuts =>
    rw [Stream.borrowers, Stream.leaveWriter_state, comes.lease_same]
    exact borrows
  | fails => cases goes
  | closes => cases goes
  | _ => exact borrows

/-- A close goes on to shut the connection down once its message is marked, at which it has had the
turn. -/
theorem CloseMove.had_turn_at_marked {stage : CloseStage S.recorded} {later : Option S.Closing}
    {step : Step (CloseStage S.recorded) CloseOutcome}
    (move : CloseMove T ticket stage stream step after)
    (standing : Standing ticket taken (.waiting stage) own)
    (goes : (.ofStep step : Phase (CloseStage S.recorded) CloseOutcome) =
      .waiting (.closing later)) :
    (∃ before, stage = .closing before) ∨
      ∀ number, taken = some number →
        stage.place = some (number, true) ∧ after.marked number = true := by
  cases move with
  | takesIdle vacant shuts => cases standing
  | @finishes held _ _ middle _ comes shuts =>
    right
    intro number current
    obtain ⟨entries, -, same, -⟩ := comes.traffic_of_finish standing
    have here : number = held := Option.some.inj (current.symm.trans same)
    have framed : (middle.leaveWriter T.recorded held ticket).marked = middle.marked :=
      Stream.marked_same (Stream.leaveWriter_finished T middle held ticket)
    rw [here, framed]
    exact ⟨rfl, comes.marked_after⟩
  | pends => exact .inl ⟨_, rfl⟩
  | fails => cases goes
  | closes => cases goes
  | _ => cases goes

theorem CloseDrop.adds_cancelled {stage : CloseStage S.recorded}
    (drop : CloseDrop T ticket stage stream after) :
    ∃ entries, after.world.traffic = stream.world.traffic ++ entries ∧
      ∀ entry ∈ entries, ∃ request, entry = .cancelled ticket request := by
  have one (request : Request) : ∀ entry ∈ [Traffic.cancelled ticket request],
      ∃ request, entry = .cancelled ticket request :=
    fun entry member => ⟨request, List.mem_singleton.mp member⟩
  cases drop with
  | starts => exact ⟨[], (List.append_nil _).symm, List.forall_mem_nil _⟩
  | leaves stands breaks =>
    generalize stage.pending = request at breaks
    cases breaks with
    | idle => exact ⟨[], by simp, List.forall_mem_nil _⟩
    | @busy _ _ _ request found => exact ⟨[.cancelled ticket request], by simp, one request⟩
  | rests => exact ⟨[], by simp, List.forall_mem_nil _⟩
  | shuts => exact ⟨_, Stream.giveBack_traffic T _ ticket, one _⟩

theorem Close.take_again (ticket : Ticket) (stream : Stream S)
    (unowned : stream.state.lease.owned = false) (inbound : stream.state.inbound = none)
    (outbound : stream.state.outbound = none) : take ticket stream = stream := by
  rcases stream with ⟨⟨config, lease, reading, writing, readers, writers⟩, world, journal⟩
  simp_all [take, Stream.modify]

theorem CloseMove.answers_without_io {step : Step (CloseStage S.recorded) CloseOutcome}
    (move : CloseMove T ticket .start stream step after) (closed : stream.state.isClosed = true)
    (vacant : stream.state.outbound = none) (absent : ticket ∉ stream.borrowers) :
    step = .ready (.ok ()) ∧ after.world = stream.world := by
  have unowned : stream.state.lease.owned = false := by simpa [Stream.State.isClosed] using closed
  cases move with
  | takes current =>
    rw [vacant] at current
    cases current
  | takesIdle vacant shuts =>
    cases shuts with
    | owner taken =>
      rw [Stream.take_state, unowned] at taken
      exact absurd taken absent
    | other absent => exact ⟨rfl, rfl⟩

end Moves

theorem Traffic.ofPoll_shuts {caller ticket : Ticket} {request : Request} {resumed : Bool}
    {reply : Option Reply} {front after : List Traffic}
    (split : Traffic.ofPoll caller request resumed reply = front ++ .begun ticket .close :: after) :
    front = [] := by
  cases front with
  | nil => rfl
  | cons first rest =>
    cases resumed <;> cases reply <;> simp [Traffic.ofPoll, List.cons_eq_append_iff] at split

end MessageStream
