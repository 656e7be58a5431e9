import MessageStream.Proofs.Exclusion
import MessageStream.Proofs.Usage.Trace

/-!
Messages left behind for good. A call finds a message in the slot or is handed a new one, and a
message comes into the slot when it is handed out and never again. So a call that has done with a
message that is no longer current does not come back to it.
-/
namespace MessageStream

variable {S : Signature} {T : Transport S}

namespace Direction

def place : Direction → Call S → Place
  | inbound, call => call.reader
  | outbound, call => call.writer

/-- How many messages of this direction have been entered. -/
def entered : Direction → Stream.State S → Nat
  | inbound, state => state.readers.length
  | outbound, state => state.writers.length

end Direction

/-- A call has moved, and no message entered before has come back by it: none of them becomes
current, and the call comes to none but the current one. -/
structure Stream.Forward (direction : Direction) (stream after : Stream S.recorded)
    (before now : Place) : Prop where
  entered : direction.entered stream.state ≤ direction.entered after.state
  slot : ∀ number < direction.entered stream.state,
    direction.slot after.state = some number → direction.slot stream.state = some number
  place : ∀ number < direction.entered stream.state, ∀ turn, now = some (number, turn) →
    direction.slot stream.state = some number ∨ ∃ turn, before = some (number, turn)

namespace Stream.Forward

variable {direction : Direction} {stream after : Stream S.recorded} {before now : Place}

theorem of_known_place (entered : direction.entered after.state = direction.entered stream.state)
    (slot : direction.slot after.state = direction.slot stream.state ∨
      direction.slot after.state = none)
    (place : ∀ number turn, now = some (number, turn) →
      direction.slot stream.state = some number ∨ ∃ turn, before = some (number, turn)) :
    stream.Forward direction after before now := by
  refine ⟨Nat.le_of_eq entered.symm, ?_, fun number _ => place number⟩
  intro number _ current
  rcases slot with same | none
  · exact same.symm.trans current
  · cases none.symm.trans current

theorem of_clearing (number : Nat)
    (entered : direction.entered after.state = direction.entered stream.state)
    (slot : direction.slot after.state =
      if direction.slot stream.state = some number then none else direction.slot stream.state)
    (away : now = none) : stream.Forward direction after before now := by
  refine .of_known_place entered ?_ (by simp [away])
  by_cases current : direction.slot stream.state = some number
  · exact .inr (slot.trans (if_pos current))
  · exact .inl (slot.trans (if_neg current))

theorem of_entering (entered : direction.entered after.state = direction.entered stream.state + 1)
    (slot : direction.slot after.state = direction.slot stream.state ∨
      direction.slot after.state = some (direction.entered stream.state))
    (place : ∀ number turn, now = some (number, turn) → number = direction.entered stream.state) :
    stream.Forward direction after before now := by
  refine ⟨entered ▸ Nat.le_succ _, ?_, ?_⟩
  · intro number known current
    rcases slot with same | new
    · exact same.symm.trans current
    · cases new.symm.trans current
      exact absurd known (Nat.lt_irrefl _)
  · intro number known turn stands
    exact absurd (place number turn stands) (Nat.ne_of_lt known)

theorem of_same_place {number : Nat} {was is : Bool}
    (entered : direction.entered after.state = direction.entered stream.state)
    (slot : direction.slot after.state = direction.slot stream.state) :
    stream.Forward direction after (some (number, was)) (some (number, is)) := by
  refine .of_known_place entered (.inl slot) ?_
  rintro other turn ⟨⟩
  exact .inr ⟨was, rfl⟩

theorem of_no_place (entered : direction.entered after.state = direction.entered stream.state)
    (slot : direction.slot after.state = direction.slot stream.state ∨
      direction.slot after.state = none) : stream.Forward direction after before none :=
  .of_known_place entered slot nofun

end Stream.Forward

section Moves

variable {ticket : Ticket} {stream after : Stream S.recorded}

theorem ReaderComes.forward {asked : Option S.ReaderOpening} {before : Place}
    {step : Step (ReadStage S.recorded) ReadOutcome}
    (comes : ReaderComes T ticket asked stream step after) :
    stream.Forward .inbound after before (step.place ReadStage.place) := by
  cases comes with
  | waits => exact .of_no_place rfl (.inl rfl)
  | fails => exact .of_no_place rfl (.inl rfl)
  | late closed => exact .of_entering (List.length_append ..) (.inl rfl) nofun
  | opens standing =>
    refine .of_entering (List.length_append ..) (.inr rfl) ?_
    rintro number turn ⟨⟩
    rfl

theorem ReadMove.forward {room : Nat} {stage : ReadStage S.recorded}
    {step : Step (ReadStage S.recorded) ReadOutcome}
    (move : ReadMove T room ticket stage stream step after) :
    stream.Forward .inbound after stage.place (step.place ReadStage.place) := by
  have drained (number : Nat) (content : S.Reader) (inner : S.World) (entries : List Traffic) :
      Direction.inbound.entered ((stream.putReader number content).heard inner entries).state =
        Direction.inbound.entered stream.state := by
    simp [Direction.entered]
  have left (stream : Stream S.recorded) (number : Nat) :
      Direction.inbound.entered (stream.leaveReader number ticket).state =
        Direction.inbound.entered stream.state := by
    simp [Direction.entered]
  cases move with
  | refused closed => exact .of_no_place rfl (.inl rfl)
  | idles standing roomless => exact .of_no_place rfl (.inl rfl)
  | joins standing roomy current =>
    refine .of_known_place (by simp [Direction.entered]) (.inl rfl) ?_
    rintro number turn ⟨⟩
    exact .inl current
  | asks standing roomy vacant comes =>
    have goes : (stream.borrow ticket).Forward .inbound after none (step.place ReadStage.place) :=
      comes.forward
    exact ⟨goes.entered, goes.slot, goes.place⟩
  | hears comes => exact comes.forward
  | queues blocked => exact .of_same_place rfl rfl
  | enters turn => exact .of_same_place rfl rfl
  | pends found polled => exact .of_same_place (drained _ _ _ _) rfl
  | goesOn found polled gained short => exact .of_same_place (drained _ _ _ _) rfl
  | fails found polled => exact .of_no_place ((left _ _).trans (drained _ _ _ _)) (.inl rfl)
  | fulfils found polled gained full =>
    exact .of_no_place ((left _ _).trans (drained _ _ _ _)) (.inl rfl)
  | passes found polled => exact .of_clearing _ ((left _ _).trans (drained _ _ _ _)) rfl rfl
  | ends found polled gained => exact .of_clearing _ ((left _ _).trans (drained _ _ _ _)) rfl rfl

theorem WriterComes.forward {resumed : Bool} {before : Place}
    {step : Step (WriteStage S.recorded) WriteOutcome}
    (comes : WriterComes T ticket resumed stream step after) :
    stream.Forward .outbound after before (step.place WriteStage.place) := by
  cases comes with
  | waits => exact .of_no_place rfl (.inl rfl)
  | fails => exact .of_no_place rfl (.inl rfl)
  | late closed =>
    refine .of_entering (List.length_append ..) (.inl rfl) ?_
    rintro number turn ⟨⟩
    rfl
  | opens standing =>
    refine .of_entering (List.length_append ..) (.inr rfl) ?_
    rintro number turn ⟨⟩
    rfl

theorem FinishComes.entered_same {number : Nat} {resumed : Bool}
    {progress : Progress S.Finishing (Except Failure Unit)}
    (comes : FinishComes T ticket number resumed stream progress after) :
    Direction.outbound.entered after.state = Direction.outbound.entered stream.state :=
  comes.opens_none.length

theorem WriteMove.forward {data : Bytes} {stage : WriteStage S.recorded}
    {step : Step (WriteStage S.recorded) WriteOutcome}
    (move : WriteMove T data ticket stage stream step after) :
    stream.Forward .outbound after stage.place (step.place WriteStage.place) := by
  have filled (number : Nat) (content : S.Writer) (finished : Bool) (inner : S.World)
      (entries : List Traffic) : Direction.outbound.entered
        ((stream.putWriter number content finished).heard inner entries).state =
      Direction.outbound.entered stream.state := by
    simp [Direction.entered]
  have left (stream : Stream S.recorded) (number : Nat) :
      Direction.outbound.entered (stream.leaveWriter T.recorded number ticket).state =
        Direction.outbound.entered stream.state := by
    simp [Direction.entered]
  have onward {number written : Nat} : (Step.onward (Write.fillOrFinish data number written) :
      Step (WriteStage S.recorded) WriteOutcome).place WriteStage.place = some (number, true) :=
    Write.fillOrFinish_place data number written
  -- Whoever has done with a message clears it, if it is current.
  have retired {number : Nat} {middle later : Stream S.recorded} {before : Place}
      (entered : Direction.outbound.entered middle.state = Direction.outbound.entered stream.state)
      (slot : middle.state.outbound = stream.state.outbound)
      (state : later.state = (middle.retireWriter T.recorded number ticket).state) :
      stream.Forward .outbound later before none := by
    refine .of_clearing number ?_ ?_ rfl
    · rw [state]
      exact (left _ _).trans entered
    · rw [state, ← show middle.state.outbound = Direction.outbound.slot stream.state from slot]
      rfl
  cases move with
  | refused closed => exact .of_no_place rfl (.inl rfl)
  | skips standing skipped => exact .of_no_place rfl (.inl rfl)
  | joins standing sent current =>
    refine .of_known_place (by simp [Direction.entered]) (.inl rfl) ?_
    rintro number turn ⟨⟩
    exact .inl current
  | asks standing sent vacant comes =>
    have goes : (stream.borrow ticket).Forward .outbound after none
        (step.place WriteStage.place) := comes.forward
    exact ⟨goes.entered, goes.slot, goes.place⟩
  | hears comes => exact comes.forward
  | discardPends comes => exact .of_same_place comes.entered_same comes.outbound_same
  | discards comes =>
    exact .of_no_place ((left _ _).trans comes.entered_same) (.inl comes.outbound_same)
  | queues blocked => exact .of_same_place rfl rfl
  | retires turn found finished => exact retired rfl rfl rfl
  | enters turn found unfinished =>
    rw [onward]
    exact .of_same_place rfl rfl
  | pends found => exact .of_same_place (filled _ _ _ _ _) rfl
  | breaks found => exact .of_same_place (filled _ _ _ _ _) rfl
  | takes found polled gained =>
    rw [onward]
    exact .of_same_place (filled _ _ _ _ _) rfl
  | stalls found => exact .of_same_place (filled _ _ _ _ _) rfl
  | finishPends comes => exact .of_same_place comes.entered_same comes.outbound_same
  | failed comes => exact retired comes.entered_same comes.outbound_same rfl
  | finishFails comes => exact retired comes.entered_same comes.outbound_same rfl
  | delivers comes => exact retired comes.entered_same comes.outbound_same rfl

theorem CloseMove.forward {stage : CloseStage S.recorded}
    {step : Step (CloseStage S.recorded) CloseOutcome}
    (move : CloseMove T ticket stage stream step after) :
    stream.Forward .outbound after stage.place (step.place CloseStage.place) := by
  have left (stream : Stream S.recorded) (number : Nat) :
      Direction.outbound.entered (stream.leaveWriter T.recorded number ticket).state =
        Direction.outbound.entered stream.state := by
    simp [Direction.entered]
  cases move with
  | takes current =>
    refine .of_known_place (by simp [Direction.entered, Close.take]) (.inr rfl) ?_
    rintro number turn ⟨⟩
    exact .inl current
  | takesIdle vacant shuts =>
    rw [shuts.place_none]
    exact .of_no_place rfl (.inr rfl)
  | queues blocked => exact .of_same_place rfl rfl
  | enters turn => exact .of_same_place rfl rfl
  | finishPends comes => exact .of_same_place comes.entered_same comes.outbound_same
  | finishFails comes =>
    refine .of_no_place ?_ ?_
    · simp only [Direction.entered, Close.letGo_lines.2]
      exact (left _ _).trans comes.entered_same
    · left
      simp only [Direction.slot]
      unfold Close.letGo
      split <;> exact comes.outbound_same
  | finishes comes shuts =>
    rw [shuts.place_none]
    exact .of_no_place ((left _ _).trans comes.entered_same) (.inl comes.outbound_same)
  | pends polled => exact .of_no_place rfl (.inl rfl)
  | fails polled => exact .of_no_place rfl (.inl rfl)
  | closes polled => exact .of_no_place rfl (.inl rfl)

theorem CloseMove.forward_inbound {stage : CloseStage S.recorded} {before : Place}
    {step : Step (CloseStage S.recorded) CloseOutcome}
    (move : CloseMove T ticket stage stream step after) :
    stream.Forward .inbound after before none :=
  .of_no_place (congrArg List.length move.readers_same)
    (move.inbound_same_or_closed.imp_right And.right)

def Stream.SameMessages (stream after : Stream S.recorded) : Prop :=
  ∀ direction : Direction, direction.entered after.state = direction.entered stream.state ∧
    direction.slot after.state = direction.slot stream.state

theorem Stream.SameMessages.of_state (readers : after.state.readers.length =
      stream.state.readers.length) (writers : after.state.writers.length =
      stream.state.writers.length) (inbound : after.state.inbound = stream.state.inbound)
    (outbound : after.state.outbound = stream.state.outbound) : stream.SameMessages after := by
  intro direction
  cases direction with
  | inbound => exact ⟨readers, inbound⟩
  | outbound => exact ⟨writers, outbound⟩

theorem ReadDrop.same_messages {stage : ReadStage S.recorded}
    (drop : ReadDrop T ticket stage stream after) : stream.SameMessages after := by
  cases drop with
  | starts => exact .of_state rfl rfl rfl rfl
  | asks => exact .of_state rfl rfl rfl rfl
  | leaves stands => exact .of_state (by simp) rfl rfl rfl
  | breaksOff stands => exact .of_state (by simp) rfl rfl rfl

theorem BreakOff.same_messages {number : Nat} {request : Option Request}
    (breaks : BreakOff ticket number stream request after) : stream.SameMessages after := by
  cases breaks with
  | idle => exact .of_state rfl rfl rfl rfl
  | busy found => exact .of_state rfl (by simp) rfl rfl

theorem Stream.SameMessages.after_leaveWriter {middle : Stream S.recorded} {number : Nat}
    (same : stream.SameMessages middle) :
    stream.SameMessages (middle.leaveWriter T.recorded number ticket) := by
  refine .of_state (same .inbound).1 ?_ (same .inbound).2 (same .outbound).2
  rw [Stream.leaveWriter_state]
  exact (List.length_modify ..).trans (same .outbound).1

theorem Stream.SameMessages.after_giveBack (same : stream.SameMessages after) :
    stream.SameMessages (after.giveBack T.recorded ticket) :=
  .of_state (same .inbound).1 (same .outbound).1 (same .inbound).2 (same .outbound).2

theorem WriteDrop.same_messages {data : Bytes} {stage : WriteStage S.recorded}
    (drop : WriteDrop T data ticket stage stream after) : stream.SameMessages after := by
  cases drop with
  | starts => exact .of_state rfl rfl rfl rfl
  | asks => exact .of_state rfl rfl rfl rfl
  | leaves stands breaks => exact breaks.same_messages.after_leaveWriter
  | discards breaks => exact breaks.same_messages.after_leaveWriter.after_giveBack

theorem CloseDrop.same_messages {stage : CloseStage S.recorded}
    (drop : CloseDrop T ticket stage stream after) : stream.SameMessages after := by
  cases drop with
  | starts => exact .of_state rfl rfl rfl rfl
  | leaves stands breaks =>
    unfold Close.letGo
    split
    · exact breaks.same_messages.after_leaveWriter.after_giveBack
    · exact breaks.same_messages.after_leaveWriter
  | rests => exact .of_state rfl rfl rfl rfl
  | shuts => exact .of_state rfl rfl rfl rfl

end Moves

namespace Usage

variable {usage after : Usage S} {ticket : Ticket}

def place (usage : Usage S) (direction : Direction) (ticket : Ticket) : Place :=
  usage.calls[ticket]?.bind direction.place

theorem place_found {direction : Direction} {call : Call S.recorded}
    (found : usage.calls[ticket]? = some call) :
    usage.place direction ticket = direction.place call := by
  rw [place, found, Option.bind_some]

theorem Moves.forward (moves : Moves T usage ticket after) (direction : Direction) :
    usage.stream.Forward direction after.stream (usage.place direction ticket)
      (after.place direction ticket) := by
  cases moves with
  | rests => exact .of_known_place rfl (.inl rfl) fun _ turn stands => .inr ⟨turn, stands⟩
  | reads found next move =>
    rw [place_found found, place_found (found_set found)]
    cases direction with
    | inbound =>
      simp only [Direction.place, Call.reader, Phase.place_ofStep,
        Phase.place_next ReadStage.place .start rfl next]
      exact move.forward
    | outbound =>
      exact .of_no_place (congrArg List.length move.writers_same) (.inl move.stored_same.2)
  | writes found next move =>
    rw [place_found found, place_found (found_set found)]
    cases direction with
    | inbound =>
      exact .of_no_place (congrArg List.length move.readers_same) (.inl move.inbound_same)
    | outbound =>
      simp only [Direction.place, Call.writer, Phase.place_ofStep,
        Phase.place_next WriteStage.place .start rfl next]
      exact move.forward
  | closes found next move =>
    rw [place_found found, place_found (found_set found)]
    cases direction with
    | inbound => exact move.forward_inbound
    | outbound =>
      simp only [Direction.place, Call.writer, Phase.place_ofStep,
        Phase.place_next CloseStage.place .start rfl next]
      exact move.forward

theorem Drops.forward (drops : Drops T usage ticket after) (direction : Direction) :
    usage.stream.Forward direction after.stream (usage.place direction ticket)
      (after.place direction ticket) := by
  have gone {call become : Call S.recorded} {stream : Stream S.recorded}
      (found : usage.calls[ticket]? = some call) (away : direction.place become = none)
      (same : usage.stream.SameMessages stream) :
      usage.stream.Forward direction stream (usage.place direction ticket)
        ((⟨stream, usage.calls.set ticket become⟩ : Usage S).place direction ticket) := by
    have left : (⟨stream, usage.calls.set ticket become⟩ : Usage S).place direction ticket = none :=
      (place_found (found_set found)).trans away
    rw [left]
    exact .of_no_place (same direction).1 (.inl (same direction).2)
  cases drops with
  | rests => exact .of_known_place rfl (.inl rfl) fun _ turn stands => .inr ⟨turn, stands⟩
  | forgets demand found =>
    exact gone found (by cases direction <;> cases demand <;> rfl) fun _ => ⟨rfl, rfl⟩
  | reads found drop => exact gone found (by cases direction <;> rfl) drop.same_messages
  | writes found drop => exact gone found (by cases direction <;> rfl) drop.same_messages
  | closes found drop => exact gone found (by cases direction <;> rfl) drop.same_messages

/-- A call has done with a message for good: it is exhausted or finished, it is no longer current,
and the call is not at it. -/
structure Behind (usage : Usage S) (direction : Direction) (number : Nat) (ticket : Ticket) :
    Prop where
  finished : Traffic.Finished direction number usage.traffic
  known : number < direction.entered usage.stream.state
  vacant : direction.slot usage.stream.state ≠ some number
  away : ∀ turn, usage.place direction ticket ≠ some (number, turn)

namespace Behind

variable {direction : Direction} {number : Nat} {caller : Ticket}
  (behind : usage.Behind direction number caller)
include behind

/-- What a call has left behind stays behind, whoever moves. -/
theorem stays_behind (used : after.Used) (grown : usage.traffic <+: after.traffic)
    (forward : usage.stream.Forward direction after.stream (usage.place direction ticket)
      (after.place direction ticket))
    (others : ∀ other, other ≠ ticket → after.calls[other]? = usage.calls[other]?) :
    after.Behind direction number caller := by
  obtain ⟨entries, grown⟩ := grown
  refine ⟨used.finished_grown behind.finished grown.symm,
    Nat.lt_of_lt_of_le behind.known forward.entered,
    fun current => behind.vacant (forward.slot number behind.known current), ?_⟩
  intro turn stands
  by_cases mover : caller = ticket
  · subst mover
    rcases forward.place number behind.known turn stands with current | ⟨was, stood⟩
    · exact behind.vacant current
    · exact behind.away was stood
  · rw [place, others caller mover] at stands
    exact behind.away turn stands

theorem after_move (moves : Moves T usage ticket after) (used : after.Used) :
    after.Behind direction number caller :=
  behind.stays_behind used moves.traffic_grows (moves.forward direction) fun _ => moves.calls_other

theorem after_drop (drops : Drops T usage ticket after) (used : after.Used) :
    after.Behind direction number caller :=
  behind.stays_behind used drops.traffic_grows (drops.forward direction) fun _ => drops.calls_other

theorem after_begin (demand : Demand) :
    (usage.step T (.begin demand)).Behind direction number caller := by
  have same : (usage.step T (.begin demand)).place direction caller =
      usage.place direction caller :=
    congrFun (push_same usage.calls demand direction.place
      (by cases direction <;> cases demand <;> rfl)) caller
  exact ⟨behind.finished, behind.known, behind.vacant, fun turn => same ▸ behind.away turn⟩

theorem after_change (become : S.World → S.World) :
    (usage.step T (.change become)).Behind direction number caller :=
  ⟨behind.finished, behind.known, behind.vacant, behind.away⟩

end Behind

end Usage

end MessageStream
