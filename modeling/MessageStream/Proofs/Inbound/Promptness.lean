import MessageStream.Proofs.Inbound.Story

/-!
What a read waits for. A read that is alone on its stream finds its turn in every line, and the
bound on the stretches of a poll suffices for all there can be between two waits. So a poll of it
comes to an answer unless the connection keeps it waiting.
-/
namespace MessageStream

variable {S : Signature} {T : Transport S}

/-- What a connection promises of the bound on its messages: handing one out without a wait uses it
up. -/
structure Transport.Metered (T : Transport S) : Prop where
  opens : ∀ {ticket : Ticket} {world inner : S.World} {reader : S.Reader},
    T.nextReader.poll ticket none world = (inner, .ready (.ok reader)) →
      T.supply inner < T.supply world
  resumes : ∀ {ticket : Ticket} {stage : S.ReaderOpening} {world inner : S.World}
    {reader : S.Reader},
    T.nextReader.poll ticket (some stage) world = (inner, .ready (.ok reader)) →
      T.supply inner ≤ T.supply world
  reads : ∀ {room : Nat} {ticket : Ticket} {stage : Option S.Reading} {reader after : S.Reader}
    {world inner : S.World} {bytes : Bytes},
    (T.read room).poll ticket stage (reader, world) = ((after, inner), .ready (.ok bytes)) →
      T.supply inner ≤ T.supply world

def ReadStage.awaits : ReadStage S → Bool
  | .opening _ => true
  | .draining _ _ (some _) => true
  | _ => false

def Progress.Prompt : Progress (ReadStage S.recorded) ReadOutcome → Prop
  | .waiting stage => stage.awaits = true
  | .ready _ => True

/-- A bound on the stretches a read may still take in one poll. -/
def Read.stretchesLeft (T : Transport S) (room : Nat) (stage : ReadStage S.recorded)
    (stream : Stream S.recorded) : Nat :=
  4 * T.supply stream.world.inner +
    match stage with
    | .start => if stream.state.inbound.isSome then room + 5 else room + 1
    | .opening _ => room + 5
    | .queued _ => room + 4
    | .draining _ copied _ => room - copied.length + 2

structure Read.Alone (room : Nat) (ticket : Ticket) (stage : ReadStage S.recorded)
    (stream : Stream S.recorded) : Prop where
  enumerated : stream.Enumerated
  standing : stream.state.isClosed = false
  orderly : Orderly (lineOf stream.state.readers)
    (Function.update (fun _ => none) ticket stage.place)
  roomy : stage.Roomy room
  finds : stage.Finds stream.state.inbound

theorem Orderly.admits_alone {lines : Nat → Line} {ticket : Ticket} {number : Nat} {turn : Bool}
    {stood : Place} (orderly : Orderly lines (Function.update (fun _ => none) ticket stood))
    (stands : stood = some (number, turn)) : (lines number).admits ticket = true := by
  have member : ticket ∈ lines number :=
    (orderly.stands number ticket).mpr ⟨turn, by simpa using stands⟩
  cases line : lines number with
  | nil => simp [line] at member
  | cons first others =>
    obtain ⟨turned, placed⟩ := (orderly.stands number first).mp (by simp [line])
    have same : first = ticket := by
      by_contra different
      rw [Function.update_of_ne different] at placed
      cases placed
    simp [Line.admits, same]

section Moves

variable {room : Nat} {ticket : Ticket} {stage : ReadStage S.recorded}
  {step : Step (ReadStage S.recorded) ReadOutcome} {stream after : Stream S.recorded}

theorem Read.Alone.after_move (alone : Read.Alone room ticket stage stream)
    (move : ReadMove T room ticket stage stream step after) {next : ReadStage S.recorded}
    (goes : step = .onward next) : Read.Alone room ticket next after := by
  subst goes
  have shifts : Shift ticket (lineOf stream.state.readers)
      (Function.update (fun _ => none) ticket stage.place ticket) next.place
      (lineOf after.state.readers) := by
    rw [Function.update_self]
    exact move.shifts alone.enumerated
  have orderly := alone.orderly.after_shift shifts
  rw [Function.update_idem] at orderly
  refine ⟨move.enumerated alone.enumerated, ?_, orderly, move.roomy alone.roomy next rfl,
    move.finds alone.finds next rfl⟩
  simpa [Stream.State.isClosed, move.owned_same] using alone.standing

theorem ReadMove.stretchesLeft_decreases (move : ReadMove T room ticket stage stream step after)
    (metered : T.Metered) (alone : Read.Alone room ticket stage stream) :
    match step with
    | .waiting later => later.awaits = true
    | .onward next => Read.stretchesLeft T room next after < Read.stretchesLeft T room stage stream
    | .ready _ => True := by
  have standing := alone.standing
  cases move with
  | refused closed => trivial
  | idles standing roomless => trivial
  | joins standing roomy current => simp [Read.stretchesLeft, current]
  | asks unclosed roomy vacant comes =>
    cases comes with
    | waits polled => rfl
    | fails polled => trivial
    | late closed polled => trivial
    | opens unclosed polled =>
      -- One message less is to come, which pays for the four stretches this one may take.
      have fewer := metered.opens polled
      unfold Read.stretchesLeft
      rw [Stream.giveBack_standing]
      · simp [vacant] at fewer ⊢
        omega
      · exact standing
  | hears comes =>
    cases comes with
    | waits polled => rfl
    | fails polled => trivial
    | late closed polled => trivial
    | opens unclosed polled =>
      have fewer := metered.resumes polled
      unfold Read.stretchesLeft
      rw [Stream.giveBack_standing]
      · simp
        omega
      · exact standing
  | queues blocked => cases blocked.symm.trans (alone.orderly.admits_alone rfl)
  | enters turn =>
    simp [Read.stretchesLeft]
  | pends found polled => rfl
  | fails found polled => trivial
  | goesOn found polled gained short =>
    have fewer := metered.reads polled
    have roomy := alone.roomy
    have some := List.length_pos_iff.mpr gained
    simp only [ReadStage.Roomy] at roomy
    simp only [Read.stretchesLeft, Stream.heard_inner, List.length_append]
    omega
  | fulfils found polled gained full => trivial
  | passes found polled =>
    have fewer := metered.reads polled
    have current : stream.state.inbound = some _ := alone.finds
    simp [Read.stretchesLeft, current]
    omega
  | ends found polled gained => trivial

end Moves

/-- One poll of a read that is alone comes to an answer, or the connection keeps it waiting. -/
theorem Read.poll_prompt (metered : T.Metered) (room : Nat)
    (ticket : Ticket) (stage : Option (ReadStage S.recorded)) (stream : Stream S.recorded)
    (alone : Read.Alone room ticket (stage.getD .start) stream) :
    ((Stream.read T.recorded room).poll ticket stage stream).2.Prompt := by
  refine @Step.run_ends _ _ _ _ (Read.Alone room ticket) (fun progress _ => progress.Prompt)
    (stretchesLeft T room) ?_ _ _ _ ?_ ?_
  · intro stage stream alone
    have known (number : Nat) (turn : Bool) (placed : stage.place = some (number, turn)) :
        number < stream.state.readers.length := by
      have finds := alone.finds
      cases stage <;> cases placed <;> exact alone.enumerated.inbound _ finds
    have move := Read.advance_moves T room ticket stage stream alone.enumerated known
    have hastens := move.stretchesLeft_decreases metered alone
    revert move hastens
    generalize (Read.advance T.recorded room ticket stage stream).2 = step
    intro move hastens
    cases step with
    | waiting later => exact hastens
    | onward next => exact ⟨alone.after_move move rfl, hastens⟩
    | ready outcome => trivial
  · exact alone
  · have fits : stretchesLeft T room (stage.getD .start) stream ≤
        4 * T.supply stream.world.inner + (room + 5) := by
      unfold stretchesLeft
      split
      · split <;> omega
      all_goals omega
    show _ < 4 * (T.supply stream.world.inner + 4) + room
    omega

end MessageStream
