import MessageStream.Proofs.Inbound.Shelf

/-!
Where the bytes go. Every byte a reader yields is copied for the read that asked for it, and what a
message has yielded and what its reader still holds are together the message, at every moment.
-/
namespace MessageStream

variable {S : Signature} {T : Transport S}

/-- The bytes an entry of the record brings to a caller. -/
def Traffic.taken (caller : Ticket) : Traffic → Bytes
  | .ended reader (.read _ _) (.yielded data) => if reader = caller then data else []
  | _ => []

def Traffic.given (number : Nat) : Traffic → Bytes
  | .ended _ (.read message _) (.yielded data) => if message = number then data else []
  | _ => []

namespace Stream

def takenBy (stream : Stream S.recorded) (caller : Ticket) : Bytes :=
  stream.world.traffic.flatMap (Traffic.taken caller)

/-- All bytes a message has yielded, in order. -/
def givenBy (stream : Stream S.recorded) (number : Nat) : Bytes :=
  stream.world.traffic.flatMap (Traffic.given number)

end Stream

theorem Traffic.ofPoll_taken (caller reader : Ticket) (request : Request) (resumed : Bool)
    (reply : Option Reply) :
    (Traffic.ofPoll reader request resumed reply).flatMap (Traffic.taken caller) =
      match reply with
      | none => []
      | some reply => (Traffic.ended reader request reply).taken caller :=
  Traffic.ofPoll_flatMap _ (fun _ _ => rfl) reader request resumed reply

theorem Traffic.ofPoll_given (number : Nat) (reader : Ticket) (request : Request) (resumed : Bool)
    (reply : Option Reply) :
    (Traffic.ofPoll reader request resumed reply).flatMap (Traffic.given number) =
      match reply with
      | none => []
      | some reply => (Traffic.ended reader request reply).given number :=
  Traffic.ofPoll_flatMap _ (fun _ _ => rfl) reader request resumed reply

def Step.copied : Step (ReadStage S) ReadOutcome → Bytes
  | .waiting stage => stage.copied
  | .onward stage => stage.copied
  | .ready outcome => outcome.data

section Moves

variable {room : Nat} {ticket : Ticket} {stage : ReadStage S.recorded}
  {step : Step (ReadStage S.recorded) ReadOutcome} {stream after : Stream S.recorded}
  {rest : S.Reader → Bytes}

theorem ReaderComes.takenBy_same {asked : Option S.ReaderOpening}
    (comes : ReaderComes T ticket asked stream step after) (caller : Ticket) :
    after.takenBy caller = stream.takenBy caller ∧ step.copied = [] := by
  cases comes <;>
    simp [Stream.takenBy, Traffic.ofPoll_taken, Traffic.taken, Step.copied, ReadStage.copied,
      ReadOutcome.data]

theorem ReadMove.takenBy_grown (move : ReadMove T room ticket stage stream step after)
    (caller : Ticket) :
    ∃ bytes, step.copied = stage.copied ++ bytes ∧
      after.takenBy caller = stream.takenBy caller ++ if ticket = caller then bytes else [] := by
  cases move with
  | asks standing roomy vacant comes =>
    obtain ⟨same, empty⟩ := comes.takenBy_same caller
    refine ⟨[], empty, same.trans ?_⟩
    simp [Stream.takenBy]
  | hears comes =>
    obtain ⟨same, empty⟩ := comes.takenBy_same caller
    refine ⟨[], empty, same.trans ?_⟩
    simp
  | goesOn found polled gained short =>
    refine ⟨_, rfl, ?_⟩
    simp [Stream.takenBy, Traffic.ofPoll_taken, Traffic.taken]
  | fulfils found polled gained full =>
    refine ⟨_, rfl, ?_⟩
    simp [Stream.takenBy, Traffic.ofPoll_taken, Traffic.taken]
  | _ =>
    refine ⟨[], by simp [Step.copied, ReadStage.copied, ReadOutcome.data], ?_⟩
    simp [Stream.takenBy, Traffic.ofPoll_taken, Traffic.taken]

theorem ReaderComes.roomy {asked : Option S.ReaderOpening}
    (comes : ReaderComes T ticket asked stream step after) (roomy : 0 < room)
    (next : ReadStage S.recorded) (goes : (Phase.ofStep step).next? .start = some next) :
    next.Roomy room := by
  cases comes <;> cases goes <;> exact roomy

theorem ReadMove.roomy (move : ReadMove T room ticket stage stream step after)
    (roomy : stage.Roomy room) (next : ReadStage S.recorded)
    (goes : (Phase.ofStep step).next? .start = some next) : next.Roomy room := by
  cases move with
  | joins standing needed current =>
    cases goes
    exact Nat.pos_of_ne_zero needed
  | asks standing needed vacant comes =>
    exact comes.roomy (Nat.pos_of_ne_zero needed) next goes
  | hears comes => exact comes.roomy roomy next goes
  | goesOn found polled gained short =>
    cases goes
    exact short
  | passes found polled =>
    cases goes
    trivial
  | _ =>
    cases goes
    try exact roomy

theorem ReaderComes.held_same {asked : Option S.ReaderOpening}
    (comes : ReaderComes T ticket asked stream step after) (number : Nat) (bytes : Bytes)
    (held : stream.held rest number = some bytes) :
    after.held rest number = some bytes ∧ after.givenBy number = stream.givenBy number := by
  -- A message handed out by this answer is none of those held before.
  have older : number ≠ stream.state.readers.length := by
    rintro rfl
    simp [Stream.held] at held
  have still : stream.state.readers[number]?.map (fun cursor => rest cursor.content.content) =
      some bytes := held
  cases comes with
  | waits => exact ⟨held, by simp [Stream.givenBy, Traffic.ofPoll_given]⟩
  | fails =>
    exact ⟨held, by simp [Stream.givenBy, Traffic.ofPoll_given, Traffic.given]⟩
  | late closed =>
    refine ⟨?_, by simp [Stream.givenBy, Traffic.ofPoll_given, Traffic.given]⟩
    simpa [Stream.held, push_elsewhere _ _ older] using still
  | opens standing =>
    refine ⟨?_, by simp [Stream.givenBy, Traffic.ofPoll_given, Traffic.given]⟩
    simpa [Stream.held, push_elsewhere _ _ older] using still

/-- A read takes bytes from the front of what a message holds. -/
theorem Stream.whole_read (out : Bytes) {number other : Nat} {cursor : Cursor (Numbered S.Reader)}
    {content : S.Reader} {bytes : Bytes}
    (found : stream.state.readers[number]? = some cursor)
    (took : rest cursor.content.content = out ++ rest content)
    (now : after.held rest other = (stream.putReader number content).held rest other)
    (given : after.givenBy other = stream.givenBy other ++ if number = other then out else [])
    (held : stream.held rest other = some bytes) :
    ∃ left, after.held rest other = some left ∧
      stream.givenBy other ++ bytes = after.givenBy other ++ left := by
  rw [putReader_held found] at now
  by_cases here : number = other
  · subst here
    refine ⟨rest content, by simpa using now, ?_⟩
    rw [Stream.held_some found] at held
    rw [given, if_pos rfl, List.append_assoc, ← took, Option.some.inj held]
  · refine ⟨bytes, ?_, by rw [given, if_neg here, List.append_nil]⟩
    rw [now, if_neg (Ne.symm here), held]

/-- What a message has yielded and what it still holds are the message, at every moment. -/
theorem ReadMove.held_balance (move : ReadMove T room ticket stage stream step after)
    (drains : T.Drains rest) (unbroken : ∀ data source, step ≠ .ready (.broken data source))
    (number : Nat) (bytes : Bytes) (held : stream.held rest number = some bytes) :
    ∃ left, after.held rest number = some left ∧
      stream.givenBy number ++ bytes = after.givenBy number ++ left := by
  cases move with
  | joins standing roomy current => exact ⟨bytes, by simpa using held, rfl⟩
  | asks standing roomy vacant comes =>
    obtain ⟨still, same⟩ := comes.held_same number bytes held
    exact ⟨bytes, still, by rw [same]; rfl⟩
  | hears comes =>
    obtain ⟨still, same⟩ := comes.held_same number bytes held
    exact ⟨bytes, still, by rw [same]⟩
  | pends found polled =>
    refine Stream.whole_read [] found (drains.waits polled).symm rfl ?_ held
    simp [Stream.givenBy, Traffic.ofPoll_given]
  | fails found polled => exact absurd rfl (unbroken _ _)
  | goesOn found polled gained short =>
    refine Stream.whole_read _ found (drains.yields polled) rfl ?_ held
    simp [Stream.givenBy, Traffic.ofPoll_given, Traffic.given]
  | fulfils found polled gained full =>
    refine Stream.whole_read _ found (drains.yields polled) (Stream.leaveReader_held _ _ _ _ _)
      ?_ held
    simp [Stream.givenBy, Traffic.ofPoll_given, Traffic.given]
  | passes found polled =>
    refine Stream.whole_read _ found (drains.yields polled) (Stream.leaveReader_held _ _ _ _ _)
      ?_ held
    simp [Stream.givenBy, Traffic.ofPoll_given, Traffic.given]
  | ends found polled gained =>
    refine Stream.whole_read _ found (drains.yields polled) (Stream.leaveReader_held _ _ _ _ _)
      ?_ held
    simp [Stream.givenBy, Traffic.ofPoll_given, Traffic.given]
  | _ => exact ⟨bytes, held, rfl⟩

end Moves

end MessageStream
