import MessageStream.Proofs.Usage.Sound
import MessageStream.Transport.Scripted

/-!
Inbound messages and the one slot for them. A message that becomes current while another is current
displaces it, and a displaced message is never current again. Whether messages were displaced can be
read off the journal. A message that is not current and was not displaced holds no more bytes.
-/
namespace MessageStream

variable {S : Signature} {T : Transport S}

/-- What a connection promises of its readers: there are bytes a reader still holds, a read takes
its bytes from their front, and it takes none where there is room for some only at their end. -/
structure Transport.Drains (T : Transport S) (rest : S.Reader → Bytes) : Prop where
  waits : ∀ {room : Nat} {ticket : Ticket} {stage : Option S.Reading} {reader after : S.Reader}
    {world inner : S.World} {later : S.Reading},
    (T.read room).poll ticket stage (reader, world) = ((after, inner), .waiting later) →
      rest after = rest reader
  yields : ∀ {room : Nat} {ticket : Ticket} {stage : Option S.Reading} {reader after : S.Reader}
    {world inner : S.World} {bytes : Bytes},
    (T.read room).poll ticket stage (reader, world) = ((after, inner), .ready (.ok bytes)) →
      rest reader = bytes ++ rest after
  ends : ∀ {room : Nat} {ticket : Ticket} {stage : Option S.Reading} {reader after : S.Reader}
    {world inner : S.World}, 0 < room →
    (T.read room).poll ticket stage (reader, world) = ((after, inner), .ready (.ok [])) →
      rest reader = []

theorem Transport.Drains.rest_eq_nil {rest : S.Reader → Bytes} (drains : T.Drains rest) {room : Nat}
    {ticket : Ticket} {stage : Option S.Reading} {reader after : S.Reader} {world inner : S.World}
    (roomy : 0 < room)
    (polled : (T.read room).poll ticket stage (reader, world) =
      ((after, inner), .ready (.ok []))) : rest after = [] := by
  have before := drains.ends roomy polled
  rw [drains.yields polled] at before
  exact before

/-- What a journal says of the slot for inbound messages. A message is displaced when another takes
its place while it is current. -/
structure Shelf where
  opened : Nat := 0
  current : Option Nat := none
  displaced : List Nat := []
  deriving DecidableEq, Repr

namespace Shelf

def note (shelf : Shelf) : Event → Shelf
  | .inboundOpened =>
    { opened := shelf.opened + 1
      current := some shelf.opened
      displaced := shelf.displaced ++ shelf.current.toList }
  | .inboundExhausted _ => { shelf with current := none }
  | _ => shelf

def ofJournal (journal : Journal) : Shelf := journal.foldl note {}

theorem ofJournal_push (journal : Journal) (event : Event) :
    ofJournal (journal ++ [event]) = (ofJournal journal).note event := by
  simp [ofJournal]

end Shelf

namespace Stream

def shelf (stream : Stream S.recorded) : Shelf := .ofJournal stream.journal

def held (rest : S.Reader → Bytes) (stream : Stream S.recorded) (number : Nat) : Option Bytes :=
  stream.state.readers[number]?.map fun cursor => rest cursor.content.content

/-- The journal tells which message is current, and a message neither current nor displaced holds no
more bytes. -/
structure Shelved (rest : S.Reader → Bytes) (stream : Stream S.recorded) : Prop where
  opened : stream.shelf.opened = stream.state.readers.length
  current : stream.shelf.current = stream.state.inbound
  displaced : ∀ number ∈ stream.shelf.displaced, stream.state.inbound ≠ some number ∧
    number < stream.state.readers.length
  emptied : ∀ number bytes, stream.held rest number = some bytes →
    stream.state.inbound ≠ some number → number ∉ stream.shelf.displaced → bytes = []

@[simp] theorem record_shelf (stream : Stream S.recorded) (event : Event) :
    (stream.record event).shelf = stream.shelf.note event :=
  Shelf.ofJournal_push stream.journal event

theorem held_some {rest : S.Reader → Bytes} {stream : Stream S.recorded} {number : Nat}
    {cursor : Cursor (Numbered S.Reader)} (found : stream.state.readers[number]? = some cursor) :
    stream.held rest number = some (rest cursor.content.content) := by
  simp [held, found]

theorem held_line (rest : S.Reader → Bytes) (readers : List (Cursor (Numbered S.Reader)))
    (number other : Nat) (change : Line → Line) :
    ((readers.modify number fun cursor => { cursor with line := change cursor.line })[other]?.map
      fun cursor => rest cursor.content.content) =
      readers[other]?.map fun cursor => rest cursor.content.content := by
  rw [List.getElem?_modify]
  cases readers[other]? with
  | none => rfl
  | some cursor => by_cases here : number = other <;> simp [here]

@[simp] theorem joinReader_held (rest : S.Reader → Bytes) (stream : Stream S.recorded)
    (number other : Nat) (ticket : Ticket) :
    (stream.joinReader number ticket).held rest other = stream.held rest other :=
  held_line rest _ number other fun line => line.join ticket

@[simp] theorem leaveReader_held (rest : S.Reader → Bytes) (stream : Stream S.recorded)
    (number other : Nat) (ticket : Ticket) :
    (stream.leaveReader number ticket).held rest other = stream.held rest other :=
  held_line rest _ number other fun line => line.leave ticket

theorem putReader_held {rest : S.Reader → Bytes} {stream : Stream S.recorded} {number : Nat}
    {cursor : Cursor (Numbered S.Reader)} (found : stream.state.readers[number]? = some cursor)
    (content : S.Reader) (other : Nat) :
    (stream.putReader number content).held rest other =
      if other = number then some (rest content) else stream.held rest other := by
  by_cases here : other = number
  · subst here
    simp [held, found]
  · simp [held, here, Ne.symm here]

namespace Shelved

variable {rest : S.Reader → Bytes} {stream after : Stream S.recorded}
  (shelved : stream.Shelved rest)
include shelved

theorem of_same (length : after.state.readers.length = stream.state.readers.length)
    (inbound : after.state.inbound = stream.state.inbound) (shelf : after.shelf = stream.shelf)
    (held : ∀ number, after.held rest number = stream.held rest number) : after.Shelved rest := by
  obtain ⟨opened, current, displaced, emptied⟩ := shelved
  constructor
  · rw [shelf, length]
    exact opened
  · rw [shelf, inbound]
    exact current
  · rw [shelf, inbound, length]
    exact displaced
  · intro number bytes there
    rw [held] at there
    rw [shelf, inbound]
    exact emptied number bytes there

theorem after_heard (inner : S.World) (entries : List Traffic) :
    (stream.heard inner entries).Shelved rest :=
  shelved.of_same rfl rfl rfl fun _ => rfl

theorem after_giveBack (ticket : Ticket) : (stream.giveBack T.recorded ticket).Shelved rest :=
  shelved.of_same rfl rfl rfl fun _ => rfl

theorem after_borrow (ticket : Ticket) : (stream.borrow ticket).Shelved rest :=
  shelved.of_same rfl rfl rfl fun _ => rfl

theorem after_joinReader (number : Nat) (ticket : Ticket) :
    (stream.joinReader number ticket).Shelved rest :=
  shelved.of_same (by simp) rfl rfl fun other => joinReader_held rest stream number other ticket

theorem after_leaveReader (number : Nat) (ticket : Ticket) :
    (stream.leaveReader number ticket).Shelved rest :=
  shelved.of_same (by simp) rfl rfl fun other => leaveReader_held rest stream number other ticket

theorem after_record (event : Event) (silent : ∀ shelf : Shelf, shelf.note event = shelf) :
    (stream.record event).Shelved rest :=
  shelved.of_same rfl rfl ((record_shelf stream event).trans (silent _)) fun _ => rfl

theorem after_putReader {number : Nat} {cursor : Cursor (Numbered S.Reader)} {content : S.Reader}
    (found : stream.state.readers[number]? = some cursor) (bytes : Bytes)
    (took : rest cursor.content.content = bytes ++ rest content) :
    (stream.putReader number content).Shelved rest := by
  obtain ⟨opened, current, displaced, emptied⟩ := shelved
  have shelf : (stream.putReader number content).shelf = stream.shelf := rfl
  refine ⟨?_, current, ?_, ?_⟩
  · simpa [shelf] using opened
  · simpa [shelf] using displaced
  -- A message that was empty before the read yields nothing and stays empty.
  intro other left there away gone
  rw [putReader_held found] at there
  by_cases here : other = number
  · subst here
    have nothing := emptied other _ (held_some found) away gone
    rw [took, List.append_eq_nil_iff] at nothing
    rw [if_pos rfl, nothing.2] at there
    exact (Option.some.inj there).symm
  · rw [if_neg here] at there
    exact emptied other left there away gone

theorem after_clearing (number : Nat) (copied : Nat)
    (ended : stream.held rest number = some []) :
    ((stream.clearInbound number).recordIf (stream.state.inbound == some number)
      (.inboundExhausted copied)).Shelved rest := by
  obtain ⟨opened, current, displaced, emptied⟩ := shelved
  -- A message that another has displaced meanwhile is not in the slot to be cleared.
  by_cases here : stream.state.inbound = some number
  · have cleared : ((stream.clearInbound number).recordIf (stream.state.inbound == some number)
        (.inboundExhausted copied)).shelf = { stream.shelf with current := none } := by
      simp [Stream.recordIf, Stream.shelf, here, Shelf.ofJournal_push, Shelf.note]
    constructor
    · rw [cleared]
      exact opened
    · rw [cleared]
      simp [here]
    · rw [cleared]
      intro other member
      exact ⟨by simp [here], (displaced other member).2⟩
    · intro other bytes there away gone
      rw [cleared] at gone
      by_cases same : other = number
      · subst same
        exact Option.some.inj (there.symm.trans ended)
      · refine emptied other bytes there ?_ gone
        rw [here]
        rintro ⟨⟩
        exact same rfl
  · have unchanged : ((stream.clearInbound number).recordIf (stream.state.inbound == some number)
        (.inboundExhausted copied)).shelf = stream.shelf := by
      simp [Stream.recordIf, Stream.shelf, here]
    refine of_same ⟨opened, current, displaced, emptied⟩ rfl ?_ unchanged fun _ => rfl
    simp [here]

theorem after_opening (enumerated : stream.Enumerated) (reader : Numbered S.Reader)
    (ticket : Ticket) :
    ((stream.countReader.openReader reader ticket).record .inboundOpened).Shelved rest := by
  obtain ⟨opened, current, displaced, emptied⟩ := shelved
  have shelf : ((stream.countReader.openReader reader ticket).record .inboundOpened).shelf =
      ⟨stream.state.readers.length + 1, some stream.state.readers.length,
        stream.shelf.displaced ++ stream.state.inbound.toList⟩ := by
    rw [record_shelf, ← opened, ← current]
    rfl
  constructor
  · simp [shelf]
  · simp [shelf]
  · rw [shelf]
    intro number member
    have inside : number < stream.state.readers.length := by
      rcases List.mem_append.mp member with old | new
      · exact (displaced number old).2
      · exact enumerated.inbound number (Option.mem_toList.mp new)
    constructor
    · rintro ⟨⟩
      exact Nat.lt_irrefl _ inside
    · simpa using Nat.lt_succ_of_lt inside
  · rw [shelf]
    intro number bytes there away gone
    -- Whatever is neither current nor displaced now was neither before.
    have older : number ≠ stream.state.readers.length := fun same => away (same ▸ rfl)
    rw [List.mem_append, not_or] at gone
    refine emptied number bytes ?_ ?_ gone.1
    · simpa [held, push_elsewhere _ _ older] using there
    · exact fun here => gone.2 (Option.mem_toList.mpr here)

end Shelved

end Stream

/-- A read past its first look has room, and a read that is draining has room left. -/
def ReadStage.Roomy (room : Nat) : ReadStage S → Prop
  | .start => True
  | .draining _ copied _ => copied.length < room
  | _ => 0 < room

def ReadStage.copied : ReadStage S → Bytes
  | .draining _ copied _ => copied
  | _ => []

section Moves

variable {room : Nat} {ticket : Ticket} {stage : ReadStage S.recorded}
  {step : Step (ReadStage S.recorded) ReadOutcome} {stream after : Stream S.recorded}
  {rest : S.Reader → Bytes}

theorem ReaderComes.shelved {asked : Option S.ReaderOpening}
    (comes : ReaderComes T ticket asked stream step after) (enumerated : stream.Enumerated)
    (standing : stream.state.isClosed = false) (shelved : stream.Shelved rest) :
    after.Shelved rest := by
  cases comes with
  | waits => exact shelved.after_heard _ _
  | fails => exact (shelved.after_heard _ _).after_giveBack _
  | late closed =>
    rw [standing] at closed
    cases closed
  | opens standing =>
    exact ((shelved.after_heard _ _).after_opening (enumerated.after_heard _ _) _ _)
      |>.after_giveBack _

theorem ReadMove.shelved (move : ReadMove T room ticket stage stream step after)
    (drains : T.Drains rest) (enumerated : stream.Enumerated)
    (standing : stream.state.isClosed = false) (roomy : stage.Roomy room)
    (unbroken : ∀ data source, step ≠ .ready (.broken data source))
    (shelved : stream.Shelved rest) : after.Shelved rest := by
  cases move with
  | refused closed => exact shelved
  | idles standing roomless => exact shelved
  | joins standing roomy current => exact shelved.after_joinReader _ _
  | asks standing roomy vacant comes =>
    exact comes.shelved (enumerated.after_borrow _) standing (shelved.after_borrow _)
  | hears comes => exact comes.shelved enumerated standing shelved
  | queues blocked => exact shelved
  | enters turn => exact shelved
  | pends found polled =>
    exact (shelved.after_putReader found [] (drains.waits polled).symm).after_heard _ _
  | fails found polled => exact absurd rfl (unbroken _ _)
  | goesOn found polled gained short =>
    exact (shelved.after_putReader found _ (drains.yields polled)).after_heard _ _
  | fulfils found polled gained full =>
    exact ((shelved.after_putReader found _ (drains.yields polled)).after_heard _ _)
      |>.after_leaveReader _ _ |>.after_record _ fun _ => rfl
  | passes found polled =>
    refine (((shelved.after_putReader found [] (drains.yields polled)).after_heard _ _)
      |>.after_leaveReader _ _ |>.after_record _ fun _ => rfl).after_clearing _ 0 ?_
    have ended : rest _ = [] := drains.rest_eq_nil roomy polled
    simp [Stream.held, found, ended]
  | ends found polled gained =>
    refine (((shelved.after_putReader found [] (drains.yields polled)).after_heard _ _)
      |>.after_leaveReader _ _ |>.after_record _ fun _ => rfl).after_clearing _ _ ?_
    have ended : rest _ = [] := drains.rest_eq_nil (Nat.sub_pos_of_lt roomy) polled
    simp [Stream.held, found, ended]

end Moves

theorem Scripted.transport_drains (setup : Setup) (yields : setup.readChunk ≠ some 0) :
    (transport setup).Drains id where
  waits polled := by cases polled
  yields polled := by
    cases polled
    exact (List.take_append_drop _ _).symm
  ends roomy polled := by
    rename_i room ticket stage reader after world inner
    have empty : reader.take (bounded setup.readChunk (min room reader.length)) = [] := by
      injection polled with _ answer
      injection answer with answer
      injection answer
    rcases List.take_eq_nil_iff.mp empty with noneTaken | ended
    · apply List.length_eq_zero_iff.mp
      show reader.length = 0
      cases chunk : setup.readChunk with
      | none =>
        simp only [bounded, chunk] at noneTaken
        omega
      | some most =>
        have positive : most ≠ 0 := fun zero => yields (zero ▸ chunk)
        simp only [bounded, chunk] at noneTaken
        omega
    · exact ended

end MessageStream
