import MessageStream.Proofs.Bridge.FaithfulWrites

/-!
The fields of a bridge agree with each other, in whatever order it is polled and whatever its calls
come to. The bytes of the write in flight are kept while there is one, and no failure of an earlier
write beside it; the bytes left from a read are kept from a place among them; and no read is in
flight while bytes or a failure of an earlier one are left.
-/
namespace MessageStream

variable {World Reading Writing Closing : Type}

namespace Bridge

/-- Bytes are left from a place among them on, and neither bytes nor a failure are left beside a
read in flight. -/
structure Stocked (bridge : Bridge Reading Writing Closing) : Prop where
  place : bridge.leftover = [] ∧ bridge.position = 0 ∨ bridge.position < bridge.leftover.length
  alone : bridge.leftover ≠ [] ∨ bridge.readFailure.isSome → bridge.reading = none

/-- The fields of a bridge agree with each other: on its reading side, and in that the bytes of a
write are kept just while it is in flight, and no failure of another write beside it. -/
structure Coherent (bridge : Bridge Reading Writing Closing) : Prop extends bridge.Stocked where
  given : bridge.writing.isSome = bridge.inFlight.isSome
  clean : bridge.writing.isSome → bridge.writeFailure = none

variable {calls : StreamCalls World Reading Writing Closing}
  {bridge after : Bridge Reading Writing Closing}

theorem Stocked.coherent_of_order (stocked : bridge.Stocked) (order : bridge.InOrder) :
    bridge.Coherent := by
  refine ⟨stocked, ?_, ?_⟩
  · rw [order.given, Option.isSome_map]
  · intro going
    obtain ⟨call, under⟩ := Option.isSome_iff_exists.mp going
    exact order.clean call under

theorem Stocked.leftover_empty (stocked : bridge.Stocked) (spent : bridge.kept = []) :
    bridge.leftover = [] ∧ bridge.position = 0 := by
  rcases stocked.place with empty | more
  · exact empty
  · exact absurd (List.drop_eq_nil_iff.mp spent) (Nat.not_le_of_lt more)

theorem takeLeftover_stocked {room : Nat} {handed : Bytes}
    (taken : bridge.takeLeftover room = (after, some handed)) (stocked : bridge.Stocked) :
    after.Stocked := by
  unfold takeLeftover at taken
  split at taken
  · cases taken
  rename_i more
  have some : bridge.leftover ≠ [] := List.ne_nil_of_length_pos (by omega)
  have idle : bridge.reading = none := stocked.alone (.inl some)
  dsimp only at taken
  split at taken
  · cases taken
    exact ⟨.inl ⟨rfl, rfl⟩, fun _ => idle⟩
  · rename_i rest
    cases taken
    refine ⟨.inr ?_, fun _ => idle⟩
    dsimp only
    omega

theorem deliver_stocked (bridge : Bridge Reading Writing Closing) (data : Bytes) (room : Nat)
    (empty : bridge.leftover = [] ∧ bridge.position = 0) (idle : bridge.reading = none) :
    (bridge.deliver data room).1.Stocked := by
  unfold deliver
  dsimp only
  split
  · rename_i more
    exact ⟨.inr more, fun _ => idle⟩
  · exact ⟨.inl empty, fun _ => idle⟩

theorem readDone_stocked (bridge : Bridge Reading Writing Closing) (outcome : ReadOutcome)
    (room : Nat) (empty : bridge.leftover = [] ∧ bridge.position = 0) :
    (bridge.readDone outcome room).1.Stocked := by
  unfold readDone
  dsimp only
  split
  · exact deliver_stocked _ _ _ empty rfl
  · split
    · exact deliver_stocked _ _ _ empty rfl
    · exact ⟨.inl empty, fun _ => rfl⟩

theorem ReadPoll.stocked {ticket : Ticket} {room : Nat} {world later : World}
    {polled : Polled Bytes} (polls : ReadPoll calls ticket room bridge world after later polled)
    (stocked : bridge.Stocked) : after.Stocked := by
  cases polls with
  | surplus taken => exact takeLeftover_stocked taken stocked
  | reports spent stored =>
    have idle : bridge.reading = none := stocked.alone (.inr (Option.isSome_of_eq_some stored))
    exact ⟨stocked.place, fun _ => idle⟩
  | idles spent clean roomless => exact stocked
  | waits spent clean roomy asks polled =>
    -- Nothing is left beside the read that waits.
    refine ⟨stocked.place, ?_⟩
    rintro (some | failed)
    · exact absurd (stocked.leftover_empty spent).1 some
    · simp [clean] at failed
  | ends spent clean roomy asks polled =>
    exact bridge.readDone_stocked _ _ (stocked.leftover_empty spent)

theorem Aside.stocked {before last : Bridge Reading Writing Closing × World × List Deed}
    (aside : Aside before last) (stocked : before.1.Stocked) : last.1.Stocked := by
  constructor
  · rw [aside.leftover, aside.position]
    exact stocked.place
  · rw [aside.leftover, aside.readFailure, aside.reading]
    exact stocked.alone

end Bridge

namespace Bridged

open Bridge (Aside ReadPoll)

theorem poll_reads_or_aside (calls : StreamCalls World Reading Writing Closing)
    (bridged : Bridged World Reading Writing Closing) (request : Bridge.Request) :
    let polled := (bridged.poll calls request).1
    (∃ room result, ReadPoll calls.recorded bridged.next room bridged.bridge
      (bridged.world, bridged.record) polled.1 polled.2 result) ∨
    Aside (bridged.bridge, bridged.world, bridged.record) polled := by
  obtain ⟨bridge, world, record, next⟩ := bridged
  cases request with
  | read room =>
    exact .inl ⟨room, _, bridge.pollRead_polls calls.recorded next room (world, record)⟩
  | write data => exact .inr (bridge.pollWrite_aside calls (world, record) next data)
  | flush => exact .inr (bridge.pollFlush_aside calls (world, record))
  | shutdown => exact .inr (bridge.pollShutdown_aside calls (world, record) next)

theorem stocked_step {calls : StreamCalls World Reading Writing Closing}
    {bridged : Bridged World Reading Writing Closing} (stocked : bridged.bridge.Stocked)
    (action : Action World) : (bridged.step calls action).bridge.Stocked := by
  cases action with
  | change become => exact stocked
  | poll request =>
    rcases poll_reads_or_aside calls bridged request with ⟨room, result, polls⟩ | aside
    · exact polls.stocked stocked
    · exact aside.stocked stocked

theorem start_stocked : ({} : Bridge Reading Writing Closing).Stocked :=
  ⟨.inl ⟨rfl, rfl⟩, fun _ => rfl⟩

end Bridged

end MessageStream
