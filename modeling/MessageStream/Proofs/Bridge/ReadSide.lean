import MessageStream.Proofs.Bridge.Basic

/-!
The reading side of a bridge: the read it has begun, the bytes it keeps and the failure it keeps.
Everything a poll for bytes can do to it is said here once. Polls for anything else leave it alone,
and so do the entries they add to the record.
-/
namespace MessageStream

def ReadOutcome.failure? (outcome : ReadOutcome) : Option Failure :=
  match outcome.result with
  | .ok _ => none
  | .error error => some error.toFailure

namespace Bridge

variable {World Reading Writing Closing : Type}

def kept (bridge : Bridge Reading Writing Closing) : Bytes :=
  bridge.leftover.drop bridge.position

theorem takeLeftover_none {bridge after : Bridge Reading Writing Closing} {room : Nat}
    (taken : bridge.takeLeftover room = (after, none)) : after = bridge ∧ bridge.kept = [] := by
  unfold takeLeftover at taken
  split at taken
  · rename_i spent
    cases taken
    exact ⟨rfl, List.drop_eq_nil_of_le spent⟩
  · dsimp only at taken
    split at taken <;> cases taken

theorem takeLeftover_some {bridge after : Bridge Reading Writing Closing} {room : Nat}
    {handed : Bytes} (taken : bridge.takeLeftover room = (after, some handed)) :
    bridge.kept = handed ++ after.kept ∧ handed.length ≤ room ∧
      after = { bridge with leftover := after.leftover, position := after.position } := by
  unfold takeLeftover at taken
  split at taken
  · cases taken
  rename_i more
  dsimp only at taken
  have fits (bytes : Bytes) (count : Nat) : (bytes.take (min count room)).length ≤ room := by
    rw [List.length_take]
    omega
  split at taken
  · rename_i all
    cases taken
    refine ⟨?_, fits _ _, rfl⟩
    -- All of it goes, so nothing is kept.
    rw [kept, kept, List.take_of_length_le]
    · simp
    · rw [List.length_drop]
      omega
  · cases taken
    refine ⟨?_, fits _ _, rfl⟩
    rw [kept, kept, ← List.drop_drop, List.take_append_drop]

theorem deliver_kept (bridge : Bridge Reading Writing Closing) (data : Bytes) (room : Nat)
    (spent : bridge.kept = []) :
    data = (bridge.deliver data room).2 ++ (bridge.deliver data room).1.kept ∧
      (bridge.deliver data room).2.length ≤ room ∧
      (bridge.deliver data room).1.readFailure = bridge.readFailure := by
  have fits : (data.take (min data.length room)).length ≤ room := by
    rw [List.length_take]
    omega
  unfold deliver
  dsimp only
  split
  · exact ⟨(List.take_append_drop _ _).symm, fits, rfl⟩
  · rename_i all
    refine ⟨?_, fits, rfl⟩
    have whole : data.length ≤ min data.length room := Nat.le_of_not_lt all
    rw [spent, List.append_nil, List.take_of_length_le whole]

/-- The end of a read, with nothing kept from earlier ones: its bytes go out or are kept, and its
failure is kept behind them or, where there are none, reported. -/
theorem readDone_cases (bridge : Bridge Reading Writing Closing) (outcome : ReadOutcome)
    (room : Nat) (spent : bridge.kept = []) (clean : bridge.readFailure = none) :
    let done := bridge.readDone outcome room
    (∃ handed, done.2 = some (.ok handed) ∧ outcome.data = handed ++ done.1.kept ∧
      handed.length ≤ room ∧ done.1.readFailure = outcome.failure?) ∨
    (∃ failure, done.2 = some (.error failure) ∧ outcome.data = [] ∧ done.1.kept = [] ∧
      done.1.readFailure = none ∧ outcome.failure? = some failure) := by
  have delivers (failure : Option Failure) :=
    deliver_kept ({ bridge with reading := none, readFailure := failure } :
      Bridge Reading Writing Closing) outcome.data room spent
  cases outcome with
  | filled data =>
    obtain ⟨all, fits, failure⟩ := delivers bridge.readFailure
    exact .inl ⟨_, rfl, all, fits, failure.trans clean⟩
  | closed => exact .inr ⟨_, rfl, rfl, spent, clean, rfl⟩
  | broken data source =>
    by_cases moved : 0 < data.length
    · obtain ⟨all, fits, failure⟩ := delivers (some source)
      unfold readDone
      simp only [ReadOutcome.result, StreamError.transferred, moved, ↓reduceIte]
      exact .inl ⟨_, rfl, all, fits, failure⟩
    · have empty : data = [] := List.length_eq_zero_iff.mp (Nat.eq_zero_of_not_pos moved)
      subst empty
      exact .inr ⟨_, rfl, rfl, spent, clean, rfl⟩

theorem readDone_reading (bridge : Bridge Reading Writing Closing) (outcome : ReadOutcome)
    (room : Nat) : (bridge.readDone outcome room).1.reading = none := by
  have same (other : Bridge Reading Writing Closing) (data : Bytes) :
      (other.deliver data room).1.reading = other.reading := by
    unfold deliver
    dsimp only
    split <;> rfl
  unfold readDone
  dsimp only
  split
  · exact same _ _
  · split
    · exact same _ _
    · rfl

/-- Everything a poll for bytes can do. -/
inductive ReadPoll (calls : StreamCalls World Reading Writing Closing) (ticket : Ticket)
    (room : Nat) (bridge : Bridge Reading Writing Closing) (world : World) :
    Bridge Reading Writing Closing → World → Polled Bytes → Prop where
  | surplus {after : Bridge Reading Writing Closing} {handed : Bytes}
      (taken : bridge.takeLeftover room = (after, some handed)) :
    ReadPoll calls ticket room bridge world after world (some (.ok handed))
  | reports {failure : Failure} (spent : bridge.kept = [])
      (stored : bridge.readFailure = some failure) :
    ReadPoll calls ticket room bridge world { bridge with readFailure := none } world
      (some (.error failure))
  | idles (spent : bridge.kept = []) (clean : bridge.readFailure = none) (roomless : room = 0) :
    ReadPoll calls ticket room bridge world bridge world (some (.ok []))
  | waits {call : InFlight Nat Reading} {later : World} {stage : Reading}
      (spent : bridge.kept = []) (clean : bridge.readFailure = none) (roomy : room ≠ 0)
      (asks : call = bridge.reading.getD { ticket, request := room })
      (polled : (calls.read call.request).poll call.ticket call.stage world =
        (later, .waiting stage)) :
    ReadPoll calls ticket room bridge world
      { bridge with reading := some { call with stage := some stage } } later none
  | ends {call : InFlight Nat Reading} {later : World} {outcome : ReadOutcome}
      (spent : bridge.kept = []) (clean : bridge.readFailure = none) (roomy : room ≠ 0)
      (asks : call = bridge.reading.getD { ticket, request := room })
      (polled : (calls.read call.request).poll call.ticket call.stage world =
        (later, .ready outcome)) :
    ReadPoll calls ticket room bridge world (bridge.readDone outcome room).1 later
      (bridge.readDone outcome room).2

theorem pollRead_polls (calls : StreamCalls World Reading Writing Closing) (ticket : Ticket)
    (room : Nat) (bridge : Bridge Reading Writing Closing) (world : World) :
    ReadPoll calls ticket room bridge world (bridge.pollRead calls ticket room world).1.1
      (bridge.pollRead calls ticket room world).1.2
      (bridge.pollRead calls ticket room world).2 := by
  unfold pollRead
  split
  · rename_i after handed taken
    exact .surplus taken
  · rename_i after taken
    obtain ⟨rfl, spent⟩ := takeLeftover_none taken
    split
    · rename_i failure stored
      exact .reports spent stored
    · rename_i clean
      split
      · rename_i roomless
        exact .idles spent clean roomless
      · rename_i roomy
        simp only [pollCall]
        generalize asks : after.reading.getD { ticket, request := room } = call
        rcases polled : (calls.read call.request).poll call.ticket call.stage world with
          ⟨later, stage | outcome⟩
        · exact .waits spent clean roomy asks.symm polled
        · exact .ends spent clean roomy asks.symm polled

/-- The reading side of a bridge is left alone, and what is added to the record is no doing of
reads. -/
structure Aside (before after : Bridge Reading Writing Closing × World × List Deed) : Prop where
  reading : after.1.reading = before.1.reading
  leftover : after.1.leftover = before.1.leftover
  position : after.1.position = before.1.position
  readFailure : after.1.readFailure = before.1.readFailure
  record : ∃ deeds, after.2.2 = before.2.2 ++ deeds ∧ ∀ deed ∈ deeds, deed.reads = false

namespace Aside

variable {first second third : Bridge Reading Writing Closing × World × List Deed}

theorem of_same_reading {bridge after : Bridge Reading Writing Closing} {whole : World × List Deed}
    (reading : after.reading = bridge.reading) (leftover : after.leftover = bridge.leftover)
    (position : after.position = bridge.position)
    (readFailure : after.readFailure = bridge.readFailure) :
    Aside (bridge, whole) (after, whole) :=
  ⟨reading, leftover, position, readFailure, [], (List.append_nil _).symm, List.forall_mem_nil _⟩

theorem refl (whole : Bridge Reading Writing Closing × World × List Deed) : Aside whole whole :=
  .of_same_reading rfl rfl rfl rfl

theorem trans (one : Aside first second) (two : Aside second third) : Aside first third := by
  obtain ⟨early, grown, aside⟩ := one.record
  obtain ⟨late, more, also⟩ := two.record
  refine ⟨two.reading.trans one.reading, two.leftover.trans one.leftover,
    two.position.trans one.position, two.readFailure.trans one.readFailure, early ++ late, ?_, ?_⟩
  · rw [more, grown, List.append_assoc]
  · intro deed member
    exact (List.mem_append.mp member).elim (aside deed) (also deed)

theorem of_other_poll {bridge after : Bridge Reading Writing Closing} {world later : World}
    {record : List Deed} {ticket : Ticket} {demand : Demand} {resumed : Bool}
    {outcome : Option Outcome} (other : ∀ room, demand ≠ .read room)
    (unread : ∀ read, outcome ≠ some (.read read)) (reading : after.reading = bridge.reading)
    (leftover : after.leftover = bridge.leftover) (position : after.position = bridge.position)
    (readFailure : after.readFailure = bridge.readFailure) :
    Aside (bridge, world, record)
      (after, later, record ++ Deed.ofPoll ticket demand resumed outcome) := by
  refine ⟨reading, leftover, position, readFailure, _, rfl, ?_⟩
  intro deed member
  rcases List.mem_append.mp member with begun | ended
  · cases resumed with
    | true => simp at begun
    | false =>
      rw [if_neg Bool.false_ne_true, List.mem_singleton] at begun
      subst begun
      cases demand with
      | read room => exact absurd rfl (other room)
      | _ => rfl
  · cases outcome with
    | none => simp at ended
    | some outcome =>
      have same : deed = .ended ticket outcome := by simpa using ended
      subst same
      cases outcome with
      | read read => exact absurd rfl (unread read)
      | _ => rfl

end Aside

section WriteSide

variable (calls : StreamCalls World Reading Writing Closing)
  (bridge : Bridge Reading Writing Closing) (whole : World × List Deed)

theorem writeDone_readSide (outcome : WriteOutcome) :
    (bridge.writeDone outcome).1.reading = bridge.reading ∧
      (bridge.writeDone outcome).1.leftover = bridge.leftover ∧
      (bridge.writeDone outcome).1.position = bridge.position ∧
      (bridge.writeDone outcome).1.readFailure = bridge.readFailure := by
  unfold writeDone
  dsimp only
  split
  · exact ⟨rfl, rfl, rfl, rfl⟩
  · split <;> exact ⟨rfl, rfl, rfl, rfl⟩

theorem pollWriting_aside :
    Aside (bridge, whole) (bridge.pollWriting calls.recorded whole).1 := by
  obtain ⟨world, record⟩ := whole
  unfold pollWriting
  split
  · exact .refl _
  · rename_i call writing
    simp only [pollCall, StreamCalls.recorded, StreamCalls.noted_poll]
    rcases (calls.write call.request).poll call.ticket call.stage world with
      ⟨later, stage | outcome⟩
    · exact .of_other_poll nofun nofun rfl rfl rfl rfl
    · obtain ⟨reading, leftover, position, readFailure⟩ := bridge.writeDone_readSide outcome
      exact .of_other_poll nofun nofun reading leftover position readFailure

theorem settle_aside : Aside (bridge, whole) (bridge.settle calls.recorded whole).1 := by
  have polled := bridge.pollWriting_aside calls whole
  unfold settle
  split
  · rename_i state same
    rwa [same] at polled
  · rename_i state same
    rwa [same] at polled
  · rename_i state count same
    rwa [same] at polled
  · rename_i after later failure same
    rw [same] at polled
    exact polled.trans (.of_same_reading rfl rfl rfl rfl)

theorem beginWrite_aside (ticket : Ticket) (data : Bytes) :
    Aside (bridge, whole) ((bridge.beginWrite ticket data).1, whole) := by
  unfold beginWrite
  split
  · exact .refl _
  · split <;> exact .of_same_reading rfl rfl rfl rfl

theorem pollWrite_aside (ticket : Ticket) (data : Bytes) :
    Aside (bridge, whole) (bridge.pollWrite calls.recorded ticket data whole).1 := by
  have settled : Aside (bridge, whole) (if bridge.inFlight.any fun given => given != data then
      bridge.settle calls.recorded whole else ((bridge, whole), true)).1 := by
    split
    · exact bridge.settle_aside calls whole
    · exact .refl _
  unfold pollWrite
  dsimp only
  split
  · rename_i state same
    rwa [same] at settled
  · rename_i after later same
    rw [same] at settled
    have begun := after.beginWrite_aside later ticket data
    split
    · rename_i next failure found
      rw [found] at begun
      exact settled.trans begun
    · rename_i next found
      rw [found] at begun
      have polled := next.pollWriting_aside calls later
      split <;> rename_i result <;> rw [result] at polled <;>
        exact (settled.trans begun).trans polled

theorem pollFlush_aside : Aside (bridge, whole) (bridge.pollFlush calls.recorded whole).1 := by
  have settled := bridge.settle_aside calls whole
  unfold pollFlush
  split
  · rename_i state same
    rwa [same] at settled
  · rename_i after later same
    rw [same] at settled
    split
    · exact settled.trans (.of_same_reading rfl rfl rfl rfl)
    · exact settled

theorem pollShutdown_aside (ticket : Ticket) :
    Aside (bridge, whole) (bridge.pollShutdown calls.recorded ticket whole).1 := by
  have settled := bridge.settle_aside calls whole
  unfold pollShutdown
  split
  · rename_i state same
    rwa [same] at settled
  · rename_i after later same
    rw [same] at settled
    obtain ⟨world, record⟩ := later
    simp only [pollCall, StreamCalls.recorded, StreamCalls.noted_poll]
    rcases calls.close.poll (after.closing.getD { ticket, request := () }).ticket
      (after.closing.getD { ticket, request := () }).stage world with ⟨last, stage | outcome⟩
    · exact settled.trans (.of_other_poll nofun nofun rfl rfl rfl rfl)
    · exact settled.trans (.of_other_poll nofun nofun rfl rfl rfl rfl)

end WriteSide

end Bridge

end MessageStream
