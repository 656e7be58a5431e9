import MessageStream.Proofs.Inbound.Delivery
import MessageStream.Transport.Scripted

/-!
Which inbound bytes reach a caller. Overlapping reads return every byte their readers yield, but a
read that was waiting for a message replaces the current one when its own arrives, and what the
displaced message still held by then may never be read. So no byte is lost exactly if the messages
displaced have been drained; none is displaced where no read asks for a message while another is
waiting for one.
-/
namespace MessageStream

variable {S : Signature} {T : Transport S}

/-- What a record says of the calls for a next inbound message: who is waiting, in the order of
asking, and whether anyone has asked while another was waiting. -/
structure Asking where
  waiting : List Ticket := []
  overlapped : Bool := false
  deriving DecidableEq, Repr

namespace Asking

def join (asking : Asking) (caller : Ticket) : Asking where
  waiting := asking.waiting ++ [caller]
  overlapped := asking.overlapped || !asking.waiting.isEmpty

def leave (asking : Asking) (caller : Ticket) : Asking :=
  { asking with waiting := asking.waiting.erase caller }

def note (asking : Asking) : Traffic → Asking
  | .begun caller .nextReader => asking.join caller
  | .ended caller .nextReader _ => asking.leave caller
  | _ => asking

def ofTraffic (traffic : List Traffic) : Asking := traffic.foldl note {}

theorem note_begins (asking : Asking) (caller : Ticket) (reply : Option Reply) :
    (Traffic.ofPoll caller .nextReader false reply).foldl note asking =
      if reply.isSome then (asking.join caller).leave caller else asking.join caller := by
  cases reply <;> rfl

theorem note_resumes (asking : Asking) (caller : Ticket) (reply : Option Reply) :
    (Traffic.ofPoll caller .nextReader true reply).foldl note asking =
      if reply.isSome then asking.leave caller else asking := by
  cases reply <;> rfl

theorem note_overlapped (asking : Asking) (entries : List Traffic)
    (overlapped : asking.overlapped = true) : (entries.foldl note asking).overlapped = true := by
  induction entries generalizing asking with
  | nil => exact overlapped
  | cons entry later ih =>
    apply ih
    unfold note
    split
    · simp [join, overlapped]
    · exact overlapped
    · exact overlapped

theorem note_reads (asking : Asking) (caller : Ticket) (number room : Nat) (resumed : Bool)
    (reply : Option Reply) :
    (Traffic.ofPoll caller (.read number room) resumed reply).foldl note asking = asking := by
  cases resumed <;> cases reply <;> rfl

end Asking

def Stream.asking (stream : Stream S.recorded) : Asking := .ofTraffic stream.world.traffic

theorem Stream.asking_grown {stream after : Stream S.recorded} {entries : List Traffic}
    (grown : after.world.traffic = stream.world.traffic ++ entries) :
    after.asking = entries.foldl Asking.note stream.asking := by
  simp [asking, grown, Asking.ofTraffic]

section Moves

variable {ticket : Ticket} {stream after : Stream S.recorded}
  {step : Step (ReadStage S.recorded) ReadOutcome} {rest : S.Reader → Bytes}

theorem ReaderComes.waits_or_answered {asked : Option S.ReaderOpening}
    (comes : ReaderComes T ticket asked stream step after) (shelved : stream.Shelved rest)
    (vacant : stream.state.inbound = none) :
    after.shelf.displaced = stream.shelf.displaced ∧
    (after.state.inbound = none ∧ after.asking =
        (Traffic.ofPoll ticket .nextReader asked.isSome none).foldl Asking.note stream.asking ∨
      (∀ later, Phase.ofStep step ≠ .waiting (.opening later)) ∧ ∃ reply, after.asking =
        (Traffic.ofPoll ticket .nextReader asked.isSome (some reply)).foldl Asking.note
          stream.asking) := by
  have current : stream.shelf.current = none := shelved.current.trans vacant
  cases comes with
  | waits => exact ⟨rfl, .inl ⟨vacant, Stream.asking_grown (by simp)⟩⟩
  | fails polled =>
    rename_i source
    exact ⟨rfl, .inr ⟨nofun, .failed source, Stream.asking_grown (by simp)⟩⟩
  | late closed =>
    refine ⟨?_, .inr ⟨nofun, .opened stream.state.readers.length, Stream.asking_grown (by simp)⟩⟩
    exact congrArg Shelf.displaced (Shelf.ofJournal_push stream.journal .inboundDiscarded)
  | opens standing =>
    refine ⟨?_, .inr ⟨nofun, .opened stream.state.readers.length, Stream.asking_grown (by simp)⟩⟩
    have noted := congrArg Shelf.displaced (Shelf.ofJournal_push stream.journal .inboundOpened)
    simpa [Shelf.note, Stream.shelf, show (Shelf.ofJournal stream.journal).current = none from
      current] using noted

theorem ReaderComes.overlapped_stays {asked : Option S.ReaderOpening}
    (comes : ReaderComes T ticket asked stream step after)
    (overlapped : stream.asking.overlapped = true) : after.asking.overlapped = true := by
  have grown (reply : Option Reply) (more : after.world.traffic = stream.world.traffic ++
      Traffic.ofPoll ticket .nextReader asked.isSome reply) : after.asking.overlapped = true := by
    rw [Stream.asking_grown more]
    exact Asking.note_overlapped _ _ overlapped
  cases comes with
  | waits => exact grown none (by simp)
  | fails polled =>
    rename_i source
    exact grown (some (.failed source)) (by simp)
  | late closed => exact grown (some (.opened stream.state.readers.length)) (by simp)
  | opens standing => exact grown (some (.opened stream.state.readers.length)) (by simp)

theorem ReadMove.asks_or_leaves_alone {room : Nat} {stage : ReadStage S.recorded}
    (move : ReadMove T room ticket stage stream step after) :
    (stage = .start ∧ stream.state.inbound = none ∧
      ReaderComes T ticket none (stream.borrow ticket) step after) ∨
    (∃ asked, stage = .opening asked ∧ ReaderComes T ticket (some asked) stream step after) ∨
    (after.asking = stream.asking ∧ after.shelf.displaced = stream.shelf.displaced ∧
      (stream.state.inbound = none → after.state.inbound = none) ∧
      ∀ later, Phase.ofStep step ≠ .waiting (.opening later)) := by
  have heard {number space : Nat} {resumed : Bool} {reply : Option Reply}
      (grown : after.world.traffic = stream.world.traffic ++
        Traffic.ofPoll ticket (.read number space) resumed reply) :
      after.asking = stream.asking :=
    (Stream.asking_grown grown).trans (Asking.note_reads _ _ _ _ _ _)
  cases move with
  | asks standing roomy vacant comes => exact .inl ⟨rfl, vacant, comes⟩
  | hears comes => exact .inr (.inl ⟨_, rfl, comes⟩)
  | pends found polled => exact .inr (.inr ⟨heard rfl, rfl, id, by rintro _ ⟨⟩⟩)
  | fails found polled =>
    refine .inr (.inr ⟨heard rfl, ?_, id, by rintro _ ⟨⟩⟩)
    exact congrArg Shelf.displaced (Shelf.ofJournal_push stream.journal (.inboundMoved _))
  | goesOn found polled gained short => exact .inr (.inr ⟨heard rfl, rfl, id, by rintro _ ⟨⟩⟩)
  | fulfils found polled gained full =>
    refine .inr (.inr ⟨heard rfl, ?_, id, by rintro _ ⟨⟩⟩)
    exact congrArg Shelf.displaced (Shelf.ofJournal_push stream.journal (.inboundMoved _))
  | passes found polled =>
    refine .inr (.inr ⟨heard rfl, ?_, ?_, by rintro _ ⟨⟩⟩)
    · simp only [Stream.shelf, Stream.recordIf]
      split <;> simp [Shelf.ofJournal, Shelf.note]
    · intro vacant
      simp [vacant]
  | ends found polled gained =>
    refine .inr (.inr ⟨heard rfl, ?_, ?_, by rintro _ ⟨⟩⟩)
    · simp only [Stream.shelf, Stream.recordIf]
      split <;> simp [Shelf.ofJournal, Shelf.note]
    · intro vacant
      simp [vacant]
  | _ => exact .inr (.inr ⟨rfl, rfl, id, by rintro _ ⟨⟩⟩)

end Moves

/-- A step of a run of reads none of which is given up. -/
inductive Action.Reads {World : Type} : Action World → Prop where
  | begin (room : Nat) : Reads (.begin (.read room))
  | poll (ticket : Ticket) : Reads (.poll ticket)
  | change (become : World → World) : Reads (.change become)

namespace Phase

def copied : Phase (ReadStage S) ReadOutcome → Bytes
  | waiting stage => stage.copied
  | answered outcome => outcome.data
  | _ => []

theorem copied_ofStep (step : Step (ReadStage S) ReadOutcome) :
    (ofStep step).copied = step.copied := by
  cases step <;> rfl

theorem copied_next {phase : Phase (ReadStage S) ReadOutcome} {stage : ReadStage S}
    (next : phase.next? .start = some stage) : phase.copied = stage.copied := by
  cases phase <;> cases next <;> rfl

end Phase

namespace Usage

/-- The connection has failed a read. -/
def Broken (usage : Usage S) : Prop :=
  ∃ (ticket : Ticket) (room : Nat) (data : Bytes) (source : Failure),
    usage.calls[ticket]? = some (.read room (.answered (.broken data source)))

/-- The call is a read, with room while it is under way, that has copied what was yielded to it. -/
structure Copies (usage : Usage S) (ticket : Ticket) (room : Nat)
    (phase : Phase (ReadStage S.recorded) ReadOutcome) : Prop where
  roomy : ∀ stage, phase.next? .start = some stage → stage.Roomy room
  copied : usage.stream.takenBy ticket = phase.copied
  lasts : ∀ stage, phase ≠ .dropped stage

theorem Broken.after_move {usage after : Usage S} {ticket : Ticket} (broken : usage.Broken)
    (moves : Moves T usage ticket after) : after.Broken := by
  obtain ⟨other, room, data, source, found⟩ := broken
  refine ⟨other, room, data, source, ?_⟩
  by_cases same : other = ticket
  · subst same
    rw [moves.unchanged_of_returned found (.read room _)]
    exact found
  · rw [moves.calls_other same]
    exact found

theorem Broken.after_begin {usage : Usage S} (broken : usage.Broken) (demand : Demand) :
    (usage.step T (.begin demand)).Broken := by
  obtain ⟨ticket, room, data, source, found⟩ := broken
  exact ⟨ticket, room, data, source,
    (List.getElem?_append_left (List.getElem?_eq_some_iff.mp found).1).trans found⟩

structure Reading (rest : S.Reader → Bytes) (usage : Usage S) : Prop where
  sound : usage.Sound
  standing : usage.stream.state.isClosed = false
  shelved : usage.stream.Shelved rest
  reads : ∀ (ticket : Ticket) (call : Call S.recorded), usage.calls[ticket]? = some call →
    ∃ room phase, call = .read room phase ∧ usage.Copies ticket room phase
  unheard : ∀ ticket, usage.calls.length ≤ ticket → usage.stream.takenBy ticket = []

namespace Reading

variable {rest : S.Reader → Bytes} {usage : Usage S} (reading : usage.Reading rest)
include reading

theorem only_reads {ticket : Ticket} {call : Call S.recorded}
    (found : usage.calls[ticket]? = some call) (other : ∀ room phase, call ≠ .read room phase) :
    False := by
  obtain ⟨room, phase, same, -⟩ := reading.reads ticket call found
  exact other room phase same

theorem after_move (drains : T.Drains rest) {ticket : Ticket} {after : Usage S}
    (moves : Moves T usage ticket after) : after.Broken ∨ after.Reading rest := by
  have sound := reading.sound.after_move moves
  cases moves with
  | rests => exact .inr reading
  | writes found next move => exact (reading.only_reads found nofun).elim
  | closes found next move => exact (reading.only_reads found nofun).elim
  | reads found next move =>
    rename_i room phase stage step stream
    have inside := (List.getElem?_eq_some_iff.mp found).1
    by_cases broken : ∃ data source, step = .ready (.broken data source)
    · obtain ⟨data, source, rfl⟩ := broken
      exact .inl ⟨ticket, room, data, source, List.getElem?_set_self inside⟩
    · right
      have unbroken (data : Bytes) (source : Failure) :
          step ≠ .ready (.broken data source) := fun same => broken ⟨data, source, same⟩
      -- What the stretch brings it brings to the read that moves; the other reads are untouched.
      obtain ⟨otherRoom, otherPhase, same, copies⟩ := reading.reads ticket _ found
      cases same
      have roomy := copies.roomy stage next
      have brings (caller : Ticket) := move.takenBy_grown caller
      refine ⟨sound, ?_, ?_, ?_, ?_⟩
      · simpa [Stream.State.isClosed, move.owned_same] using reading.standing
      · exact move.shelved drains reading.sound.enumerated reading.standing roomy unbroken
          reading.shelved
      · intro caller call there
        obtain ⟨bytes, grown, yielded⟩ := brings caller
        by_cases same : caller = ticket
        · subst same
          cases Option.some.inj ((List.getElem?_set_self inside).symm.trans there)
          refine ⟨room, _, rfl, move.roomy roomy, ?_, ?_⟩
          · rw [yielded, if_pos rfl, copies.copied, Phase.copied_next next, Phase.copied_ofStep,
              grown]
          · intro stage same
            cases step <;> cases same
        · rw [List.getElem?_set_ne (Ne.symm same)] at there
          obtain ⟨otherRoom, otherPhase, shape, kept⟩ := reading.reads caller call there
          refine ⟨otherRoom, otherPhase, shape, kept.roomy, ?_, kept.lasts⟩
          rw [yielded, if_neg (Ne.symm same), List.append_nil]
          exact kept.copied
      · intro caller beyond
        obtain ⟨bytes, -, yielded⟩ := brings caller
        rw [List.length_set] at beyond
        have other : ticket ≠ caller := Nat.ne_of_lt (Nat.lt_of_lt_of_le inside beyond)
        rw [yielded, if_neg other, List.append_nil]
        exact reading.unheard caller beyond

theorem after_begin (room : Nat) : (usage.step T (.begin (.read room))).Reading rest := by
  refine ⟨reading.sound.after_begin _, reading.standing, reading.shelved, ?_, ?_⟩
  · intro caller call there
    by_cases new : caller = usage.calls.length
    · subst new
      have same : call = .read room .fresh := by
        simpa [step, Call.begin] using there.symm
      refine ⟨room, .fresh, same, ?_, reading.unheard _ (Nat.le_refl _), by rintro _ ⟨⟩⟩
      rintro stage ⟨⟩
      trivial
    · obtain ⟨otherRoom, phase, shape, kept⟩ :=
        reading.reads caller call ((push_elsewhere _ _ new).symm.trans there)
      exact ⟨otherRoom, phase, shape, kept.roomy, kept.copied, kept.lasts⟩
  · intro caller beyond
    apply reading.unheard caller
    have longer : usage.calls.length + 1 ≤ caller := by simpa [step] using beyond
    exact Nat.le_of_lt longer

theorem after_change (become : S.World → S.World) : (usage.step T (.change become)).Reading rest :=
  ⟨reading.sound.after_change become, reading.standing,
    reading.shelved.of_same rfl rfl rfl fun _ => rfl,
    fun ticket call found => by
      obtain ⟨room, phase, shape, kept⟩ := reading.reads ticket call found
      exact ⟨room, phase, shape, kept.roomy, kept.copied, kept.lasts⟩,
    reading.unheard⟩

end Reading

/-- Every message there was is still there, with the bytes it has yielded since taken from what it
held. -/
def Keeps (rest : S.Reader → Bytes) (earlier later : Usage S) : Prop :=
  ∀ number bytes, earlier.stream.held rest number = some bytes →
    ∃ left, later.stream.held rest number = some left ∧
      earlier.stream.givenBy number ++ bytes = later.stream.givenBy number ++ left

theorem Moves.keeps_messages {rest : S.Reader → Bytes} {usage after : Usage S} {ticket : Ticket}
    (moves : Moves T usage ticket after) (drains : T.Drains rest) (reading : usage.Reading rest)
    (unbroken : ¬ after.Broken) : Keeps rest usage after := by
  intro number bytes held
  cases moves with
  | rests => exact ⟨bytes, held, rfl⟩
  | reads found next move =>
    rename_i room phase stage step stream
    refine move.held_balance drains ?_ number bytes held
    rintro data source rfl
    exact unbroken ⟨ticket, room, data, source,
      List.getElem?_set_self (List.getElem?_eq_some_iff.mp found).1⟩
  | writes found next move => exact (reading.only_reads found nofun).elim
  | closes found next move => exact (reading.only_reads found nofun).elim

theorem run_broken {usage : Usage S} (sound : usage.Sound) (broken : usage.Broken)
    (actions : List (Action S.World)) (reads : ∀ action ∈ actions, action.Reads) :
    (usage.run T actions).Broken := by
  refine (run_keeps T (fun later => later.Sound ∧ later.Broken) Action.Reads ?_ ?_ ?_ ?_ usage
    actions reads ⟨sound, broken⟩).2
  · exact fun later demand _ ⟨sound, broken⟩ => ⟨sound.after_begin _, broken.after_begin _⟩
  · intro later ticket ⟨sound, broken⟩
    have moves : Moves T later ticket (later.stretch T ticket) := sound.stretch_moves ticket
    exact ⟨sound.after_move moves, broken.after_move moves⟩
  · rintro later ticket ⟨⟩
  · exact fun later become ⟨sound, broken⟩ => ⟨sound.after_change become, broken⟩

theorem run_reading {rest : S.Reader → Bytes} (drains : T.Drains rest) {usage : Usage S}
    (reading : usage.Reading rest) (actions : List (Action S.World))
    (reads : ∀ action ∈ actions, action.Reads) :
    (usage.run T actions).Broken ∨
      ((usage.run T actions).Reading rest ∧ Keeps rest usage (usage.run T actions)) := by
  refine (run_keeps T (fun later => later.Sound ∧ (later.Broken ∨
    (later.Reading rest ∧ Keeps rest usage later))) Action.Reads ?_ ?_ ?_ ?_ usage actions reads
    ⟨reading.sound, .inr ⟨reading, fun _ bytes held => ⟨bytes, held, rfl⟩⟩⟩).2
  · rintro later demand ⟨room⟩ ⟨sound, broken | ⟨reading, keeps⟩⟩
    · exact ⟨sound.after_begin _, .inl (broken.after_begin _)⟩
    · exact ⟨sound.after_begin _, .inr ⟨reading.after_begin room, keeps⟩⟩
  · rintro later ticket ⟨sound, before⟩
    have moves : Moves T later ticket (later.stretch T ticket) := sound.stretch_moves ticket
    refine ⟨sound.after_move moves, ?_⟩
    rcases before with broken | ⟨reading, keeps⟩
    · exact .inl (broken.after_move moves)
    -- A stretch in which the connection fails the read need not keep the message whole.
    by_cases broken : (later.stretch T ticket).Broken
    · exact .inl broken
    · refine .inr ⟨(reading.after_move drains moves).resolve_left broken, ?_⟩
      intro number bytes held
      obtain ⟨middle, still, first⟩ := keeps number bytes held
      obtain ⟨left, now, second⟩ := moves.keeps_messages drains reading broken number middle still
      exact ⟨left, now, first.trans second⟩
  · rintro later ticket ⟨⟩
  · rintro later become ⟨sound, broken | ⟨reading, keeps⟩⟩
    · exact ⟨sound.after_change become, .inl broken⟩
    · exact ⟨sound.after_change become, .inr ⟨reading.after_change become, keeps⟩⟩

/-- While no two reads have waited for a message at once, a read waits for one only where none is
current, and no message has been displaced. -/
structure Alone (usage : Usage S) : Prop where
  waits : ∀ (ticket : Ticket) (room : Nat) (stage : S.ReaderOpening),
    usage.calls[ticket]? = some (.read room (.waiting (.opening stage))) →
      ticket ∈ usage.stream.asking.waiting
  one : usage.stream.asking.waiting = [] ∨
    ∃ ticket, usage.stream.asking.waiting = [ticket] ∧ usage.stream.state.inbound = none
  kept : usage.stream.shelf.displaced = []

namespace Alone

variable {usage : Usage S} {ticket : Ticket} {room : Nat}
  {phase : Phase (ReadStage S.recorded) ReadOutcome} {stage : ReadStage S.recorded}
  {step : Step (ReadStage S.recorded) ReadOutcome} {after : Stream S.recorded}
  (alone : usage.Alone)
include alone

theorem waited_before (found : usage.calls[ticket]? = some (.read room phase)) {caller : Ticket}
    {space : Nat} {later : S.ReaderOpening}
    (there : (usage.calls.set ticket (.read room (.ofStep step)))[caller]? =
      some (.read space (.waiting (.opening later)))) :
    (caller ≠ ticket ∧ caller ∈ usage.stream.asking.waiting) ∨
      (caller = ticket ∧ Phase.ofStep step = .waiting (.opening later)) := by
  by_cases same : caller = ticket
  · subst same
    rw [List.getElem?_set_self (List.getElem?_eq_some_iff.mp found).1] at there
    injection Option.some.inj there with _ phases
    exact .inr ⟨rfl, phases⟩
  · rw [List.getElem?_set_ne (Ne.symm same)] at there
    exact .inl ⟨same, alone.waits caller space later there⟩

theorem of_waiting (found : usage.calls[ticket]? = some (.read room phase))
    (only : ∀ caller ∈ usage.stream.asking.waiting, caller = ticket)
    (waiting : after.asking.waiting = [ticket]) (vacant : after.state.inbound = none)
    (displaced : after.shelf.displaced = usage.stream.shelf.displaced) :
    Alone (⟨after, usage.calls.set ticket (.read room (.ofStep step))⟩ : Usage S) := by
  refine ⟨?_, .inr ⟨ticket, waiting, vacant⟩, displaced.trans alone.kept⟩
  intro caller space later there
  have same : caller = ticket := by
    rcases alone.waited_before found there with ⟨-, waited⟩ | ⟨same, -⟩
    · exact only caller waited
    · exact same
  simp [same, waiting]

theorem of_answered (found : usage.calls[ticket]? = some (.read room phase))
    (only : ∀ caller ∈ usage.stream.asking.waiting, caller = ticket)
    (ends : ∀ later, Phase.ofStep step ≠ .waiting (.opening later))
    (waiting : after.asking.waiting = [])
    (displaced : after.shelf.displaced = usage.stream.shelf.displaced) :
    Alone (⟨after, usage.calls.set ticket (.read room (.ofStep step))⟩ : Usage S) := by
  refine ⟨?_, .inl waiting, displaced.trans alone.kept⟩
  intro caller space later there
  rcases alone.waited_before found there with ⟨different, waited⟩ | ⟨-, phases⟩
  · exact absurd (only caller waited) different
  · exact absurd phases (ends later)

theorem after_asking {rest : S.Reader → Bytes} (shelved : usage.stream.Shelved rest)
    (found : usage.calls[ticket]? = some (.read room phase))
    (vacant : usage.stream.state.inbound = none)
    (comes : ReaderComes T ticket none (usage.stream.borrow ticket) step after) :
    after.asking.overlapped = true ∨
      Alone (⟨after, usage.calls.set ticket (.read room (.ofStep step))⟩ : Usage S) := by
  obtain ⟨displaced, result⟩ := comes.waits_or_answered (shelved.after_borrow ticket) vacant
  have same : (usage.stream.borrow ticket).asking = usage.stream.asking := rfl
  simp only [Option.isSome_none, Asking.note_begins, same] at result
  cases waiting : usage.stream.asking.waiting with
  | cons first more =>
    -- Somebody is waiting already, so this is an overlap.
    left
    rcases result with ⟨-, asked⟩ | ⟨-, reply, asked⟩ <;>
      simp [asked, Asking.join, Asking.leave, waiting]
  | nil =>
    right
    have only (caller : Ticket) (waited : caller ∈ usage.stream.asking.waiting) :
        caller = ticket := by simp [waiting] at waited
    rcases result with ⟨still, asked⟩ | ⟨ends, reply, asked⟩
    · exact alone.of_waiting found only (by simp [asked, Asking.join, waiting]) still displaced
    · exact alone.of_answered found only ends (by simp [asked, Asking.join, Asking.leave, waiting])
        displaced

theorem after_hearing {rest : S.Reader → Bytes} (shelved : usage.stream.Shelved rest)
    {opening : S.ReaderOpening}
    (found : usage.calls[ticket]? = some (.read room (.waiting (.opening opening))))
    (comes : ReaderComes T ticket (some opening) usage.stream step after) :
    Alone (⟨after, usage.calls.set ticket (.read room (.ofStep step))⟩ : Usage S) := by
  have member := alone.waits ticket room opening found
  obtain ⟨waiting, vacant⟩ : usage.stream.asking.waiting = [ticket] ∧
      usage.stream.state.inbound = none := by
    rcases alone.one with empty | ⟨caller, waiting, vacant⟩
    · simp [empty] at member
    · rw [waiting, List.mem_singleton] at member
      exact ⟨member ▸ waiting, vacant⟩
  have only (caller : Ticket) (waited : caller ∈ usage.stream.asking.waiting) :
      caller = ticket := by
    rwa [waiting, List.mem_singleton] at waited
  obtain ⟨displaced, result⟩ := comes.waits_or_answered shelved vacant
  simp only [Option.isSome_some, Asking.note_resumes] at result
  rcases result with ⟨still, asked⟩ | ⟨ends, reply, asked⟩
  · exact alone.of_waiting found only (by simp [asked, waiting]) still displaced
  · exact alone.of_answered found only ends (by simp [asked, Asking.leave, waiting]) displaced

end Alone

theorem Moves.overlapped_or_alone {usage after : Usage S} {ticket : Ticket}
    (moves : Moves T usage ticket after)
    {rest : S.Reader → Bytes} (reading : usage.Reading rest) (alone : usage.Alone) :
    after.stream.asking.overlapped = true ∨ after.Alone := by
  cases moves with
  | rests => exact .inr alone
  | writes found next move => exact (reading.only_reads found nofun).elim
  | closes found next move => exact (reading.only_reads found nofun).elim
  | reads found next move =>
    rename_i room phase stage step stream
    rcases move.asks_or_leaves_alone with
      ⟨-, vacant, comes⟩ | ⟨later, rfl, comes⟩ | ⟨same, kept, still, ends⟩
    · exact alone.after_asking reading.shelved found vacant comes
    · right
      obtain rfl : phase = .waiting (.opening later) := by
        cases phase <;> cases next
        rfl
      exact alone.after_hearing reading.shelved found comes
    · right
      refine ⟨?_, ?_, kept.trans alone.kept⟩
      · intro caller space later there
        rw [same]
        rcases alone.waited_before found there with ⟨-, waited⟩ | ⟨-, phases⟩
        · exact waited
        · exact absurd phases (ends later)
      · rw [same]
        rcases alone.one with nobody | ⟨caller, only, vacant⟩
        · exact .inl nobody
        · exact .inr ⟨caller, only, still vacant⟩

theorem Moves.overlapped_stays {usage after : Usage S} {ticket : Ticket}
    (moves : Moves T usage ticket after) {rest : S.Reader → Bytes} (reading : usage.Reading rest)
    (overlapped : usage.stream.asking.overlapped = true) :
    after.stream.asking.overlapped = true := by
  cases moves with
  | rests => exact overlapped
  | writes found next move => exact (reading.only_reads found nofun).elim
  | closes found next move => exact (reading.only_reads found nofun).elim
  | reads found next move =>
    rcases move.asks_or_leaves_alone with ⟨-, -, comes⟩ | ⟨_, -, comes⟩ | ⟨same, -⟩
    · exact comes.overlapped_stays overlapped
    · exact comes.overlapped_stays overlapped
    · exact same ▸ overlapped

/-- Throughout a run of reads in which no two wait for a message at once, none is displaced. -/
theorem run_alone {rest : S.Reader → Bytes} (drains : T.Drains rest) {usage : Usage S}
    (reading : usage.Reading rest) (alone : usage.Alone) (actions : List (Action S.World))
    (reads : ∀ action ∈ actions, action.Reads) :
    (usage.run T actions).Broken ∨ (usage.run T actions).stream.asking.overlapped = true ∨
      (usage.run T actions).Alone := by
  have kept := (run_keeps T (fun later => later.Sound ∧ (later.Broken ∨ (later.Reading rest ∧
    (later.stream.asking.overlapped = true ∨ later.Alone)))) Action.Reads ?_ ?_ ?_ ?_ usage actions
    reads ⟨reading.sound, .inr ⟨reading, .inr alone⟩⟩).2
  · exact kept.imp_right And.right
  · rintro later demand ⟨room⟩ ⟨sound, broken | ⟨reading, state⟩⟩
    · exact ⟨sound.after_begin _, .inl (broken.after_begin _)⟩
    · refine ⟨sound.after_begin _, .inr ⟨reading.after_begin room, state.imp_right ?_⟩⟩
      intro alone
      refine ⟨?_, alone.one, alone.kept⟩
      intro ticket space stage there
      by_cases new : ticket = later.calls.length
      · subst new
        simp [step, Call.begin] at there
      · exact alone.waits ticket space stage ((push_elsewhere _ _ new).symm.trans there)
  · rintro later ticket ⟨sound, before⟩
    have moves : Moves T later ticket (later.stretch T ticket) := sound.stretch_moves ticket
    refine ⟨sound.after_move moves, ?_⟩
    rcases before with broken | ⟨reading, state⟩
    · exact .inl (broken.after_move moves)
    · refine (reading.after_move drains moves).imp_right fun read => ⟨read, ?_⟩
      rcases state with overlapped | alone
      · exact .inl (moves.overlapped_stays reading overlapped)
      · exact moves.overlapped_or_alone reading alone
  · rintro later ticket ⟨⟩
  · rintro later become ⟨sound, broken | ⟨reading, state⟩⟩
    · exact ⟨sound.after_change become, .inl broken⟩
    · exact ⟨sound.after_change become, .inr ⟨reading.after_change become,
        state.imp_right fun alone =>
        ⟨alone.waits, alone.one, alone.kept⟩⟩⟩

theorem start_reading (rest : S.Reader → Bytes) (config : Configuration) (world : S.World) :
    (start config world).Reading rest :=
  ⟨start_sound config world, rfl, ⟨rfl, rfl, nofun, nofun⟩,
    (fun _ _ found => nomatch found), fun _ _ => rfl⟩

theorem start_alone (config : Configuration) (world : S.World) : (start config world).Alone :=
  ⟨nofun, .inl rfl, rfl⟩

def Idle (usage : Usage S) : Prop :=
  ∀ (ticket : Ticket) (room : Nat) (stage : ReadStage S.recorded),
    usage.calls[ticket]? ≠ some (.read room (.waiting stage))

def returned (usage : Usage S) (ticket : Ticket) : Bytes :=
  match usage.calls[ticket]? with
  | some (.read _ (.answered outcome)) => outcome.data
  | _ => []

/-- Every byte yielded has been returned to whoever asked for it, and only the current message holds
more. -/
structure Delivered (rest : S.Reader → Bytes) (usage : Usage S) : Prop where
  returned : ∀ ticket, usage.returned ticket = usage.stream.takenBy ticket
  drained : ∀ number bytes, usage.stream.held rest number = some bytes →
    usage.stream.state.inbound ≠ some number → bytes = []

theorem Reading.returned_eq_takenBy {rest : S.Reader → Bytes} {usage : Usage S}
    (reading : usage.Reading rest)
    (idle : usage.Idle) (ticket : Ticket) :
    usage.returned ticket = usage.stream.takenBy ticket := by
  unfold returned
  cases found : usage.calls[ticket]? with
  | none => exact (reading.unheard ticket (List.getElem?_eq_none_iff.mp found)).symm
  | some call =>
    obtain ⟨room, phase, rfl, copies⟩ := reading.reads ticket call found
    cases phase with
    | waiting stage => exact absurd found (idle ticket room stage)
    | dropped stage => exact absurd rfl (copies.lasts stage)
    | fresh => exact copies.copied.symm
    | answered outcome => exact copies.copied.symm

/-- No inbound byte is lost exactly if the displaced messages have been drained. In every run of
reads, overlapping in any way, none of them given up and none failed: whenever no read is under way,
every byte yielded has been returned and only the current message holds more, if and only if no
message that another displaced still holds bytes; whatever was handed out is kept whole, so what has
not been returned of it is what its reader holds; and none is displaced where no read asks for a
message while another is waiting for one. -/
theorem delivered_iff_displaced_drained (T : Transport S) (rest : S.Reader → Bytes)
    (drains : T.Drains rest) (config : Configuration) (world : S.World)
    (actions : List (Action S.World)) (reads : ∀ action ∈ actions, action.Reads)
    (unbroken : ¬ ((start config world).run T actions).Broken) :
    let usage := (start config world).run T actions
    (usage.Idle → (usage.Delivered rest ↔
      ∀ number ∈ usage.stream.shelf.displaced, usage.stream.held rest number = some [])) ∧
    (∀ before after, actions = before ++ after →
      Keeps rest ((start config world).run T before) usage) ∧
    (usage.stream.asking.overlapped = false → usage.stream.shelf.displaced = []) := by
  intro usage
  have reading : usage.Reading rest :=
    ((run_reading drains (start_reading rest config world) actions reads).resolve_left
      unbroken).1
  refine ⟨?_, ?_, ?_⟩
  · intro idle
    constructor
    · intro delivered number gone
      obtain ⟨away, inside⟩ := reading.shelved.displaced number gone
      have found := List.getElem?_eq_getElem inside
      have held : usage.stream.held rest number = _ := Stream.held_some found
      rw [held, delivered.drained number _ held away]
    · intro emptied
      refine ⟨reading.returned_eq_takenBy idle, ?_⟩
      intro number bytes held away
      by_cases gone : number ∈ usage.stream.shelf.displaced
      · exact Option.some.inj (held.symm.trans (emptied number gone))
      · exact reading.shelved.emptied number bytes held away gone
  · rintro before after rfl
    have first (action : Action S.World) (member : action ∈ before) : action.Reads :=
      reads action (List.mem_append_left _ member)
    have later (action : Action S.World) (member : action ∈ after) : action.Reads :=
      reads action (List.mem_append_right _ member)
    have whole : (start config world).run T (before ++ after) =
        ((start config world).run T before).run T after := run_append ..
    rw [whole] at unbroken
    -- A failure before the moment in question would be a failure of the whole run.
    have standing : ¬ ((start config world).run T before).Broken := fun broken =>
      unbroken (run_broken ((start_sound config world).after_run before) broken after later)
    have early :=
      ((run_reading drains (start_reading rest config world) before first).resolve_left standing).1
    have kept := ((run_reading drains early after later).resolve_left unbroken).2
    rwa [← whole] at kept
  · intro lone
    have never : usage.stream.asking.overlapped ≠ true := by
      rw [lone]
      exact Bool.false_ne_true
    have alone := (run_alone drains (start_reading rest config world) (start_alone config world)
      actions reads).resolve_left unbroken
    exact (alone.resolve_left never).kept

end Usage

namespace Usage

/-- The second of two reads displaces a message that the first has drained. -/
theorem delivered_iff_displaced_drained_overlapping :
    let actions : List (Action Scripted.World) := [.begin (.read 1), .begin (.read 1), .poll 0,
      .poll 1, .change fun world => { world with gates := world.gates.notify 0 }, .poll 0,
      .change fun world => { world with gates := world.gates.notify 0 }, .poll 1]
    let usage := (start {} { inbound := [.ok [97], .ok [98, 99]] } : Usage Scripted.signature).run
      (Scripted.transport { readerGate := some 0 }) actions
    (Scripted.transport { readerGate := some 0 }).Drains id ∧ (∀ action ∈ actions, action.Reads) ∧
      ¬ usage.Broken ∧ usage.stream.shelf.displaced = [0] ∧ usage.Idle ∧ usage.Delivered id := by
  intro actions usage
  have drains := Scripted.transport_drains { readerGate := some 0 } nofun
  have reads : ∀ action ∈ actions, action.Reads := by
    simp [actions, Action.Reads.begin, Action.Reads.poll, Action.Reads.change]
  have calls : usage.calls = [.read 1 (.answered (.filled [97])),
    .read 1 (.answered (.filled [98]))] := rfl
  have unbroken : ¬ usage.Broken := by
    rintro ⟨ticket, room, data, source, found⟩
    rw [calls] at found
    rcases ticket with _ | _ | ticket <;> cases found
  have idle : usage.Idle := by
    intro ticket room stage found
    rw [calls] at found
    rcases ticket with _ | _ | ticket <;> cases found
  have displaced : usage.stream.shelf.displaced = [0] := rfl
  have whole := (delivered_iff_displaced_drained (Scripted.transport { readerGate := some 0 }) id
    drains {} { inbound := [.ok [97], .ok [98, 99]] } actions reads unbroken).1 idle
  refine ⟨drains, reads, unbroken, displaced, idle, whole.mpr ?_⟩
  intro number gone
  rw [displaced, List.mem_singleton] at gone
  subst gone
  rfl

/-- The second of two reads displaces a message of which the first, for lack of room, has left a
byte. No read returns that byte. -/
theorem displaced_byte_undelivered :
    let actions : List (Action Scripted.World) := [.begin (.read 1), .begin (.read 1), .poll 0,
      .poll 1, .change fun world => { world with gates := world.gates.notify 0 }, .poll 0,
      .change fun world => { world with gates := world.gates.notify 0 }, .poll 1]
    let usage := (start {} { inbound := [.ok [97, 98], .ok [99]] } : Usage Scripted.signature).run
      (Scripted.transport { readerGate := some 0 }) actions
    (∀ action ∈ actions, action.Reads) ∧ ¬ usage.Broken ∧ usage.Idle ∧ ¬ usage.Delivered id := by
  intro actions usage
  have calls : usage.calls = [.read 1 (.answered (.filled [97])),
    .read 1 (.answered (.filled [99]))] := rfl
  refine ⟨?_, ?_, ?_, ?_⟩
  · simp [actions, Action.Reads.begin, Action.Reads.poll, Action.Reads.change]
  · rintro ⟨ticket, room, data, source, found⟩
    rw [calls] at found
    rcases ticket with _ | _ | ticket <;> cases found
  · intro ticket room stage found
    rw [calls] at found
    rcases ticket with _ | _ | ticket <;> cases found
  · intro delivered
    exact List.cons_ne_nil _ _ (delivered.drained 0 [98] rfl nofun)

end Usage

end MessageStream
