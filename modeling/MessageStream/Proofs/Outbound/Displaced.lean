import MessageStream.Proofs.Outbound.Attendance
import MessageStream.Proofs.Teardown.Once
import MessageStream.Transport.Scripted

/-!
What a close waits for. The close that takes the connection waits for the message that is current
then. A message that was current before is over by then, unless it has been displaced: a write that
was waiting for a message replaces the current one when its own arrives, and the displaced message
may be filled still when the connection is shut down. So every message that ever was current is over
by then exactly if the displaced ones are.
-/
namespace MessageStream

variable {S : Signature} {T : Transport S}

namespace Traffic

def Awaits (caller : Ticket) (traffic since : List Traffic) : Prop :=
  ∃ before kind, traffic = before ++ .begun caller (.nextWriter kind) :: since ∧
    ∀ entry ∈ since, entry.caller ≠ caller

def Hands (number : Nat) (entries : List Traffic) : Prop :=
  ∃ caller kind, .ended caller (.nextWriter kind) (.opened number) ∈ entries

theorem Hands.append_entries {number : Nat} {entries : List Traffic} (hands : Hands number entries)
    (more : List Traffic) : Hands number (entries ++ more) := by
  obtain ⟨caller, kind, member⟩ := hands
  exact ⟨caller, kind, List.mem_append_left more member⟩

theorem Awaits.append_entries {caller : Ticket} {traffic since : List Traffic}
    (awaits : Awaits caller traffic since) {entries : List Traffic}
    (others : ∀ entry ∈ entries, entry.caller ≠ caller) :
    Awaits caller (traffic ++ entries) (since ++ entries) := by
  obtain ⟨before, kind, split, quiet⟩ := awaits
  refine ⟨before, kind, by rw [split, List.append_assoc, List.cons_append], ?_⟩
  intro entry member
  exact (List.mem_append.mp member).elim (quiet entry) (others entry)

end Traffic

/-- While a write waits for a message this one is handed out and becomes current, and before it is
over the message of the write becomes current in its place. -/
structure Stream.Displacement (stream : Stream S.recorded) (number : Nat) (caller : Ticket)
    (asked since : List Traffic) (later : Nat) : Prop where
  waited : Traffic.Awaits caller asked since
  handed : Traffic.Hands number since
  stored : stream.stored[number]? = some true
  unfinished : ¬ Traffic.Over number asked
  replaced : stream.stored[later]? = some true
  taken : ∃ kind rest, stream.world.traffic =
    asked ++ .ended caller (.nextWriter kind) (.opened later) :: rest

/-- A message is displaced when another becomes current before it is over. -/
def Stream.Displaced (stream : Stream S.recorded) (number : Nat) : Prop :=
  ∃ caller asked since later, stream.Displacement number caller asked since later

theorem Stream.Displaced.of_grown {stream after : Stream S.recorded} {number : Nat}
    (displaced : stream.Displaced number) {entries : List Traffic} {flags : List Bool}
    (grown : after.world.traffic = stream.world.traffic ++ entries)
    (stored : after.stored = stream.stored ++ flags) : after.Displaced number := by
  obtain ⟨caller, asked, since, later, shown⟩ := displaced
  obtain ⟨kind, rest, taken⟩ := shown.taken
  have still {place : Nat} (there : stream.stored[place]? = some true) :
      after.stored[place]? = some true := by
    rw [stored, List.getElem?_append_left (List.getElem?_eq_some_iff.mp there).1, there]
  refine ⟨caller, asked, since, later, shown.waited, shown.handed, still shown.stored,
    shown.unfinished, still shown.replaced, kind, rest ++ entries, ?_⟩
  rw [grown, taken, List.append_assoc, List.cons_append]

theorem WriteMove.waits_or_asks {data : Bytes} {ticket : Ticket} {stage : WriteStage S.recorded}
    {stream after : Stream S.recorded} {step : Step (WriteStage S.recorded) WriteOutcome}
    (move : WriteMove T data ticket stage stream step after)
    (seeks : (Call.write data (.ofStep step) : Call S.recorded).seeks = true) :
    after.state.outbound = stream.state.outbound ∧
      ((Call.write data (.waiting stage) : Call S.recorded).seeks = true ∧
          after.world.traffic = stream.world.traffic ∨
        stream.state.outbound = none ∧ ∃ kind,
          after.world.traffic = stream.world.traffic ++ [.begun ticket (.nextWriter kind)]) := by
  have filled (rest : Bytes) (number written : Nat) : (Call.write data
      (.waiting (Write.fillOrFinish rest number written)) : Call S.recorded).seeks = false := by
    unfold Write.fillOrFinish
    split <;> rfl
  cases move with
  | asks standing sent vacant comes =>
    cases comes with
    | waits polled => exact ⟨rfl, .inr ⟨vacant, _, rfl⟩⟩
    | _ => cases seeks
  | hears comes =>
    cases comes with
    | waits polled => exact ⟨rfl, .inl ⟨rfl, List.append_nil _⟩⟩
    | _ => cases seeks
  | enters turn found unfinished => cases (filled _ _ _).symm.trans seeks
  | takes found polled gained => cases (filled _ _ _).symm.trans seeks
  | _ => cases seeks

namespace Usage

/-- A write that waits for a message asked for it when none was current, so the current one has been
handed out since; and while the stream stands a message that was current either is so still, or is
over, or has been displaced. -/
structure Accounted (usage : Usage S) : Prop where
  settled : usage.Settled
  attended : usage.Attended
  numbered : usage.stream.stored.length = usage.stream.state.writers.length
  awaits : ∀ (ticket : Ticket) (call : Call S.recorded), usage.calls[ticket]? = some call →
    call.seeks = true → ∃ since, Traffic.Awaits ticket usage.traffic since ∧
      ∀ number, usage.stream.state.outbound = some number → Traffic.Hands number since
  placed : usage.stream.state.isClosed = false →
    ∀ number, usage.stream.stored[number]? = some true →
      usage.stream.state.outbound = some number ∨ Traffic.Over number usage.traffic ∨
        usage.stream.Displaced number

end Usage

theorem Tends.stored_grows {ticket : Ticket} {stream after : Stream S.recorded}
    {call become : Call S.recorded} (tends : Tends ticket stream after call become) :
    ∃ flags, after.stored = stream.stored ++ flags ∧
      after.state.writers.length = stream.state.writers.length + flags.length := by
  cases tends with
  | stays unopened => exact ⟨[], by simp [unopened.stored], unopened.length⟩
  | leaves unopened => exact ⟨[], by simp [unopened.stored], unopened.length⟩
  | opens away grown length attends slot =>
    rcases slot with ⟨stored, -⟩ | ⟨stored, -⟩
    · exact ⟨[false], stored, length⟩
    · exact ⟨[true], stored, length⟩

theorem Tends.current_or_handed {ticket : Ticket} {stream after : Stream S.recorded}
    {call become : Call S.recorded} (tends : Tends ticket stream after call become)
    {entries : List Traffic} (grown : after.world.traffic = stream.world.traffic ++ entries)
    {number : Nat} (current : after.state.outbound = some number) :
    stream.state.outbound = some number ∨ Traffic.Hands number entries := by
  cases tends with
  | stays unopened slot =>
    rcases slot with same | ⟨-, none⟩
    · exact .inl (same ▸ current)
    · cases none.symm.trans current
  | leaves unopened slot =>
    rcases slot with same | ⟨-, none⟩
    · exact .inl (same ▸ current)
    · cases none.symm.trans current
  | opens away told length attends slot vacant sought =>
    rename_i kind resumed
    rcases slot with ⟨-, same⟩ | ⟨-, new, -⟩
    · exact .inl (same ▸ current)
    · right
      cases new.symm.trans current
      refine ⟨ticket, kind, ?_⟩
      rw [List.append_cancel_left (grown.symm.trans told)]
      exact List.mem_append_right _ (List.mem_singleton_self _)

namespace Usage

namespace Accounted

variable {usage : Usage S} (accounted : usage.Accounted) {ticket : Ticket}
  {call become : Call S.recorded} {after : Stream S.recorded}
include accounted

/-- The current message, when another takes its place, is over or is displaced. -/
theorem displaced_of_handed (found : usage.calls[ticket]? = some call)
    {kind : MessageKind} {resumed : Bool}
    (grown : after.world.traffic = usage.traffic ++ Traffic.ofPoll ticket (.nextWriter kind) resumed
      (some (.opened usage.stream.state.writers.length)))
    (stored : after.stored = usage.stream.stored ++ [true])
    (vacant : resumed = false → usage.stream.state.outbound = none)
    (sought : resumed = true → call.seeks = true) {number : Nat}
    (there : usage.stream.stored[number]? = some true)
    (current : usage.stream.state.outbound = some number)
    (unfinished : ¬ Traffic.Over number usage.traffic) : after.Displaced number := by
  cases resumed with
  | false =>
    cases (vacant rfl).symm.trans current
  | true =>
    obtain ⟨since, awaits, handed⟩ := accounted.awaits ticket call found (sought rfl)
    refine ⟨ticket, usage.traffic, since, usage.stream.state.writers.length, awaits,
      handed number current, ?_, unfinished, ?_, kind, [], grown⟩
    · rw [stored, List.getElem?_append_left (List.getElem?_eq_some_iff.mp there).1, there]
    · rw [stored, ← accounted.numbered, List.getElem?_concat_length]

theorem placed_after (found : usage.calls[ticket]? = some call)
    (used : Used (⟨after, usage.calls.set ticket become⟩ : Usage S)) {entries : List Traffic}
    (grown : after.world.traffic = usage.traffic ++ entries)
    (tends : Tends ticket usage.stream after call become)
    (before : usage.stream.state.isClosed = false) (standing : after.state.isClosed = false)
    (number : Nat) (stored : after.stored[number]? = some true) :
    after.state.outbound = some number ∨ Traffic.Over number after.world.traffic ∨
      after.Displaced number := by
  obtain ⟨flags, more, -⟩ := tends.stored_grows
  -- What was over or displaced is so still, which leaves the message that was current.
  have lifted (there : usage.stream.stored[number]? = some true)
      (kept : usage.stream.state.outbound = some number → after.state.outbound = some number ∨
        Traffic.Over number after.world.traffic ∨ after.Displaced number) :
      after.state.outbound = some number ∨ Traffic.Over number after.world.traffic ∨
        after.Displaced number := by
    rcases accounted.placed before number there with current | finished | displaced
    · exact kept current
    · exact .inr (.inl (used.over_grown finished grown))
    · exact .inr (.inr (displaced.of_grown grown more))
  cases tends with
  | stays unopened slot =>
    apply lifted (unopened.stored ▸ stored)
    intro current
    rcases slot with same | ⟨closed, -⟩
    · exact .inl (same.trans current)
    · cases closed.symm.trans standing
  | leaves unopened slot attended turn away marked =>
    apply lifted (unopened.stored ▸ stored)
    intro current
    rcases slot with same | ⟨left, -⟩
    · exact .inl (same.trans current)
    · cases left.symm.trans current
      exact .inr (.inl (accounted.attended.used.leaves_over found used turn away marked))
  | opens away told length attends slot vacant sought =>
    rcases slot with ⟨late, same⟩ | ⟨new, becomes, -⟩
    · -- The new message came too late, so it is none that was current.
      rw [late] at stored
      rcases push_cases stored with ⟨-, tooLate⟩ | ⟨-, known⟩
      · cases tooLate
      · exact lifted known fun current => .inl (same.trans current)
    · rw [new] at stored
      rcases push_cases stored with ⟨last, -⟩ | ⟨-, known⟩
      · rw [accounted.numbered] at last
        exact .inl (last ▸ becomes)
      · apply lifted known
        intro current
        by_cases finished : Traffic.Over number usage.traffic
        · exact .inr (.inl (used.over_grown finished grown))
        · right
          right
          exact accounted.displaced_of_handed found told new vacant sought known current finished

theorem after_tending (found : usage.calls[ticket]? = some call)
    (settled : Settled (⟨after, usage.calls.set ticket become⟩ : Usage S))
    (attended : Attended (⟨after, usage.calls.set ticket become⟩ : Usage S))
    {makes : Request → Bool} (adds : usage.stream.Adds ticket makes after)
    (tends : Tends ticket usage.stream after call become)
    (seeks : become.seeks = true →
      after.state.outbound = usage.stream.state.outbound ∧
        (call.seeks = true ∧ after.world.traffic = usage.traffic ∨
          usage.stream.state.outbound = none ∧ ∃ kind,
            after.world.traffic = usage.traffic ++ [.begun ticket (.nextWriter kind)]))
    (stays : after.state.isClosed = false → usage.stream.state.isClosed = false) :
    Accounted (⟨after, usage.calls.set ticket become⟩ : Usage S) := by
  obtain ⟨entries, grown, made⟩ := adds
  refine ⟨settled, attended, ?_, ?_, ?_⟩
  · obtain ⟨flags, more, length⟩ := tends.stored_grows
    change after.stored.length = after.state.writers.length
    rw [more, List.length_append, accounted.numbered, length]
  · intro other waiting there waits
    rcases set_cases there with ⟨rfl, same⟩ | ⟨different, kept⟩
    · subst same
      obtain ⟨slot, ⟨sought, quiet⟩ | ⟨vacant, kind, asked⟩⟩ := seeks waits
      · obtain ⟨since, awaits, handed⟩ := accounted.awaits _ call found sought
        refine ⟨since, ?_, fun number current => handed number (slot.symm.trans current)⟩
        change Traffic.Awaits other after.world.traffic since
        rw [quiet]
        exact awaits
      · refine ⟨[], ⟨usage.traffic, kind, asked, List.forall_mem_nil _⟩, ?_⟩
        intro number current
        cases (slot.trans vacant).symm.trans current
    · obtain ⟨since, awaits, handed⟩ := accounted.awaits other waiting kept waits
      have others (entry : Traffic) (member : entry ∈ entries) : entry.caller ≠ other :=
        (made entry member).1 ▸ Ne.symm different
      refine ⟨since ++ entries, ?_, ?_⟩
      · change Traffic.Awaits other after.world.traffic (since ++ entries)
        rw [grown]
        exact awaits.append_entries others
      · intro number current
        rcases tends.current_or_handed grown current with same | handsOut
        · exact (handed number same).append_entries entries
        · obtain ⟨caller, kind, member⟩ := handsOut
          exact ⟨caller, kind, List.mem_append_right since member⟩
  · intro standing
    exact accounted.placed_after found attended.used grown tends (stays standing) standing

theorem after_move {later : Usage S} (moves : Moves T usage ticket later) : later.Accounted := by
  have settled := accounted.settled.after_move moves
  have attended := accounted.attended.after_move moves
  have stays := moves.stays_closed accounted.settled
  cases moves with
  | rests => exact accounted
  | reads found next move =>
    exact accounted.after_tending found settled attended move.adds move.tends nofun stays
  | writes found next move =>
    rename_i data phase stage step stream
    refine accounted.after_tending found settled attended move.adds (move.tends.of_next next) ?_
      stays
    intro seeks
    obtain ⟨slot, asked⟩ := move.waits_or_asks seeks
    refine ⟨slot, asked.imp_left fun ⟨sought, quiet⟩ => ⟨?_, quiet⟩⟩
    cases phase <;> cases next
    · cases sought
    · exact sought
  | closes found next move =>
    exact accounted.after_tending found settled attended move.adds move.tends nofun stays

theorem after_begin (demand : Demand) : (usage.step T (.begin demand)).Accounted := by
  refine ⟨accounted.settled.after_begin demand, accounted.attended.after_begin demand,
    accounted.numbered, ?_,
    accounted.placed⟩
  intro other waiting there waits
  rcases push_cases there with ⟨-, new⟩ | ⟨-, old⟩
  · subst new
    cases demand <;> cases waits
  · exact accounted.awaits other waiting old waits

theorem after_change (become : S.World → S.World) : (usage.step T (.change become)).Accounted := by
  have attended := accounted.attended.after_change (T := T) become
  refine ⟨⟨attended.used.sound, accounted.settled.taken, accounted.settled.slots⟩, attended,
    accounted.numbered, accounted.awaits, ?_⟩
  intro standing number stored
  refine (accounted.placed standing number stored).imp_right (Or.imp_right ?_)
  intro displaced
  exact displaced.of_grown (List.append_nil _).symm (List.append_nil _).symm

end Accounted

theorem run_accounted (config : Configuration) (world : S.World) (actions : List (Action S.World))
    (lasting : ∀ action ∈ actions, ∀ ticket, action ≠ .drop ticket) :
    ((start config world).run T actions).Accounted :=
  run_keeps T Accounted (fun action => ∀ ticket, action ≠ .drop ticket)
    (fun _ demand _ accounted => accounted.after_begin demand)
    (fun _ ticket accounted =>
      accounted.after_move (accounted.attended.used.sound.stretch_moves ticket))
    (fun _ ticket lasts _ => absurd rfl (lasts ticket))
    (fun _ become accounted => accounted.after_change become)
    (start config world) actions lasting
    ⟨start_settled config world, start_attended config world, rfl, nofun, nofun⟩

theorem Moves.close_stored {usage after : Usage S} {taker : Ticket}
    (moves : Moves T usage taker after) {phase : Phase (CloseStage S.recorded) CloseOutcome}
    (found : usage.calls[taker]? = some (.close phase)) :
    after.stream.stored = usage.stream.stored ∧
      ∃ phase, after.calls[taker]? = some (.close phase) := by
  cases moves with
  | rests => exact ⟨rfl, phase, found⟩
  | reads other => cases found.symm.trans other
  | writes other => cases found.symm.trans other
  | closes there next move =>
    rename_i earlier stage step stream
    constructor
    · have tends : Tends taker usage.stream stream (.close earlier) (.close (.ofStep step)) :=
        move.tends
      cases tends with
      | stays unopened => exact unopened.stored
      | leaves unopened => exact unopened.stored
      | opens away grown length attends => cases attends
    · exact ⟨.ofStep step, List.getElem?_set_self (List.getElem?_eq_some_iff.mp there).1⟩

theorem poll_close_stored {usage : Usage S} (sound : usage.Sound) {taker : Ticket}
    {phase : Phase (CloseStage S.recorded) CloseOutcome}
    (found : usage.calls[taker]? = some (.close phase)) :
    (usage.step T (.poll taker)).stream.stored = usage.stream.stored := by
  rw [poll_stretches T taker usage]
  generalize usage.strides T taker = count
  induction count generalizing usage phase with
  | zero => rfl
  | succ count ih =>
    have moves : Moves T usage taker (usage.stretch T taker) := sound.stretch_moves taker
    obtain ⟨stored, later, there⟩ := moves.close_stored found
    exact (ih (sound.after_move moves) there).trans stored

end Usage

theorem Stream.Sealed.stored_after_closing {before stream : Stream S.recorded}
    (shut : Stream.Sealed before stream) :
    ∃ flags, stream.stored = before.stored ++ flags ∧ ∀ flag ∈ flags, flag = false := by
  obtain ⟨events, grown, silent⟩ := shut.journal
  refine ⟨events.flatMap Event.stored, by simp [Stream.stored, grown], ?_⟩
  intro flag member
  obtain ⟨event, there, tells⟩ := List.mem_flatMap.mp member
  have quiet := silent event there
  cases event <;> simp_all [Event.stored, Event.stores]

namespace Usage

theorem Used.read_before {usage : Usage S} (used : usage.Used) {before after : List Traffic}
    (split : usage.traffic = before ++ after) (number : Nat) :
    ∃ use, Use.idle.follow number before = some use := by
  obtain ⟨whole, read, -⟩ := used.uses number
  have same : Use.idle.follow number usage.traffic = some whole := read
  rw [split, Use.follow_append] at same
  obtain ⟨use, early, -⟩ := Option.bind_eq_some_iff.mp same
  exact ⟨use, early⟩

theorem Accounted.over_or_displaced {earlier : Usage S} (accounted : earlier.Accounted)
    (traced : earlier.Traced)
    {closer : Ticket} (found : earlier.calls[closer]? = some (.close .fresh))
    (standing : earlier.calls.any Call.shuts = false) (later : List (Action S.World))
    {before : List Traffic} {taker : Ticket} {after : List Traffic}
    (shuts : ((earlier.step T (.poll closer)).run T later).traffic =
      before ++ .begun taker .close :: after) {number : Nat}
    (stored : ((earlier.step T (.poll closer)).run T later).stream.stored[number]? = some true) :
    Traffic.Over number before ∨
      ((earlier.step T (.poll closer)).run T later).stream.Displaced number := by
  have used := accounted.attended.used
  have torn : Teardown closer earlier.stream.state.outbound (earlier.step T (.poll closer)) :=
    taken_polled used accounted.settled traced found standing
  have done := torn.after_run (T := T) later
  obtain ⟨entries, grown⟩ := run_grown T used.sound (.poll closer :: later)
  obtain ⟨flags, more, late⟩ :=
    (sealed_run (T := T) torn.used.sound (torn.settled.to_sealed torn.stream_closed)
      later).stored_after_closing
  rw [poll_close_stored used.sound found] at more
  have kept : earlier.stream.stored[number]? = some true := by
    rw [more] at stored
    by_cases known : number < earlier.stream.stored.length
    · rwa [List.getElem?_append_left known] at stored
    · rw [List.getElem?_append_right (Nat.le_of_not_lt known)] at stored
      cases late true (List.mem_of_getElem? stored)
  have opened : earlier.stream.state.isClosed = false := accounted.settled.taken.trans standing
  rcases accounted.placed opened number kept with current | finished | displaced
  · have owner : taker = closer := done.closers (.begun taker .close)
      (shuts ▸ List.mem_append_right before (.head after)) rfl
    exact .inl (done.orderly before after (owner ▸ shuts) number current)
  · -- The shutting down is recorded after everything there was at the first poll of the close.
    rcases split_append (grown.trans shuts) with ⟨rest, early⟩ | ⟨front, recorded, -⟩
    · exact absurd rfl (traced.no_close_recorded standing (.begun taker .close)
        (early ▸ List.mem_append_right before (.head rest)))
    · obtain ⟨use, read⟩ := done.used.read_before shuts number
      rw [recorded] at read ⊢
      exact .inl (finished.append_entries read)
  · exact .inr (displaced.of_grown grown.symm more)

theorem over_or_displaced (config : Configuration) (world : S.World)
    (actions : List (Action S.World))
    (lasting : ∀ action ∈ actions, ∀ ticket, action ≠ .drop ticket) {before : List Traffic}
    {taker : Ticket} {after : List Traffic}
    (shuts : ((start config world).run T actions).traffic = before ++ .begun taker .close :: after)
    {number : Nat}
    (stored : ((start config world).run T actions).stream.stored[number]? = some true) :
    Traffic.Over number before ∨ ((start config world).run T actions).stream.Displaced number := by
  have sound : (start config world).Sound := start_sound config world
  rcases first_close T (start config world) actions rfl with
    never | ⟨first, closer, later, split, standing, found⟩
  · -- Without a close nothing is recorded of shutting the connection down.
    have unshut :=
      ((start_traced config world).after_run (T := T) sound actions).no_close_recorded never
    exact absurd rfl (unshut (.begun taker .close)
      (shuts ▸ List.mem_append_right before (.head after)))
  · have accounted : ((start config world).run T first).Accounted :=
      run_accounted config world first fun action member =>
        lasting action (split ▸ List.mem_append_left _ member)
    have traced := (start_traced config world).after_run (T := T) sound first
    have final : (start config world).run T actions =
        (((start config world).run T first).step T (.poll closer)).run T later := by
      rw [split, run_append]
      rfl
    rw [final] at shuts stored ⊢
    exact accounted.over_or_displaced traced found standing later shuts stored

/-- When the connection is shut down, every message that was current is over exactly if every
message displaced is. In any run of any calls none of which is given up, over any connection,
wherever the record shows the beginning of the shutting down: a message that has been current, and
that no other displaced, is over by then; so all that have been current are over, if and only if
those are whose place another took before they were over, having been waited for since before the
displaced one was handed out. -/
theorem closed_after_writes_iff_displaced_over (T : Transport S) (config : Configuration)
    (world : S.World) (actions : List (Action S.World))
    (lasting : ∀ action ∈ actions, ∀ ticket, action ≠ .drop ticket)
    (before : List Traffic) (taker : Ticket) (after : List Traffic)
    (shuts : ((start config world).run T actions).traffic =
      before ++ .begun taker .close :: after) :
    let stream := ((start config world).run T actions).stream
    (∀ number, stream.stored[number]? = some true → ¬ stream.Displaced number →
      Traffic.Over number before) ∧
    ((∀ number, stream.stored[number]? = some true → Traffic.Over number before) ↔
      ∀ number, stream.Displaced number → Traffic.Over number before) := by
  intro stream
  have accounted (number : Nat) (stored : stream.stored[number]? = some true) :
      Traffic.Over number before ∨ stream.Displaced number :=
    over_or_displaced config world actions lasting shuts stored
  refine ⟨fun number stored => (accounted number stored).resolve_right, ?_⟩
  constructor
  · rintro waited number ⟨caller, asked, since, later, shown⟩
    exact waited number shown.stored
  · intro waited number stored
    exact (accounted number stored).elim id (waited number)

/-- The second of two writes displaces the message of the first, which is over all the same before
the connection is shut down. -/
theorem closed_after_writes_iff_displaced_over_finished :
    let actions : List (Action Scripted.World) := [.begin (.write [1]), .begin (.write [2]),
      .poll 0, .poll 1, .change fun world => { world with gates := world.gates.notify 0 }, .poll 0,
      .change fun world => { world with gates := world.gates.notify 0 }, .poll 1,
      .change fun world => { world with gates := world.gates.notify 1 }, .poll 0,
      .change fun world => { world with gates := world.gates.notify 1 }, .poll 1,
      .begin .close, .poll 2]
    let usage := (start {} { inbound := [] } : Usage Scripted.signature).run
      (Scripted.transport { writerGate := some 0, writeGate := some 1 }) actions
    (∀ action ∈ actions, ∀ ticket, action ≠ .drop ticket) ∧ ∃ before after,
      usage.traffic = before ++ .begun 2 .close :: after ∧ usage.stream.Displaced 0 ∧
      ∀ number, usage.stream.stored[number]? = some true → Traffic.Over number before := by
  intro actions usage
  have lasting : ∀ action ∈ actions, ∀ ticket, action ≠ .drop ticket := by simp [actions]
  have shuts : usage.traffic =
      usage.traffic.take 12 ++ .begun 2 .close :: usage.traffic.drop 13 := rfl
  have displaced : usage.stream.Displaced 0 := by
    have asked : usage.traffic.take 4 = [.begun 0 (.nextWriter .text)] ++
        .begun 1 (.nextWriter .text) :: (usage.traffic.take 4).drop 2 := rfl
    have writing : Use.idle.follow 0 (usage.traffic.take 4) = some (.writing 0 [1]) := rfl
    refine ⟨1, usage.traffic.take 4, (usage.traffic.take 4).drop 2, 1, ⟨_, _, asked, ?_⟩,
      ⟨0, .text, .head _⟩, rfl, ?_, rfl, .text, usage.traffic.drop 5, rfl⟩
    · intro entry member
      rcases member with _ | ⟨_, _ | ⟨_, ⟨⟩⟩⟩ <;> exact Nat.zero_ne_one
    · intro finished
      cases writing.symm.trans finished
  refine ⟨lasting, _, _, shuts, displaced, ?_⟩
  apply (closed_after_writes_iff_displaced_over
    (Scripted.transport { writerGate := some 0, writeGate := some 1 }) {} { inbound := [] } actions
    lasting _ 2 _ shuts).2.mpr
  rintro number ⟨caller, asked, since, later, shown⟩
  have stored : [true, true][number]? = some true := shown.stored
  rcases number with _ | _ | number
  · exact (rfl : Use.idle.follow 0 (usage.traffic.take 12) = some .finished)
  · exact (rfl : Use.idle.follow 1 (usage.traffic.take 12) = some .finished)
  · cases stored

/-- The second of two writes displaces the message of the first, and a close finishes only the
second's. When it shuts the connection down, the first write is still filling its message. -/
theorem displaced_message_unfinished :
    let actions : List (Action Scripted.World) := [.begin (.write [97, 98]), .begin (.write [99]),
      .poll 0, .poll 1, .change fun world => { world with gates := world.gates.notify 0 }, .poll 0,
      .change fun world => { world with gates := world.gates.notify 0 }, .poll 1,
      .begin .close, .poll 2, .change fun world => { world with gates := world.gates.notify 1 },
      .change fun world => { world with gates := world.gates.notify 1 }, .poll 1, .poll 2]
    let usage := (start {} { inbound := [] } : Usage Scripted.signature).run
      (Scripted.transport { writerGate := some 0, writeGate := some 1 }) actions
    (∀ action ∈ actions, ∀ ticket, action ≠ .drop ticket) ∧ ∃ before after,
      usage.traffic = before ++ .begun 2 .close :: after ∧
      usage.stream.stored[0]? = some true ∧ ¬ Traffic.Over 0 before ∧
      Traffic.underWay 0 usage.traffic = [(0, .write 0 [97, 98])] := by
  intro actions usage
  refine ⟨by simp [actions], usage.traffic.take 9, usage.traffic.drop 10, rfl, rfl, ?_, rfl⟩
  have writing : Use.idle.follow 0 (usage.traffic.take 9) = some (.writing 0 [97, 98]) := rfl
  intro finished
  cases writing.symm.trans finished

end Usage

end MessageStream
