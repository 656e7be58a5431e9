import MessageStream.Proofs.Outbound.Moves
import MessageStream.Transport.Scripted

/-!
One write, one message. While no call is given up, every write that succeeds sends exactly one
message, with all its bytes, and every message sent is the outcome of exactly one write, however the
calls share, replace and wait for messages. Writes that do not overlap send in their order.
-/
namespace MessageStream

variable {S : Signature} {T : Transport S}

def Outbox.SentBy (caller : Ticket) (before after : Outbox) : Prop :=
  ∃ more, after.sent = before.sent ++ more ∧ ∀ entry ∈ more, entry.caller = caller

theorem Outbox.sent_same {caller : Ticket} {before after : Outbox}
    (same : after.sent = before.sent) : SentBy caller before after :=
  ⟨[], by simp [same], nofun⟩

theorem Outbox.send_sent (outbox : Outbox) (caller : Ticket) (number : Nat) :
    SentBy caller outbox (outbox.send caller number) := by
  refine ⟨_, rfl, ?_⟩
  intro entry member
  obtain ⟨message, -, rfl⟩ := Option.map_eq_some_iff.mp (Option.mem_toList.mp member)
  rfl

theorem Outbox.hear_sent (outbox : Outbox) (caller : Ticket) (request : Request) (resumed : Bool)
    (reply : Option Reply) :
    SentBy caller outbox ((Traffic.ofPoll caller request resumed reply).foldl hear outbox) := by
  rw [hear_poll]
  cases reply with
  | none => exact sent_same rfl
  | some reply =>
    cases request with
    | finish number =>
      cases reply with
      | done => exact outbox.send_sent caller number
      | _ => exact sent_same rfl
    | nextWriter kind => cases reply <;> exact sent_same rfl
    | write number data => cases reply <;> exact sent_same rfl
    | _ => exact sent_same rfl

section Moves

variable {ticket : Ticket} {stream after : Stream S.recorded}

theorem FinishComes.sent_by {number : Nat} {resumed : Bool}
    {progress : Progress S.Finishing (Except Failure Unit)}
    (comes : FinishComes T ticket number resumed stream progress after) :
    Outbox.SentBy ticket stream.outbox after.outbox := by
  cases comes with
  | settled fresh found finished => exact Outbox.sent_same rfl
  | polls found unsettled => simpa using Outbox.hear_sent _ _ _ _ _

theorem WriterComes.sent_by {resumed : Bool} {step : Step (WriteStage S.recorded) WriteOutcome}
    (comes : WriterComes T ticket resumed stream step after) :
    Outbox.SentBy ticket stream.outbox after.outbox := by
  cases comes <;> simpa using Outbox.hear_sent _ _ _ _ _

theorem WriteMove.sent_by {data : Bytes} {stage : WriteStage S.recorded}
    {step : Step (WriteStage S.recorded) WriteOutcome}
    (move : WriteMove T data ticket stage stream step after) :
    Outbox.SentBy ticket stream.outbox after.outbox := by
  cases move with
  | asks standing sent vacant comes => exact comes.sent_by
  | hears comes => exact comes.sent_by
  | discardPends comes => exact comes.sent_by
  | discards comes => simpa using comes.sent_by
  | retires turn found finished => exact Outbox.sent_same (by simp)
  | pends found => simpa using Outbox.hear_sent _ _ _ _ _
  | breaks found => simpa using Outbox.hear_sent _ _ _ _ _
  | takes found polled gained => simpa using Outbox.hear_sent _ _ _ _ _
  | stalls found => simpa using Outbox.hear_sent _ _ _ _ _
  | finishPends comes => exact comes.sent_by
  | failed comes => simpa using comes.sent_by
  | finishFails comes => simpa using comes.sent_by
  | delivers comes => simpa using comes.sent_by
  | _ => exact Outbox.sent_same rfl

theorem CloseMove.sent_by {stage : CloseStage S.recorded}
    {step : Step (CloseStage S.recorded) CloseOutcome}
    (move : CloseMove T ticket stage stream step after) :
    Outbox.SentBy ticket stream.outbox after.outbox := by
  cases move with
  | finishPends comes => exact comes.sent_by
  | finishFails comes => simpa using comes.sent_by
  | finishes comes shuts => simpa using comes.sent_by
  | pends => simpa using Outbox.hear_sent _ _ _ _ _
  | fails => simpa using Outbox.hear_sent _ _ _ _ _
  | closes => simpa using Outbox.hear_sent _ _ _ _ _
  | _ => exact Outbox.sent_same rfl

end Moves

namespace Usage

theorem Moves.sent_by {usage after : Usage S} {ticket : Ticket} (moves : Moves T usage ticket after)
    :
    Outbox.SentBy ticket usage.stream.outbox after.stream.outbox := by
  cases moves with
  | rests => exact Outbox.sent_same rfl
  | reads found next move => exact Outbox.sent_same (by rw [move.outbox_same])
  | writes found next move => exact move.sent_by
  | closes found next move => exact move.sent_by

/-- Since an earlier moment, no call that had returned has changed or sent. -/
structure Follows (earlier later : Usage S) : Prop where
  sound : later.Sound
  kept : ∀ (ticket : Ticket) (call : Call S.recorded), earlier.calls[ticket]? = some call →
    call.Returned → later.calls[ticket]? = some call
  sent : ∃ more, later.stream.outbox.sent = earlier.stream.outbox.sent ++ more ∧
    ∀ entry ∈ more, ∀ call, earlier.calls[entry.caller]? = some call → ¬ call.Returned

namespace Follows

variable {earlier later : Usage S} (follows : Follows earlier later)
include follows

theorem after_move {ticket : Ticket} {after : Usage S} (moves : Moves T later ticket after) :
    Follows earlier after := by
  obtain ⟨sound, kept, more, grown, unreturned⟩ := follows
  have stands (other : Ticket) (call : Call S.recorded)
      (found : earlier.calls[other]? = some call) (returned : call.Returned) :
      after.calls[other]? = some call := by
    have there := kept other call found returned
    by_cases same : other = ticket
    · subst same
      rw [moves.unchanged_of_returned there returned]
      exact there
    · rw [moves.calls_other same]
      exact there
  refine ⟨sound.after_move moves, stands, ?_⟩
  obtain ⟨fresh, added, byTicket⟩ := moves.sent_by
  -- A call that had returned does not move, so only others can have sent since.
  by_cases returned : ∃ call, earlier.calls[ticket]? = some call ∧ call.Returned
  · obtain ⟨call, found, ended⟩ := returned
    rw [moves.unchanged_of_returned (kept ticket call found ended) ended]
    exact ⟨more, grown, unreturned⟩
  · refine ⟨more ++ fresh, ?_, ?_⟩
    · rw [added, grown, List.append_assoc]
    · intro entry member call found ended
      rcases List.mem_append.mp member with old | new
      · exact unreturned entry old call found ended
      · exact returned ⟨call, byTicket entry new ▸ found, ended⟩

theorem after_begin (demand : Demand) : Follows earlier (later.step T (.begin demand)) := by
  refine ⟨follows.sound.after_begin demand, ?_, follows.sent⟩
  intro ticket call found returned
  have there := follows.kept ticket call found returned
  exact (List.getElem?_append_left (List.getElem?_eq_some_iff.mp there).1).trans there

end Follows

theorem run_follows {usage : Usage S} (sound : usage.Sound) (actions : List (Action S.World))
    (lasting : ∀ action ∈ actions, ∀ ticket, action ≠ .drop ticket) :
    Follows usage (usage.run T actions) :=
  run_keeps T (Follows usage) (fun action => ∀ ticket, action ≠ .drop ticket)
    (fun _ demand _ follows => follows.after_begin demand)
    (fun _ ticket follows => follows.after_move (follows.sound.stretch_moves ticket))
    (fun _ ticket lasts _ => absurd rfl (lasts ticket))
    (fun _ become follows => ⟨follows.sound.after_change become, follows.kept, follows.sent⟩)
    usage actions lasting ⟨sound, fun _ _ found _ => found, [], by simp, nofun⟩

theorem run_posted (modest : T.Modest) (config : Configuration) (world : S.World)
    (actions : List (Action S.World))
    (lasting : ∀ action ∈ actions, ∀ ticket, action ≠ .drop ticket) :
    ((start config world).run T actions).Posted config :=
  run_keeps T (Posted config) (fun action => ∀ ticket, action ≠ .drop ticket)
    (fun _ demand _ posted => posted.after_begin demand)
    (fun _ ticket posted => posted.after_move modest (posted.sound.stretch_moves ticket))
    (fun _ ticket lasts _ => absurd rfl (lasts ticket))
    (fun _ become posted => posted.after_change become)
    (start config world) actions lasting (start_posted config world)

/-- What a call that had returned sent, it had sent before anything sent by a call not started. -/
theorem sent_in_order {config : Configuration} {earlier later : Usage S}
    (posted : earlier.Posted config) (follows : Follows earlier later) {first second : Sent}
    (firstSent : first ∈ later.stream.outbox.sent)
    (secondSent : second ∈ later.stream.outbox.sent)
    (returned : ∃ call, earlier.calls[first.caller]? = some call ∧ call.Returned)
    (unstarted : ∀ call, earlier.calls[second.caller]? = some call →
      ∃ demand, call = .begin demand) :
    [first, second].Sublist later.stream.outbox.sent := by
  obtain ⟨more, grown, unreturned⟩ := follows.sent
  obtain ⟨call, found, ended⟩ := returned
  rw [grown, List.mem_append] at firstSent secondSent
  have early : first ∈ earlier.stream.outbox.sent := by
    rcases firstSent with early | late
    · exact early
    · exact absurd ended (unreturned first late call found)
  have late : second ∈ more := by
    rcases secondSent with early | late
    · obtain ⟨data, outcome, answered, -⟩ := posted.tidy.told second early
      obtain ⟨demand, same⟩ := unstarted _ answered
      cases demand <;> cases same
    · exact late
  rw [grown]
  exact (List.singleton_sublist.mpr early).append (List.singleton_sublist.mpr late)

/-- One write, one message. In every run in which no call is given up, over a connection that takes
no more bytes than it is given and may otherwise wait and fail at will: no two messages sent are of
one write, and no message is sent twice; a write that succeeded without being skipped has sent its
whole buffer as one message of the configured kind, and counts it; every message sent is the outcome
of a write, being all its bytes where it succeeded, those it reports to have moved where it failed,
and none where it found the stream closed; and what a write sent that had returned before another
was first polled comes before what the other sent. -/
theorem one_message_per_write (T : Transport S) (modest : T.Modest) (config : Configuration)
    (world : S.World) (actions : List (Action S.World))
    (lasting : ∀ action ∈ actions, ∀ ticket, action ≠ .drop ticket) :
    let usage := (start config world).run T actions
    let sent := usage.stream.outbox.sent
    (sent.map Sent.caller).Nodup ∧ (sent.map Sent.number).Nodup ∧
    (∀ (ticket : Ticket) (data : Bytes) (count : Nat),
      usage.calls[ticket]? = some (.write data (.answered (.ok count))) →
      config.skips data = false → count = data.length ∧
        ∃ number, ⟨ticket, number, ⟨config.messageKind, data⟩⟩ ∈ sent) ∧
    (∀ entry ∈ sent, ∃ data outcome,
      usage.calls[entry.caller]? = some (.write data (.answered outcome)) ∧
      config.skips data = false ∧
      entry.message = ⟨config.messageKind, WriteOutcome.payload data outcome⟩) ∧
    (∀ before after, actions = before ++ after → ∀ first ∈ sent, ∀ second ∈ sent,
      (∃ call, ((start config world).run T before).calls[first.caller]? = some call ∧
        call.Returned) →
      (∀ call, ((start config world).run T before).calls[second.caller]? = some call →
        ∃ demand, call = .begin demand) →
      [first, second].Sublist sent) := by
  intro usage sent
  have posted : usage.Posted config := run_posted modest config world actions lasting
  have tidy := posted.tidy
  refine ⟨tidy.callers, tidy.numbers, ?_, ?_, ?_⟩
  · intro ticket data count found kept
    obtain ⟨whole, entry, member, caller⟩ := tidy.means ticket _ found kept
    obtain ⟨other, outcome, answered, -, -, message⟩ := tidy.told entry member
    -- The message sent tells of the write that sent it, and that is the one in question.
    have same : (.write data (.answered (.ok count)) : Call S.recorded) =
        .write other (.answered outcome) :=
      Option.some.inj (found.symm.trans (caller ▸ answered))
    cases same
    refine ⟨whole, entry.number, ?_⟩
    have shape : entry = ⟨ticket, entry.number, ⟨config.messageKind, data⟩⟩ := by
      rw [← caller]
      exact congrArg (Sent.mk entry.caller entry.number) message
    exact shape ▸ member
  · intro entry member
    obtain ⟨data, outcome, answered, kept, -, message⟩ := tidy.told entry member
    exact ⟨data, outcome, answered, kept, message⟩
  · rintro before after rfl first firstSent second secondSent returned unstarted
    have early : ((start config world).run T before).Posted config :=
      run_posted modest config world before fun action member =>
        lasting action (List.mem_append_left _ member)
    have follows : Follows ((start config world).run T before) usage := by
      have later := run_follows (T := T) early.sound after fun action member =>
        lasting action (List.mem_append_right _ member)
      rw [← run_append] at later
      exact later
    exact sent_in_order early follows firstSent secondSent returned unstarted

end Usage

theorem Scripted.transport_modest (setup : Setup) : (transport setup).Modest := by
  intro data ticket stage whole taken answered
  simp only [transport, write] at answered
  split at answered
  · simp only [Progress.ready.injEq, writeNow] at answered
    split at answered
    · cases answered
    · cases answered
      exact Nat.le_trans (bounded_le _ _) (bounded_le _ _)
  · cases answered

namespace Usage

/-- Two writes begin on one message. The second finds it finished and sends another. -/
theorem one_message_per_write_shared :
    let usage := (start {} ({ inbound := [] } : Scripted.World) : Usage Scripted.signature).run
      (Scripted.transport { writeGate := some 0 })
      [.begin (.write [1, 2]), .begin (.write [3]), .poll 0, .poll 1,
        .change fun world => { world with gates := world.gates.notify 0 }, .poll 0, .poll 1,
        .change fun world => { world with gates := world.gates.notify 0 }, .poll 1]
    (Scripted.transport { writeGate := some 0 }).Modest ∧
      (∃ number, ⟨0, number, ⟨.text, [1, 2]⟩⟩ ∈ usage.stream.outbox.sent) ∧
      ∃ number, ⟨1, number, ⟨.text, [3]⟩⟩ ∈ usage.stream.outbox.sent := by
  intro usage
  have modest := Scripted.transport_modest { writeGate := some 0 }
  obtain ⟨-, -, whole, -⟩ := one_message_per_write (Scripted.transport { writeGate := some 0 })
    modest {} { inbound := [] }
    [.begin (.write [1, 2]), .begin (.write [3]), .poll 0, .poll 1,
      .change fun world => { world with gates := world.gates.notify 0 }, .poll 0, .poll 1,
      .change fun world => { world with gates := world.gates.notify 0 }, .poll 1]
    (by simp)
  exact ⟨modest, (whole 0 [1, 2] 2 rfl rfl).2, (whole 1 [3] 1 rfl rfl).2⟩

end Usage

end MessageStream
