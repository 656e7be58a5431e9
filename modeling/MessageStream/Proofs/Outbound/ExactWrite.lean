import MessageStream.Proofs.Outbound.ScriptedWrite

/-!
# The exact outcome of a write

A write nobody disturbs, begun on a stream that has been used in any way before, from its first poll
to its answer.
-/

namespace MessageStream

namespace Scripted

variable {setup : Setup} {config : Configuration} {data : Bytes} {ticket : Ticket}
  {before : World}

/-- A step that moves no other call: the write is polled, or a gate is notified. -/
inductive Beat where
  | poll
  | notify (gate : Nat)
  deriving DecidableEq, Repr

def Beat.action (ticket : Ticket) : Beat → Action World
  | poll => .poll ticket
  | notify gate => .change (World.notified gate)

/-- Whoever uses the stream begins calls, polls them and gives them up, and gates are notified. -/
def Proper (actions : List (Action World)) : Prop :=
  ∀ become, Action.change become ∈ actions → ∃ gate, become = World.notified gate

theorem Undisturbed.after_notification {stage : WriteStage signature.recorded}
    {usage : Usage signature}
    (undisturbed : Undisturbed setup config data ticket before stage usage.stream) (gate : Nat) :
    Undisturbed setup config data ticket before stage
      (usage.step (transport setup) (.change (World.notified gate))).stream := by
  obtain ⟨⟨readers, writers, inbound, outbound⟩, standing, configured, unclosed, stands⟩ :=
    undisturbed
  have aside {world : World} (same : world.AsideGates usage.stream.world.inner) :
      world.AsideGates (usage.stream.world.inner.notified gate) :=
    same.trans (World.notified_aside gate _)
  refine ⟨⟨readers, writers, inbound, outbound⟩, standing, configured, unclosed, ?_⟩
  cases stands with
  | start vacant same => exact .start vacant (aside same)
  | opening opens vacant same => exact .opening opens vacant (aside same)
  | queued opens current found same => exact .queued opens current found (aside same)
  | filling opens current found short fits same =>
    exact .filling opens current found short fits (aside same)
  | finishing opens current found all stalled same =>
    exact .finishing opens current found all stalled (aside same)

theorem Waits.after_notification {stage : WriteStage signature.recorded} {world : World}
    (waits : Waits setup ticket stage world) (gate : Nat) :
    Waits setup ticket stage (world.notified gate) := by
  rcases stage with _ | _ | _ | _ | ⟨number, written, _ | nothing⟩ | _
  all_goals first | exact World.Awaits.after_notification waits gate | exact waits

theorem Waits.opens_after_notifications {stage : WriteStage signature.recorded} {world : World}
    (waits : Waits setup ticket stage world) :
    ∃ number count, Passes setup ticket stage ((World.notified number)^[count] world) := by
  rcases stage with _ | _ | _ | _ | ⟨number, written, _ | nothing⟩ | _
  all_goals first | exact World.Awaits.opens_after_notifications waits | exact waits.elim

theorem Waits.has_gate {stage : WriteStage signature.recorded} {world : World}
    (waits : Waits setup ticket stage world) :
    setup.writerGate ≠ none ∨ setup.writeGate ≠ none := by
  rcases stage with _ | _ | _ | _ | ⟨number, written, _ | nothing⟩ | _
  · exact waits.elim
  · obtain ⟨gate, there, -⟩ := waits
    exact .inl (there ▸ nofun)
  · exact waits.elim
  · exact waits.elim
  · exact waits.elim
  · obtain ⟨gate, there, -⟩ := waits
    exact .inr (there ▸ nofun)
  · exact waits.elim

/-- How far an undisturbed write has come: it has not been polled, is at a gate, or has answered as
it should. -/
inductive Runs (setup : Setup) (config : Configuration) (data : Bytes) (ticket : Ticket)
    (before : World) (bound : Nat) (usage : Usage signature) : Prop where
  | fresh (found : usage.calls[ticket]? = some (.write data .fresh))
      (undisturbed : Undisturbed setup config data ticket before .start usage.stream)
      (near : stretchesLeft data .start + 1 < bound)
  | waits {stage : WriteStage signature.recorded}
      (found : usage.calls[ticket]? = some (.write data (.waiting stage)))
      (undisturbed : Undisturbed setup config data ticket before stage usage.stream)
      (waits : Waits setup ticket stage usage.stream.world.inner)
      (near : stretchesLeft data stage < bound)
  | answered {outcome : WriteOutcome}
      (found : usage.calls[ticket]? = some (.write data (.answered outcome)))
      (done : Done setup config data before outcome usage.stream)

namespace Runs

variable {usage : Usage signature} {bound : Nat}

theorem after_notice (runs : Runs setup config data ticket before bound usage) (gate : Nat) :
    Runs setup config data ticket before bound
      (usage.step (transport setup) (.change (World.notified gate))) := by
  cases runs with
  | fresh found undisturbed near => exact .fresh found (undisturbed.after_notification gate) near
  | waits found undisturbed waits near =>
    exact .waits found (undisturbed.after_notification gate) (waits.after_notification gate) near
  | answered found done =>
    exact .answered found
      ⟨done.answers, done.vacant, done.world.trans (World.notified_aside gate _)⟩

theorem of_reaches (stage : Option (WriteStage signature.recorded))
    (found : usage.calls[ticket]? = some (.write data (stage.elim .fresh .waiting)))
    (reaches : Reaches setup config data ticket before bound
      ((Stream.write (transport setup).recorded data).poll ticket stage usage.stream).2
      ((Stream.write (transport setup).recorded data).poll ticket stage usage.stream).1) :
    Runs setup config data ticket before bound (usage.step (transport setup) (.poll ticket)) := by
  have inside := (List.getElem?_eq_some_iff.mp found).1
  have polled : usage.step (transport setup) (.poll ticket) =
      ⟨((Stream.write (transport setup).recorded data).poll ticket stage usage.stream).1,
        usage.calls.set ticket (.write data (.ofProgress
          ((Stream.write (transport setup).recorded data).poll ticket stage usage.stream).2))⟩ := by
    cases stage <;> simp only [Usage.step, Usage.onCall, found] <;> rfl
  rw [polled]
  rcases result : (Stream.write (transport setup).recorded data).poll ticket stage usage.stream with
    ⟨after, later | outcome⟩ <;> rw [result] at reaches
  · exact .waits (List.getElem?_set_self inside) reaches.1 reaches.2.1 reaches.2.2
  · exact .answered (List.getElem?_set_self inside) reaches

theorem after_notifications (number count : Nat) {stage : WriteStage signature.recorded}
    (found : usage.calls[ticket]? = some (.write data (.waiting stage)))
    (undisturbed : Undisturbed setup config data ticket before stage usage.stream) :
    let after := usage.run (transport setup)
      ((List.replicate count (.notify number)).map (Beat.action ticket))
    after.calls[ticket]? = some (.write data (.waiting stage)) ∧
      Undisturbed setup config data ticket before stage after.stream ∧
      after.stream.world.inner = (World.notified number)^[count] usage.stream.world.inner := by
  induction count generalizing usage with
  | zero => exact ⟨found, undisturbed, rfl⟩
  | succ count ih => exact ih found (undisturbed.after_notification number)

theorem after_poll (runs : Runs setup config data ticket before bound usage) :
    Runs setup config data ticket before bound (usage.step (transport setup) (.poll ticket)) := by
  cases runs with
  | fresh found undisturbed near =>
    exact of_reaches none found (Undisturbed.poll_reaches none undisturbed
      (.inl (Nat.lt_of_succ_lt near)))
  | waits found undisturbed waits near =>
    exact of_reaches (some _) found (Undisturbed.poll_reaches (some _) undisturbed
      (.inl near))
  | answered found done =>
    have same : usage.step (transport setup) (.poll ticket) = usage := by
      simp only [Usage.step, Usage.onCall, found, Call.poll, Phase.poll, Prod.map, id]
      rw [Usage.set_found found]
    rw [same]
    exact .answered found done

theorem done_of_answered (runs : Runs setup config data ticket before bound usage)
    {outcome : WriteOutcome}
    (answered : usage.calls[ticket]? = some (.write data (.answered outcome))) :
    Done setup config data before outcome usage.stream := by
  cases runs with
  | fresh found => cases found.symm.trans answered
  | waits found => cases found.symm.trans answered
  | answered found done =>
    cases found.symm.trans answered
    exact done

theorem after_beats (runs : Runs setup config data ticket before bound usage)
    (beats : List Beat) :
    Runs setup config data ticket before bound
      (usage.run (transport setup) (beats.map (Beat.action ticket))) := by
  induction beats generalizing usage with
  | nil => exact runs
  | cons beat rest ih =>
    cases beat with
    | poll => exact ih runs.after_poll
    | notify gate => exact ih (runs.after_notice gate)

theorem reaches_answer (runs : Runs setup config data ticket before bound usage) :
    ∃ (later : List Beat) (outcome : WriteOutcome),
      (usage.run (transport setup) (later.map (Beat.action ticket))).calls[ticket]? =
        some (.write data (.answered outcome)) := by
  -- Each poll of a write that is let through leaves fewer stretches to come.
  induction bound using Nat.strongRecOn generalizing usage with
  | ind bound ih =>
    cases runs with
    | answered found done => exact ⟨[], _, found⟩
    | fresh found undisturbed near =>
      have polled := of_reaches none found (Undisturbed.poll_reaches none undisturbed
        (.inl (Nat.lt_succ_self _)))
      obtain ⟨later, outcome, answered⟩ := ih _ near polled
      exact ⟨.poll :: later, outcome, answered⟩
    | waits found undisturbed waits near =>
      rename_i stage
      obtain ⟨number, count, passes⟩ := waits.opens_after_notifications
      obtain ⟨there, still, reached⟩ := after_notifications number count found undisturbed
      rw [← reached] at passes
      have polled := Runs.of_reaches (some stage) there
        (Undisturbed.poll_reaches (some stage) still (.inr ⟨rfl, passes⟩))
      obtain ⟨later, outcome, answered⟩ := ih _ near polled
      refine ⟨List.replicate count (.notify number) ++ .poll :: later, outcome, ?_⟩
      rw [List.map_append, Usage.run_append]
      exact answered

theorem answers_without_gates (opening : setup.writerGate = none) (filling : setup.writeGate = none)
    (found : usage.calls[ticket]? = some (.write data .fresh))
    (undisturbed : Undisturbed setup config data ticket before .start usage.stream) :
    ∃ outcome, (usage.step (transport setup) (.poll ticket)).calls[ticket]? =
      some (.write data (.answered outcome)) := by
  have reaches := Undisturbed.poll_reaches none undisturbed (.inl (Nat.lt_succ_self _))
  have inside := (List.getElem?_eq_some_iff.mp found).1
  have polled : (usage.step (transport setup) (.poll ticket)).calls[ticket]? =
      some (.write data (.ofProgress
        ((Stream.write (transport setup).recorded data).poll ticket none usage.stream).2)) := by
    simp only [Usage.step, Usage.onCall, found]
    exact List.getElem?_set_self inside
  rw [polled]
  rcases result : (Stream.write (transport setup).recorded data).poll ticket none usage.stream with
    ⟨after, later | outcome⟩ <;> rw [result] at reaches
  · rcases reaches.2.1.has_gate with gated | gated
    · exact absurd opening gated
    · exact absurd filling gated
  · exact ⟨outcome, rfl⟩

end Runs

theorem skipped_beats {usage other : Usage signature} (same : other.stream = usage.stream)
    (standing : usage.stream.state.isClosed = false)
    (skips : usage.stream.state.config.skips data = true)
    (found : usage.calls[ticket]? = some (.write data .fresh) ∨
      usage.calls[ticket]? = some (.write data (.answered (.ok 0)))) (beats : List Beat) :
    (usage.run (transport setup) (beats.map (Beat.action ticket))).stream =
      (other.run (transport setup)
        ((beats.filter (· != .poll)).map (Beat.action ticket))).stream := by
  induction beats generalizing usage other with
  | nil => exact same.symm
  | cons beat rest ih =>
    cases beat with
    | notify gate =>
      have notified : (other.step (transport setup) (.change (World.notified gate))).stream =
          (usage.step (transport setup) (.change (World.notified gate))).stream := by
        simp only [Usage.step, same]
      exact ih notified standing skips found
    | poll =>
      have polled : usage.step (transport setup) (.poll ticket) =
          { usage with calls := usage.calls.set ticket (.write data (.answered (.ok 0))) } := by
        rcases found with found | found
        · simp [Usage.step, Usage.onCall, found, Call.poll, Phase.poll, Stream.write, Write.limit,
            Step.run, Write.advance, Write.start, standing, skips, Phase.ofProgress]
        · simp [Usage.step, Usage.onCall, found, Call.poll, Phase.poll]
      have inside : ticket < usage.calls.length := by
        rcases found with found | found <;> exact (List.getElem?_eq_some_iff.mp found).1
      have kept : (usage.step (transport setup) (.poll ticket)).stream = usage.stream := by
        rw [polled]
      have answered : (usage.step (transport setup) (.poll ticket)).calls[ticket]? =
          some (.write data (.answered (.ok 0))) := by
        rw [polled]
        exact List.getElem?_set_self inside
      exact ih (same.trans kept.symm) (kept ▸ standing) (kept ▸ skips) (.inr answered)

def Setup.used (setup : Setup) (config : Configuration) (inbound : List Inbound)
    (history : List (Action World)) : Usage signature :=
  (Usage.start config ({ inbound } : World)).run (transport setup) history

/-- The exact outcome of a write. On a stream that is open and has no current outbound message,
whatever calls have been made on it before, a write is begun and polled while no other call moves,
and gates are notified as it may be. Whenever it has answered, its answer, the messages sent and the
numbers of messages opened and finished are those the script says, nothing else of the connection
has changed but the gates, and the stream has no current outbound message again; a write that is
skipped leaves everything as it is. The write does answer: at its first poll where the script has no
gate for it, and after some more notifications and polls from wherever it is. How many bytes one
call takes at most makes no difference unless it takes none. -/
theorem write_comes_to (setup : Setup) (config : Configuration) (inbound : List Inbound)
    (history : List (Action World)) (proper : Proper history)
    (standing : (setup.used config inbound history).stream.state.isClosed = false)
    (vacant : (setup.used config inbound history).stream.state.outbound = none)
    (data : Bytes) (beats : List Beat) :
    let T := transport setup
    let before := setup.used config inbound history
    let ticket := before.calls.length
    let begun := before.step T (.begin (.write data))
    let after := begun.run T (beats.map (Beat.action ticket))
    (∀ outcome, after.calls[ticket]? = some (.write data (.answered outcome)) →
      Done setup config data before.stream.world.inner outcome after.stream) ∧
    (config.skips data = true → after.stream =
      (before.run T ((beats.filter (· != .poll)).map (Beat.action ticket))).stream) ∧
    (setup.writerGate = none → setup.writeGate = none → ∃ outcome,
      (begun.step T (.poll ticket)).calls[ticket]? = some (.write data (.answered outcome))) ∧
    (∃ (later : List Beat) (outcome : WriteOutcome),
      (after.run T (later.map (Beat.action ticket))).calls[ticket]? =
        some (.write data (.answered outcome))) ∧
    (setup.writeChunk ≠ some 0 → ∀ chunk, chunk ≠ some 0 →
      let other : Setup := { setup with writeChunk := chunk }
      other.answer config data = setup.answer config data ∧
        ∀ world : World, world.written other config data = world.written setup config data) := by
  intro T before ticket begun after
  have started : (Usage.start (S := signature) config { inbound }).Sound :=
    Usage.start_sound config _
  have sound : before.Sound := started.after_run history
  -- Only a close closes the connection, and none has been polled on a stream that stands.
  have unclosed : before.stream.world.inner.closed = false := by
    refine Usage.open_spares (transport_spares setup) config { inbound } history ?_ standing
    intro become member world
    obtain ⟨gate, rfl⟩ := proper become member
    rfl
  have configured : before.stream.state.config = config :=
    Usage.run_config started history
  have undisturbed : Undisturbed setup config data ticket before.stream.world.inner .start
      begun.stream :=
    ⟨sound.enumerated, standing, configured, unclosed, .start vacant rfl⟩
  have found : begun.calls[ticket]? = some (.write data .fresh) := by
    simp [begun, ticket, Usage.step, Call.begin]
  have runs : Runs setup config data ticket before.stream.world.inner (data.length + 6) begun :=
    .fresh found undisturbed (Nat.lt_succ_self _)
  have later : Runs setup config data ticket before.stream.world.inner (data.length + 6) after :=
    runs.after_beats beats
  refine ⟨fun outcome answered => later.done_of_answered answered, fun skips => ?_, ?_,
    later.reaches_answer, ?_⟩
  · have same : before.stream = begun.stream := rfl
    have idle : begun.stream.state.config.skips data = true := configured.symm ▸ skips
    exact skipped_beats same undisturbed.standing idle (.inl found) beats
  · exact fun opening filling => Runs.answers_without_gates opening filling found undisturbed
  · intro takes chunk other_takes other
    have same : other.takes data = setup.takes data := by
      simp [Setup.takes, other, takes, other_takes]
    refine ⟨?_, fun world => ?_⟩
    · simp only [Setup.answer, same]
      rfl
    · simp only [World.written, same]
      rfl

/-- A script whose writers take two bytes at a time and three in all, each at a gate, and fail to
finish. -/
def Setup.failing : Setup :=
  { writeChunk := some 2, writeLimit := some 3, failFinish := true, writeGate := some 0 }

/-- Of four bytes the writers of that script take three. The write comes upon a read that is
waiting, and says that no more was taken, not that its writer failed to finish. -/
theorem write_comes_to_short :
    let T := transport Setup.failing
    let history : List (Action World) := [.begin (.read 1), .poll 0]
    let before := Setup.failing.used {} [.ok [7]] history
    let after := (before.step T (.begin (.write [1, 2, 3, 4]))).run T
      ([Beat.poll, .notify 0, .poll, .notify 0, .poll, .notify 0, .poll].map (Beat.action 1))
    let outcome : WriteOutcome := .error (.transport 3 (.bare .writeZero))
    Proper history ∧ before.stream.state.isClosed = false ∧
      before.stream.state.outbound = none ∧
      after.calls[1]? = some (.write [1, 2, 3, 4] (.answered outcome)) ∧
      Done Setup.failing {} [1, 2, 3, 4] before.stream.world.inner outcome after.stream := by
  have proper : Proper [.begin (.read 1), .poll 0] := by simp [Proper]
  have standing : (Setup.failing.used {} [.ok [7]]
      [.begin (.read 1), .poll 0]).stream.state.isClosed = false := rfl
  have vacant : (Setup.failing.used {} [.ok [7]]
      [.begin (.read 1), .poll 0]).stream.state.outbound = none := rfl
  have comes := write_comes_to Setup.failing {} [.ok [7]] _ proper standing vacant [1, 2, 3, 4]
    [.poll, .notify 0, .poll, .notify 0, .poll, .notify 0, .poll]
  exact ⟨proper, standing, vacant, rfl, comes.1 _ rfl⟩

end Scripted

end MessageStream
