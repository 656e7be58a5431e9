import MessageStream.Proofs.Bridge.Ledger
import MessageStream.Proofs.Outbound.OneMessage
import MessageStream.Proofs.Outbound.Shares

/-!
A bridge over a stream that writes to messages. What messages have accepted from a call is the
ledger of such a stream: a write has had accepted as many of its bytes as it takes for written, and
no other call adds to its entry. So a bridge answers a poll for a write with bytes of that write,
counted from its first, and never with those of one whose caller has gone.
-/
namespace MessageStream

deriving instance DecidableEq for Outcome
deriving instance DecidableEq for Bridge.Deed

variable {S : Signature}

def WriteStage.written : WriteStage S → Nat
  | .filling _ written _ => written
  | .finishing _ written _ _ => written
  | _ => 0

namespace Write

variable {T : Transport S}

def stepWritten : Step (WriteStage S) WriteOutcome → Nat
  | .waiting stage => stage.written
  | .onward stage => stage.written
  | .ready outcome => outcome.moved

/-- A stretch of a write has so many more of its bytes accepted, and none of any other call. -/
def Gains (data : Bytes) (ticket : Ticket) (written : Nat) (stream : Stream S.recorded)
    (polled : Stream S.recorded × Step (WriteStage S.recorded) WriteOutcome) : Prop :=
  ∃ count ≤ data.length - written, stepWritten polled.2 = written + count ∧
    ∀ caller, polled.1.acceptedFrom caller = stream.acceptedFrom caller ++
      if ticket = caller then (data.drop written).take count else []

theorem Gains.of_same_shares {data : Bytes} {ticket : Ticket} {written : Nat}
    {stream : Stream S.recorded}
    {polled : Stream S.recorded × Step (WriteStage S.recorded) WriteOutcome}
    (shares : polled.1.shares = stream.shares) (same : stepWritten polled.2 = written) :
    Gains data ticket written stream polled := by
  refine ⟨0, Nat.zero_le _, same, ?_⟩
  intro caller
  rw [Stream.acceptedFrom_same shares, List.take_zero, ite_self, List.append_nil]

theorem fillOrFinish_written (data : Bytes) (number written : Nat) :
    (fillOrFinish data number written : WriteStage S).written = written := by
  unfold fillOrFinish
  split <;> rfl

section Stretches

variable (T : Transport S) (data : Bytes) (ticket : Ticket) (stream : Stream S.recorded)

theorem ask_gains (stage : Option S.WriterOpening) :
    Gains data ticket 0 stream (ask T.recorded ticket stage stream) := by
  have polled := Stream.nextWriter_shares T ticket stream stream.state.config.messageKind stage
  unfold ask
  generalize (Stream.onConnection (T.recorded.nextWriter stream.state.config.messageKind)).poll
    ticket stage stream = result at polled ⊢
  obtain ⟨after, later | source | writer⟩ := result
  · exact .of_same_shares polled rfl
  · have same := Stream.shares_same (Stream.giveBack_traffic T after ticket)
    exact .of_same_shares (same.trans polled) rfl
  · simp only [opened]
    split
    · exact .of_same_shares polled rfl
    · refine .of_same_shares ((Stream.shares_same ?_).trans polled) rfl
      simp

theorem admitted_gains (number : Nat) :
    Gains data ticket 0 stream (admitted T.recorded data number ticket stream) := by
  unfold admitted
  split
  · split
    · have traffic := Stream.retireWriter_traffic T stream number ticket
      exact .of_same_shares (Stream.shares_same traffic) rfl
    · exact .of_same_shares rfl (fillOrFinish_written data number 0)
  · exact .of_same_shares rfl rfl

theorem finished_gains (number written : Nat) (failure : Option Failure)
    (result : Except Failure Unit) :
    Gains data ticket written stream
      (finished T.recorded number written failure result ticket stream) := by
  have traffic := Stream.retireWriter_traffic T stream number ticket
  unfold finished
  rcases failure with _ | source
  · rcases result with source | nothing
    · exact .of_same_shares (Stream.shares_same traffic) rfl
    · exact .of_same_shares (Stream.shares_same traffic) rfl
  · exact .of_same_shares (Stream.shares_same traffic) rfl

theorem advance_gains (modest : T.Modest) (stage : WriteStage S.recorded) :
    Gains data ticket stage.written stream (advance T.recorded data ticket stage stream) := by
  cases stage with
  | start =>
    simp only [advance, start]
    split
    · exact .of_same_shares rfl rfl
    · split
      · exact .of_same_shares rfl rfl
      · split
        · exact .of_same_shares rfl rfl
        · exact ask_gains T data ticket (stream.borrow ticket) none
  | opening stage => exact ask_gains T data ticket stream (some stage)
  | discarding number stage =>
    have polled := Stream.finish_shares T ticket stream number stage
    simp only [advance]
    generalize (Stream.onWriter number (Outbound.finish T.recorded)).poll ticket stage stream =
      result at polled ⊢
    obtain ⟨after, later | answer⟩ := result
    · exact .of_same_shares polled rfl
    · refine .of_same_shares ((Stream.shares_same ?_).trans polled) rfl
      simp
  | queued number =>
    simp only [advance]
    split
    · exact admitted_gains T data ticket stream number
    · exact .of_same_shares rfl rfl
  | filling number written stage =>
    have polled := Stream.writer_shares T ticket stream number (data.drop written) stage
    simp only [advance, WriteStage.written]
    generalize (Stream.onWriter number (Outbound.write T.recorded (data.drop written))).poll
      ticket stage stream = result at polled ⊢
    rcases polled with ⟨same, uncounted⟩ | ⟨other, count, whole, counted, grown, answered⟩
    · obtain ⟨after, later | _ | source | count⟩ := result
      · exact .of_same_shares same rfl
      · exact .of_same_shares same rfl
      · exact .of_same_shares same rfl
      · exact absurd rfl (uncounted count)
    · obtain ⟨after, progress⟩ := result
      subst counted
      -- A modest connection takes no more than it was offered.
      have few : count ≤ data.length - written := by
        rw [← List.length_drop]
        exact modest (data.drop written) ticket stage whole count answered
      have shared (caller : Ticket) := Stream.acceptedFrom_push grown caller
      cases count with
      | zero => exact ⟨0, few, rfl, shared⟩
      | succ taken =>
        exact ⟨taken + 1, few, fillOrFinish_written data number (written + (taken + 1)), shared⟩
  | finishing number written failure stage =>
    have polled := Stream.finish_shares T ticket stream number stage
    simp only [advance, WriteStage.written]
    generalize (Stream.onWriter number (Outbound.finish T.recorded)).poll ticket stage stream =
      result at polled ⊢
    obtain ⟨after, later | answer⟩ := result
    · exact .of_same_shares polled rfl
    · obtain ⟨count, few, same, shared⟩ :=
        finished_gains T data ticket after number written failure (answer.getD (.ok ()))
      rw [Stream.acceptedFrom_same polled] at shared
      exact ⟨count, few, same, shared⟩

end Stretches

def Stands (data : Bytes) (written : Nat) (accepted : Bytes) : Prop :=
  written ≤ data.length ∧ accepted = data.take written

theorem Gains.stands_after_gain {data : Bytes} {ticket : Ticket} {written : Nat}
    {stream : Stream S.recorded}
    {polled : Stream S.recorded × Step (WriteStage S.recorded) WriteOutcome}
    (gains : Gains data ticket written stream polled)
    (stands : Stands data written (stream.acceptedFrom ticket)) :
    Stands data (stepWritten polled.2) (polled.1.acceptedFrom ticket) := by
  obtain ⟨count, few, same, shared⟩ := gains
  obtain ⟨within, accepted⟩ := stands
  rw [Stands, same, shared ticket, if_pos rfl, accepted, ← List.take_add]
  exact ⟨by omega, rfl⟩

theorem Gains.acceptedFrom_other {data : Bytes} {ticket : Ticket} {written : Nat}
    {stream : Stream S.recorded}
    {polled : Stream S.recorded × Step (WriteStage S.recorded) WriteOutcome}
    (gains : Gains data ticket written stream polled) {caller : Ticket}
    (different : caller ≠ ticket) :
    polled.1.acceptedFrom caller = stream.acceptedFrom caller := by
  obtain ⟨count, -, -, shared⟩ := gains
  rw [shared caller, if_neg different.symm, List.append_nil]

theorem poll_stands (modest : T.Modest) (data : Bytes) (ticket : Ticket)
    (stage : Option (WriteStage S.recorded)) (stream : Stream S.recorded)
    (standing : Stands data (stage.getD .start).written (stream.acceptedFrom ticket)) :
    let polled := (Stream.write T.recorded data).poll ticket stage stream
    polled.2.Meets (fun stage stream => Stands data stage.written (stream.acceptedFrom ticket))
      (fun outcome stream => Stands data outcome.moved (stream.acceptedFrom ticket)) polled.1 := by
  have meets (stage : WriteStage S.recorded) (stream : Stream S.recorded)
      (standing : Stands data stage.written (stream.acceptedFrom ticket)) :
      Step.Meets (fun stage stream => Stands data stage.written (stream.acceptedFrom ticket))
        (fun outcome stream => Stands data outcome.moved (stream.acceptedFrom ticket))
        (advance T.recorded data ticket stage stream).2
        (advance T.recorded data ticket stage stream).1 := by
    have stands := (advance_gains T data ticket stream modest stage).stands_after_gain standing
    rcases result : advance T.recorded data ticket stage stream with
      ⟨after, later | later | answer⟩ <;> rw [result] at stands <;> exact stands
  exact Step.run_meets meets _ _ _ standing

end Write

namespace Stream

variable {T : Transport S}

def ledger (modest : T.Modest) : (Stream.calls T.recorded).Ledger where
  accepted := acceptedFrom
  stands data stage := Write.Stands data (stage.getD .start).written
  starts data := ⟨Nat.zero_le _, rfl⟩
  read room ticket stage stream :=
    acceptedFrom_same (Step.run_same shares (Read.advance_shares T room ticket) _ _ _)
  close ticket stage stream :=
    acceptedFrom_same (Step.run_same shares (Close.advance_shares T ticket) _ _ _)
  other data ticket stage stream caller different :=
    Step.run_same (acceptedFrom · caller)
      (fun stream stage =>
        (Write.advance_gains T data ticket stream modest stage).acceptedFrom_other different)
      _ _ _
  waits := by
    intro data ticket stage stream after later standing polled
    have stands := Write.poll_stands modest data ticket stage stream standing
    change (Stream.write T.recorded data).poll ticket stage stream = _ at polled
    rwa [polled] at stands
  ends := by
    intro data ticket stage stream after outcome standing polled
    have stands := Write.poll_stands modest data ticket stage stream standing
    change (Stream.write T.recorded data).poll ticket stage stream = _ at polled
    rwa [polled] at stands

end Stream

namespace Bridged

theorem polled_again {World Reading Writing Closing : Type}
    {calls : StreamCalls World Reading Writing Closing}
    {bridged : Bridged World Reading Writing Closing}
    (tended : Bridge.Tended bridged.bridge bridged.record bridged.next)
    {call : InFlight Bytes Writing} (under : bridged.bridge.writing = some call) :
    (Bridge.Tally.of (bridged.step calls (.poll (.write call.request))).record).begun =
      (Bridge.Tally.of bridged.record).begun := by
  have polls := Bridge.pollWrite_polls calls.recorded bridged.next call.request tended.order
    (bridged.world, bridged.record)
  rw [← polls.begun_unchanged tended under rfl]
  simp [step, poll, Bridge.Tally.of_snoc, Bridge.Deed.begins]

/-- A bridge answers for its own bytes only. Over a connection that takes no more bytes than it is
given, however the bridge is polled and whatever others do to the stream and its connection: its
writes follow each other, and a poll with the bytes of the one in flight begins none; a count is
told right behind the end of a write that was begun with the bytes the poll is for, of which so many
and no others have been accepted, counted from the first; no two counts are of one write, and that
of a write which ends in a poll for anything else is told to nobody. -/
theorem counts_own_bytes (T : Transport S) (modest : T.Modest) (stream : Stream S.recorded)
    (first : Ticket) (unused : ∀ ticket, first ≤ ticket → stream.acceptedFrom ticket = [])
    (actions : List (Action (Stream S.recorded)))
    (leaves : ∀ action ∈ actions, action.Leaves Stream.acceptedFrom first) :
    let calls := Stream.calls T.recorded
    let bridged := Bridged.run calls { world := stream, next := first } actions
    let begun := fun record => (Bridge.Tally.of record).begun
    begun bridged.record = (Bridge.Tally.of bridged.record).ended ++
        (bridged.bridge.writing.map InFlight.ticket).toList ∧
      (begun bridged.record).Nodup ∧
      (∀ call, bridged.bridge.writing = some call →
        begun (bridged.step calls (.poll (.write call.request))).record = begun bridged.record) ∧
      Bridge.OwnCounts bridged.record bridged.world.acceptedFrom := by
  intro calls bridged begun
  have sound : Sound (Stream.ledger modest) first bridged :=
    run_sound (Stream.ledger modest) stream first unused actions leaves
  obtain ⟨tended, accounted⟩ := sound
  obtain ⟨order, ended, next, small, left⟩ := tended
  refine ⟨?_, left.to_balances.once, ?_, accounted.ownCounts left⟩
  · have writes := left.to_balances.writes
    rwa [Bridge.duty, Option.map_map] at writes
  · intro call under
    exact polled_again ⟨order, ended, next, small, left⟩ under

/-- A write of two bytes loses its caller to one of a single byte, which is told of its own. -/
theorem counts_own_bytes_abandoned :
    let T := Scripted.transport { writeGate := some 0 }
    let stream : Stream Scripted.signature.recorded :=
      { state := .new {}, world := { inner := { inbound := [] } } }
    let notify : Action (Stream Scripted.signature.recorded) := .change fun stream =>
      { stream with world := { stream.world with
          inner := { stream.world.inner with gates := stream.world.inner.gates.notify 0 } } }
    let actions := [.poll (.write [1, 2]), .poll .flush, notify, .poll (.write [3]), notify,
      .poll (.write [3])]
    let bridged := Bridged.run (Stream.calls T.recorded) { world := stream } actions
    T.Modest ∧ (∀ ticket, 0 ≤ ticket → stream.acceptedFrom ticket = []) ∧
      (∀ action ∈ actions, action.Leaves Stream.acceptedFrom 0) ∧
      .answered (.write [3]) (.count 1) ∈ bridged.record ∧
      ∃ ticket outcome, .begun ticket (.write [3]) ∈ bridged.record ∧
        .ended ticket (.write outcome) ∈ bridged.record ∧ outcome.moved = 1 ∧
        bridged.world.acceptedFrom ticket = [3] := by
  intro T stream notify actions bridged
  have modest : T.Modest := Scripted.transport_modest _
  have unused (ticket : Ticket) (_ : 0 ≤ ticket) : stream.acceptedFrom ticket = [] := rfl
  have leaves : ∀ action ∈ actions, action.Leaves Stream.acceptedFrom 0 := by
    have notifies : notify.Leaves Stream.acceptedFrom 0 := fun _ _ _ => rfl
    simp only [actions, List.forall_mem_cons]
    exact ⟨trivial, trivial, notifies, trivial, notifies, trivial, List.forall_mem_nil _⟩
  have answered : .answered (.write [3]) (.count 1) ∈ bridged.record := by decide +kernel
  obtain ⟨-, -, -, own⟩ := counts_own_bytes T modest stream 0 unused actions leaves
  obtain ⟨before, after, split⟩ := List.append_of_mem answered
  obtain ⟨data, earlier, ticket, outcome, asked, place, begun, moved, -, accepted⟩ :=
    own.told _ _ _ _ split
  cases asked
  refine ⟨modest, unused, leaves, answered, ticket, outcome, ?_, ?_, moved, accepted⟩
  · simp [split, place, begun]
  · simp [split, place]

end Bridged

end MessageStream
