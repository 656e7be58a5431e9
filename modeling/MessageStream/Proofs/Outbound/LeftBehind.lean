import MessageStream.Proofs.Outbound.Deals
import MessageStream.Proofs.Outbound.OneMessage

/-!
What a write leaves behind when it is given up. The bytes a message has accepted from it stay in the
message, which stays open, so the next write at it puts its own behind them and sends both. In
every run, a write that succeeds sends one message: the bytes left in it by writes given up, and
then its own.
-/
namespace MessageStream

variable {S : Signature} {T : Transport S}

def WriteStage.filled (data : Bytes) : WriteStage S → Option Work
  | .filling number written _ => some ⟨number, data.take written, false⟩
  | .finishing number written _ stage => some ⟨number, data.take written, stage.isSome⟩
  | _ => none

theorem WriteStage.filled_place {data : Bytes} {stage : WriteStage S} {work : Work}
    (filled : stage.filled data = some work) : stage.place = some (work.number, true) := by
  cases stage <;> cases filled <;> rfl

theorem Write.fillOrFinish_filled (data : Bytes) (number written : Nat) :
    (fillOrFinish data number written : WriteStage S).filled data =
      some ⟨number, data.take written, false⟩ := by
  unfold fillOrFinish
  split <;> rfl

theorem WriterComes.fills_none {ticket : Ticket} {resumed : Bool} {stream after : Stream S.recorded}
    {step : Step (WriteStage S.recorded) WriteOutcome}
    (comes : WriterComes T ticket resumed stream step after) {config : Configuration} {data : Bytes}
    (sent : config.skips data = false) :
    (∀ later, (Phase.ofStep step).next? .start = some later →
      later.Fair config data ∧ later.filled data = none) ∧
    ∀ count, step ≠ .ready (.ok count) := by
  cases comes with
  | fails => exact ⟨nofun, nofun⟩
  | _ =>
    refine ⟨?_, nofun⟩
    rintro later ⟨⟩
    exact ⟨sent, rfl⟩

theorem Stream.polled_sent (stream : Stream S.recorded) (ticket : Ticket) (number : Nat)
    (rest : Bytes) (resumed : Bool) (reply : Option Reply) (content : S.Writer) (finished : Bool)
    (inner : S.World) :
    ((stream.putWriter number content finished).heard inner
      (Traffic.ofPoll ticket (.write number rest) resumed reply)).outbox.sent =
      stream.outbox.sent := by
  rw [heard_outbox, Outbox.hear_write, putWriter_outbox]
  rfl

def Call.writes : Call S → Bool
  | .write _ _ => true
  | _ => false

def Call.leaves : Call S → Bool
  | .write _ (.dropped _) => true
  | _ => false

theorem Call.leaves_next {data : Bytes} {phase : Phase (WriteStage S) WriteOutcome}
    {stage : WriteStage S} (next : phase.next? .start = some stage) :
    (Call.write data phase).leaves = false := by
  cases phase with
  | dropped stage => cases next
  | _ => rfl

/-- A call with a share in a message: a write which has been given up or has the turn at it still,
unless the message has been finished. -/
inductive Call.Contributes (finished : List Bool) (number : Nat) : Call S → Prop where
  | dropped (data : Bytes) (stage : Option (WriteStage S)) :
    Contributes finished number (.write data (.dropped stage))
  | turn {data : Bytes} {stage : WriteStage S} (placed : stage.place = some (number, true)) :
    Contributes finished number (.write data (.waiting stage))
  | past {data : Bytes} {phase : Phase (WriteStage S) WriteOutcome}
      (settled : finished[number]? = some true) : Contributes finished number (.write data phase)

namespace Usage

def Dropped (usage : Usage S) (ticket : Ticket) : Prop :=
  ∃ data stage, usage.calls[ticket]? = some (.write data (.dropped stage))

def sentBy (usage : Usage S) (ticket : Ticket) : List Sent :=
  usage.stream.outbox.sent.filter (·.caller = ticket)

/-- Others with a share in a message have been given up. -/
def OnlyDropped (usage : Usage S) (number : Nat) (ticket : Ticket) : Prop :=
  ∀ share ∈ usage.stream.sharesIn number, share.caller ≠ ticket → usage.Dropped share.caller

/-- A message stands as the write at it takes it to stand, with what others have left in it in
front. -/
structure Fills (usage : Usage S) (ticket : Ticket) (work : Work) : Prop where
  tried : usage.stream.finished[work.number]? = some work.tried
  bytes : usage.stream.bytesIn work.number =
    usage.stream.leftIn work.number ticket ++ work.payload
  left : usage.OnlyDropped work.number ticket

/-- A write that has come so far has sent nothing, and what it has had accepted is in the message it
is at. -/
structure Goes (config : Configuration) (usage : Usage S) (ticket : Ticket) (data : Bytes)
    (stage : WriteStage S.recorded) : Prop where
  fair : stage.Fair config data
  unsent : usage.sentBy ticket = []
  unfilled : stage.filled data = none → ∀ share ∈ usage.stream.shares, share.caller ≠ ticket
  filled : ∀ work, stage.filled data = some work → usage.Fills ticket work

/-- A write has sent a message: what others have left in it, and all of its own bytes. -/
structure SentWhole (config : Configuration) (usage : Usage S) (ticket : Ticket) (data : Bytes)
    (number : Nat) : Prop where
  sent : usage.sentBy ticket =
    [⟨ticket, number, ⟨config.messageKind, usage.stream.leftIn number ticket ++ data⟩⟩]
  finished : usage.stream.finished[number]? = some true
  left : usage.OnlyDropped number ticket

structure Kept (config : Configuration) (usage : Usage S) : Prop where
  sound : usage.Sound
  configured : usage.stream.state.config = config
  goes : ∀ ticket data phase stage, usage.calls[ticket]? = some (.write data phase) →
    phase.next? .start = some stage → usage.Goes config ticket data stage
  delivered : ∀ ticket data count,
    usage.calls[ticket]? = some (.write data (.answered (.ok count))) →
    config.skips data = false → count = data.length ∧
      ∃ number, usage.SentWhole config ticket data number
  counted : usage.stream.Counted config.messageKind
  origins : ∀ share ∈ usage.stream.shares, ∃ call, usage.calls[share.caller]? = some call ∧
    call.Contributes usage.stream.finished share.number
  senders : ∀ entry ∈ usage.stream.outbox.sent, entry.caller < usage.calls.length

theorem OnlyDropped.of_same_shares {usage later : Usage S} {number : Nat} {ticket : Ticket}
    (left : usage.OnlyDropped number ticket)
    (shares : later.stream.sharesIn number = usage.stream.sharesIn number)
    (dropped : ∀ caller, usage.Dropped caller → later.Dropped caller) :
    later.OnlyDropped number ticket := by
  intro share member other
  rw [shares] at member
  exact dropped _ (left share member other)

theorem Fills.of_same_shares {usage later : Usage S} {ticket : Ticket} {work : Work}
    (fills : usage.Fills ticket work)
    (shares : later.stream.sharesIn work.number = usage.stream.sharesIn work.number)
    (finished : later.stream.finished[work.number]? = usage.stream.finished[work.number]?)
    (dropped : ∀ caller, usage.Dropped caller → later.Dropped caller) :
    later.Fills ticket work := by
  refine ⟨finished.trans fills.tried, ?_, fills.left.of_same_shares shares dropped⟩
  rw [Stream.bytesIn_same shares, Stream.leftIn_same shares]
  exact fills.bytes

theorem Goes.of_same_shares {config : Configuration} {usage later : Usage S} {ticket : Ticket}
    {data : Bytes} {stage : WriteStage S.recorded} (goes : usage.Goes config ticket data stage)
    (shares : later.stream.shares = usage.stream.shares)
    (outbox : later.stream.outbox = usage.stream.outbox)
    (finished : later.stream.finished = usage.stream.finished)
    (dropped : ∀ caller, usage.Dropped caller → later.Dropped caller) :
    later.Goes config ticket data stage := by
  obtain ⟨fair, unsent, unfilled, filled⟩ := goes
  refine ⟨fair, ?_, ?_, ?_⟩
  · rw [sentBy, outbox]
    exact unsent
  · rw [shares]
    exact unfilled
  · intro work full
    exact (filled work full).of_same_shares (Stream.sharesIn_same shares work.number)
      (by rw [finished]) dropped

theorem Fills.with_more {usage later : Usage S} {ticket : Ticket} {number : Nat}
    {payload bytes : Bytes} {tried : Bool} (fills : usage.Fills ticket ⟨number, payload, tried⟩)
    (grown : later.stream.shares = usage.stream.shares ++ [⟨ticket, number, bytes⟩])
    (finished : later.stream.finished = usage.stream.finished)
    (dropped : ∀ caller, usage.Dropped caller → later.Dropped caller) :
    later.Fills ticket ⟨number, payload ++ bytes, tried⟩ := by
  refine ⟨?_, ?_, ?_⟩
  · rw [finished]
    exact fills.tried
  · have own : later.stream.leftIn number ticket = usage.stream.leftIn number ticket :=
      Stream.leftIn_own grown number
    rw [Stream.bytesIn_push grown, if_pos rfl, fills.bytes, own, List.append_assoc]
  · intro share member other
    obtain ⟨accepted, place⟩ := Stream.mem_sharesIn.mp member
    rw [grown] at accepted
    rcases List.mem_append.mp accepted with old | new
    · exact dropped _ (fills.left share (Stream.mem_sharesIn.mpr ⟨old, place⟩) other)
    · cases List.mem_singleton.mp new
      exact absurd rfl other

theorem Fills.outbox_after_finish {usage : Usage S} {ticket : Ticket} {number : Nat}
    {payload : Bytes}
    {resumed : Bool} {progress : Progress S.Finishing (Except Failure Unit)}
    {after : Stream S.recorded} (fills : usage.Fills ticket ⟨number, payload, resumed⟩)
    (comes : FinishComes T ticket number resumed usage.stream progress after) :
    after.outbox = if progress.reply? (fun () => .done) = some .done
      then usage.stream.outbox.send ticket number else usage.stream.outbox := by
  rcases comes.settled_or_polled with ⟨-, -, fresh, settled⟩ | ⟨-, -, -, -, outbox⟩
  · have tried := fills.tried
    rw [settled, fresh] at tried
    cases tried
  · exact outbox

theorem SentWhole.of_same_shares {config : Configuration} {usage later : Usage S} {ticket : Ticket}
    {data : Bytes} {number : Nat} (delivered : usage.SentWhole config ticket data number)
    (shares : later.stream.sharesIn number = usage.stream.sharesIn number)
    (finished : later.stream.finished[number]? = some true)
    (sent : later.sentBy ticket = usage.sentBy ticket)
    (dropped : ∀ caller, usage.Dropped caller → later.Dropped caller) :
    later.SentWhole config ticket data number := by
  refine ⟨?_, finished, delivered.left.of_same_shares shares dropped⟩
  rw [sent, Stream.leftIn_same shares]
  exact delivered.sent

theorem Dropped.of_other_call {usage : Usage S} {ticket : Ticket} {call : Call S.recorded}
    (found : usage.calls[ticket]? = some call)
    (alive : call.leaves = false) (become : Call S.recorded)
    (after : Stream S.recorded) {caller : Ticket} (dropped : usage.Dropped caller) :
    Dropped (⟨after, usage.calls.set ticket become⟩ : Usage S) caller := by
  obtain ⟨data, stage, there⟩ := dropped
  refine ⟨data, stage, ?_⟩
  rw [List.getElem?_set_ne]
  · exact there
  · rintro rfl
    rw [Option.some.inj (found.symm.trans there)] at alive
    cases alive

namespace Kept

variable {config : Configuration} {usage : Usage S} (kept : usage.Kept config)
include kept

theorem writer_ne_of_filled {ticket other : Ticket} {call : Call S.recorded} {data : Bytes}
    {phase : Phase (WriteStage S.recorded) WriteOutcome} {stage : WriteStage S.recorded}
    {work : Work} (found : usage.calls[ticket]? = some call)
    (there : usage.calls[other]? = some (.write data phase))
    (next : phase.next? .start = some stage)
    (filled : stage.filled data = some work) (different : other ≠ ticket) :
    call.writer ≠ some (work.number, true) := by
  intro turn
  have placed : (Call.write data phase : Call S.recorded).writer = stage.place :=
    Phase.place_next WriteStage.place .start rfl next
  rw [WriteStage.filled_place filled] at placed
  have first : usage.writer other = some (work.number, true) := by simp [writer, there, placed]
  have second : usage.writer ticket = some (work.number, true) := by simp [writer, found, turn]
  exact different (kept.sound.writers.one_at_a_time first second)

theorem goes_other {ticket : Ticket} {call become : Call S.recorded} {after : Stream S.recorded}
    (found : usage.calls[ticket]? = some call) (alive : call.leaves = false)
    (deals : Deals ticket call.writer usage.stream after) {other : Ticket}
    (different : other ≠ ticket) {data : Bytes} {phase : Phase (WriteStage S.recorded) WriteOutcome}
    {stage : WriteStage S.recorded} (stood : usage.calls[other]? = some (.write data phase))
    (next : phase.next? .start = some stage) :
    Goes config (⟨after, usage.calls.set ticket become⟩ : Usage S) other data stage := by
  obtain ⟨fair, unsent, unfilled, filled⟩ := kept.goes other data phase stage stood next
  refine ⟨fair, (deals.sent_other different).trans unsent, ?_, ?_⟩
  · intro empty share member own
    rcases deals.mem_shares member with old | new
    · exact unfilled empty share old own
    · exact different (own.symm.trans new.1)
  · intro work full
    have away := kept.writer_ne_of_filled found stood next full different
    have fills := filled work full
    exact fills.of_same_shares (deals.sharesIn_apart (.inl away))
      (deals.finished_other away (List.getElem?_eq_some_iff.mp fills.tried).1)
      fun _ dropped => dropped.of_other_call found alive become after

theorem of_deals {ticket : Ticket} {call become : Call S.recorded} {after : Stream S.recorded}
    (found : usage.calls[ticket]? = some call)
    (alive : call.leaves = false)
    (sound : Sound (⟨after, usage.calls.set ticket become⟩ : Usage S))
    (configured : after.state.config = config)
    (deals : Deals ticket call.writer usage.stream after)
    (contributes : ∀ share ∈ after.shares, share.caller = ticket →
      become.Contributes after.finished share.number)
    (goes : ∀ data phase stage, become = .write data phase → phase.next? .start = some stage →
      Goes config (⟨after, usage.calls.set ticket become⟩ : Usage S) ticket data stage)
    (delivered : ∀ data count, become = .write data (.answered (.ok count)) →
      config.skips data = false → count = data.length ∧
        ∃ number, SentWhole config (⟨after, usage.calls.set ticket become⟩ : Usage S) ticket data
          number) :
    Kept config (⟨after, usage.calls.set ticket become⟩ : Usage S) := by
  have here : (usage.calls.set ticket become)[ticket]? = some become :=
    List.getElem?_set_self (List.getElem?_eq_some_iff.mp found).1
  have elsewhere {other : Ticket} (different : other ≠ ticket) :
      (usage.calls.set ticket become)[other]? = usage.calls[other]? :=
    List.getElem?_set_ne (Ne.symm different)
  have dropped (caller : Ticket) (dropped : usage.Dropped caller) :=
    dropped.of_other_call found alive become after
  -- The call that dealt with the message does its own part; of the others nothing has changed.
  refine ⟨sound, configured, ?_, ?_, ?_, ?_, ?_⟩
  · intro other data phase stage there next
    by_cases same : other = ticket
    · subst same
      exact goes data phase stage (Option.some.inj (there.symm.trans here)).symm next
    · exact kept.goes_other found alive deals same ((elsewhere same).symm.trans there) next
  · intro other data count there unskipped
    by_cases same : other = ticket
    · subst same
      exact delivered data count (Option.some.inj (there.symm.trans here)).symm unskipped
    · obtain ⟨whole, number, sent⟩ :=
        kept.delivered other data count ((elsewhere same).symm.trans there) unskipped
      exact ⟨whole, number, sent.of_same_shares (deals.sharesIn_apart (.inr sent.finished))
        (deals.stays_finished sent.finished) (deals.sent_other same) dropped⟩
  · exact deals.still_counted (congrArg Configuration.messageKind kept.configured) kept.counted
  · intro share member
    by_cases own : share.caller = ticket
    · exact ⟨become, own ▸ here, contributes share member own⟩
    · have old : share ∈ usage.stream.shares :=
        (deals.mem_shares member).resolve_right fun new => own new.1
      obtain ⟨standing, there, contributed⟩ := kept.origins share old
      refine ⟨standing, (elsewhere own).trans there, ?_⟩
      cases contributed with
      | dropped data stage => exact .dropped data stage
      | turn placed => exact .turn placed
      | past settled => exact .past (deals.stays_finished settled)
  · intro entry member
    rw [List.length_set]
    rcases deals.sender_old_or_own member with old | new
    · exact kept.senders entry old
    · exact new ▸ (List.getElem?_eq_some_iff.mp found).1

theorem after_begin (demand : Demand) : (usage.step T (.begin demand)).Kept config := by
  have before {other : Ticket} {call : Call S.recorded} (found : usage.calls[other]? = some call) :
      (usage.calls ++ [.begin demand])[other]? = some call :=
    (List.getElem?_append_left (List.getElem?_eq_some_iff.mp found).1).trans found
  have dropped (caller : Ticket) (dropped : usage.Dropped caller) :
      (usage.step T (.begin demand)).Dropped caller := by
    obtain ⟨data, stage, there⟩ := dropped
    exact ⟨data, stage, before there⟩
  refine ⟨kept.sound.after_begin demand, kept.configured, ?_, ?_, kept.counted, ?_, ?_⟩
  · intro other data phase stage there next
    by_cases new : other = usage.calls.length
    · -- Nobody with its ticket has sent anything or had anything accepted.
      subst new
      have same : (.write data phase : Call S.recorded) = .begin demand := by
        simpa [step] using there.symm
      cases demand with
      | write given =>
        cases same
        cases next
        refine ⟨trivial, ?_, ?_, by rintro work ⟨⟩⟩
        · apply List.filter_eq_nil_iff.mpr
          intro entry member
          simpa using Nat.ne_of_lt (kept.senders entry member)
        · intro _ share member
          obtain ⟨call, found, -⟩ := kept.origins share member
          exact Nat.ne_of_lt (List.getElem?_eq_some_iff.mp found).1
      | _ => cases same
    · have goes := kept.goes other data phase stage ((push_elsewhere _ _ new).symm.trans there) next
      exact goes.of_same_shares rfl rfl rfl dropped
  · intro other data count there unskipped
    by_cases new : other = usage.calls.length
    · subst new
      have same : (.write data (.answered (.ok count)) : Call S.recorded) = .begin demand := by
        simpa [step] using there.symm
      cases demand <;> cases same
    · obtain ⟨whole, number, sent⟩ :=
        kept.delivered other data count ((push_elsewhere _ _ new).symm.trans there) unskipped
      exact ⟨whole, number, sent.of_same_shares rfl sent.finished rfl dropped⟩
  · intro share member
    obtain ⟨call, found, contributes⟩ := kept.origins share member
    exact ⟨call, before found, contributes⟩
  · intro entry member
    have known := kept.senders entry member
    simp only [step, List.length_append]
    exact Nat.lt_add_right _ known

theorem after_aside {ticket : Ticket} {call become : Call S.recorded} {after : Stream S.recorded}
    (found : usage.calls[ticket]? = some call) (other : call.writes = false)
    (stays : become.writes = false)
    (sound : Sound (⟨after, usage.calls.set ticket become⟩ : Usage S))
    (configured : after.state.config = usage.stream.state.config)
    (deals : Deals ticket call.writer usage.stream after)
    (shares : after.shares = usage.stream.shares) :
    Kept config (⟨after, usage.calls.set ticket become⟩ : Usage S) := by
  have alive : call.leaves = false := by
    cases call with
    | write data phase => cases other
    | _ => rfl
  refine kept.of_deals found alive sound (configured.trans kept.configured) deals ?_ ?_ ?_
  · intro share member own
    rw [shares] at member
    obtain ⟨standing, there, contributes⟩ := kept.origins share member
    cases Option.some.inj (found.symm.trans (own ▸ there))
    cases contributes <;> cases other
  · rintro data phase stage rfl
    cases stays
  · rintro data count rfl
    cases stays

theorem after_giving_up {ticket : Ticket} {data : Bytes}
    {phase : Phase (WriteStage S.recorded) WriteOutcome} {after : Stream S.recorded}
    (found : usage.calls[ticket]? = some (.write data phase))
    (alive : (Call.write data phase : Call S.recorded).leaves = false)
    (stage : Option (WriteStage S.recorded))
    (sound : Sound (⟨after, usage.calls.set ticket (.write data (.dropped stage))⟩ : Usage S))
    (configured : after.state.config = usage.stream.state.config)
    (deals : Deals ticket (Call.write data phase).writer usage.stream after) :
    Kept config (⟨after, usage.calls.set ticket (.write data (.dropped stage))⟩ : Usage S) := by
  refine kept.of_deals found alive sound (configured.trans kept.configured) deals ?_ ?_ ?_
  · exact fun share _ _ => .dropped data stage
  · rintro other phase later ⟨⟩ next
    cases next
  · rintro other count ⟨⟩

theorem after_drop {ticket : Ticket} {after : Usage S} (drops : Drops T usage ticket after) :
    after.Kept config := by
  have sound := kept.sound.after_drop drops
  cases drops with
  | rests => exact kept
  | forgets demand found =>
    cases demand with
    | write data => exact kept.after_giving_up found rfl none sound rfl (.of_quiet rfl rfl)
    | _ => exact kept.after_aside found rfl rfl sound rfl (.of_quiet rfl rfl) rfl
  | reads found drop =>
    exact kept.after_aside found rfl rfl sound drop.config_same drop.deals
      (drop.adds.shares_same fun _ _ => rfl)
  | writes found drop => exact kept.after_giving_up found rfl _ sound drop.config_same drop.deals
  | closes found drop =>
    exact kept.after_aside found rfl rfl sound drop.config_same drop.deals
      (drop.adds.shares_same fun _ _ => rfl)

theorem fills_on_entering {ticket : Ticket} {number : Nat}
    (absent : ∀ share ∈ usage.stream.shares, share.caller ≠ ticket)
    (turn : (lineOf usage.stream.state.writers number).admits ticket = true)
    (unfinished : usage.stream.finished[number]? = some false) :
    usage.Fills ticket ⟨number, [], false⟩ := by
  refine ⟨unfinished, ?_, ?_⟩
  · rw [Stream.leftIn_all absent, List.append_nil]
  · intro share member other
    obtain ⟨accepted, rfl⟩ := Stream.mem_sharesIn.mp member
    obtain ⟨call, there, contributes⟩ := kept.origins share accepted
    cases contributes with
    | dropped given stage => exact ⟨given, stage, there⟩
    | turn placed =>
      -- Two calls cannot both be first in one line.
      have first := kept.sound.writers.first share.number share.caller (by
        simp [writer, there, Call.writer, Phase.place, placed])
      exact absurd (Line.admits_unique _ _ _ first turn) other
    | past settled => cases unfinished.symm.trans settled

theorem contributes_after_move {ticket : Ticket} {data : Bytes}
    {phase : Phase (WriteStage S.recorded) WriteOutcome} {stage : WriteStage S.recorded}
    {step : Step (WriteStage S.recorded) WriteOutcome} {after : Stream S.recorded}
    (found : usage.calls[ticket]? = some (.write data phase))
    (next : phase.next? .start = some stage)
    (move : WriteMove T data ticket stage usage.stream step after)
    (deals : Deals ticket stage.place usage.stream after) :
    ∀ share ∈ after.shares, share.caller = ticket →
      (Call.write data (.ofStep step) : Call S.recorded).Contributes after.finished
        share.number := by
  intro share member own
  have stays (turn : stage.place = some (share.number, true)) :
      (Call.write data (.ofStep step) : Call S.recorded).Contributes after.finished
        share.number := by
    rcases move.turn_or_finished turn with placed | finished
    · cases step with
      | waiting later => exact .turn placed
      | onward later => exact .turn placed
      | ready outcome => cases placed
    · exact .past finished
  rcases deals.mem_shares member with old | ⟨-, turn⟩
  · obtain ⟨call, there, contributed⟩ := kept.origins share old
    cases Option.some.inj (found.symm.trans (own ▸ there))
    cases contributed with
    | dropped _ later => cases next
    | turn placed =>
      cases next
      exact stays placed
    | past settled => exact .past (deals.stays_finished settled)
  · exact stays turn

theorem of_going_on {ticket : Ticket} {data : Bytes}
    {phase : Phase (WriteStage S.recorded) WriteOutcome} {stage : WriteStage S.recorded}
    {step : Step (WriteStage S.recorded) WriteOutcome} {after : Stream S.recorded}
    (found : usage.calls[ticket]? = some (.write data phase))
    (next : phase.next? .start = some stage)
    (move : WriteMove T data ticket stage usage.stream step after)
    (goes : ∀ later, (Phase.ofStep step).next? .start = some later →
      Goes config (⟨after, usage.calls.set ticket (.write data (.ofStep step))⟩ : Usage S) ticket
        data later)
    (delivered : ∀ count, step = .ready (.ok count) → config.skips data = false →
      count = data.length ∧ ∃ number, SentWhole config
        (⟨after, usage.calls.set ticket (.write data (.ofStep step))⟩ : Usage S) ticket data
          number) :
    Kept config (⟨after, usage.calls.set ticket (.write data (.ofStep step))⟩ : Usage S) := by
  have goesOn := kept.goes ticket data phase stage found next
  have deals : Deals ticket stage.place usage.stream after := by
    apply move.deals
    rintro number written later rfl
    exact (goesOn.filled _ rfl).tried
  have placed : (Call.write data phase : Call S.recorded).writer = stage.place :=
    Phase.place_next WriteStage.place .start rfl next
  refine kept.of_deals found (Call.leaves_next next)
    (kept.sound.after_move (.writes found next move))
    (move.config_same.trans kept.configured) (placed ▸ deals)
    (kept.contributes_after_move found next move deals) ?_ ?_
  · rintro other phase later ⟨⟩
    exact goes later
  · intro other count same
    cases step with
    | ready outcome =>
      cases same
      exact delivered count rfl
    | _ => cases same

theorem of_unfilled {ticket : Ticket} {data : Bytes}
    {phase : Phase (WriteStage S.recorded) WriteOutcome} {stage : WriteStage S.recorded}
    {step : Step (WriteStage S.recorded) WriteOutcome} {after : Stream S.recorded}
    (found : usage.calls[ticket]? = some (.write data phase))
    (next : phase.next? .start = some stage)
    (move : WriteMove T data ticket stage usage.stream step after)
    (empty : stage.filled data = none) (shares : after.shares = usage.stream.shares)
    (sent : after.outbox.sent = usage.stream.outbox.sent)
    (goes : ∀ later, (Phase.ofStep step).next? .start = some later →
      later.Fair config data ∧ later.filled data = none)
    (skipped : ∀ count, step = .ready (.ok count) → config.skips data = true) :
    Kept config (⟨after, usage.calls.set ticket (.write data (.ofStep step))⟩ : Usage S) := by
  obtain ⟨-, unsent, unfilled, -⟩ := kept.goes ticket data phase stage found next
  refine kept.of_going_on found next move ?_ ?_
  · intro later comes
    obtain ⟨fair, none⟩ := goes later comes
    refine ⟨fair, ?_, ?_, ?_⟩
    · rw [sentBy, sent]
      exact unsent
    · intro _
      rw [shares]
      exact unfilled empty
    · intro work full
      rw [none] at full
      cases full
  · intro count answered unskipped
    rw [skipped count answered] at unskipped
    cases unskipped

theorem of_filled {ticket : Ticket} {data : Bytes}
    {phase : Phase (WriteStage S.recorded) WriteOutcome} {stage later : WriteStage S.recorded}
    {step : Step (WriteStage S.recorded) WriteOutcome} {after : Stream S.recorded} {work : Work}
    (found : usage.calls[ticket]? = some (.write data phase))
    (next : phase.next? .start = some stage)
    (move : WriteMove T data ticket stage usage.stream step after)
    (goes : Phase.ofStep step = .waiting later) (fair : later.Fair config data)
    (full : later.filled data = some work)
    (sent : after.outbox.sent = usage.stream.outbox.sent)
    (fills : Fills (⟨after, usage.calls.set ticket (.write data (.ofStep step))⟩ : Usage S) ticket
      work) :
    Kept config (⟨after, usage.calls.set ticket (.write data (.ofStep step))⟩ : Usage S) := by
  have unsent := (kept.goes ticket data phase stage found next).unsent
  refine kept.of_going_on found next move ?_ ?_
  · rw [goes]
    rintro _ ⟨⟩
    refine ⟨fair, ?_, ?_, ?_⟩
    · rw [sentBy, sent]
      exact unsent
    · rw [full]
      nofun
    · rw [full]
      rintro _ ⟨⟩
      exact goes ▸ fills
  · rintro count rfl
    cases goes

theorem after_poll {ticket : Ticket} {data : Bytes}
    {phase : Phase (WriteStage S.recorded) WriteOutcome} {stage later : WriteStage S.recorded}
    {step : Step (WriteStage S.recorded) WriteOutcome} {after : Stream S.recorded} {number : Nat}
    {payload rest grown : Bytes} {resumed : Bool} {reply : Option Reply}
    {cursor : Cursor (Outbound (Numbered S.Writer))} {content : S.Writer} {inner : S.World}
    (found : usage.calls[ticket]? = some (.write data phase))
    (next : phase.next? .start = some stage)
    (move : WriteMove T data ticket stage usage.stream step after)
    (there : usage.stream.state.writers[number]? = some cursor)
    (polled : after = (usage.stream.putWriter number content cursor.content.finished).heard inner
      (Traffic.ofPoll ticket (.write number rest) resumed reply))
    (full : stage.filled data = some ⟨number, payload, false⟩)
    (goes : Phase.ofStep step = .waiting later) (fair : later.Fair config data)
    (fuller : later.filled data = some ⟨number, grown, false⟩)
    (brings : payload ++ Reply.taken rest reply = grown) :
    Kept config (⟨after, usage.calls.set ticket (.write data (.ofStep step))⟩ : Usage S) := by
  subst brings
  have fills := (kept.goes ticket data phase stage found next).filled _ full
  have shares := usage.stream.polled_shares ticket number rest resumed reply content
    cursor.content.finished inner
  have sent := usage.stream.polled_sent ticket number rest resumed reply content
    cursor.content.finished inner
  have finished : after.finished = usage.stream.finished := by
    rw [polled]
    exact usage.stream.putWriter_unfinished there content
  rw [← polled] at shares sent
  refine kept.of_filled found next move goes fair fuller sent ?_
  have dropped (caller : Ticket) (dropped : usage.Dropped caller) :
      Dropped (⟨after, usage.calls.set ticket (.write data (.ofStep step))⟩ : Usage S) caller :=
    dropped.of_other_call found (Call.leaves_next next) _ _
  have nothing (same : after.shares = usage.stream.shares ++ []) :
      Fills (⟨after, usage.calls.set ticket (.write data (.ofStep step))⟩ : Usage S) ticket
        ⟨number, payload ++ [], false⟩ := by
    rw [List.append_nil] at same ⊢
    exact fills.of_same_shares (Stream.sharesIn_same same number) (congrArg (·[number]?) finished)
      dropped
  rcases reply with _ | reply
  · exact nothing shares
  · cases reply with
    | accepted count => exact fills.with_more shares finished dropped
    | _ => exact nothing shares

theorem sends_whole {ticket : Ticket} {data : Bytes} {number : Nat} {tried : Bool} {later : Usage S}
    (unsent : usage.sentBy ticket = []) (fills : usage.Fills ticket ⟨number, data, tried⟩)
    (shares : later.stream.shares = usage.stream.shares)
    (outbox : later.stream.outbox = usage.stream.outbox.send ticket number)
    (finished : later.stream.finished[number]? = some true)
    (dropped : ∀ caller, usage.Dropped caller → later.Dropped caller) :
    later.SentWhole config ticket data number := by
  have same := Stream.sharesIn_same shares number
  refine ⟨?_, finished, fills.left.of_same_shares same dropped⟩
  rw [sentBy, outbox, Outbox.send, kept.counted.draft_eq fills.tried, fills.bytes,
    Stream.leftIn_same same, List.filter_append]
  have before : usage.stream.outbox.sent.filter (·.caller = ticket) = [] := unsent
  rw [before]
  simp

section Write

variable {ticket : Ticket} {data : Bytes} {phase : Phase (WriteStage S.recorded) WriteOutcome}
  {step : Step (WriteStage S.recorded) WriteOutcome} {after : Stream S.recorded}

theorem after_opening {stage : WriteStage S.recorded} {resumed : Bool}
    {asked : Stream S.recorded} (found : usage.calls[ticket]? = some (.write data phase))
    (next : phase.next? .start = some stage)
    (move : WriteMove T data ticket stage usage.stream step after)
    (empty : stage.filled data = none) (sent : config.skips data = false)
    (deals : Deals ticket none usage.stream after)
    (comes : WriterComes T ticket resumed asked step after) :
    Kept config (⟨after, usage.calls.set ticket (.write data (.ofStep step))⟩ : Usage S) := by
  obtain ⟨goes, undelivered⟩ := comes.fills_none sent
  obtain ⟨shares, same⟩ := deals.nothing_new nofun
  exact kept.of_unfilled found next move empty shares same goes
    fun count answered => absurd answered (undelivered count)

theorem after_start (found : usage.calls[ticket]? = some (.write data phase))
    (next : phase.next? .start = some .start)
    (move : WriteMove T data ticket .start usage.stream step after) :
    Kept config (⟨after, usage.calls.set ticket (.write data (.ofStep step))⟩ : Usage S) := by
  have moved := move
  cases move with
  | refused closed => exact kept.of_unfilled found next moved rfl rfl rfl nofun nofun
  | skips standing skipped =>
    refine kept.of_unfilled found next moved rfl rfl rfl nofun ?_
    intro _ _
    rwa [kept.configured] at skipped
  | joins standing sent current =>
    rw [kept.configured] at sent
    refine kept.of_unfilled found next moved rfl rfl rfl ?_ nofun
    rintro later ⟨⟩
    exact ⟨sent, rfl⟩
  | asks standing sent vacant comes =>
    rw [kept.configured] at sent
    exact kept.after_opening found next moved rfl sent comes.deals.of_borrow comes

theorem after_turn {number : Nat} (found : usage.calls[ticket]? = some (.write data phase))
    (next : phase.next? .start = some (.queued number))
    (move : WriteMove T data ticket (.queued number) usage.stream step after) :
    Kept config (⟨after, usage.calls.set ticket (.write data (.ofStep step))⟩ : Usage S) := by
  obtain ⟨fair, -, unfilled, -⟩ := kept.goes ticket data phase _ found next
  have moved := move
  cases move with
  | queues blocked =>
    refine kept.of_unfilled found next moved rfl rfl rfl ?_ nofun
    rintro later ⟨⟩
    exact ⟨fair, rfl⟩
  | retires turn there finished =>
    have traffic := Stream.retireWriter_traffic T usage.stream number ticket
    have outbox := Stream.retireWriter_outbox T usage.stream number ticket
    refine kept.of_unfilled found next moved rfl (Stream.shares_same traffic) (by rw [outbox]) ?_
      nofun
    rintro later ⟨⟩
    exact ⟨trivial, rfl⟩
  | enters turn there unfinished =>
    have fills := kept.fills_on_entering (unfilled rfl) turn
      (unfinished ▸ usage.stream.finished_found there)
    exact kept.of_filled found next moved rfl
      (Write.fillOrFinish_fair fair number 0 (Nat.zero_le _))
      (Write.fillOrFinish_filled data number 0) rfl
      (fills.of_same_shares rfl rfl fun _ gone =>
        gone.of_other_call found (Call.leaves_next next) _ _)

theorem after_filling (modest : T.Modest) {number written : Nat} {pending : Option S.Writing}
    (found : usage.calls[ticket]? = some (.write data phase))
    (next : phase.next? .start = some (.filling number written pending))
    (move : WriteMove T data ticket (.filling number written pending) usage.stream step after) :
    Kept config (⟨after, usage.calls.set ticket (.write data (.ofStep step))⟩ : Usage S) := by
  obtain ⟨sent, short⟩ := (kept.goes ticket data phase _ found next).fair
  have moved := move
  cases move with
  | pends there =>
    exact kept.after_poll found next moved there rfl rfl rfl ⟨sent, short⟩ rfl
      (List.append_nil _)
  | breaks there =>
    exact kept.after_poll found next moved there rfl rfl rfl ⟨sent, Nat.le_of_lt short, nofun⟩
      rfl (List.append_nil _)
  | takes there polled gained =>
    exact kept.after_poll found next moved there rfl rfl rfl
      (Write.fillOrFinish_fair sent number _ (modest.within_buffer polled short))
      (Write.fillOrFinish_filled data number _) List.take_add.symm
  | stalls there =>
    exact kept.after_poll found next moved there rfl rfl rfl ⟨sent, Nat.le_of_lt short, nofun⟩
      rfl (List.append_nil _)

theorem after_finishing {number written : Nat} {failure : Option Failure}
    {pending : Option S.Finishing} (found : usage.calls[ticket]? = some (.write data phase))
    (next : phase.next? .start = some (.finishing number written failure pending))
    (move : WriteMove T data ticket (.finishing number written failure pending) usage.stream step
      after) :
    Kept config (⟨after, usage.calls.set ticket (.write data (.ofStep step))⟩ : Usage S) := by
  obtain ⟨fair, unsent, -, filled⟩ := kept.goes ticket data phase _ found next
  have dropped (caller : Ticket) (dropped : usage.Dropped caller) :
      Dropped (⟨after, usage.calls.set ticket (.write data (.ofStep step))⟩ : Usage S) caller :=
    dropped.of_other_call found (Call.leaves_next next) _ _
  have moved := move
  cases move with
  | finishPends comes =>
    have same := Stream.sharesIn_same comes.shares_same number
    obtain ⟨-, bytes, left⟩ := filled _ rfl
    refine kept.of_filled found next moved rfl fair rfl (by rw [comes.outbox_of_waiting])
      ⟨comes.finished_after, ?_, left.of_same_shares same dropped⟩
    rw [Stream.bytesIn_same same, Stream.leftIn_same same]
    exact bytes
  | failed comes => exact kept.of_going_on found next moved nofun nofun
  | finishFails comes => exact kept.of_going_on found next moved nofun nofun
  | @delivers _ _ _ _ between comes =>
    obtain ⟨-, -, whole⟩ := fair
    have fills := filled _ rfl
    have shares := Stream.shares_same (Stream.retireWriter_traffic T between number ticket)
    have outbox := Stream.retireWriter_outbox T between number ticket
    have finished := Stream.retireWriter_finished T between number ticket
    rw [whole rfl, List.take_length] at fills
    refine kept.of_going_on found next moved nofun ?_
    rintro count ⟨⟩ -
    exact ⟨whole rfl, number, kept.sends_whole unsent fills (shares.trans comes.shares_same)
      (outbox.trans (fills.outbox_after_finish comes))
      ((congrArg (·[number]?) finished).trans comes.finished_after) dropped⟩

theorem after_write (modest : T.Modest) {stage : WriteStage S.recorded}
    (found : usage.calls[ticket]? = some (.write data phase))
    (next : phase.next? .start = some stage)
    (move : WriteMove T data ticket stage usage.stream step after) :
    Kept config (⟨after, usage.calls.set ticket (.write data (.ofStep step))⟩ : Usage S) := by
  have fair := (kept.goes ticket data phase stage found next).fair
  have moved := move
  cases stage with
  | start => exact kept.after_start found next move
  | opening stage =>
    cases move with
    | hears comes => exact kept.after_opening found next moved rfl fair comes.deals comes
  | discarding number pending =>
    cases move with
    | discardPends comes =>
      refine kept.of_unfilled found next moved rfl comes.shares_same
        (by rw [comes.outbox_of_waiting]) ?_
        nofun
      rintro later ⟨⟩
      exact ⟨fair, rfl⟩
    | discards comes => exact kept.of_going_on found next moved nofun nofun
  | queued number => exact kept.after_turn found next move
  | filling number written pending => exact kept.after_filling modest found next move
  | finishing number written failure pending => exact kept.after_finishing found next move

end Write

theorem after_move (modest : T.Modest) {ticket : Ticket} {after : Usage S}
    (moves : Moves T usage ticket after) : after.Kept config := by
  have sound := kept.sound.after_move moves
  cases moves with
  | rests => exact kept
  | reads found next move =>
    exact kept.after_aside found rfl rfl sound move.config_same move.deals
      (move.adds.shares_same fun _ _ => rfl)
  | writes found next move => exact kept.after_write modest found next move
  | @closes phase stage _ _ found next move =>
    have placed : (Call.close phase : Call S.recorded).writer = stage.place :=
      Phase.place_next CloseStage.place .start rfl next
    exact kept.after_aside found rfl rfl sound move.config_same (placed ▸ move.deals)
      (move.adds.shares_same fun _ _ => rfl)

theorem after_change (become : S.World → S.World) :
    (usage.step T (.change become)).Kept config := by
  have dropped (caller : Ticket) (dropped : usage.Dropped caller) :
      (usage.step T (.change become)).Dropped caller := dropped
  obtain ⟨opened, drafts, inside⟩ := kept.counted
  refine ⟨kept.sound.after_change become, kept.configured, ?_, ?_, ⟨opened, drafts, inside⟩,
    kept.origins, kept.senders⟩
  · intro other data phase stage there next
    exact (kept.goes other data phase stage there next).of_same_shares rfl rfl rfl dropped
  · intro other data count there unskipped
    obtain ⟨whole, number, sent⟩ := kept.delivered other data count there unskipped
    exact ⟨whole, number, sent.of_same_shares rfl sent.finished rfl dropped⟩

end Kept

theorem start_kept (config : Configuration) (world : S.World) : (start config world).Kept config :=
  ⟨start_sound config world, rfl, (fun _ _ _ _ found => nomatch found),
    (fun _ _ _ found => nomatch found), ⟨rfl, nofun, List.forall_mem_nil _⟩,
    List.forall_mem_nil _, List.forall_mem_nil _⟩

theorem run_kept (modest : T.Modest) (config : Configuration) (world : S.World)
    (actions : List (Action S.World)) : ((start config world).run T actions).Kept config :=
  moves_keep (Kept config) (fun _ demand kept => kept.after_begin demand)
    (fun moves kept => kept.after_move modest moves) (fun drops kept => kept.after_drop drops)
    (fun _ become kept => kept.after_change become) (start_sound config world)
    (start_kept config world) actions

theorem writes_send_bytes_left (T : Transport S) (modest : T.Modest) (config : Configuration)
    (world : S.World) (actions : List (Action S.World)) (ticket : Ticket) (data : Bytes)
    (count : Nat) :
    let usage := (start config world).run T actions
    usage.calls[ticket]? = some (.write data (.answered (.ok count))) →
    config.skips data = false →
    count = data.length ∧ ∃ number,
      usage.sentBy ticket =
        [⟨ticket, number, ⟨config.messageKind, usage.stream.leftIn number ticket ++ data⟩⟩] ∧
      usage.OnlyDropped number ticket ∧
      ((∀ entry ∈ usage.sentBy ticket, entry.message.payload = data) ↔
        ∀ share ∈ usage.stream.sharesIn number, share.caller ≠ ticket → share.bytes = []) := by
  intro usage found unskipped
  have kept : usage.Kept config := run_kept modest config world actions
  obtain ⟨whole, number, sent, -, left⟩ := kept.delivered ticket data count found unskipped
  refine ⟨whole, number, sent, left, ?_⟩
  rw [sent, List.forall_mem_singleton]
  simp [Stream.leftIn, List.mem_filter]

theorem writes_send_bytes_left_none :
    let T := Scripted.transport { writeGate := some 0 }
    let actions : List (Action Scripted.World) :=
      [.begin (.write [97, 98]), .poll 0, .drop 0, .begin (.write [120, 121]), .poll 1,
        .change fun world => { world with gates := world.gates.notify 0 }, .poll 1]
    let usage := (start {} ({ inbound := [] } : Scripted.World) :
      Usage Scripted.signature).run T actions
    T.Modest ∧ usage.calls[1]? = some (.write [120, 121] (.answered (.ok 2))) ∧
      Configuration.skips {} [120, 121] = false ∧
      ∀ entry ∈ usage.sentBy 1, entry.message.payload = [120, 121] := by
  have modest := Scripted.transport_modest { writeGate := some 0 }
  obtain ⟨-, number, -, -, alone⟩ := writes_send_bytes_left
    (Scripted.transport { writeGate := some 0 }) modest {} { inbound := [] }
    [.begin (.write [97, 98]), .poll 0, .drop 0, .begin (.write [120, 121]), .poll 1,
      .change fun world => { world with gates := world.gates.notify 0 }, .poll 1]
    1 [120, 121] 2 rfl rfl
  refine ⟨modest, rfl, rfl, alone.mpr ?_⟩
  intro share member other
  have only : share ∈ [⟨1, 0, [120, 121]⟩] := (Stream.mem_sharesIn.mp member).1
  exact absurd (congrArg Share.caller (List.mem_singleton.mp only)) other

theorem byte_left_sent_with_next :
    let T := Scripted.transport { writeChunk := some 1, writeGate := some 0 }
    let notify : Action Scripted.World :=
      .change fun world => { world with gates := world.gates.notify 0 }
    let usage := (start {} ({ inbound := [] } : Scripted.World) :
      Usage Scripted.signature).run T
        [.begin (.write [97, 98]), .poll 0, notify, .poll 0, .drop 0, .begin (.write [120, 121]),
          .poll 1, notify, .poll 1, notify, .poll 1]
    usage.calls[1]? = some (.write [120, 121] (.answered (.ok 2))) ∧
      usage.stream.outbox.sent = [⟨1, 0, ⟨.text, [97, 120, 121]⟩⟩] ∧
      ¬ ∃ entry ∈ usage.stream.outbox.sent, entry.message.payload = [120, 121] := by
  refine ⟨rfl, ?_, ?_⟩
  · decide +kernel
  · decide +kernel

end Usage

end MessageStream
