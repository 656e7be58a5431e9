import Mathlib.Algebra.GroupWithZero.Nat
import Mathlib.Data.List.Induction
import MessageStream.Counters
import MessageStream.Proofs.Outbound.Deals

/-!
What callers are told, and what is counted. A read or a write is counted in the stretch that answers
it, by what it answers; a call that is given up is not counted, whatever it has moved. So the
counters of bytes and of messages sent say what the answers of all calls come to.
-/
namespace MessageStream

variable {S : Signature} {T : Transport S}

section Journal

variable {counter : Counter}

def Event.amount (counter : Counter) (event : Event) : Nat :=
  match Counters.change? event with
  | some (changed, amount) => if counter = changed then amount else 0
  | none => 0

namespace Event

@[simp] theorem amount_inboundOpened : inboundOpened.amount counter = 0 := rfl

@[simp] theorem amount_inboundDiscarded : inboundDiscarded.amount counter = 0 := rfl

@[simp] theorem amount_outboundOpened (kind : MessageKind) :
    (outboundOpened kind).amount counter = 0 := rfl

@[simp] theorem amount_outboundDiscarded (kind : MessageKind) :
    (outboundDiscarded kind).amount counter = 0 := rfl

@[simp] theorem amount_closed : closed.amount counter = 0 := rfl

@[simp] theorem amount_inboundMoved_zero : (inboundMoved 0).amount counter = 0 := by
  simp [amount, Counters.change?]

@[simp] theorem amount_outboundMoved_zero : (outboundMoved 0).amount counter = 0 := by
  simp [amount, Counters.change?]

end Event

def Journal.total (counter : Counter) (journal : Journal) : Nat :=
  (journal.map (Event.amount counter)).sum

@[simp] theorem Journal.total_nil : Journal.total counter [] = 0 := rfl

@[simp] theorem Journal.total_cons (event : Event) (rest : Journal) :
    Journal.total counter (event :: rest) = event.amount counter + Journal.total counter rest :=
  rfl

@[simp] theorem Journal.total_append (before after : Journal) :
    Journal.total counter (before ++ after) =
      Journal.total counter before + Journal.total counter after := by
  simp [total]

theorem Counters.observe_value (counters : Counters) (event : Event) :
    (counters.observe event).value counter =
      counters.value counter + .ofNat (event.amount counter) := by
  cases changed : change? event with
  | none => simp [observe, Event.amount, changed]
  | some change =>
    by_cases here : counter = change.1
    · subst here
      simp [observe, Event.amount, changed]
    · simp [observe, Event.amount, changed, here]

/-- The value of a counter is what the journal comes to, in sixty-four bits. -/
theorem Counters.ofJournal_value (counter : Counter) (journal : Journal) :
    (ofJournal journal).value counter = .ofNat (journal.total counter) := by
  induction journal using List.reverseRecOn with
  | nil => rfl
  | append_singleton journal event ih =>
    rw [ofJournal_append, Journal.total_append, UInt64.ofNat_add, ← ih]
    exact observe_value _ event

end Journal

def ReadOutcome.moved (outcome : ReadOutcome) : Nat :=
  match outcome.result with
  | .ok count => count
  | .error error => error.transferred

theorem ReadOutcome.moved_data (outcome : ReadOutcome) : outcome.moved = outcome.data.length := by
  cases outcome <;> rfl

/-- What the answer of a call tells of a counter: the bytes that a read or a write reports, and one
message where a write succeeded and was not to be skipped. -/
def Call.told (config : Configuration) : Counter → Call S → Nat
  | ⟨.bytes, .inbound⟩, .read _ (.answered outcome) => outcome.moved
  | ⟨.bytes, .outbound⟩, .write _ (.answered outcome) => WriteOutcome.moved outcome
  | ⟨.messages, .outbound⟩, .write data (.answered (.ok _)) => if config.skips data then 0 else 1
  | _, _ => 0

def WriteStage.Unskipped (config : Configuration) (data : Bytes) : WriteStage S → Prop
  | .start => True
  | _ => config.skips data = false

theorem Phase.answer_next {Stage Answer : Type} {phase : Phase Stage Answer} {start stage : Stage}
    (next : phase.next? start = some stage) : phase.answer? = none := by
  cases phase <;> first | rfl | cases next

namespace Call

variable {config : Configuration} {counter : Counter}

theorem told_read {room : Nat} {phase : Phase (ReadStage S) ReadOutcome}
    (unanswered : phase.answer? = none) : (read room phase).told config counter = 0 := by
  obtain ⟨_ | _, _ | _⟩ := counter <;> cases phase <;> first | rfl | cases unanswered

theorem told_write {data : Bytes} {phase : Phase (WriteStage S) WriteOutcome}
    (unanswered : phase.answer? = none) : (write data phase).told config counter = 0 := by
  obtain ⟨_ | _, _ | _⟩ := counter <;> cases phase <;> first | rfl | cases unanswered

theorem told_close (phase : Phase (CloseStage S) CloseOutcome) :
    (close phase).told config counter = 0 := by
  obtain ⟨_ | _, _ | _⟩ := counter <;> rfl

theorem told_begin (demand : Demand) : (begin demand : Call S).told config counter = 0 := by
  cases demand with
  | read room => exact told_read rfl
  | write data => exact told_write rfl
  | close => exact told_close _

theorem told_forgotten (demand : Demand) :
    (forgotten demand : Call S).told config counter = 0 := by
  cases demand with
  | read room => exact told_read rfl
  | write data => exact told_write rfl
  | close => exact told_close _

@[simp] theorem told_read_waiting (room : Nat) (stage : ReadStage S) :
    (read room (.waiting stage)).told config counter = 0 :=
  told_read rfl

@[simp] theorem told_write_waiting (data : Bytes) (stage : WriteStage S) :
    (write data (.waiting stage)).told config counter = 0 :=
  told_write rfl

@[simp] theorem told_read_answered (room : Nat) (outcome : ReadOutcome) :
    (read room (.answered outcome) : Call S).told config counter =
      (Event.inboundMoved outcome.data.length).amount counter := by
  rw [← outcome.moved_data]
  obtain ⟨_ | _, _ | _⟩ := counter <;> rfl

@[simp] theorem told_write_failed (data : Bytes) (error : StreamError) :
    (write data (.answered (.error error)) : Call S).told config counter =
      (Event.outboundMoved error.transferred).amount counter := by
  obtain ⟨_ | _, _ | _⟩ := counter <;> rfl

theorem told_write_skipped {data : Bytes} (skipped : config.skips data = true) :
    (write data (.answered (.ok 0)) : Call S).told config counter = 0 := by
  obtain ⟨_ | _, _ | _⟩ := counter <;> simp [told, skipped, WriteOutcome.moved]

theorem told_write_done {data : Bytes} (unskipped : config.skips data = false) (count : Nat) :
    (write data (.answered (.ok count)) : Call S).told config counter =
      (Event.outboundMoved count).amount counter +
        (Event.outboundFinalized count).amount counter := by
  obtain ⟨_ | _, _ | _⟩ := counter <;>
    simp [told, unskipped, WriteOutcome.moved, Event.amount, Counters.change?]

end Call

section Moves

variable {ticket : Ticket} {stream after : Stream S.recorded} {counter : Counter}
  {config : Configuration}

theorem ReaderComes.journal_total {asked : Option S.ReaderOpening} {room : Nat}
    {step : Step (ReadStage S.recorded) ReadOutcome}
    (comes : ReaderComes T ticket asked stream step after) :
    after.journal.total counter = stream.journal.total counter +
      (Call.read room (.ofStep step) : Call S.recorded).told config counter := by
  cases comes with
  | waits => simp [Phase.ofStep]
  | fails => simp [Phase.ofStep, ReadOutcome.data]
  | late closed => simp [Phase.ofStep, ReadOutcome.data]
  | opens standing => simp [Phase.ofStep]

/-- A read is counted in the stretch that answers it, but for the message it may have found at its
end. -/
theorem ReadMove.journal_total {room : Nat} {stage : ReadStage S.recorded}
    {step : Step (ReadStage S.recorded) ReadOutcome}
    (move : ReadMove T room ticket stage stream step after)
    (other : counter ≠ ⟨.messages, .inbound⟩) :
    after.journal.total counter = stream.journal.total counter +
      (Call.read room (.ofStep step) : Call S.recorded).told config counter := by
  have ended (current : Bool) (filled : Nat) (stream : Stream S.recorded) :
      (stream.recordIf current (.inboundExhausted filled)).journal.total counter =
        stream.journal.total counter := by
    cases current <;> simp [Stream.recordIf, Event.amount, Counters.change?, other]
  cases move with
  | refused closed => simp [Phase.ofStep, ReadOutcome.data]
  | idles standing roomless => simp [Phase.ofStep, ReadOutcome.data]
  | joins standing roomy current => simp [Phase.ofStep]
  | asks standing roomy vacant comes => exact comes.journal_total
  | hears comes => exact comes.journal_total
  | queues blocked => simp [Phase.ofStep]
  | enters turn => simp [Phase.ofStep]
  | pends found polled => simp [Phase.ofStep]
  | fails found polled => simp [Phase.ofStep, ReadOutcome.data]
  | goesOn found polled gained short => simp [Phase.ofStep]
  | fulfils found polled gained full => simp [Phase.ofStep, ReadOutcome.data]
  | passes found polled => simp [Phase.ofStep, ended]
  | ends found polled gained => simp [Phase.ofStep, ended, ReadOutcome.data]

theorem FinishComes.journal_same {number : Nat} {resumed : Bool}
    {progress : Progress S.Finishing (Except Failure Unit)}
    (comes : FinishComes T ticket number resumed stream progress after) :
    after.journal = stream.journal := by
  cases comes <;> rfl

theorem WriterComes.journal_total {resumed : Bool} {data : Bytes}
    {step : Step (WriteStage S.recorded) WriteOutcome}
    (comes : WriterComes T ticket resumed stream step after) :
    after.journal.total counter = stream.journal.total counter +
      (Call.write data (.ofStep step) : Call S.recorded).told config counter := by
  cases comes with
  | waits => simp [Phase.ofStep]
  | fails => simp [Phase.ofStep, StreamError.transferred]
  | late closed => simp [Phase.ofStep]
  | opens standing => simp [Phase.ofStep]

theorem WriteMove.journal_total {data : Bytes} {stage : WriteStage S.recorded}
    {step : Step (WriteStage S.recorded) WriteOutcome}
    (move : WriteMove T data ticket stage stream step after)
    (unskipped : stage.Unskipped stream.state.config data) :
    after.journal.total counter = stream.journal.total counter +
      (Call.write data (.ofStep step) : Call S.recorded).told stream.state.config counter := by
  cases move with
  | refused closed => simp [Phase.ofStep, StreamError.transferred]
  | skips standing skipped => simp [Phase.ofStep, Call.told_write_skipped skipped]
  | joins standing sent current => simp [Phase.ofStep]
  | asks standing sent vacant comes => exact comes.journal_total
  | hears comes => exact comes.journal_total
  | discardPends comes => simp [Phase.ofStep, comes.journal_same]
  | discards comes => simp [Phase.ofStep, comes.journal_same, StreamError.transferred]
  | queues blocked => simp [Phase.ofStep]
  | retires turn found finished => simp [Phase.ofStep]
  | enters turn found unfinished => simp [Phase.ofStep]
  | pends found polled => simp [Phase.ofStep]
  | breaks found polled => simp [Phase.ofStep]
  | takes found polled gained => simp [Phase.ofStep]
  | stalls found polled => simp [Phase.ofStep]
  | finishPends comes => simp [Phase.ofStep, comes.journal_same]
  | failed comes => simp [Phase.ofStep, comes.journal_same, StreamError.transferred]
  | finishFails comes => simp [Phase.ofStep, comes.journal_same, StreamError.transferred]
  -- The message of a write that succeeds is counted, since a write to be skipped never gets here.
  | delivers comes => simp [Phase.ofStep, comes.journal_same, Call.told_write_done unskipped]

theorem WriteMove.unskipped_after {data : Bytes} {stage : WriteStage S.recorded}
    {step : Step (WriteStage S.recorded) WriteOutcome}
    (move : WriteMove T data ticket stage stream step after)
    (unskipped : stage.Unskipped stream.state.config data) (next : WriteStage S.recorded)
    (goes : (Phase.ofStep step).next? .start = some next) :
    next.Unskipped stream.state.config data := by
  have onward {number written : Nat} (sent : stream.state.config.skips data = false) :
      (Write.fillOrFinish data number written : WriteStage S.recorded).Unskipped
        stream.state.config data := by
    unfold Write.fillOrFinish
    split <;> exact sent
  cases move with
  | joins standing sent current => cases goes; exact sent
  | asks standing sent vacant comes => cases comes <;> cases goes <;> exact sent
  | hears comes => cases comes <;> cases goes <;> exact unskipped
  | retires turn found finished => cases goes; trivial
  | enters turn found unfinished => cases goes; exact onward unskipped
  | takes found polled gained => cases goes; exact onward unskipped
  | _ => cases goes <;> exact unskipped

theorem BreakOff.journal_same {number : Nat} {request : Option Request}
    (breaks : BreakOff ticket number stream request after) : after.journal = stream.journal := by
  cases breaks <;> rfl

@[simp] theorem Close.letGo_journal :
    (Close.letGo T.recorded ticket stream).journal = stream.journal := by
  unfold Close.letGo
  split <;> rfl

theorem CloseMove.journal_total {stage : CloseStage S.recorded}
    {step : Step (CloseStage S.recorded) CloseOutcome}
    (move : CloseMove T ticket stage stream step after) :
    after.journal.total counter = stream.journal.total counter := by
  cases move with
  | takes current => rfl
  | takesIdle vacant shuts => rfl
  | queues blocked => rfl
  | enters turn => rfl
  | finishPends comes => rw [comes.journal_same]
  | finishFails comes => simp [comes.journal_same]
  | finishes comes shuts => simp [comes.journal_same]
  | pends polled => rfl
  | fails polled => rfl
  | closes polled => simp

theorem ReadDrop.journal_same {stage : ReadStage S.recorded}
    (drop : ReadDrop T ticket stage stream after) : after.journal = stream.journal := by
  cases drop <;> rfl

theorem WriteDrop.journal_same {data : Bytes} {stage : WriteStage S.recorded}
    (drop : WriteDrop T data ticket stage stream after) : after.journal = stream.journal := by
  cases drop with
  | starts => rfl
  | asks => rfl
  | leaves stands breaks => exact breaks.journal_same
  | discards breaks => exact breaks.journal_same

theorem CloseDrop.journal_same {stage : CloseStage S.recorded}
    (drop : CloseDrop T ticket stage stream after) : after.journal = stream.journal := by
  cases drop with
  | starts => rfl
  | leaves stands breaks => exact Close.letGo_journal.trans breaks.journal_same
  | rests => rfl
  | shuts => rfl

end Moves

theorem sum_map_set {Item : Type} (part : Item → Nat) {items : List Item} {place : Nat}
    {item : Item} (found : items[place]? = some item) (become : Item) :
    ((items.set place become).map part).sum + part item =
      (items.map part).sum + part become := by
  induction items generalizing place with
  | nil => cases found
  | cons first rest ih =>
    cases place with
    | zero =>
      cases found
      simp only [List.set_cons_zero, List.map_cons, List.sum_cons]
      omega
    | succ place =>
      have later := ih (List.getElem?_cons_succ.symm.trans found)
      simp only [List.set_cons_succ, List.map_cons, List.sum_cons]
      omega

namespace Usage

variable {config : Configuration} {usage after : Usage S} {ticket : Ticket}

/-- The counters say what the answers of all calls come to. -/
structure Booked (config : Configuration) (usage : Usage S) : Prop where
  configured : usage.stream.state.config = config
  unskipped : ∀ (ticket : Ticket) (data : Bytes)
    (phase : Phase (WriteStage S.recorded) WriteOutcome),
    usage.calls[ticket]? = some (.write data phase) →
    ∀ stage, phase.next? .start = some stage → stage.Unskipped config data
  balanced : ∀ counter, counter ≠ ⟨.messages, .inbound⟩ →
    usage.stream.journal.total counter = (usage.calls.map (Call.told config counter)).sum

namespace Booked

variable (booked : usage.Booked config)
include booked

theorem after_answer {call become : Call S.recorded} {stream : Stream S.recorded}
    (found : usage.calls[ticket]? = some call)
    (unanswered : ∀ counter, call.told config counter = 0)
    (kept : stream.state.config = usage.stream.state.config)
    (unskipped : ∀ data phase, become = .write data phase →
      ∀ stage, phase.next? .start = some stage → stage.Unskipped config data)
    (tells : ∀ counter, counter ≠ ⟨.messages, .inbound⟩ → stream.journal.total counter =
      usage.stream.journal.total counter + become.told config counter) :
    Booked config (⟨stream, usage.calls.set ticket become⟩ : Usage S) := by
  refine ⟨kept.trans booked.configured, ?_, ?_⟩
  · intro other data phase there
    rcases set_cases there with ⟨-, same⟩ | ⟨-, old⟩
    · exact unskipped data phase same.symm
    · exact booked.unskipped other data phase old
  · intro counter other
    have changed := sum_map_set (Call.told config counter) found become
    have before := booked.balanced counter other
    have now := tells counter other
    rw [unanswered, Nat.add_zero] at changed
    rw [changed, ← before]
    exact now

theorem after_move (moves : Moves T usage ticket after) : after.Booked config := by
  have same := booked.configured
  cases moves with
  | rests => exact booked
  | reads found next move =>
    exact booked.after_answer found (fun _ => Call.told_read (Phase.answer_next next))
      move.config_same
      nofun fun counter other => move.journal_total other
  | writes found next move =>
    subst same
    have unskipped := booked.unskipped ticket _ _ found _ next
    refine booked.after_answer found (fun _ => Call.told_write (Phase.answer_next next))
      move.config_same
      ?_ fun counter _ => move.journal_total unskipped
    rintro data phase ⟨⟩
    exact move.unskipped_after unskipped
  | closes found next move =>
    refine booked.after_answer found (fun _ => Call.told_close _) move.config_same nofun ?_
    intro counter _
    rw [Call.told_close, move.journal_total, Nat.add_zero]

theorem after_drop (drops : Drops T usage ticket after) : after.Booked config := by
  cases drops with
  | rests => exact booked
  | forgets demand found =>
    refine booked.after_answer found (fun _ => Call.told_begin demand) rfl ?_ ?_
    · intro data phase forgotten stage next
      cases demand <;> cases forgotten
      cases next
    · intro counter _
      rw [Call.told_forgotten, Nat.add_zero]
  | reads found drop =>
    refine booked.after_answer found (fun _ => Call.told_read rfl) drop.config_same nofun ?_
    intro counter _
    rw [drop.journal_same, Call.told_read rfl, Nat.add_zero]
  | writes found drop =>
    refine booked.after_answer found (fun _ => Call.told_write rfl) drop.config_same ?_ ?_
    · rintro data phase ⟨⟩ stage ⟨⟩
    · intro counter _
      rw [drop.journal_same, Call.told_write rfl, Nat.add_zero]
  | closes found drop =>
    refine booked.after_answer found (fun _ => Call.told_close _) drop.config_same nofun ?_
    intro counter _
    rw [drop.journal_same, Call.told_close, Nat.add_zero]

theorem after_begin (demand : Demand) : (usage.step T (.begin demand)).Booked config := by
  refine ⟨booked.configured, ?_, ?_⟩
  · intro other data phase there
    rcases push_cases there with ⟨-, new⟩ | ⟨-, old⟩
    · cases demand <;> cases new
      rintro stage ⟨⟩
      trivial
    · exact booked.unskipped other data phase old
  · intro counter other
    have before := booked.balanced counter other
    simpa [step, Call.told_begin] using before

end Booked

theorem start_booked (config : Configuration) (world : S.World) :
    (start config world).Booked config :=
  ⟨rfl, nofun, fun _ _ => rfl⟩

end Usage

end MessageStream
