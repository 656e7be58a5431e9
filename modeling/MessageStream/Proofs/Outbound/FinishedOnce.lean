import MessageStream.Proofs.Outbound.Moves
import MessageStream.Proofs.Outbound.Use
import MessageStream.Proofs.Usage.Record

/-!
An outbound message is finished at most once, is not written to afterwards, and is never in two
calls' hands at a time. Whoever has a write or a finish of it under way has the turn at it, and a
call given up in the middle breaks off what it had under way before it passes the turn on. A finish
marks the message in the stretch in which it is begun, and a marked message is left alone.
-/
namespace MessageStream

variable {S : Signature} {T : Transport S}

/-- The message has been finished, or its finish been begun. -/
def Stream.marked (stream : Stream S.recorded) (number : Nat) : Bool :=
  stream.finished[number]?.getD false

theorem Stream.marked_found {stream : Stream S.recorded} {number : Nat}
    {cursor : Cursor (Outbound (Numbered S.Writer))}
    (found : stream.state.writers[number]? = some cursor) :
    stream.marked number = cursor.content.finished := by
  rw [marked, stream.finished_found found]
  rfl

theorem Stream.marked_same {stream after : Stream S.recorded}
    (same : after.finished = stream.finished) : after.marked = stream.marked := by
  funext number
  rw [marked, marked, same]

theorem Stream.marked_push {stream after : Stream S.recorded}
    (pushed : after.finished = stream.finished ++ [false]) : after.marked = stream.marked := by
  funext number
  rw [marked, marked, pushed]
  by_cases new : number = stream.finished.length
  · subst new
    simp
  · rw [push_elsewhere _ _ new]

theorem Stream.marked_put {stream : Stream S.recorded} {number : Nat}
    {cursor : Cursor (Outbound (Numbered S.Writer))}
    (found : stream.state.writers[number]? = some cursor) (content : S.Writer) :
    (stream.putWriter number content true).marked = Function.update stream.marked number true := by
  funext other
  rw [marked, putWriter_finished]
  by_cases here : other = number
  · subst here
    simp [stream.finished_found found]
  · simp [here, marked]

def Call.pending : Call S → Option Request
  | .write data (.waiting stage) => stage.pending data
  | .close (.waiting stage) => stage.pending
  | _ => none

def Call.filling : Call S → Option Nat
  | .write _ (.waiting (.filling number _ _)) => some number
  | _ => none

theorem Call.pending_place {call : Call S} {request : Request}
    (under : call.pending = some request) :
    ∃ number, request.writer? = some number ∧ call.writer = some (number, true) := by
  cases call with
  | read room phase => cases under
  | write data phase =>
    cases phase with
    | waiting stage =>
      cases stage with
      | discarding number stage =>
        cases stage <;> cases under
        exact ⟨number, rfl, rfl⟩
      | filling number written stage =>
        cases stage <;> cases under
        exact ⟨number, rfl, rfl⟩
      | finishing number written failure stage =>
        cases stage <;> cases under
        exact ⟨number, rfl, rfl⟩
      | _ => cases under
    | _ => cases under
  | close phase =>
    cases phase with
    | waiting stage =>
      cases stage with
      | finishing number stage =>
        cases stage <;> cases under
        exact ⟨number, rfl, rfl⟩
      | _ => cases under
    | _ => cases under

theorem Call.filling_place {call : Call S} {number : Nat} (fills : call.filling = some number) :
    call.writer = some (number, true) := by
  cases call with
  | write data phase =>
    cases phase with
    | waiting stage =>
      cases stage <;> cases fills
      rfl
    | _ => cases fills
  | _ => cases fills

/-- What one stretch of a call, or giving it up, does about outbound messages: nothing at all, one
poll of a write or a finish of the message at which the call has the turn, or breaking that off. The
call had something under way before or not, and so it has afterwards. -/
inductive Touch (ticket : Ticket) (place : Place) (stream after : Stream S.recorded)
    (before next : Option Request) : Prop where
  | rests {entries : List Traffic}
      (grown : after.world.traffic = stream.world.traffic ++ entries)
      (elsewhere : ∀ entry ∈ entries, entry.request.writer? = none)
      (marked : after.marked = stream.marked) (free : before = none) (stays : next = none)
  | polls {number : Nat} {request : Request} {resumed : Bool} {reply : Option Reply}
      (turn : place = some (number, true)) (on : request.writer? = some number)
      (grown : after.world.traffic =
        stream.world.traffic ++ Traffic.ofPoll ticket request resumed reply)
      (unmarked : resumed = false → stream.marked number = false)
      (marked : after.marked = if request = .finish number
        then Function.update stream.marked number true else stream.marked)
      (under : before = if resumed then some request else none)
      (leaves : next = if reply.isSome then none else some request)
  | breaksOff {number : Nat} {request : Request} (on : request.writer? = some number)
      (grown : after.world.traffic = stream.world.traffic ++ [.cancelled ticket request])
      (marked : after.marked = stream.marked) (under : before = some request)
      (leaves : next = none)

namespace Touch

variable {ticket : Ticket} {place : Place} {stream after later : Stream S.recorded}
  {before next : Option Request}

theorem then_same (touch : Touch ticket place stream after before next)
    (traffic : later.world.traffic = after.world.traffic)
    (finished : later.finished = after.finished) :
    Touch ticket place stream later before next := by
  have same := Stream.marked_same finished
  cases touch with
  | rests grown elsewhere marked free stays =>
    exact .rests (traffic.trans grown) elsewhere (same.trans marked) free stays
  | polls turn on grown unmarked marked under leaves =>
    exact .polls turn on (traffic.trans grown) unmarked (same.trans marked) under leaves
  | breaksOff on grown marked under leaves =>
    exact .breaksOff on (traffic.trans grown) (same.trans marked) under leaves

theorem of_borrow (touch : Touch ticket place (stream.borrow ticket) after before next) :
    Touch ticket place stream after before next := by
  cases touch with
  | rests grown elsewhere marked free stays => exact .rests grown elsewhere marked free stays
  | polls turn on grown unmarked marked under leaves =>
    exact .polls turn on grown unmarked marked under leaves
  | breaksOff on grown marked under leaves => exact .breaksOff on grown marked under leaves

theorem of_other_requests (adds : stream.Adds ticket (·.writer?.isNone) after)
    (marked : after.marked = stream.marked) : Touch ticket place stream after none none := by
  obtain ⟨entries, grown, made⟩ := adds
  refine .rests grown ?_ marked rfl rfl
  intro entry member
  exact Option.isNone_iff_eq_none.mp (made entry member).2

theorem of_quiet (traffic : after.world.traffic = stream.world.traffic)
    (finished : after.finished = stream.finished) : Touch ticket place stream after none none :=
  .of_other_requests (.of_same_traffic traffic) (Stream.marked_same finished)

end Touch

section Moves

variable {ticket : Ticket} {stream after : Stream S.recorded}

theorem FinishComes.touches {number : Nat} {resumed : Bool}
    {progress : Progress S.Finishing (Except Failure Unit)}
    (comes : FinishComes T ticket number resumed stream progress after) :
    Touch ticket (some (number, true)) stream after
      (if resumed then some (.finish number) else none)
      (if progress.answer?.isSome then none else some (.finish number)) := by
  cases comes with
  | settled fresh found finished =>
    subst fresh
    exact .of_quiet rfl rfl
  | polls found unsettled =>
    refine .polls rfl rfl rfl ?_ ?_ rfl ?_
    · intro fresh
      rcases unsettled with resumed | unfinished
      · rw [fresh] at resumed
        cases resumed
      · exact (Stream.marked_found found).trans unfinished
    · rw [if_pos rfl]
      exact Stream.marked_put found _
    · rcases progress with later | source | nothing <;> rfl

theorem FinishComes.marked_after {number : Nat} {resumed : Bool}
    {progress : Progress S.Finishing (Except Failure Unit)}
    (comes : FinishComes T ticket number resumed stream progress after) :
    after.marked number = true := by
  cases comes with
  | settled fresh found finished => exact (Stream.marked_found found).trans finished
  | polls found unsettled =>
    exact (congrFun (Stream.marked_put found _) number).trans (Function.update_self _ _ _)

theorem BreakOff.touches {number : Nat} {request : Option Request} {place : Place}
    (breaks : BreakOff ticket number stream request after)
    (on : ∀ broken, request = some broken → broken.writer? = some number) :
    Touch ticket place stream after request none := by
  cases breaks with
  | idle => exact .of_quiet rfl rfl
  | busy found =>
    exact .breaksOff (on _ rfl) rfl
      (Stream.marked_same (Stream.putWriter_unfinished stream found _)) rfl rfl

theorem Request.reads_aside (request : Request) (reads : request.reads = true) :
    request.writer?.isNone = true := by
  cases request <;> first | rfl | cases reads

theorem ReadMove.touches {room : Nat} {stage : ReadStage S.recorded} {place : Place}
    {step : Step (ReadStage S.recorded) ReadOutcome}
    (move : ReadMove T room ticket stage stream step after) :
    Touch ticket place stream after none none :=
  .of_other_requests (move.adds.of_weaker Request.reads_aside)
    (Stream.marked_same (by rw [Stream.finished, move.writers_same, Stream.finished]))

theorem ReadDrop.touches {stage : ReadStage S.recorded} {place : Place}
    (drop : ReadDrop T ticket stage stream after) : Touch ticket place stream after none none :=
  .of_other_requests (drop.adds.of_weaker Request.reads_aside)
    (Stream.marked_same (by rw [Stream.finished, drop.writers_same, Stream.finished]))

theorem WriterComes.touches {resumed : Bool} {place : Place}
    {step : Step (WriteStage S.recorded) WriteOutcome}
    (comes : WriterComes T ticket resumed stream step after) :
    Touch ticket place stream after none none := by
  refine .of_other_requests (comes.adds fun _ => rfl) ?_
  cases comes with
  | waits => rfl
  | fails => rfl
  | late closed => exact Stream.marked_push (by simp)
  | opens standing => exact Stream.marked_push (by simp)

theorem WriterComes.pending_none {data : Bytes} {resumed : Bool}
    {step : Step (WriteStage S.recorded) WriteOutcome}
    (comes : WriterComes T ticket resumed stream step after) :
    (Call.write data (.ofStep step)).pending = none := by
  cases comes <;> rfl

theorem WriteStage.discarding_pending (data : Bytes) (number : Nat) (stage : Option S.Finishing) :
    (discarding number stage : WriteStage S).pending data =
      if stage.isSome then some (.finish number) else none := by
  cases stage <;> rfl

theorem WriteStage.filling_pending (data : Bytes) (number written : Nat)
    (stage : Option S.Writing) :
    (filling number written stage : WriteStage S).pending data =
      if stage.isSome then some (.write number (data.drop written)) else none := by
  cases stage <;> rfl

theorem WriteStage.finishing_pending (data : Bytes) (number written : Nat)
    (failure : Option Failure) (stage : Option S.Finishing) :
    (finishing number written failure stage : WriteStage S).pending data =
      if stage.isSome then some (.finish number) else none := by
  cases stage <;> rfl

theorem CloseStage.finishing_pending (number : Nat) (stage : Option S.Finishing) :
    (finishing number stage : CloseStage S).pending =
      if stage.isSome then some (.finish number) else none := by
  cases stage <;> rfl

theorem Write.fillOrFinish_pending (data : Bytes) (number written : Nat) :
    (Call.write data (.waiting (fillOrFinish data number written)) : Call S).pending = none := by
  unfold fillOrFinish
  split <;> rfl

theorem Write.fillOrFinish_filling {data : Bytes} {number written other : Nat}
    (fills : (Call.write data (.waiting (fillOrFinish data number written)) : Call S).filling =
      some other) : other = number := by
  unfold fillOrFinish at fills
  split at fills <;> cases fills
  rfl

theorem Touch.of_filling {number : Nat} {rest : Bytes} {resumed : Bool} {reply : Option Reply}
    {cursor : Cursor (Outbound (Numbered S.Writer))} {content : S.Writer} {inner : S.World}
    {next : Option Request} (found : stream.state.writers[number]? = some cursor)
    (unmarked : stream.marked number = false)
    (leaves : next = if reply.isSome then none else some (.write number rest)) :
    Touch ticket (some (number, true)) stream
      ((stream.putWriter number content cursor.content.finished).heard inner
        (Traffic.ofPoll ticket (.write number rest) resumed reply))
      (if resumed then some (.write number rest) else none) next :=
  .polls rfl rfl rfl (fun _ => unmarked)
    (Stream.marked_same (Stream.putWriter_unfinished stream found content)) rfl leaves

theorem WriteMove.touches {data : Bytes} {stage : WriteStage S.recorded}
    {step : Step (WriteStage S.recorded) WriteOutcome}
    (move : WriteMove T data ticket stage stream step after)
    (unmarked : ∀ number, (Call.write data (.waiting stage)).filling = some number →
      stream.marked number = false) :
    Touch ticket stage.place stream after (stage.pending data)
      (Call.write data (.ofStep step)).pending := by
  cases move with
  | refused closed => exact .of_quiet rfl rfl
  | skips standing skipped => exact .of_quiet rfl rfl
  | joins standing sent current => exact .of_quiet rfl (Stream.joinWriter_finished _ _ _)
  | asks standing sent vacant comes =>
    rw [comes.pending_none]
    exact comes.touches.of_borrow
  | hears comes =>
    rw [comes.pending_none]
    exact comes.touches
  | discardPends comes =>
    rw [WriteStage.discarding_pending]
    exact comes.touches
  | discards comes =>
    rw [WriteStage.discarding_pending]
    exact comes.touches.then_same (by simp) (by simp)
  | queues blocked => exact .of_quiet rfl rfl
  | retires turn found finished => exact .of_quiet (by simp) (by simp)
  | enters turn found unfinished =>
    have idle := Write.fillOrFinish_pending (S := S.recorded) data
    exact (idle _ 0).symm ▸ .of_quiet rfl rfl
  | pends found =>
    rw [WriteStage.filling_pending]
    exact .of_filling found (unmarked _ rfl) rfl
  | breaks found =>
    rw [WriteStage.filling_pending]
    exact .of_filling found (unmarked _ rfl) rfl
  | takes found polled gained =>
    rw [WriteStage.filling_pending]
    exact .of_filling found (unmarked _ rfl) (Write.fillOrFinish_pending data _ _)
  | stalls found =>
    rw [WriteStage.filling_pending]
    exact .of_filling found (unmarked _ rfl) rfl
  | finishPends comes =>
    rw [WriteStage.finishing_pending]
    exact comes.touches
  | failed comes =>
    rw [WriteStage.finishing_pending]
    exact comes.touches.then_same (by simp) (by simp)
  | finishFails comes =>
    rw [WriteStage.finishing_pending]
    exact comes.touches.then_same (by simp) (by simp)
  | delivers comes =>
    rw [WriteStage.finishing_pending]
    exact comes.touches.then_same (by simp) (by simp)

theorem WriteMove.unmarked_while_filling {data : Bytes} {stage : WriteStage S.recorded}
    {step : Step (WriteStage S.recorded) WriteOutcome}
    (move : WriteMove T data ticket stage stream step after)
    (unmarked : ∀ number, (Call.write data (.waiting stage)).filling = some number →
      stream.marked number = false) (number : Nat)
    (fills : (Call.write data (.ofStep step)).filling = some number) :
    after.marked number = false := by
  cases move with
  | asks standing sent vacant comes => cases comes <;> cases fills
  | hears comes => cases comes <;> cases fills
  | enters turn found unfinished =>
    rw [Write.fillOrFinish_filling fills]
    exact (Stream.marked_found found).trans unfinished
  | pends found =>
    cases fills
    exact (congrFun (Stream.marked_same (Stream.putWriter_unfinished stream found _)) _).trans
      (unmarked _ rfl)
  | takes found polled gained =>
    rw [Write.fillOrFinish_filling fills]
    exact (congrFun (Stream.marked_same (Stream.putWriter_unfinished stream found _)) _).trans
      (unmarked _ rfl)
  | _ => cases fills

theorem WriteDrop.touches {data : Bytes} {stage : WriteStage S.recorded}
    (drop : WriteDrop T data ticket stage stream after) :
    Touch ticket stage.place stream after (stage.pending data) none := by
  have on {stage : WriteStage S.recorded} {number : Nat} {turn : Bool}
      (stands : stage.place = some (number, turn)) (broken : Request)
      (under : (Call.write data (.waiting stage) : Call S.recorded).pending = some broken) :
      broken.writer? = some number := by
    obtain ⟨held, on, placed⟩ := Call.pending_place under
    cases stands.symm.trans placed
    exact on
  cases drop with
  | starts => exact .of_quiet rfl rfl
  | asks => exact .of_other_requests (.of_cancelled rfl (Stream.giveBack_traffic T _ ticket)) rfl
  | leaves stands breaks => exact (breaks.touches (on stands)).then_same (by simp) (by simp)
  | discards breaks => exact (breaks.touches (on rfl)).then_same (by simp) (by simp)

@[simp] theorem Close.letGo_finished :
    (Close.letGo T.recorded ticket stream).finished = stream.finished := by
  rw [Stream.finished, Close.letGo_lines.2, Stream.finished]

theorem CloseMove.touches {stage : CloseStage S.recorded}
    {step : Step (CloseStage S.recorded) CloseOutcome}
    (move : CloseMove T ticket stage stream step after) :
    Touch ticket stage.place stream after stage.pending (Call.close (.ofStep step)).pending := by
  have unpending {stream : Stream S.recorded} {step : Step (CloseStage S.recorded) CloseOutcome}
      (shuts : Shuts ticket stream step) :
      (Call.close (.ofStep step) : Call S.recorded).pending = none := by
    cases shuts <;> rfl
  cases move with
  | takes current => exact .of_quiet rfl (Stream.joinWriter_finished _ _ _)
  | takesIdle vacant shuts =>
    rw [unpending shuts]
    exact .of_quiet rfl rfl
  | queues blocked => exact .of_quiet rfl rfl
  | enters turn => exact .of_quiet rfl rfl
  | finishPends comes =>
    rw [CloseStage.finishing_pending]
    exact comes.touches
  | finishFails comes =>
    rw [CloseStage.finishing_pending]
    exact comes.touches.then_same (by simp) (by simp)
  | finishes comes shuts =>
    rw [CloseStage.finishing_pending, unpending shuts]
    exact comes.touches.then_same (by simp) (by simp)
  | pends => exact .of_other_requests (.of_poll rfl _ _ rfl) rfl
  | fails => exact .of_other_requests (.of_poll rfl _ _ (Stream.giveBack_traffic T _ ticket)) rfl
  | closes => exact .of_other_requests (.of_poll rfl _ _ (Stream.giveBack_traffic T _ ticket)) rfl

theorem CloseDrop.touches {stage : CloseStage S.recorded}
    (drop : CloseDrop T ticket stage stream after) :
    Touch ticket stage.place stream after stage.pending none := by
  cases drop with
  | starts => exact .of_quiet rfl rfl
  | leaves stands breaks =>
    refine (breaks.touches ?_).then_same (by simp) (by simp)
    intro broken under
    obtain ⟨held, on, placed⟩ : ∃ number, broken.writer? = some number ∧
        stage.place = some (number, true) := by
      have pending : (Call.close (.waiting stage) : Call S.recorded).pending = _ := under
      exact Call.pending_place pending
    cases stands.symm.trans placed
    exact on
  | rests => exact .of_quiet (Stream.giveBack_traffic T _ ticket) rfl
  | shuts => exact .of_other_requests (.of_cancelled rfl (Stream.giveBack_traffic T _ ticket)) rfl

end Moves

/-- The record can be read for a message, which is marked as the record says, and the call on it
under way is the one that a call on the stream has under way. -/
def Stream.UsedBy (stream : Stream S.recorded) (pending : Ticket → Option Request) (writer : Nat) :
    Prop :=
  ∃ use : Use, Use.idle.follow writer stream.world.traffic = some use ∧
    use.isFinished = stream.marked writer ∧
    ∀ caller request, use.pending writer = some (caller, request) ↔
      pending caller = some request ∧ request.writer? = some writer

namespace Stream.UsedBy

variable {stream after : Stream S.recorded} {pending : Ticket → Option Request} {writer : Nat}
  {ticket : Ticket} {next : Option Request}

theorem after_other_request (used : stream.UsedBy pending writer) {entries : List Traffic}
    (grown : after.world.traffic = stream.world.traffic ++ entries)
    (elsewhere : ∀ entry ∈ entries, entry.request.writer? ≠ some writer)
    (marked : after.marked writer = stream.marked writer)
    (before : ∀ request, pending ticket = some request → request.writer? ≠ some writer)
    (later : ∀ request, next = some request → request.writer? ≠ some writer) :
    after.UsedBy (Function.update pending ticket next) writer := by
  obtain ⟨use, read, finished, under⟩ := used
  refine ⟨use, ?_, finished.trans marked.symm, ?_⟩
  · rw [grown, Use.follow_append, read]
    exact use.follow_elsewhere entries elsewhere
  · intro caller request
    rw [under]
    by_cases mover : caller = ticket
    · subst mover
      rw [Function.update_self]
      constructor
      · rintro ⟨was, on⟩
        exact absurd on (before request was)
      · rintro ⟨is, on⟩
        exact absurd on (later request is)
    · rw [Function.update_of_ne mover]

theorem after_break_off {request : Request} (used : stream.UsedBy pending writer)
    (on : request.writer? = some writer)
    (grown : after.world.traffic = stream.world.traffic ++ [.cancelled ticket request])
    (marked : after.marked writer = stream.marked writer)
    (under : pending ticket = some request) :
    after.UsedBy (Function.update pending ticket none) writer := by
  obtain ⟨use, read, finished, agree⟩ := used
  have busy := (agree ticket request).mpr ⟨under, on⟩
  refine ⟨use.left, ?_, ?_, ?_⟩
  · rw [grown, Use.follow_append, read]
    exact use.follow_cancelled ticket on busy
  · rw [Use.left_isFinished, finished, marked]
  · intro caller asked
    rw [Use.left_pending]
    by_cases mover : caller = ticket
    · simp [mover]
    · rw [Function.update_of_ne mover, ← agree caller asked, busy]
      simp [Ne.symm mover]

end Stream.UsedBy

section Turns

variable {place : Ticket → Place} {pending : Ticket → Option Request} {ticket : Ticket}
  (placed : ∀ caller request, pending caller = some request →
    ∃ number, request.writer? = some number ∧ place caller = some (number, true))
  (exclusive : ∀ {number one other}, place one = some (number, true) →
    place other = some (number, true) → one = other)
include placed exclusive

theorem pending_turn {writer : Nat} (held : place ticket = some (writer, true)) {caller : Ticket}
    {request : Request} (under : pending caller = some request)
    (on : request.writer? = some writer) : caller = ticket := by
  obtain ⟨number, there, first⟩ := placed caller request under
  cases there.symm.trans on
  exact exclusive first held

theorem Stream.UsedBy.after_poll {stream after : Stream S.recorded} {writer : Nat}
    {request : Request}
    {resumed : Bool} {reply : Option Reply} (used : stream.UsedBy pending writer)
    (held : place ticket = some (writer, true)) (on : request.writer? = some writer)
    (grown : after.world.traffic =
      stream.world.traffic ++ Traffic.ofPoll ticket request resumed reply)
    (unmarked : resumed = false → stream.marked writer = false)
    (marked : after.marked writer = (request == .finish writer || stream.marked writer))
    (under : pending ticket = if resumed then some request else none) :
    after.UsedBy
      (Function.update pending ticket (if reply.isSome then none else some request)) writer := by
  obtain ⟨use, read, finished, agree⟩ := used
  have admitted : if resumed then use.pending writer = some (ticket, request)
      else use = .idle := by
    cases resumed with
    | true => exact (agree ticket request).mpr ⟨under, on⟩
    | false =>
      -- Whoever had a call on the message under way would have the turn, but the mover has.
      have free : use.isFinished = false := finished.trans (unmarked rfl)
      refine Use.idle_of writer free ?_
      intro caller other busy
      obtain ⟨has, there⟩ := (agree caller other).mp busy
      rw [pending_turn placed exclusive held has there, under] at has
      cases has
  have before : use.isFinished = true → request = .finish writer := by
    cases resumed with
    | true =>
      rw [Use.pending_isFinished admitted]
      exact beq_iff_eq.mp
    | false =>
      rw [finished, unmarked rfl]
      nofun
  obtain ⟨later, goes, pends, done⟩ := use.follow_poll ticket on resumed reply admitted
  refine ⟨later, ?_, ?_, ?_⟩
  · rw [grown, Use.follow_append, read]
    exact goes
  · rw [done, marked, ← finished]
    cases was : use.isFinished with
    | false => simp
    | true => simp [before was]
  · intro caller asked
    rw [pends]
    by_cases mover : caller = ticket
    · subst mover
      rw [Function.update_self]
      cases reply with
      | none => simpa using fun same => same ▸ on
      | some reply => simp
    · rw [Function.update_of_ne mover]
      constructor
      · intro busy
        cases reply with
        | none =>
          have same : ticket = caller ∧ request = asked := by simpa using busy
          exact absurd same.1.symm mover
        | some reply => cases busy
      · rintro ⟨has, there⟩
        exact absurd (pending_turn placed exclusive held has there) mover

theorem Touch.used_by {stream after : Stream S.recorded} {next : Option Request}
    (touch : Touch ticket (place ticket) stream after (pending ticket) next)
    (used : ∀ writer, stream.UsedBy pending writer) (writer : Nat) :
    after.UsedBy (Function.update pending ticket next) writer := by
  cases touch with
  | rests grown elsewhere marked free stays =>
    refine (used writer).after_other_request grown ?_ (congrFun marked writer) ?_ ?_
    · intro entry member
      rw [elsewhere entry member]
      nofun
    · intro request under
      rw [free] at under
      cases under
    · intro request under
      rw [stays] at under
      cases under
  | polls turn on grown unmarked marked under leaves =>
    rename_i number request resumed reply
    -- To every message but the one polled this is a request about another.
    by_cases here : number = writer
    · subst here
      rw [leaves]
      refine (used number).after_poll placed exclusive turn on grown unmarked ?_ under
      rw [marked]
      by_cases finish : request = .finish number <;> simp [finish]
    · have other : request.writer? ≠ some writer := by
        rw [on]
        simpa using here
      refine (used writer).after_other_request grown ?_ ?_ ?_ ?_
      · intro entry member
        rw [(Traffic.mem_ofPoll member).2]
        exact other
      · rw [marked]
        split
        · exact Function.update_of_ne (Ne.symm here) _ _
        · rfl
      · intro asked has
        rw [under] at has
        cases resumed <;> cases has
        exact other
      · intro asked has
        rw [leaves] at has
        cases reply <;> cases has
        exact other
  | breaksOff on grown marked under leaves =>
    rename_i number request
    rw [leaves]
    by_cases here : number = writer
    · subst here
      exact (used number).after_break_off on grown (congrFun marked number) under
    · have other : request.writer? ≠ some writer := by
        rw [on]
        simpa using here
      refine (used writer).after_other_request grown ?_ (congrFun marked writer) ?_ nofun
      · intro entry member
        rw [List.mem_singleton.mp member]
        exact other
      · intro asked has
        rw [under] at has
        cases has
        exact other

end Turns

namespace Usage

def pending (usage : Usage S) (ticket : Ticket) : Option Request :=
  usage.calls[ticket]?.bind Call.pending

def filling (usage : Usage S) (ticket : Ticket) : Option Nat :=
  usage.calls[ticket]?.bind Call.filling

theorem pending_placed (usage : Usage S) (caller : Ticket) (request : Request)
    (under : usage.pending caller = some request) :
    ∃ number, request.writer? = some number ∧ usage.writer caller = some (number, true) := by
  obtain ⟨call, found, has⟩ := Option.bind_eq_some_iff.mp under
  obtain ⟨number, on, turn⟩ := Call.pending_place has
  exact ⟨number, on, by simp [writer, found, turn]⟩

theorem filling_placed {usage : Usage S} {ticket : Ticket} {number : Nat}
    (fills : usage.filling ticket = some number) : usage.writer ticket = some (number, true) := by
  obtain ⟨call, found, has⟩ := Option.bind_eq_some_iff.mp fills
  simp [writer, found, Call.filling_place has]

/-- Every outbound message is used as it may be, and one that is being filled is not marked. -/
structure Used (usage : Usage S) : Prop where
  sound : usage.Sound
  uses : ∀ writer, usage.stream.UsedBy usage.pending writer
  unmarked : ∀ ticket number, usage.filling ticket = some number →
    usage.stream.marked number = false

namespace Used

variable {usage : Usage S} (used : usage.Used)
include used

/-- Only the call with the turn at a message marks it, so one that another is filling stays
unmarked. -/
theorem unmarked_other {ticket : Ticket} {after : Stream S.recorded}
    {before next : Option Request}
    (touch : Touch ticket (usage.writer ticket) usage.stream after before next) {other : Ticket}
    (different : other ≠ ticket) {number : Nat} (fills : usage.filling other = some number) :
    after.marked number = false := by
  have clear := used.unmarked other number fills
  cases touch with
  | rests grown elsewhere marked free stays => exact (congrFun marked number).trans clear
  | polls turn on grown unmarked marked under leaves =>
    rw [marked]
    split
    · rw [Function.update_of_ne]
      · exact clear
      · rintro rfl
        exact different (used.sound.writers.one_at_a_time (filling_placed fills) turn)
    · exact clear
  | breaksOff on grown marked under leaves => exact (congrFun marked number).trans clear

theorem after_touch {ticket : Ticket} {call become : Call S.recorded} {after : Stream S.recorded}
    (found : usage.calls[ticket]? = some call)
    (touch : Touch ticket call.writer usage.stream after call.pending become.pending)
    (sound : Sound (⟨after, usage.calls.set ticket become⟩ : Usage S))
    (fills : ∀ number, become.filling = some number → after.marked number = false) :
    Used (⟨after, usage.calls.set ticket become⟩ : Usage S) := by
  have under : call.pending = usage.pending ticket := by simp [pending, found]
  have stood : call.writer = usage.writer ticket := by simp [writer, found]
  rw [under, stood] at touch
  refine ⟨sound, ?_, ?_⟩
  · have same : (⟨after, usage.calls.set ticket become⟩ : Usage S).pending =
        Function.update usage.pending ticket become.pending :=
      set_place found become Call.pending
    rw [same]
    exact touch.used_by usage.pending_placed used.sound.writers.one_at_a_time used.uses
  · intro other number filled
    have same : (⟨after, usage.calls.set ticket become⟩ : Usage S).filling =
        Function.update usage.filling ticket become.filling :=
      set_place found become Call.filling
    rw [same] at filled
    by_cases mover : other = ticket
    · subst mover
      rw [Function.update_self] at filled
      exact fills number filled
    · rw [Function.update_of_ne mover] at filled
      exact used.unmarked_other touch mover filled

theorem after_move {ticket : Ticket} {after : Usage S} (moves : Moves T usage ticket after) :
    after.Used := by
  have sound := used.sound.after_move moves
  cases moves with
  | rests => exact used
  | reads found next move => exact used.after_touch found move.touches sound nofun
  | writes found next move =>
    rename_i data phase stage step stream
    have writer : (Call.write data phase : Call S.recorded).writer = stage.place :=
      Phase.place_next WriteStage.place .start rfl next
    have under : (Call.write data phase : Call S.recorded).pending = stage.pending data := by
      cases phase <;> cases next <;> rfl
    have unmarked (number : Nat)
        (fills : (Call.write data (.waiting stage) : Call S.recorded).filling = some number) :
        usage.stream.marked number = false := by
      refine used.unmarked ticket number ?_
      cases phase <;> cases next
      · cases fills
      · simpa [filling, found] using fills
    refine used.after_touch found ?_ sound (move.unmarked_while_filling unmarked)
    rw [writer, under]
    exact move.touches unmarked
  | closes found next move =>
    rename_i phase stage step stream
    have writer : (Call.close phase : Call S.recorded).writer = stage.place :=
      Phase.place_next CloseStage.place .start rfl next
    have under : (Call.close phase : Call S.recorded).pending = stage.pending := by
      cases phase <;> cases next <;> rfl
    refine used.after_touch found ?_ sound nofun
    rw [writer, under]
    exact move.touches

theorem after_drop {ticket : Ticket} {after : Usage S} (drops : Drops T usage ticket after) :
    after.Used := by
  have sound := used.sound.after_drop drops
  cases drops with
  | rests => exact used
  | forgets demand found =>
    refine used.after_touch found ?_ sound ?_
    · cases demand <;> exact .of_quiet rfl rfl
    · cases demand <;> nofun
  | reads found drop => exact used.after_touch found drop.touches sound nofun
  | writes found drop => exact used.after_touch found drop.touches sound nofun
  | closes found drop => exact used.after_touch found drop.touches sound nofun

theorem after_begin (demand : Demand) : (usage.step T (.begin demand)).Used := by
  have pending : (usage.step T (.begin demand)).pending = usage.pending :=
    push_same usage.calls demand Call.pending (by cases demand <;> rfl)
  have filling : (usage.step T (.begin demand)).filling = usage.filling :=
    push_same usage.calls demand Call.filling (by cases demand <;> rfl)
  refine ⟨used.sound.after_begin demand, ?_, ?_⟩
  · rw [pending]
    exact used.uses
  · rw [filling]
    exact used.unmarked

theorem after_run (actions : List (Action S.World)) : (usage.run T actions).Used :=
  moves_keep Used (fun _ demand used => used.after_begin demand)
    (fun moves used => used.after_move moves) (fun drops used => used.after_drop drops)
    (fun _ become used => ⟨used.sound.after_change become, used.uses, used.unmarked⟩)
    used.sound used actions

end Used

theorem start_used (config : Configuration) (world : S.World) : (start config world).Used :=
  ⟨start_sound config world,
    fun _ => ⟨.idle, rfl, rfl, fun _ _ => by simp [Use.pending, pending, start]⟩, nofun⟩

/-- A message is finished once, not written to afterwards, and in one call's hands at a time. In
every run of any calls, given up or not, over any connection: the finish of each message handed out
is begun at most once, no write of it is begun after its finish, and at no moment is more than one
write or finish of it under way. -/
theorem finished_at_most_once (T : Transport S) (config : Configuration) (world : S.World)
    (actions : List (Action S.World)) (writer : Nat) :
    let traffic := ((start config world).run T actions).traffic
    traffic.countP (Traffic.finishes writer) ≤ 1 ∧
    ∀ before after, traffic = before ++ after →
      (before.any (Traffic.finishes writer) = true →
        ∀ entry ∈ after, entry.writes writer = false) ∧
      (Traffic.underWay writer before).length ≤ 1 := by
  intro traffic
  have used : ((start config world).run T actions).Used :=
    (start_used config world).after_run actions
  obtain ⟨use, read, -⟩ := used.uses writer
  exact Use.follow_proper read

end Usage

end MessageStream
