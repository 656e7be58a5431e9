import MessageStream.Proofs.Usage.Sound
import MessageStream.Transport.Scripted

/-!
Closing is final. A close takes the connection and both current messages in the stretch in which it
is first polled. From then on the stream stays closed: no message becomes current again and none is
asked for, also by the calls that were under way, and a read or a write begun later is refused at
its first poll. Calls may be given up at any wait, the close itself included.
-/
namespace MessageStream

variable {S : Signature} {T : Transport S}

def Traffic.asks : Traffic → Bool
  | .begun _ .nextReader => true
  | .begun _ (.nextWriter _) => true
  | _ => false

def Event.stores : Event → Bool
  | .inboundOpened => true
  | .outboundOpened _ => true
  | _ => false

/-- The stream is closed, and since an earlier moment no message has been asked for or become
current. -/
structure Stream.Sealed (before stream : Stream S.recorded) : Prop where
  closed : stream.state.isClosed = true
  inbound : stream.state.inbound = none
  outbound : stream.state.outbound = none
  traffic : ∃ entries, stream.world.traffic = before.world.traffic ++ entries ∧
    ∀ entry ∈ entries, entry.asks = false
  journal : ∃ events, stream.journal = before.journal ++ events ∧
    ∀ event ∈ events, event.stores = false

theorem Traffic.ofPoll_asks (caller : Ticket) (request : Request) (resumed : Bool)
    (reply : Option Reply) (quiet : resumed = true ∨ (Traffic.begun caller request).asks = false) :
    ∀ entry ∈ Traffic.ofPoll caller request resumed reply, entry.asks = false := by
  intro entry member
  unfold Traffic.ofPoll at member
  rcases List.mem_append.mp member with started | ended
  · cases resumed with
    | true => simp at started
    | false =>
      rw [if_neg Bool.false_ne_true, List.mem_singleton] at started
      rcases quiet with resumed | quiet
      · cases resumed
      · exact started ▸ quiet
  · cases reply with
    | none => simp at ended
    | some reply =>
      have same : entry = .ended caller request reply := by simpa using ended
      exact same ▸ rfl

namespace Stream.Sealed

theorem refl {stream : Stream S.recorded} (closed : stream.state.isClosed = true)
    (inbound : stream.state.inbound = none) (outbound : stream.state.outbound = none) :
    Sealed stream stream :=
  ⟨closed, inbound, outbound, ⟨[], by simp, List.forall_mem_nil _⟩, ⟨[], by simp, nofun⟩⟩

variable {before stream : Stream S.recorded} (shut : Sealed before stream)
include shut

theorem of_unmarked {after : Stream S.recorded} (owned : after.state.lease.owned = false)
    (inbound : after.state.inbound = none) (outbound : after.state.outbound = none)
    (traffic : after.world.traffic = stream.world.traffic)
    (journal : after.journal = stream.journal) : Sealed before after :=
  ⟨by simp [Stream.State.isClosed, owned], inbound, outbound, traffic ▸ shut.traffic,
    journal ▸ shut.journal⟩

theorem not_owned : stream.state.lease.owned = false := by
  simpa [Stream.State.isClosed] using shut.closed

theorem after_heard (inner : S.World) (entries : List Traffic)
    (quiet : ∀ entry ∈ entries, entry.asks = false) :
    Sealed before (stream.heard inner entries) := by
  obtain ⟨earlier, grown, silent⟩ := shut.traffic
  refine ⟨shut.closed, shut.inbound, shut.outbound, ⟨earlier ++ entries, ?_, ?_⟩, shut.journal⟩
  · simp [grown]
  · intro entry member
    exact (List.mem_append.mp member).elim (silent entry) (quiet entry)

theorem after_record (event : Event) (quiet : event.stores = false) :
    Sealed before (stream.record event) := by
  obtain ⟨earlier, grown, silent⟩ := shut.journal
  refine ⟨shut.closed, shut.inbound, shut.outbound, shut.traffic, ⟨earlier ++ [event], ?_, ?_⟩⟩
  · simp [grown]
  · intro other member
    rcases List.mem_append.mp member with old | new
    · exact silent other old
    · exact List.mem_singleton.mp new ▸ quiet

theorem after_recordIf (condition : Bool) (event : Event) (quiet : event.stores = false) :
    Sealed before (stream.recordIf condition event) := by
  cases condition with
  | true => exact shut.after_record event quiet
  | false => exact shut.of_unmarked shut.not_owned shut.inbound shut.outbound rfl rfl

theorem after_giveBack (ticket : Ticket) : Sealed before (stream.giveBack T.recorded ticket) :=
  shut.of_unmarked shut.not_owned shut.inbound shut.outbound (by simp) rfl

theorem after_letGo (ticket : Ticket) : Sealed before (Close.letGo T.recorded ticket stream) := by
  unfold Close.letGo
  split
  · exact shut.after_giveBack ticket
  · exact shut

theorem after_clearInbound (number : Nat) : Sealed before (stream.clearInbound number) :=
  shut.of_unmarked shut.not_owned (by simp [shut.inbound]) shut.outbound rfl rfl

theorem after_leaveReader (number : Nat) (ticket : Ticket) :
    Sealed before (stream.leaveReader number ticket) :=
  shut.of_unmarked shut.not_owned shut.inbound shut.outbound rfl rfl

theorem after_putReader (number : Nat) (content : S.Reader) :
    Sealed before (stream.putReader number content) :=
  shut.of_unmarked shut.not_owned shut.inbound shut.outbound rfl rfl

theorem after_discardReader (reader : Numbered S.Reader) :
    Sealed before (stream.countReader.discardReader reader) :=
  shut.of_unmarked shut.not_owned shut.inbound shut.outbound rfl rfl

theorem after_leaveWriter (number : Nat) (ticket : Ticket) :
    Sealed before (stream.leaveWriter T.recorded number ticket) :=
  shut.of_unmarked shut.not_owned shut.inbound shut.outbound (by simp) rfl

theorem after_retireWriter (number : Nat) (ticket : Ticket) :
    Sealed before (stream.retireWriter T.recorded number ticket) :=
  shut.of_unmarked shut.not_owned shut.inbound (by simp [shut.outbound]) (by simp) rfl

theorem after_putWriter (number : Nat) (content : S.Writer) (finished : Bool) :
    Sealed before (stream.putWriter number content finished) :=
  shut.of_unmarked shut.not_owned shut.inbound shut.outbound rfl rfl

theorem after_enterWriter (writer : Numbered S.Writer) (ticket : Ticket) :
    Sealed before (stream.countWriter.enterWriter writer ticket) :=
  shut.of_unmarked shut.not_owned shut.inbound shut.outbound rfl rfl

theorem after_take (ticket : Ticket) : Sealed before (Close.take ticket stream) :=
  shut.of_unmarked (by simp [shut.not_owned]) rfl rfl rfl rfl

theorem not_standing (opened : stream.state.isClosed = false) : False := by
  rw [shut.closed] at opened
  cases opened

theorem after_finishComes {ticket : Ticket} {number : Nat} {resumed : Bool}
    {after : Stream S.recorded}
    {progress : Progress S.Finishing (Except Failure Unit)}
    (comes : FinishComes T ticket number resumed stream progress after) : Sealed before after := by
  cases comes with
  | settled fresh found finished => exact shut
  | polls found unsettled =>
    exact (shut.after_putWriter _ _ _).after_heard _ _ (Traffic.ofPoll_asks _ _ _ _ (.inr rfl))

theorem after_breakOff {ticket : Ticket} {number : Nat} {request : Option Request}
    {after : Stream S.recorded} (breaks : BreakOff ticket number stream request after) :
    Sealed before after := by
  cases breaks with
  | idle => exact shut
  | busy found => exact (shut.after_putWriter _ _ _).after_heard _ _ (by simp [Traffic.asks])

section Reads

variable {room : Nat} {ticket : Ticket} {stage : ReadStage S.recorded}
  {step : Step (ReadStage S.recorded) ReadOutcome} {after : Stream S.recorded}

theorem after_readerComes {asked : S.ReaderOpening}
    (comes : ReaderComes T ticket (some asked) stream step after) :
    Sealed before after := by
  have heard (inner : S.World) (reply : Option Reply) := shut.after_heard inner
    (Traffic.ofPoll ticket .nextReader true reply) (Traffic.ofPoll_asks _ _ _ _ (.inl rfl))
  cases comes with
  | waits => exact heard _ _
  | fails => exact (heard _ _).after_giveBack _
  | late closed => exact (((heard _ _).after_discardReader _).after_record _ rfl).after_giveBack _
  | opens standing => exact (shut.not_standing standing).elim

theorem after_readMove (move : ReadMove T room ticket stage stream step after) :
    Sealed before after := by
  have heard (number : Nat) (content : S.Reader) (inner : S.World) (space : Nat) (resumed : Bool)
      (reply : Option Reply) := (shut.after_putReader number content).after_heard inner
    (Traffic.ofPoll ticket (.read number space) resumed reply)
    (Traffic.ofPoll_asks _ _ _ _ (.inr rfl))
  cases move with
  | refused closed => exact shut
  | idles standing roomless => exact shut
  | joins standing roomy current => exact (shut.not_standing standing).elim
  | asks standing roomy vacant comes => exact (shut.not_standing standing).elim
  | hears comes => exact shut.after_readerComes comes
  | queues blocked => exact shut
  | enters turn => exact shut
  | pends found polled => exact heard _ _ _ _ _ _
  | fails found polled => exact ((heard _ _ _ _ _ _).after_leaveReader _ _).after_record _ rfl
  | goesOn found polled gained short => exact heard _ _ _ _ _ _
  | fulfils found polled gained full =>
    exact ((heard _ _ _ _ _ _).after_leaveReader _ _).after_record _ rfl
  | passes found polled =>
    exact (((heard _ _ _ _ _ _).after_leaveReader _ _).after_record _ rfl)
      |>.after_clearInbound _ |>.after_recordIf _ _ rfl
  | ends found polled gained =>
    exact (((heard _ _ _ _ _ _).after_leaveReader _ _).after_record _ rfl)
      |>.after_clearInbound _ |>.after_recordIf _ _ rfl

theorem after_readDrop (drop : ReadDrop T ticket stage stream after) : Sealed before after := by
  cases drop with
  | starts => exact shut
  | asks => exact (shut.after_heard _ _ (by simp [Traffic.asks])).after_giveBack _
  | leaves stands => exact shut.after_leaveReader _ _
  | breaksOff stands =>
    exact ((shut.after_putReader _ _).after_heard _ _ (by simp [Traffic.asks]))
      |>.after_leaveReader _ _

end Reads

section Writes

variable {data : Bytes} {ticket : Ticket} {stage : WriteStage S.recorded}
  {step : Step (WriteStage S.recorded) WriteOutcome} {after : Stream S.recorded}

theorem after_writerComes (comes : WriterComes T ticket true stream step after) :
    Sealed before after := by
  have heard (inner : S.World) (kind : MessageKind) (reply : Option Reply) := shut.after_heard inner
    (Traffic.ofPoll ticket (.nextWriter kind) true reply) (Traffic.ofPoll_asks _ _ _ _ (.inl rfl))
  cases comes with
  | waits => exact heard _ _ _
  | fails => exact (heard _ _ _).after_giveBack _
  | late closed => exact ((heard _ _ _).after_enterWriter _ _).after_record _ rfl
  | opens standing => exact (shut.not_standing standing).elim

theorem after_writeMove (move : WriteMove T data ticket stage stream step after) :
    Sealed before after := by
  have heard (number : Nat) (content : S.Writer) (finished : Bool) (inner : S.World)
      (rest : Bytes) (resumed : Bool) (reply : Option Reply) :=
    (shut.after_putWriter number content finished).after_heard inner
      (Traffic.ofPoll ticket (.write number rest) resumed reply)
      (Traffic.ofPoll_asks _ _ _ _ (.inr rfl))
  cases move with
  | refused closed => exact shut
  | skips standing skipped => exact shut
  | joins standing sent current => exact (shut.not_standing standing).elim
  | asks standing sent vacant comes => exact (shut.not_standing standing).elim
  | hears comes => exact shut.after_writerComes comes
  | discardPends comes => exact shut.after_finishComes comes
  | discards comes => exact ((shut.after_finishComes comes).after_leaveWriter _ _).after_giveBack _
  | queues blocked => exact shut
  | retires turn found finished => exact shut.after_retireWriter _ _
  | enters turn found unfinished => exact shut
  | pends found => exact heard _ _ _ _ _ _ _
  | breaks found => exact heard _ _ _ _ _ _ _
  | takes found polled gained => exact heard _ _ _ _ _ _ _
  | stalls found => exact heard _ _ _ _ _ _ _
  | finishPends comes => exact shut.after_finishComes comes
  | failed comes => exact ((shut.after_finishComes comes).after_retireWriter _ _).after_record _ rfl
  | finishFails comes =>
    exact ((shut.after_finishComes comes).after_retireWriter _ _).after_record _ rfl
  | delivers comes =>
    exact (((shut.after_finishComes comes).after_retireWriter _ _).after_record _ rfl)
      |>.after_record _ rfl

theorem after_writeDrop (drop : WriteDrop T data ticket stage stream after) :
    Sealed before after := by
  cases drop with
  | starts => exact shut
  | asks => exact (shut.after_heard _ _ (by simp [Traffic.asks])).after_giveBack _
  | leaves stands breaks => exact (shut.after_breakOff breaks).after_leaveWriter _ _
  | discards breaks => exact ((shut.after_breakOff breaks).after_leaveWriter _ _).after_giveBack _

end Writes

section Closes

variable {ticket : Ticket} {stage : CloseStage S.recorded}
  {step : Step (CloseStage S.recorded) CloseOutcome} {after : Stream S.recorded}

theorem after_closeMove (move : CloseMove T ticket stage stream step after) :
    Sealed before after := by
  have heard (inner : S.World) (resumed : Bool) (reply : Option Reply) := shut.after_heard inner
    (Traffic.ofPoll ticket .close resumed reply) (Traffic.ofPoll_asks _ _ _ _ (.inr rfl))
  cases move with
  | takes current =>
    rw [shut.outbound] at current
    cases current
  | takesIdle vacant shuts => exact shut.after_take _
  | queues blocked => exact shut
  | enters turn => exact shut
  | finishPends comes => exact shut.after_finishComes comes
  | finishFails comes => exact ((shut.after_finishComes comes).after_leaveWriter _ _).after_letGo _
  | finishes comes shuts => exact (shut.after_finishComes comes).after_leaveWriter _ _
  | pends => exact heard _ _ _
  | fails => exact (heard _ _ _).after_giveBack _
  | closes => exact ((heard _ _ _).after_record _ rfl).after_giveBack _

theorem after_closeDrop (drop : CloseDrop T ticket stage stream after) : Sealed before after := by
  cases drop with
  | starts => exact shut
  | leaves stands breaks => exact ((shut.after_breakOff breaks).after_leaveWriter _ _).after_letGo _
  | rests => exact shut.after_giveBack _
  | shuts => exact (shut.after_heard _ _ (by simp [Traffic.asks])).after_giveBack _

end Closes

end Stream.Sealed

theorem Close.take_closed (ticket : Ticket) (stream : Stream S) :
    (take ticket stream).state.isClosed = true := by
  cases owned : stream.state.lease.owned <;>
    simp [take, Stream.State.isClosed, Lease.surrender, owned]

theorem CloseMove.takes_all {ticket : Ticket} {stream after : Stream S.recorded}
    {step : Step (CloseStage S.recorded) CloseOutcome}
    (move : CloseMove T ticket .start stream step after) :
    after.state.isClosed = true ∧ after.state.inbound = none ∧ after.state.outbound = none := by
  have taken := Close.take_closed ticket stream
  cases move with
  | takes current => exact ⟨taken, rfl, rfl⟩
  | takesIdle vacant shuts => exact ⟨taken, rfl, rfl⟩

def Call.shuts : Call S → Bool
  | .close .fresh => false
  | .close (.dropped none) => false
  | .close _ => true
  | _ => false

def Call.refused : Demand → Call S
  | .read room => .read room (.answered .closed)
  | .write data => .write data (.answered (.error .closed))
  | .close => .close (.answered (.error .closed))

namespace Usage

/-- A stream is closed as soon as a close has been polled, and not before, and a closed stream has
no current messages. -/
structure Settled (usage : Usage S) : Prop where
  sound : usage.Sound
  taken : usage.stream.state.isClosed = usage.calls.any Call.shuts
  slots : usage.stream.state.isClosed = true →
    usage.stream.state.inbound = none ∧ usage.stream.state.outbound = none

theorem any_same {calls : List (Call S.recorded)} {ticket : Ticket} {call : Call S.recorded}
    (found : calls[ticket]? = some call) (become : Call S.recorded)
    (same : become.shuts = call.shuts) :
    (calls.set ticket become).any Call.shuts = calls.any Call.shuts := by
  induction calls generalizing ticket with
  | nil => rfl
  | cons first rest ih =>
    cases ticket with
    | zero =>
      have here : first = call := by simpa using found
      simp [same, here]
    | succ ticket =>
      have later : rest[ticket]? = some call := by simpa using found
      simp [ih later]

theorem any_there {calls : List (Call S.recorded)} {ticket : Ticket} {call : Call S.recorded}
    (found : calls[ticket]? = some call) (shuts : call.shuts = true) :
    calls.any Call.shuts = true :=
  List.any_eq_true.mpr ⟨call, List.mem_of_getElem? found, shuts⟩

theorem shuts_false_of_standing {calls : List (Call S.recorded)} {ticket : Ticket}
    {call : Call S.recorded} (standing : calls.any Call.shuts = false)
    (found : calls[ticket]? = some call) : call.shuts = false := by
  cases shuts : call.shuts with
  | false => rfl
  | true => exact absurd (any_there found shuts) (by simp [standing])

theorem any_becomes {calls : List (Call S.recorded)} {ticket : Ticket} {call : Call S.recorded}
    (found : calls[ticket]? = some call) (become : Call S.recorded) (shuts : become.shuts = true) :
    (calls.set ticket become).any Call.shuts = true := by
  have inside := (List.getElem?_eq_some_iff.mp found).1
  exact any_there (List.getElem?_set_self inside) shuts

namespace Settled

variable {usage : Usage S} (settled : usage.Settled)
include settled

theorem to_sealed (closed : usage.stream.state.isClosed = true) :
    Stream.Sealed usage.stream usage.stream :=
  .refl closed (settled.slots closed).1 (settled.slots closed).2

theorem of_same_closes {ticket : Ticket} {call become : Call S.recorded} {after : Stream S.recorded}
    (found : usage.calls[ticket]? = some call) (same : become.shuts = call.shuts)
    (owned : after.state.lease.owned = usage.stream.state.lease.owned)
    (shut : usage.stream.state.isClosed = true → Stream.Sealed usage.stream after)
    (sound : Sound (⟨after, usage.calls.set ticket become⟩ : Usage S)) :
    Settled (⟨after, usage.calls.set ticket become⟩ : Usage S) := by
  have closed : after.state.isClosed = usage.stream.state.isClosed := by
    simp [Stream.State.isClosed, owned]
  refine ⟨sound, ?_, ?_⟩
  · exact closed.trans (settled.taken.trans (any_same found become same).symm)
  · intro shuts
    have later := shut (closed ▸ shuts)
    exact ⟨later.inbound, later.outbound⟩

theorem after_move {ticket : Ticket} {after : Usage S} (moves : Moves T usage ticket after) :
    after.Settled := by
  have sound := settled.sound.after_move moves
  cases moves with
  | rests => exact settled
  | reads found next move =>
    exact settled.of_same_closes found rfl move.owned_same
      (fun closed => (settled.to_sealed closed).after_readMove move) sound
  | writes found next move =>
    exact settled.of_same_closes found rfl move.owned_same
      (fun closed => (settled.to_sealed closed).after_writeMove move) sound
  | closes found next move =>
    rename_i phase stage step stream
    have shutAfter : stream.state.isClosed = true ∧ stream.state.inbound = none ∧
        stream.state.outbound = none := by
      -- The first stretch of a close takes the connection; any later one finds it taken.
      cases phase with
      | fresh =>
        cases next
        exact move.takes_all
      | waiting stage =>
        have closed := settled.taken.trans (any_there found rfl)
        have later := (settled.to_sealed closed).after_closeMove move
        exact ⟨later.closed, later.inbound, later.outbound⟩
      | answered answer => cases next
      | dropped stage => cases next
    refine ⟨sound, ?_, fun _ => shutAfter.2⟩
    rw [any_becomes found _ (by cases step <;> rfl)]
    exact shutAfter.1

theorem after_drop {ticket : Ticket} {after : Usage S} (drops : Drops T usage ticket after) :
    after.Settled := by
  have sound := settled.sound.after_drop drops
  cases drops with
  | rests => exact settled
  | forgets demand found =>
    exact settled.of_same_closes found (by cases demand <;> rfl) rfl settled.to_sealed sound
  | reads found drop =>
    exact settled.of_same_closes found rfl drop.owned_same
      (fun closed => (settled.to_sealed closed).after_readDrop drop) sound
  | writes found drop =>
    exact settled.of_same_closes found rfl drop.owned_same
      (fun closed => (settled.to_sealed closed).after_writeDrop drop) sound
  | closes found drop =>
    -- A close that waits has been polled, so giving it up leaves the stream closed.
    have closed := settled.taken.trans (any_there found rfl)
    have later := (settled.to_sealed closed).after_closeDrop drop
    refine ⟨sound, ?_, fun _ => ⟨later.inbound, later.outbound⟩⟩
    rw [any_becomes found _ rfl]
    exact later.closed

theorem after_begin (demand : Demand) : (usage.step T (.begin demand)).Settled := by
  refine ⟨settled.sound.after_begin demand, ?_, settled.slots⟩
  have unpolled : (Call.begin demand : Call S.recorded).shuts = false := by cases demand <;> rfl
  simpa [step, unpolled] using settled.taken

theorem after_run (actions : List (Action S.World)) : (usage.run T actions).Settled :=
  moves_keep Settled (fun _ demand settled => settled.after_begin demand)
    (fun moves settled => settled.after_move moves) (fun drops settled => settled.after_drop drops)
    (fun _ become settled => ⟨settled.sound.after_change become, settled.taken, settled.slots⟩)
    settled.sound settled actions

end Settled

theorem Moves.sealed {usage after : Usage S} {ticket : Ticket} (moves : Moves T usage ticket after)
    {before : Stream S.recorded} (shut : Stream.Sealed before usage.stream) :
    Stream.Sealed before after.stream := by
  cases moves with
  | rests => exact shut
  | reads found next move => exact shut.after_readMove move
  | writes found next move => exact shut.after_writeMove move
  | closes found next move => exact shut.after_closeMove move

theorem Moves.stays_closed {usage after : Usage S} {ticket : Ticket}
    (moves : Moves T usage ticket after) (settled : usage.Settled)
    (standing : after.stream.state.isClosed = false) : usage.stream.state.isClosed = false := by
  cases closed : usage.stream.state.isClosed with
  | false => rfl
  | true => exact ((moves.sealed (settled.to_sealed closed)).not_standing standing).elim

theorem Drops.sealed {usage after : Usage S} {ticket : Ticket} (drops : Drops T usage ticket after)
    {before : Stream S.recorded} (shut : Stream.Sealed before usage.stream) :
    Stream.Sealed before after.stream := by
  cases drops with
  | rests => exact shut
  | forgets demand found => exact shut
  | reads found drop => exact shut.after_readDrop drop
  | writes found drop => exact shut.after_writeDrop drop
  | closes found drop => exact shut.after_closeDrop drop

/-- A stream once closed stays sealed throughout any later run. -/
theorem sealed_run {usage : Usage S} (sound : usage.Sound) {before : Stream S.recorded}
    (shut : Stream.Sealed before usage.stream) (actions : List (Action S.World)) :
    Stream.Sealed before (usage.run T actions).stream :=
  moves_keep (fun usage => Stream.Sealed before usage.stream) (fun _ _ shut => shut)
    (fun moves shut => moves.sealed shut) (fun drops shut => drops.sealed shut)
    (fun _ _ shut => ⟨shut.closed, shut.inbound, shut.outbound, shut.traffic, shut.journal⟩)
    sound shut actions

/-- A read or a write of a closed stream is refused at its first poll, which leaves the stream and
its connection alone. -/
theorem poll_refused (T : Transport S) (usage : Usage S) (ticket : Ticket) (demand : Demand)
    (closed : usage.stream.state.isClosed = true)
    (found : usage.calls[ticket]? = some (.begin demand)) (transfer : demand ≠ .close) :
    usage.step T (.poll ticket) =
      { usage with calls := usage.calls.set ticket (.refused demand) } := by
  cases demand with
  | read room =>
    have enough : Read.limit T.recorded room usage.stream =
        4 * (T.recorded.supply usage.stream.world + 3) + 3 + room + 1 := by
      unfold Read.limit
      omega
    simp [step, onCall, found, Call.begin, Call.poll, Call.refused, Phase.poll, Stream.read, enough,
      Step.run, Read.advance, Read.start, closed, Phase.ofProgress]
  | write data =>
    simp [step, onCall, found, Call.begin, Call.poll, Call.refused, Phase.poll, Stream.write,
      Write.limit, Step.run, Write.advance, Write.start, closed, Phase.ofProgress]
  | close => exact absurd rfl transfer

theorem start_settled (config : Configuration) (world : S.World) : (start config world).Settled :=
  ⟨start_sound config world, rfl, nofun⟩

/-- Closing wins, and for good. In every state that any calls lead to, given up or not, the stream
is closed as soon as a close has been polled, and then both slots are empty. In every state later
than one in which it is closed, it is closed, no message has become current and none has been asked
for since, and a read or a write not polled before is refused at its first poll, without a call on
the connection or on a message. -/
theorem close_is_final (T : Transport S) (config : Configuration) (world : S.World)
    (before after : List (Action S.World)) :
    let usage := (start config world).run T before
    let later := usage.run T after
    usage.stream.state.isClosed = usage.calls.any Call.shuts ∧
    (usage.stream.state.isClosed = true →
      usage.stream.state.inbound = none ∧ usage.stream.state.outbound = none) ∧
    (usage.stream.state.isClosed = true →
      Stream.Sealed usage.stream later.stream ∧
      ∀ (ticket : Ticket) (demand : Demand), later.calls[ticket]? = some (.begin demand) →
        demand ≠ .close → later.step T (.poll ticket) =
          { later with calls := later.calls.set ticket (.refused demand) }) := by
  intro usage later
  have settled : usage.Settled := (start_settled config world).after_run before
  refine ⟨settled.taken, settled.slots, ?_⟩
  intro closed
  have shut : Stream.Sealed usage.stream later.stream :=
    sealed_run settled.sound (settled.to_sealed closed) after
  exact ⟨shut, fun ticket demand found transfer =>
    poll_refused T later ticket demand shut.closed found transfer⟩

/-- A read that waits for a message while the stream is closed comes too late for it, and a write
begun afterwards is refused. -/
theorem close_is_final_waiting :
    let world : Scripted.World := { inbound := [.ok [97]] }
    let usage := (start (S := Scripted.signature) {} world).run
      (Scripted.transport { readerGate := some 0 })
      [.begin (.read 4), .poll 0, .begin .close, .poll 1]
    let later := usage.run (Scripted.transport { readerGate := some 0 })
      [.change fun world => { world with gates := world.gates.notify 0 }, .poll 0,
        .begin (.write [])]
    usage.stream.state.isClosed = true ∧ later.stream.state.isClosed = true ∧
      later.step (Scripted.transport { readerGate := some 0 }) (.poll 2) =
        { later with calls := later.calls.set 2 (.refused (.write [])) } := by
  intro world usage later
  have closed : usage.stream.state.isClosed = true := rfl
  have final := (close_is_final (Scripted.transport { readerGate := some 0 }) {}
    world [.begin (.read 4), .poll 0, .begin .close, .poll 1]
    [.change fun world => { world with gates := world.gates.notify 0 }, .poll 0,
      .begin (.write [])]).2.2 closed
  exact ⟨closed, final.1.closed, final.2 2 (.write []) rfl nofun⟩

end Usage

end MessageStream
