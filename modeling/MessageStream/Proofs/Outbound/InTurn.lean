import MessageStream.Proofs.Outbound.Attendance

/-!
Writes in turn. Where no write is begun before the last has ended, and no close while one is under
way, each message is finished by the write to which it was handed out before the next is asked for,
and all are finished before the connection is shut down. Reads may go on at any time: they leave
everything alone on which this rests. What is said here of one stretch of a call is carried to whole
polls at the end.
-/
namespace MessageStream

variable {S : Signature} {T : Transport S}

def Request.silent : Request → Bool
  | nextReader => true
  | read _ _ => true
  | write _ _ => true
  | _ => false

namespace Traffic

variable {traffic entries : List Traffic} {settled : List (Ticket × Nat)}
  {message : Option (Ticket × Nat)} {finishing : Bool} {caller : Ticket} {number : Nat}

/-- The outbound message handed out, with the call that asked for it. -/
def opens : Traffic → Option (Ticket × Nat)
  | .ended caller (.nextWriter _) (.opened number) => some (caller, number)
  | _ => none

/-- The outbound message whose finish is begun, with the call that begins it. -/
def invokes : Traffic → Option (Ticket × Nat)
  | .begun caller (.finish number) => some (caller, number)
  | _ => none

/-- The outbound message whose finish is over, with the call that has finished it. -/
def completes : Traffic → Option (Ticket × Nat)
  | .ended caller (.finish number) _ => some (caller, number)
  | _ => none

def opened (traffic : List Traffic) : List (Ticket × Nat) := traffic.filterMap opens

def invoked (traffic : List Traffic) : List (Ticket × Nat) := traffic.filterMap invokes

def completed (traffic : List Traffic) : List (Ticket × Nat) := traffic.filterMap completes

/-- The record shows these messages opened and finished in their order, and then at most one that is
open still, its finish begun or not. -/
structure Books (settled : List (Ticket × Nat)) (message : Option (Ticket × Nat))
    (finishing : Bool) (traffic : List Traffic) : Prop where
  opened : opened traffic = settled ++ message.toList
  invoked : invoked traffic = settled ++ if finishing then message.toList else []
  completed : completed traffic = settled

structure Silent (entry : Traffic) : Prop where
  opens : entry.opens = none
  invokes : entry.invokes = none
  completes : entry.completes = none
  unshut : entry.request ≠ .close

theorem silent_request {entry : Traffic} (silent : entry.request.silent = true) :
    entry.Silent := by
  rcases entry with ⟨_, _ | _ | _ | _ | _ | _⟩ | ⟨_, _ | _ | _ | _ | _ | _, _⟩ |
    ⟨_, _ | _ | _ | _ | _ | _⟩ <;> first | (cases silent; done) | exact ⟨rfl, rfl, rfl, nofun⟩

theorem silent_asking {kind : MessageKind} {resumed : Bool} {reply : Option Reply}
    (none : ∀ number, reply ≠ some (.opened number)) :
    ∀ entry ∈ ofPoll caller (.nextWriter kind) resumed reply, entry.Silent := by
  intro entry member
  rcases List.mem_append.mp member with begun | ended
  · cases resumed with
    | true => cases begun
    | false =>
      rw [List.mem_singleton.mp begun]
      exact ⟨rfl, rfl, rfl, nofun⟩
  · obtain ⟨answer, rfl, rfl⟩ := Option.map_eq_some_iff.mp (Option.mem_toList.mp ended)
    cases answer with
    | opened number => exact absurd rfl (none number)
    | _ => exact ⟨rfl, rfl, rfl, nofun⟩

namespace Books

theorem append_entries {later : List (Ticket × Nat)} {next : Option (Ticket × Nat)} {begun : Bool}
    (books : Books settled message finishing traffic)
    (opened : settled ++ message.toList ++ entries.filterMap opens = later ++ next.toList)
    (invoked : (settled ++ if finishing then message.toList else []) ++ entries.filterMap invokes =
      later ++ if begun then next.toList else [])
    (completed : settled ++ entries.filterMap completes = later) :
    Books later next begun (traffic ++ entries) := by
  refine ⟨?_, ?_, ?_⟩
  · rw [← opened, ← books.opened]
    exact List.filterMap_append
  · rw [← invoked, ← books.invoked]
    exact List.filterMap_append
  · rw [← completed, ← books.completed]
    exact List.filterMap_append

theorem append_silent (books : Books settled message finishing traffic)
    (silent : ∀ entry ∈ entries, entry.Silent) :
    Books settled message finishing (traffic ++ entries) := by
  have opened := List.filterMap_eq_nil_iff.mpr fun entry member => (silent entry member).opens
  have invoked := List.filterMap_eq_nil_iff.mpr fun entry member => (silent entry member).invokes
  have completed :=
    List.filterMap_eq_nil_iff.mpr fun entry member => (silent entry member).completes
  apply books.append_entries
  · rw [opened, List.append_nil]
  · rw [invoked, List.append_nil]
  · rw [completed, List.append_nil]

theorem after_opening (books : Books settled none false traffic) (kind : MessageKind)
    (resumed : Bool) :
    Books settled (some (caller, number)) false
      (traffic ++ ofPoll caller (.nextWriter kind) resumed (some (.opened number))) := by
  apply books.append_entries <;> cases resumed <;>
    simp [ofPoll, opens, invokes, completes, List.filterMap_cons]

theorem after_finish_begun (books : Books settled (some (caller, number)) finishing traffic) :
    Books settled (some (caller, number)) true
      (traffic ++ ofPoll caller (.finish number) finishing none) := by
  apply books.append_entries <;> cases finishing <;>
    simp [ofPoll, opens, invokes, completes, List.filterMap_cons]

theorem after_finish (books : Books settled (some (caller, number)) finishing traffic)
    (reply : Reply) :
    Books (settled ++ [(caller, number)]) none false
      (traffic ++ ofPoll caller (.finish number) finishing (some reply)) := by
  apply books.append_entries <;> cases finishing <;>
    simp [ofPoll, opens, invokes, completes, List.filterMap_cons]

theorem completed_prefix_invoked (books : Books settled message finishing traffic) :
    Traffic.completed traffic <+: Traffic.invoked traffic ∧
      Traffic.invoked traffic <+: Traffic.opened traffic := by
  rw [books.opened, books.invoked, books.completed]
  refine ⟨List.prefix_append _ _, (List.prefix_append_right_inj _).mpr ?_⟩
  cases finishing with
  | true => exact List.prefix_rfl
  | false => exact List.nil_prefix

end Books

end Traffic

namespace Stream

variable {stream after : Stream S.recorded} {settled : List (Ticket × Nat)}
  {message : Option (Ticket × Nat)} {finishing : Bool} {ticket : Ticket} {number : Nat}

/-- The stream stands, and at most one message is open: it is current, and not marked as finished
unless its finish has been begun. -/
structure Dealing (settled : List (Ticket × Nat)) (message : Option (Ticket × Nat))
    (finishing : Bool) (stream : Stream S.recorded) : Prop where
  enumerated : stream.Enumerated
  standing : stream.state.isClosed = false
  slot : stream.state.outbound = message.map Prod.snd
  books : Traffic.Books settled message finishing stream.world.traffic
  unshut : ∀ entry ∈ stream.world.traffic, entry.request ≠ .close
  unmarked : finishing = false → ∀ entry, message = some entry →
    stream.finished[entry.2]? = some false

/-- The stream is closed with every message finished, and so it was when shutting the connection
down was begun. -/
structure Shut (settled : List (Ticket × Nat)) (stream : Stream S.recorded) : Prop where
  enumerated : stream.Enumerated
  closed : stream.state.isClosed = true
  vacant : stream.state.outbound = none
  books : Traffic.Books settled none false stream.world.traffic
  shuts : ∀ before caller after, stream.world.traffic = before ++ .begun caller .close :: after →
    Traffic.Books settled none false before

theorem owned_closed (owned : after.state.lease.owned = stream.state.lease.owned) :
    after.state.isClosed = stream.state.isClosed :=
  congrArg not owned

theorem Adds.no_close_recorded {makes : Request → Bool} (adds : stream.Adds ticket makes after)
    (spares : makes .close = false)
    (before : ∀ entry ∈ stream.world.traffic, entry.request ≠ .close) :
    ∀ entry ∈ after.world.traffic, entry.request ≠ .close := by
  obtain ⟨entries, grown, made⟩ := adds
  intro entry member shuts
  rw [grown] at member
  rcases List.mem_append.mp member with old | new
  · exact before entry old shuts
  · have fits := (made entry new).2
    rw [shuts, spares] at fits
    cases fits

namespace Dealing

theorem number_known (dealing : stream.Dealing settled (some (ticket, number)) finishing) :
    number < stream.state.writers.length :=
  dealing.enumerated.outbound number dealing.slot

theorem after_silence (dealing : stream.Dealing settled message finishing)
    (enumerated : after.Enumerated) (owned : after.state.lease.owned = stream.state.lease.owned)
    (slot : after.state.outbound = stream.state.outbound)
    (finished : after.finished = stream.finished)
    {entries : List Traffic} (grown : after.world.traffic = stream.world.traffic ++ entries)
    (silent : ∀ entry ∈ entries, entry.Silent) : after.Dealing settled message finishing := by
  refine ⟨enumerated, (owned_closed owned).trans dealing.standing, slot.trans dealing.slot, ?_, ?_,
    finished ▸ dealing.unmarked⟩
  · exact grown ▸ dealing.books.append_silent silent
  · intro entry member
    rw [grown] at member
    exact (List.mem_append.mp member).elim (dealing.unshut entry)
      fun new => (silent entry new).unshut

end Dealing

theorem Shut.after_silence (shut : stream.Shut settled) (enumerated : after.Enumerated)
    (owned : after.state.lease.owned = stream.state.lease.owned)
    (slot : after.state.outbound = stream.state.outbound) {entries : List Traffic}
    (grown : after.world.traffic = stream.world.traffic ++ entries)
    (silent : ∀ entry ∈ entries, entry.Silent) : after.Shut settled := by
  refine ⟨enumerated, (owned_closed owned).trans shut.closed, slot.trans shut.vacant,
    grown ▸ shut.books.append_silent silent, ?_⟩
  intro before caller rest split
  rcases split_append (grown.symm.trans split) with ⟨middle, early⟩ | ⟨front, -, late⟩
  · exact shut.shuts before caller middle early
  · exact absurd rfl (silent (.begun caller .close) (by simp [late])).unshut

end Stream

/-- What a write keeps: it opens one message, which it finishes. -/
def WriteStage.Keeps (settled : List (Ticket × Nat)) (ticket : Ticket) :
    WriteStage S.recorded → Stream S.recorded → Prop
  | .start, stream => stream.Dealing settled none false
  | .opening _, stream => stream.Dealing settled none false
  | .discarding _ _, _ => False
  | .queued number, stream => stream.Dealing settled (some (ticket, number)) false
  | .filling number _ _, stream => stream.Dealing settled (some (ticket, number)) false
  | .finishing number _ _ stage, stream =>
    stream.Dealing settled (some (ticket, number)) stage.isSome

theorem WriteStage.keeps_known {settled : List (Ticket × Nat)} {ticket : Ticket}
    {stage : WriteStage S.recorded} {stream : Stream S.recorded}
    (keeps : stage.Keeps settled ticket stream) {number : Nat} {turn : Bool}
    (placed : stage.place = some (number, turn)) : number < stream.state.writers.length := by
  cases stage with
  | start => cases placed
  | opening stage => cases placed
  | discarding held stage => exact keeps.elim
  | queued held =>
    cases placed
    exact Stream.Dealing.number_known keeps
  | filling held written stage =>
    cases placed
    exact Stream.Dealing.number_known keeps
  | finishing held written failure stage =>
    cases placed
    exact Stream.Dealing.number_known keeps

theorem WriteStage.keeps_dealing {settled : List (Ticket × Nat)} {ticket : Ticket}
    {stage : WriteStage S.recorded} {stream : Stream S.recorded}
    (keeps : stage.Keeps settled ticket stream) :
    ∃ message finishing, stream.Dealing settled message finishing ∧
      (message.toList.map Prod.fst).Sublist [ticket] := by
  cases stage with
  | start => exact ⟨_, _, keeps, List.nil_sublist _⟩
  | opening stage => exact ⟨_, _, keeps, List.nil_sublist _⟩
  | discarding held stage => exact keeps.elim
  | queued held => exact ⟨_, _, keeps, List.Sublist.refl _⟩
  | filling held written stage => exact ⟨_, _, keeps, List.Sublist.refl _⟩
  | finishing held written failure stage => exact ⟨_, _, keeps, List.Sublist.refl _⟩

theorem WriteStage.keeps_still {settled : List (Ticket × Nat)} {ticket : Ticket}
    {stage : WriteStage S.recorded} {stream later : Stream S.recorded}
    (keeps : stage.Keeps settled ticket stream)
    (still : ∀ message finishing, stream.Dealing settled message finishing →
      later.Dealing settled message finishing) : stage.Keeps settled ticket later := by
  cases stage with
  | discarding held stage => exact keeps.elim
  | _ => exact still _ _ keeps

theorem Write.fillOrFinish_keeps {settled : List (Ticket × Nat)} {ticket : Ticket} (data : Bytes)
    {number : Nat} (written : Nat) {stream : Stream S.recorded}
    (dealing : stream.Dealing settled (some (ticket, number)) false) :
    (fillOrFinish data number written).Keeps settled ticket stream := by
  unfold fillOrFinish
  split <;> exact dealing

/-- What a write leaves behind: every message is finished, and if it had one handed out it has
finished that. -/
def Stream.Leaves (settled : List (Ticket × Nat)) (ticket : Ticket) (stream : Stream S.recorded) :
    Prop :=
  ∃ more, stream.Dealing (settled ++ more) none false ∧ (more.map Prod.fst).Sublist [ticket]

theorem Stream.Dealing.to_leaves {settled : List (Ticket × Nat)} {stream : Stream S.recorded}
    (dealing : stream.Dealing settled none false) (ticket : Ticket) :
    stream.Leaves settled ticket :=
  ⟨[], (List.append_nil settled).symm ▸ dealing, List.nil_sublist _⟩

def CloseStage.Shutting : CloseStage S.recorded → Prop
  | .closing _ => True
  | _ => False

section Moves

variable {settled : List (Ticket × Nat)} {message : Option (Ticket × Nat)} {finishing : Bool}
  {ticket : Ticket} {number : Nat} {stream after : Stream S.recorded}

theorem WriterComes.keeps {resumed : Bool} {step : Step (WriteStage S.recorded) WriteOutcome}
    (comes : WriterComes T ticket resumed stream step after)
    (dealing : stream.Dealing settled none false) :
    Step.Meets (fun stage stream => stage.Keeps settled ticket stream)
      (fun _ stream => stream.Leaves settled ticket) step after := by
  have enumerated := comes.enumerated dealing.enumerated
  have unshut :=
    (comes.adds fun _ => rfl : stream.Adds ticket Request.sends after).no_close_recorded rfl
    dealing.unshut
  cases comes with
  | waits => exact dealing.after_silence enumerated rfl rfl rfl rfl (Traffic.silent_asking nofun)
  | fails =>
    exact (dealing.after_silence enumerated rfl rfl rfl (Stream.giveBack_traffic T _ ticket)
      (Traffic.silent_asking nofun)).to_leaves ticket
  | late closed => cases closed.symm.trans dealing.standing
  | opens standing =>
    refine ⟨enumerated, dealing.standing, rfl, ?_, unshut, ?_⟩
    · rw [Stream.giveBack_traffic]
      exact Eq.mpr (congrArg (Traffic.Books _ _ _) (Stream.openWriter_traffic T _ _ ticket))
        (dealing.books.after_opening _ _)
    · rintro - _ ⟨⟩
      simp [Stream.finished]

theorem FinishComes.dealing_after {progress : Progress S.Finishing (Except Failure Unit)}
    (comes : FinishComes T ticket number finishing stream progress after)
    (dealing : stream.Dealing settled (some (ticket, number)) finishing) :
    match progress with
    | .waiting _ => after.Dealing settled (some (ticket, number)) true
    | .ready _ => after.Enumerated ∧ after.state.isClosed = false ∧
        after.state.outbound = some number ∧
        Traffic.Books (settled ++ [(ticket, number)]) none false after.world.traffic ∧
        ∀ entry ∈ after.world.traffic, entry.request ≠ .close := by
  have enumerated := comes.enumerated dealing.enumerated
  have standing := (Stream.owned_closed comes.owned_same).trans dealing.standing
  have slot := comes.outbound_same.trans dealing.slot
  have unshut :=
    (comes.adds rfl : stream.Adds ticket (·.writer?.isSome) after).no_close_recorded rfl
    dealing.unshut
  cases comes with
  | settled fresh found finished =>
    have marked := Stream.finished_found _ found
    cases (dealing.unmarked fresh _ rfl).symm.trans (marked.trans (congrArg some finished))
  | polls found unsettled polled =>
    rcases progress with later | source | nothing
    · exact ⟨enumerated, standing, slot, dealing.books.after_finish_begun, unshut, nofun⟩
    · exact ⟨enumerated, standing, slot, dealing.books.after_finish _, unshut⟩
    · exact ⟨enumerated, standing, slot, dealing.books.after_finish _, unshut⟩

theorem Stream.leaves_after_retiring {later : Stream S.recorded} (T : Transport S)
    (enumerated : later.Enumerated) (standing : after.state.isClosed = false)
    (slot : after.state.outbound = some number)
    (books : Traffic.Books (settled ++ [(ticket, number)]) none false after.world.traffic)
    (unshut : ∀ entry ∈ after.world.traffic, entry.request ≠ .close)
    (state : later.state = (after.retireWriter T.recorded number ticket).state)
    (traffic : later.world.traffic = after.world.traffic) : later.Leaves settled ticket := by
  refine ⟨[(ticket, number)], ⟨enumerated, ?_, ?_, traffic ▸ books, traffic ▸ unshut, nofun⟩,
    List.Sublist.refl _⟩
  · rw [state]
    exact standing
  · rw [state, Stream.retireWriter_state]
    exact if_pos slot

theorem Stream.Dealing.after_filling
    (dealing : stream.Dealing settled (some (ticket, number)) false)
    {cursor : Cursor (Outbound (Numbered S.Writer))}
    (found : stream.state.writers[number]? = some cursor) (content : S.Writer) (inner : S.World)
    (rest : Bytes) (resumed : Bool) (reply : Option Reply) :
    ((stream.putWriter number content cursor.content.finished).heard inner
      (Traffic.ofPoll ticket (.write number rest) resumed reply)).Dealing settled
        (some (ticket, number)) false := by
  refine dealing.after_silence ((dealing.enumerated.after_putWriter _ _ _).after_heard _ _) rfl rfl
    (Stream.putWriter_unfinished stream found content) rfl ?_
  intro entry member
  apply Traffic.silent_request
  rw [(Traffic.mem_ofPoll member).2]
  rfl

theorem Stream.Dealing.after_borrow (dealing : stream.Dealing settled message finishing)
    (ticket : Ticket) : (stream.borrow ticket).Dealing settled message finishing :=
  ⟨dealing.enumerated.after_borrow ticket, dealing.standing, dealing.slot, dealing.books,
    dealing.unshut,
    dealing.unmarked⟩

theorem WriteMove.keeps {data : Bytes} {stage : WriteStage S.recorded}
    {step : Step (WriteStage S.recorded) WriteOutcome}
    (move : WriteMove T data ticket stage stream step after)
    (keeps : stage.Keeps settled ticket stream) :
    Step.Meets (fun stage stream => stage.Keeps settled ticket stream)
      (fun _ stream => stream.Leaves settled ticket) step after := by
  have ends {number : Nat} {finishing : Bool} {middle later : Stream S.recorded}
      {result : Except Failure Unit}
      (comes : FinishComes T ticket number finishing stream (.ready result) middle)
      (dealing : stream.Dealing settled (some (ticket, number)) finishing)
      (enumerated : later.Enumerated)
      (state : later.state = (middle.retireWriter T.recorded number ticket).state)
      (traffic : later.world.traffic = middle.world.traffic) : later.Leaves settled ticket := by
    obtain ⟨-, standing, slot, books, unshut⟩ := comes.dealing_after dealing
    exact Stream.leaves_after_retiring T enumerated standing slot books unshut state traffic
  cases move with
  | refused closed => exact Stream.Dealing.to_leaves keeps ticket
  | skips standing skipped => exact Stream.Dealing.to_leaves keeps ticket
  | joins standing sent current => cases (Stream.Dealing.slot keeps).symm.trans current
  | asks standing sent vacant comes => exact comes.keeps (Stream.Dealing.after_borrow keeps ticket)
  | hears comes => exact comes.keeps keeps
  | discardPends comes => exact keeps.elim
  | discards comes => exact keeps.elim
  | queues blocked => exact keeps
  | retires turn found finished =>
    -- The message is its own, so nobody else has finished it.
    have marked := (Stream.finished_found _ found).trans (congrArg some finished)
    cases (Stream.Dealing.unmarked keeps rfl _ rfl).symm.trans marked
  | enters turn found unfinished => exact Write.fillOrFinish_keeps data 0 keeps
  | pends found => exact Stream.Dealing.after_filling keeps found _ _ _ _ _
  | breaks found => exact Stream.Dealing.after_filling keeps found _ _ _ _ _
  | takes found polled gained =>
    exact Write.fillOrFinish_keeps data _ (Stream.Dealing.after_filling keeps found _ _ _ _ _)
  | stalls found => exact Stream.Dealing.after_filling keeps found _ _ _ _ _
  | finishPends comes => exact comes.dealing_after keeps
  | failed comes =>
    have enumerated := comes.enumerated (Stream.Dealing.enumerated keeps)
    exact ends comes keeps ((enumerated.after_retireWriter _ _).after_record _) rfl (by simp)
  | finishFails comes =>
    have enumerated := comes.enumerated (Stream.Dealing.enumerated keeps)
    exact ends comes keeps ((enumerated.after_retireWriter _ _).after_record _) rfl (by simp)
  | delivers comes =>
    have enumerated := comes.enumerated (Stream.Dealing.enumerated keeps)
    exact ends comes keeps (((enumerated.after_retireWriter _ _).after_record _).after_record _) rfl
      (by simp)

theorem ReadMove.adds_silent {room : Nat} {stage : ReadStage S.recorded}
    {step : Step (ReadStage S.recorded) ReadOutcome}
    (move : ReadMove T room ticket stage stream step after) :
    ∃ entries, after.world.traffic = stream.world.traffic ++ entries ∧
      ∀ entry ∈ entries, entry.Silent := by
  obtain ⟨entries, grown, made⟩ := move.adds
  refine ⟨entries, grown, ?_⟩
  intro entry member
  apply Traffic.silent_request
  have reads := (made entry member).2
  cases about : entry.request <;> rw [about] at reads <;> first | rfl | cases reads

theorem ReadMove.dealing_after {room : Nat} {stage : ReadStage S.recorded}
    {step : Step (ReadStage S.recorded) ReadOutcome}
    (move : ReadMove T room ticket stage stream step after)
    (dealing : stream.Dealing settled message finishing) :
    after.Dealing settled message finishing := by
  obtain ⟨entries, grown, silent⟩ := move.adds_silent
  exact dealing.after_silence (move.enumerated dealing.enumerated) move.owned_same
    move.stored_same.2
    (by rw [Stream.finished, move.writers_same, Stream.finished]) grown silent

theorem ReadMove.shut_after {room : Nat} {stage : ReadStage S.recorded}
    {step : Step (ReadStage S.recorded) ReadOutcome}
    (move : ReadMove T room ticket stage stream step after) (shut : stream.Shut settled) :
    after.Shut settled := by
  obtain ⟨entries, grown, silent⟩ := move.adds_silent
  exact shut.after_silence (move.enumerated shut.enumerated) move.owned_same move.stored_same.2
    grown silent

def ReadStage.Known (stage : ReadStage S.recorded) (stream : Stream S.recorded) : Prop :=
  ∀ number turn, stage.place = some (number, turn) → number < stream.state.readers.length

theorem ReadMove.known_after {room : Nat} {stage : ReadStage S.recorded}
    {step : Step (ReadStage S.recorded) ReadOutcome}
    (move : ReadMove T room ticket stage stream step after) (enumerated : stream.Enumerated)
    (known : stage.Known stream) (next : ReadStage S.recorded)
    (goes : (Phase.ofStep step).next? .start = some next) : next.Known after := by
  have opens {asked : Option S.ReaderOpening} {stream : Stream S.recorded}
      (comes : ReaderComes T ticket asked stream step after) : next.Known after := by
    cases comes with
    | opens standing =>
      cases goes
      rintro number turn ⟨⟩
      simp
    | waits =>
      cases goes
      nofun
    | _ => cases goes
  cases move with
  | joins standing roomy current =>
    cases goes
    rintro number turn ⟨⟩
    simpa using enumerated.inbound _ current
  | asks standing roomy vacant comes => exact opens comes
  | hears comes => exact opens comes
  | queues blocked =>
    cases goes
    exact known
  | enters turn =>
    cases goes
    rintro number turn ⟨⟩
    exact known _ false rfl
  | pends found polled =>
    cases goes
    rintro number turn ⟨⟩
    simpa using known _ true rfl
  | goesOn found polled gained short =>
    cases goes
    rintro number turn ⟨⟩
    simpa using known _ true rfl
  | passes found polled =>
    cases goes
    nofun
  | _ => cases goes

theorem CloseMove.shuts_after {step : Step (CloseStage S.recorded) CloseOutcome}
    (move : CloseMove T ticket .start stream step after)
    (books : stream.Dealing settled none false ∨ stream.Shut settled) :
    after.Shut settled ∧ ∀ next, (Phase.ofStep step).next? .start = some next →
      next.Shutting := by
  have vacant : stream.state.outbound = none :=
    books.elim Stream.Dealing.slot Stream.Shut.vacant
  have enumerated := books.elim Stream.Dealing.enumerated Stream.Shut.enumerated
  cases move with
  | takes current => cases vacant.symm.trans current
  | takesIdle idle shuts =>
    refine ⟨⟨enumerated.after_take ticket, Close.take_closed ticket stream, rfl, ?_, ?_⟩, ?_⟩
    · exact books.elim Stream.Dealing.books Stream.Shut.books
    · rcases books with dealing | shut
      · intro before caller rest split
        exact absurd rfl (dealing.unshut (.begun caller .close)
          (split ▸ List.mem_append_right _ (.head _)))
      · exact shut.shuts
    · rintro next goes
      cases shuts with
      | owner taken =>
        cases goes
        trivial
      | other absent => cases goes

theorem Stream.Shut.after_close_poll (shut : stream.Shut settled) (inner : S.World) (resumed : Bool)
    (reply : Option Reply) :
    (stream.heard inner (Traffic.ofPoll ticket .close resumed reply)).Shut settled := by
  have nothing (part : Traffic → Option (Ticket × Nat))
      (none : ∀ entry : Traffic, entry.request = .close → part entry = none)
      (entries : List Traffic) (closes : ∀ entry ∈ entries, entry.request = .close) :
      (stream.world.traffic ++ entries).filterMap part = stream.world.traffic.filterMap part := by
    have silent := List.filterMap_eq_nil_iff.mpr fun entry member =>
      none entry (closes entry member)
    rw [List.filterMap_append, silent, List.append_nil]
  have books (entries : List Traffic) (closes : ∀ entry ∈ entries, entry.request = .close) :
      Traffic.Books settled none false (stream.world.traffic ++ entries) := by
    refine ⟨?_, ?_, ?_⟩
    · refine (nothing _ ?_ entries closes).trans shut.books.opened
      rintro (_ | ⟨_, _, _⟩ | _) closes <;> cases closes <;> rfl
    · refine (nothing _ ?_ entries closes).trans shut.books.invoked
      rintro (⟨_, _⟩ | ⟨_, _, _⟩ | _) closes <;> cases closes <;> rfl
    · refine (nothing _ ?_ entries closes).trans shut.books.completed
      rintro (_ | ⟨_, _, _⟩ | _) closes <;> cases closes <;> rfl
  refine ⟨shut.enumerated.after_heard _ _, shut.closed, shut.vacant,
    books _ fun entry member => (Traffic.mem_ofPoll member).2, ?_⟩
  intro before caller rest split
  rcases split_append split with ⟨middle, early⟩ | ⟨front, here, late⟩
  · exact shut.shuts before caller middle early
  · rw [here]
    apply books
    intro entry member
    exact (Traffic.mem_ofPoll (late ▸ List.mem_append_left _ member)).2

theorem CloseMove.goes_on {asked : Option S.Closing}
    {step : Step (CloseStage S.recorded) CloseOutcome}
    (move : CloseMove T ticket (.closing asked) stream step after) (shut : stream.Shut settled) :
    after.Shut settled ∧ ∀ next, (Phase.ofStep step).next? .start = some next →
      next.Shutting := by
  have letsGo {later : Stream S.recorded} (shut : later.Shut settled) :
      (later.giveBack T.recorded ticket).Shut settled := by
    have same := Stream.giveBack_traffic T later ticket
    exact ⟨shut.enumerated.after_giveBack ticket, shut.closed, shut.vacant, same ▸ shut.books,
      same ▸ shut.shuts⟩
  have records {later : Stream S.recorded} (shut : later.Shut settled) (event : Event) :
      (later.record event).Shut settled :=
    ⟨shut.enumerated.after_record event, shut.closed, shut.vacant, shut.books, shut.shuts⟩
  cases move with
  | pends =>
    refine ⟨shut.after_close_poll _ _ _, ?_⟩
    rintro next ⟨⟩
    trivial
  | fails => exact ⟨letsGo (shut.after_close_poll _ _ _), nofun⟩
  | closes => exact ⟨letsGo (records (shut.after_close_poll _ _ _) _), nofun⟩

end Moves

section Polls

variable {settled : List (Ticket × Nat)} {ticket : Ticket} {stream : Stream S.recorded}

/-- One poll of a read keeps what every stretch of it keeps, and it goes on standing at a message
there is. -/
theorem Read.poll_keeps {holds : Stream S.recorded → Prop} (room : Nat) (ticket : Ticket)
    (enumerated : ∀ stream, holds stream → stream.Enumerated)
    (moves : ∀ stage stream step after, ReadMove T room ticket stage stream step after →
      holds stream → holds after)
    (stage : Option (ReadStage S.recorded)) (before : holds stream)
    (known : (stage.getD .start).Known stream) :
    let polled := (Stream.read T.recorded room).poll ticket stage stream
    polled.2.Meets (fun next after => holds after ∧ next.Known after) (fun _ after => holds after)
      polled.1 := by
  refine Step.run_meets ?_ _ _ _ ⟨before, known⟩
  rintro stage stream ⟨before, known⟩
  have move := Read.advance_moves T room ticket stage stream (enumerated stream before) known
  have kept := moves _ _ _ _ move before
  have goes := move.known_after (enumerated stream before) known
  generalize Read.advance T.recorded room ticket stage stream = result at kept goes ⊢
  obtain ⟨after, next | next | answer⟩ := result
  · exact ⟨kept, goes next rfl⟩
  · exact ⟨kept, goes next rfl⟩
  · exact kept

theorem Write.poll_keeps (T : Transport S) (data : Bytes) (stage : Option (WriteStage S.recorded))
    (keeps : (stage.getD .start).Keeps settled ticket stream) :
    let polled := (Stream.write T.recorded data).poll ticket stage stream
    polled.2.Meets
      (fun next after => next.Keeps settled ticket after ∧
        after.state.readers = stream.state.readers)
      (fun _ after => after.Leaves settled ticket ∧ after.state.readers = stream.state.readers)
      polled.1 := by
  refine Step.run_meets ?_ _ _ _ ⟨keeps, rfl⟩
  rintro stage middle ⟨keeps, same⟩
  obtain ⟨_, _, dealing, -⟩ := WriteStage.keeps_dealing keeps
  have move := Write.advance_moves T data ticket stage middle dealing.enumerated
    fun _ _ => WriteStage.keeps_known keeps
  have kept := move.keeps keeps
  have readers := move.readers_same.trans same
  generalize Write.advance T.recorded data ticket stage middle = result at kept readers ⊢
  obtain ⟨after, next | next | answer⟩ := result
  · exact ⟨kept, readers⟩
  · exact ⟨kept, readers⟩
  · exact ⟨kept, readers⟩

def Close.Shuts (settled : List (Ticket × Nat)) (stream : Stream S.recorded)
    (polled : Stream S.recorded × Progress (CloseStage S.recorded) CloseOutcome) : Prop :=
  polled.2.Meets
    (fun next after => next.Shutting ∧ after.Shut settled ∧
      after.state.readers = stream.state.readers)
    (fun _ after => after.Shut settled ∧ after.state.readers = stream.state.readers) polled.1

theorem Close.run_shuts (T : Transport S) (limit : Nat) {stage : CloseStage S.recorded}
    (shutting : stage.Shutting) (shut : stream.Shut settled) :
    Shuts settled stream (Step.run (Close.advance T.recorded ticket) limit stage stream) := by
  refine Step.run_meets ?_ limit stage stream ⟨shutting, shut, rfl⟩
  rintro (_ | _ | _ | asked) middle ⟨shutting, shut, same⟩
  case closing =>
    have move := Close.advance_moves T ticket (.closing asked) middle shut.enumerated nofun
    obtain ⟨kept, goes⟩ := move.goes_on shut
    have readers := move.readers_same.trans same
    generalize Close.advance T.recorded ticket (.closing asked) middle = result
      at kept goes readers ⊢
    obtain ⟨after, next | next | answer⟩ := result
    · exact ⟨goes next rfl, kept, readers⟩
    · exact ⟨goes next rfl, kept, readers⟩
    · exact ⟨kept, readers⟩
  all_goals exact shutting.elim

theorem Close.first_shuts (T : Transport S)
    (before : stream.Dealing settled none false ∨ stream.Shut settled) :
    Shuts settled stream ((Stream.close T.recorded).poll ticket none stream) := by
  have enumerated := before.elim Stream.Dealing.enumerated Stream.Shut.enumerated
  have move := Close.advance_moves T ticket .start stream enumerated nofun
  obtain ⟨kept, goes⟩ := move.shuts_after before
  have readers := move.readers_same
  -- No later stretch begins where this one has begun.
  simp only [Stream.close, Option.getD_none, Close.limit, Step.run]
  generalize Close.advance T.recorded ticket .start stream = result at kept goes readers ⊢
  obtain ⟨after, next | next | answer⟩ := result
  · exact ⟨goes next rfl, kept, readers⟩
  · have rest : Shuts settled after (Step.run (Close.advance T.recorded ticket) 7 next after) :=
      run_shuts T 7 (goes next rfl) kept
    rw [Shuts, readers] at rest
    exact rest
  · exact ⟨kept, readers⟩

theorem Close.poll_shuts (T : Transport S) {stage : CloseStage S.recorded}
    (shutting : stage.Shutting) (shut : stream.Shut settled) :
    Shuts settled stream ((Stream.close T.recorded).poll ticket (some stage) stream) :=
  run_shuts T Close.limit shutting shut

/-- A write of a stream that is shut is refused at once, and leaves it as it is. -/
theorem Write.poll_shut (T : Transport S) (data : Bytes) (shut : stream.Shut settled) :
    (Stream.write T.recorded data).poll ticket none stream =
      (stream, .ready (.error .closed)) := by
  simp [Stream.write, Write.limit, Step.run, Write.advance, Write.start, shut.closed]

end Polls

end MessageStream
