import MessageStream.Proofs.Closing
import MessageStream.Proofs.Outbound.FinishedOnce

/-!
Who looks after an outbound message. A write to which a message has been handed out stays at it,
first in its line, until the finish of the message is over, and the message is not current any more
when the write leaves it. So nothing is left open behind writes none of which is given up.
-/
namespace MessageStream

variable {S : Signature} {T : Transport S}

namespace Traffic

variable {number : Nat} {traffic entries : List Traffic}

def opener (number : Nat) : Traffic → List Ticket
  | .ended caller (.nextWriter _) (.opened message) => if message = number then [caller] else []
  | _ => []

/-- The finish of an outbound message has been begun and is over. -/
def Over (number : Nat) (traffic : List Traffic) : Prop :=
  Use.idle.follow number traffic = some .finished

theorem Over.finishes_once (passed : Over number traffic) :
    traffic.countP (finishes number) = 1 := by
  simpa [Use.isFinished] using Use.follow_finishes passed

theorem Over.append_entries {use : Use} (passed : Over number traffic)
    (read : Use.idle.follow number (traffic ++ entries) = some use) :
    Over number (traffic ++ entries) := by
  have whole := read
  rw [Use.follow_append, passed] at whole
  rw [Over, read, Use.follow_over whole]

end Traffic

def Event.stored : Event → List Bool
  | .outboundOpened _ => [true]
  | .outboundDiscarded _ => [false]
  | _ => []

namespace Stream

variable {ticket : Ticket} {stream after : Stream S.recorded}

/-- Whether each outbound message handed out became current, by number. -/
def stored (stream : Stream S.recorded) : List Bool := stream.journal.flatMap Event.stored

@[simp] theorem record_stored (stream : Stream S.recorded) (event : Event) :
    (stream.record event).stored = stream.stored ++ event.stored := by
  simp [stored]

theorem record_unstored (stream : Stream S.recorded) {event : Event} (silent : event.stored = []) :
    (stream.record event).stored = stream.stored := by
  rw [record_stored, silent, List.append_nil]

theorem recordIf_unstored (stream : Stream S.recorded) (condition : Bool) {event : Event}
    (silent : event.stored = []) : (stream.recordIf condition event).stored = stream.stored := by
  cases condition <;> simp [stored, recordIf, silent]

/-- The calls to which an outbound message has been handed out. -/
def openers (stream : Stream S.recorded) (number : Nat) : List Ticket :=
  stream.world.traffic.flatMap (Traffic.opener number)

theorem openers_grown {entries : List Traffic}
    (grown : after.world.traffic = stream.world.traffic ++ entries) (number : Nat) :
    after.openers number = stream.openers number ++ entries.flatMap (Traffic.opener number) := by
  rw [openers, openers, grown, List.flatMap_append]

theorem openers_opened {kind : MessageKind} {resumed : Bool} {opened : Nat}
    (grown : after.world.traffic = stream.world.traffic ++
      Traffic.ofPoll ticket (.nextWriter kind) resumed (some (.opened opened))) (number : Nat) :
    after.openers number = stream.openers number ++ if number = opened then [ticket] else [] := by
  have handed := Traffic.ofPoll_flatMap (Traffic.opener number) (fun _ _ => rfl) ticket
    (.nextWriter kind) resumed (some (.opened opened))
  rw [openers_grown grown, handed]
  simp [Traffic.opener, eq_comm]

/-- No outbound message is handed out, and every one there was is still there. -/
structure Unopened (stream after : Stream S.recorded) : Prop where
  record : ∃ entries, after.world.traffic = stream.world.traffic ++ entries ∧
    ∀ entry ∈ entries, ∀ number, entry.opener number = []
  stored : after.stored = stream.stored
  length : after.state.writers.length = stream.state.writers.length

namespace Unopened

theorem openers_same (unopened : stream.Unopened after) : after.openers = stream.openers := by
  obtain ⟨entries, grown, none⟩ := unopened.record
  funext number
  have nothing : entries.flatMap (Traffic.opener number) = [] :=
    List.flatMap_eq_nil_iff.mpr fun entry member => none entry member number
  rw [openers_grown grown, nothing, List.append_nil]

theorem of_adds {makes : Request → Bool} (adds : stream.Adds ticket makes after)
    (spares : ∀ kind, makes (.nextWriter kind) = false) (stored : after.stored = stream.stored)
    (length : after.state.writers.length = stream.state.writers.length) :
    stream.Unopened after := by
  obtain ⟨entries, grown, made⟩ := adds
  refine ⟨⟨entries, grown, ?_⟩, stored, length⟩
  intro entry member number
  have fits := (made entry member).2
  unfold Traffic.opener
  split
  · rename_i caller kind message
    rw [Traffic.request, spares] at fits
    cases fits
  · rfl

theorem of_same_stored (traffic : after.world.traffic = stream.world.traffic)
    (stored : after.stored = stream.stored)
    (length : after.state.writers.length = stream.state.writers.length) :
    stream.Unopened after :=
  ⟨⟨[], by rw [traffic, List.append_nil], List.forall_mem_nil _⟩, stored, length⟩

theorem then_same {later : Stream S.recorded} (unopened : stream.Unopened after)
    (traffic : later.world.traffic = after.world.traffic) (stored : later.stored = after.stored)
    (length : later.state.writers.length = after.state.writers.length) :
    stream.Unopened later := by
  obtain ⟨⟨entries, grown, none⟩, kept, whole⟩ := unopened
  exact ⟨⟨entries, traffic.trans grown, none⟩, stored.trans kept, length.trans whole⟩

end Unopened

end Stream

namespace WriteStage

def message (stage : WriteStage S) : Option Nat := stage.place.map Prod.fst

def current : WriteStage S → Option Nat
  | .discarding _ _ => none
  | stage => stage.message

theorem current_message {stage : WriteStage S} {number : Nat}
    (current : stage.current = some number) : stage.message = some number := by
  cases stage <;> first | exact current | cases current

end WriteStage

theorem Write.fillOrFinish_current (data : Bytes) (number written : Nat) :
    (fillOrFinish data number written : WriteStage S).current = some number := by
  unfold fillOrFinish
  split <;> rfl

namespace Call

def attends : Call S → Option Nat
  | .write _ (.waiting stage) => stage.message
  | _ => none

def stores : Call S → Option Nat
  | .write _ (.waiting stage) => stage.current
  | _ => none

theorem attends_write {call : Call S} {number : Nat} (attends : call.attends = some number) :
    ∃ data stage turn, call = .write data (.waiting stage) ∧
      stage.place = some (number, turn) := by
  cases call with
  | write data phase =>
    cases phase with
    | waiting stage =>
      obtain ⟨⟨held, turn⟩, placed, same⟩ := Option.map_eq_some_iff.mp attends
      exact ⟨data, stage, turn, rfl, same ▸ placed⟩
    | _ => cases attends
  | _ => cases attends

theorem attends_place {call : Call S} {number : Nat} (attends : call.attends = some number) :
    ∃ turn, call.writer = some (number, turn) := by
  obtain ⟨data, stage, turn, rfl, placed⟩ := attends_write attends
  exact ⟨turn, placed⟩

theorem attends_away {call : Call S} (away : call.writer = none) : call.attends = none := by
  cases attends : call.attends with
  | none => rfl
  | some number =>
    obtain ⟨turn, placed⟩ := attends_place attends
    cases placed.symm.trans away

def seeks : Call S → Bool
  | .write _ (.waiting (.opening _)) => true
  | _ => false

theorem stores_attends {call : Call S} {number : Nat} (stores : call.stores = some number) :
    call.attends = some number := by
  cases call with
  | write data phase =>
    cases phase with
    | waiting stage => exact WriteStage.current_message stores
    | _ => cases stores
  | _ => cases stores

end Call

/-- What one stretch of a call does about the messages handed out: none is handed out and the call
stays at the message it is at, if it is at one; or it leaves that message, which is marked and not
current; or it is handed one, which becomes current unless it comes too late. -/
inductive Tends (ticket : Ticket) (stream after : Stream S.recorded)
    (call become : Call S.recorded) : Prop where
  | stays (unopened : stream.Unopened after)
      (slot : after.state.outbound = stream.state.outbound ∨
        after.state.isClosed = true ∧ after.state.outbound = none)
      (attends : ∀ number, call.attends = some number → become.attends = some number)
      (stores : ∀ number, call.stores = some number → become.stores = some number)
  | leaves {number : Nat} (unopened : stream.Unopened after)
      (slot : after.state.outbound = stream.state.outbound ∨
        stream.state.outbound = some number ∧ after.state.outbound = none)
      (attended : call.attends = some number)
      (turn : call.writer = some (number, true) ∨
        (lineOf stream.state.writers number).admits ticket = true)
      (away : become.writer = none)
      (marked : after.marked number = true)
      (retired : call.stores = some number → after.state.outbound ≠ some number)
  | opens {kind : MessageKind} {resumed : Bool} (away : call.writer = none)
      (grown : after.world.traffic = stream.world.traffic ++ Traffic.ofPoll ticket
        (.nextWriter kind) resumed (some (.opened stream.state.writers.length)))
      (length : after.state.writers.length = stream.state.writers.length + 1)
      (attends : become.attends = some stream.state.writers.length)
      (slot : after.stored = stream.stored ++ [false] ∧
          after.state.outbound = stream.state.outbound ∨
        after.stored = stream.stored ++ [true] ∧
          after.state.outbound = some stream.state.writers.length ∧
          become.stores = some stream.state.writers.length)
      (vacant : resumed = false → stream.state.outbound = none)
      (sought : resumed = true → call.seeks = true)

namespace Tends

variable {ticket : Ticket} {stream after : Stream S.recorded} {call become : Call S.recorded}

theorem of_idle (free : call.attends = none) (unopened : stream.Unopened after)
    (slot : after.state.outbound = stream.state.outbound ∨
      after.state.isClosed = true ∧ after.state.outbound = none) :
    Tends ticket stream after call become := by
  refine .stays unopened slot (by simp [free]) ?_
  intro number stores
  cases free.symm.trans (Call.stores_attends stores)

theorem of_same_message {data : Bytes} {stage next : WriteStage S.recorded}
    (unopened : stream.Unopened after) (slot : after.state.outbound = stream.state.outbound)
    (message : next.message = stage.message) (current : next.current = stage.current) :
    Tends ticket stream after (.write data (.waiting stage)) (.write data (.waiting next)) :=
  .stays unopened (.inl slot) (fun _ attends => message.trans attends)
    fun _ stores => current.trans stores

theorem of_retiring (T : Transport S) {data : Bytes} {stage : WriteStage S.recorded} {number : Nat}
    {later : Stream S.recorded} (unopened : stream.Unopened after)
    (slot : after.state.outbound = stream.state.outbound)
    (attended : stage.message = some number)
    (turn : stage.place = some (number, true) ∨
      (lineOf stream.state.writers number).admits ticket = true)
    (away : become.writer = none) (marked : after.marked number = true)
    (state : later.state = (after.retireWriter T.recorded number ticket).state)
    (traffic : later.world.traffic = after.world.traffic) (stored : later.stored = after.stored) :
    Tends ticket stream later (.write data (.waiting stage)) become := by
  have cleared : later.state.outbound =
      if after.state.outbound = some number then none else after.state.outbound := by
    rw [state, Stream.retireWriter_state]
  have finished : later.finished = after.finished := by
    rw [Stream.finished, state]
    exact Stream.retireWriter_finished T after number ticket
  refine .leaves (unopened.then_same traffic stored (by simp [state])) ?_ attended turn away
    ((congrFun (Stream.marked_same finished) number).trans marked) ?_
  · rw [cleared, slot]
    split
    · rename_i current
      exact .inr ⟨current, rfl⟩
    · exact .inl rfl
  · intro _ current
    rw [cleared] at current
    split at current
    · cases current
    · contradiction

theorem of_next {data : Bytes} {phase : Phase (WriteStage S.recorded) WriteOutcome}
    {stage : WriteStage S.recorded}
    (tends : Tends ticket stream after (.write data (.waiting stage)) become)
    (next : phase.next? .start = some stage) :
    Tends ticket stream after (.write data phase) become := by
  cases phase <;> cases next
  · cases tends with
    | stays unopened slot attends stores => exact .stays unopened slot nofun nofun
    | leaves unopened slot attended turn away marked retired => cases attended
    | opens away grown length attends slot vacant sought =>
      exact .opens rfl grown length attends slot vacant fun resumed => nomatch sought resumed
  · exact tends

theorem of_borrow (tends : Tends ticket (stream.borrow ticket) after call become) :
    Tends ticket stream after call become := by
  cases tends with
  | stays unopened slot attends stores =>
    exact .stays ⟨unopened.record, unopened.stored, unopened.length⟩ slot attends stores
  | leaves unopened slot attended turn away marked retired =>
    exact .leaves ⟨unopened.record, unopened.stored, unopened.length⟩ slot attended turn away marked
      retired
  | opens away grown length attends slot vacant sought =>
    exact .opens away grown length attends slot vacant sought

end Tends

section Moves

variable {ticket : Ticket} {stream after : Stream S.recorded}

theorem FinishComes.outbound_same {number : Nat} {resumed : Bool}
    {progress : Progress S.Finishing (Except Failure Unit)}
    (comes : FinishComes T ticket number resumed stream progress after) :
    after.state.outbound = stream.state.outbound := by
  cases comes <;> rfl

theorem FinishComes.opens_none {number : Nat} {resumed : Bool}
    {progress : Progress S.Finishing (Except Failure Unit)}
    (comes : FinishComes T ticket number resumed stream progress after) :
    stream.Unopened after := by
  have adds : stream.Adds ticket (·.writer?.isSome) after := comes.adds rfl
  refine .of_adds adds (fun _ => rfl) ?_ ?_
  · cases comes <;> rfl
  · rw [← Stream.finished_length, ← Stream.finished_length]
    cases comes with
    | settled fresh found finished => rfl
    | polls found unsettled => simp [Stream.finished]

theorem ReaderComes.stored_same {asked : Option S.ReaderOpening}
    {step : Step (ReadStage S.recorded) ReadOutcome}
    (comes : ReaderComes T ticket asked stream step after) :
    after.stored = stream.stored ∧ after.state.outbound = stream.state.outbound := by
  cases comes with
  | waits => exact ⟨rfl, rfl⟩
  | fails => exact ⟨rfl, rfl⟩
  | late closed => exact ⟨Stream.record_unstored _ rfl, rfl⟩
  | opens standing => exact ⟨Stream.record_unstored _ rfl, rfl⟩

theorem ReadMove.stored_same {room : Nat} {stage : ReadStage S.recorded}
    {step : Step (ReadStage S.recorded) ReadOutcome}
    (move : ReadMove T room ticket stage stream step after) :
    after.stored = stream.stored ∧ after.state.outbound = stream.state.outbound := by
  cases move with
  | asks standing roomy vacant comes => exact comes.stored_same
  | hears comes => exact comes.stored_same
  | fails found polled => exact ⟨Stream.record_unstored _ rfl, rfl⟩
  | fulfils found polled gained full => exact ⟨Stream.record_unstored _ rfl, rfl⟩
  | passes found polled =>
    exact ⟨(Stream.recordIf_unstored _ _ rfl).trans (Stream.record_unstored _ rfl), rfl⟩
  | ends found polled gained =>
    exact ⟨(Stream.recordIf_unstored _ _ rfl).trans (Stream.record_unstored _ rfl), rfl⟩
  | _ => exact ⟨rfl, rfl⟩

theorem ReadMove.tends {room : Nat} {stage : ReadStage S.recorded}
    {phase : Phase (ReadStage S.recorded) ReadOutcome}
    {step : Step (ReadStage S.recorded) ReadOutcome} {become : Call S.recorded}
    (move : ReadMove T room ticket stage stream step after) :
    Tends ticket stream after (.read room phase) become := by
  have same : after.state.writers.length = stream.state.writers.length := by rw [move.writers_same]
  exact .of_idle rfl (.of_adds move.adds (fun _ => rfl) move.stored_same.1 same)
    (.inl move.stored_same.2)

theorem WriterComes.tends {data : Bytes} {resumed : Bool} {call : Call S.recorded}
    {step : Step (WriteStage S.recorded) WriteOutcome}
    (comes : WriterComes T ticket resumed stream step after) (away : call.writer = none)
    (vacant : resumed = false → stream.state.outbound = none)
    (sought : resumed = true → call.seeks = true) :
    Tends ticket stream after call (.write data (.ofStep step)) := by
  have free := Call.attends_away away
  -- A call for a message hands one out only when it is answered well.
  have silent (kind : MessageKind) (reply : Option Reply)
      (unanswered : ∀ message, reply ≠ some (.opened message)) :
      ∀ entry ∈ Traffic.ofPoll ticket (.nextWriter kind) resumed reply, ∀ number,
        entry.opener number = [] := by
    intro entry member number
    rcases List.mem_append.mp member with started | ended
    · cases resumed with
      | true => simp at started
      | false =>
        rw [if_neg Bool.false_ne_true, List.mem_singleton] at started
        exact started ▸ rfl
    · rcases reply with _ | ⟨message⟩ | _ | _ | _ | _
      · simp at ended
      · exact absurd rfl (unanswered message)
      all_goals
        obtain rfl : entry = _ := by simpa using ended
        rfl
  cases comes with
  | waits => exact .of_idle free ⟨⟨_, rfl, silent _ _ nofun⟩, rfl, rfl⟩ (.inl rfl)
  | fails =>
    exact .of_idle free ⟨⟨_, Stream.giveBack_traffic T _ ticket, silent _ _ nofun⟩, rfl, rfl⟩
      (.inl rfl)
  | late closed =>
    exact .opens away rfl (by simp) rfl (.inl ⟨Stream.record_stored _ _, rfl⟩) vacant sought
  | opens standing =>
    exact .opens away ((Stream.giveBack_traffic T _ ticket).trans
      (Stream.openWriter_traffic T _ _ ticket)) (by simp) rfl
      (.inr ⟨Stream.record_stored _ _, rfl, rfl⟩) vacant sought

theorem Tends.of_filling {data rest : Bytes} {number written : Nat} {later : Option S.Writing}
    {content : S.Writer} {finished resumed : Bool} {inner : S.World} {reply : Option Reply}
    {next : WriteStage S.recorded} (still : next.current = some number) :
    Tends ticket stream
      ((stream.putWriter number content finished).heard inner
        (Traffic.ofPoll ticket (.write number rest) resumed reply))
      (.write data (.waiting (.filling number written later))) (.write data (.waiting next)) := by
  have adds : stream.Adds ticket (·.writer?.isSome) ((stream.putWriter number content
      finished).heard inner (Traffic.ofPoll ticket (.write number rest) resumed reply)) :=
    .of_poll rfl resumed reply rfl
  exact .of_same_message (.of_adds adds (fun _ => rfl) rfl (by simp)) rfl
    (WriteStage.current_message still)
    still

theorem WriteMove.tends {data : Bytes} {stage : WriteStage S.recorded}
    {step : Step (WriteStage S.recorded) WriteOutcome}
    (move : WriteMove T data ticket stage stream step after) :
    Tends ticket stream after (.write data (.waiting stage)) (.write data (.ofStep step)) := by
  have nothing : stream.Unopened stream := .of_same_stored rfl rfl rfl
  cases move with
  | refused closed => exact .of_idle rfl nothing (.inl rfl)
  | skips standing skipped => exact .of_idle rfl nothing (.inl rfl)
  | joins standing sent current => exact .of_idle rfl (.of_same_stored rfl rfl (by simp)) (.inl rfl)
  | asks standing sent vacant comes => exact (comes.tends rfl (fun _ => vacant) nofun).of_borrow
  | hears comes => exact comes.tends rfl nofun fun _ => rfl
  | discardPends comes => exact .of_same_message comes.opens_none comes.outbound_same rfl rfl
  | discards comes =>
    refine .leaves (comes.opens_none.then_same (by simp) rfl (by simp)) (.inl comes.outbound_same)
      rfl
      (.inl rfl) rfl ?_ nofun
    have finished (stream : Stream S.recorded) (number : Nat) :
        ((stream.leaveWriter T.recorded number ticket).giveBack T.recorded ticket).finished =
          stream.finished := by simp
    exact (congrFun (Stream.marked_same (finished _ _)) _).trans comes.marked_after
  | queues blocked => exact .of_same_message nothing rfl rfl rfl
  | retires turn found finished =>
    have marked := (Stream.marked_found found).trans finished
    exact .of_retiring T nothing rfl rfl (.inr turn) rfl marked rfl (by simp) rfl
  | enters turn found unfinished =>
    have current (number : Nat) := Write.fillOrFinish_current (S := S.recorded) data number 0
    exact .of_same_message nothing rfl (WriteStage.current_message (current _)) (current _)
  | pends found => exact .of_filling rfl
  | breaks found => exact .of_filling rfl
  | takes found polled gained => exact .of_filling (Write.fillOrFinish_current data _ _)
  | stalls found => exact .of_filling rfl
  | finishPends comes => exact .of_same_message comes.opens_none comes.outbound_same rfl rfl
  | failed comes =>
    exact .of_retiring T comes.opens_none comes.outbound_same rfl (.inl rfl) rfl
      comes.marked_after rfl
      (by simp)
      (Stream.record_unstored _ rfl)
  | finishFails comes =>
    exact .of_retiring T comes.opens_none comes.outbound_same rfl (.inl rfl) rfl
      comes.marked_after rfl
      (by simp)
      (Stream.record_unstored _ rfl)
  | delivers comes =>
    exact .of_retiring T comes.opens_none comes.outbound_same rfl (.inl rfl) rfl
      comes.marked_after rfl
      (by simp)
      ((Stream.record_unstored _ rfl).trans (Stream.record_unstored _ rfl))

theorem CloseMove.tends {stage : CloseStage S.recorded}
    {phase : Phase (CloseStage S.recorded) CloseOutcome}
    {step : Step (CloseStage S.recorded) CloseOutcome} {become : Call S.recorded}
    (move : CloseMove T ticket stage stream step after) :
    Tends ticket stream after (.close phase) become := by
  have adds := move.adds
  have unopened (stored : after.stored = stream.stored)
      (length : after.state.writers.length = stream.state.writers.length) :
      stream.Unopened after := .of_adds adds (fun _ => rfl) stored length
  cases move with
  | takes current =>
    exact .of_idle rfl (unopened rfl (by simp)) (.inr ⟨Close.take_closed ticket stream, rfl⟩)
  | takesIdle vacant shuts =>
    exact .of_idle rfl (unopened rfl rfl) (.inr ⟨Close.take_closed ticket stream, rfl⟩)
  | finishPends comes => exact .of_idle rfl comes.opens_none (.inl comes.outbound_same)
  | finishFails comes =>
    refine .of_idle rfl (unopened ?_ ?_) (.inl ?_)
    · unfold Close.letGo
      split <;> exact comes.opens_none.stored
    · rw [Close.letGo_lines.2]
      simp [comes.opens_none.length]
    · unfold Close.letGo
      split <;> exact comes.outbound_same
  | finishes comes shuts =>
    exact .of_idle rfl (unopened comes.opens_none.stored (by simp [comes.opens_none.length]))
      (.inl comes.outbound_same)
  | closes =>
    exact .of_idle rfl (unopened (Stream.record_unstored (stream.heard _ _) rfl) rfl) (.inl rfl)
  | _ => exact .of_idle rfl (unopened rfl rfl) (.inl rfl)

end Moves

theorem Shift.lines_same {ticket : Ticket} {lines after : Nat → Line} {number other : Nat}
    {turn next : Bool}
    (shifts : Shift ticket lines (some (number, turn)) (some (other, next)) after) :
    after = lines := by
  cases shifts <;> rfl

theorem Shift.joins_first {ticket : Ticket} {lines after : Nat → Line} {number : Nat} {turn : Bool}
    (shifts : Shift ticket lines none (some (number, turn)) after) (empty : lines number = []) :
    (after number).admits ticket = true := by
  cases shifts with
  | joins alone => simp [empty, Line.join, Line.admits]

namespace Usage

def attending (usage : Usage S) (ticket : Ticket) : Option Nat :=
  usage.calls[ticket]?.bind Call.attends

def storing (usage : Usage S) (ticket : Ticket) : Option Nat :=
  usage.calls[ticket]?.bind Call.stores

theorem attending_found {usage : Usage S} {ticket : Ticket} {call : Call S.recorded}
    (found : usage.calls[ticket]? = some call) : usage.attending ticket = call.attends := by
  rw [attending, found, Option.bind_some]

theorem storing_found {usage : Usage S} {ticket : Ticket} {call : Call S.recorded}
    (found : usage.calls[ticket]? = some call) : usage.storing ticket = call.stores := by
  rw [storing, found, Option.bind_some]

theorem found_set {calls : List (Call S.recorded)} {ticket : Ticket} {call become : Call S.recorded}
    (found : calls[ticket]? = some call) : (calls.set ticket become)[ticket]? = some become :=
  List.getElem?_set_self (List.getElem?_eq_some_iff.mp found).1

/-- The message was handed out to this write, which is at it and first in its line. -/
structure Attends (usage : Usage S) (ticket : Ticket) (number : Nat) : Prop where
  opened : usage.stream.openers number = [ticket]
  stays : usage.attending ticket = some number
  first : (lineOf usage.stream.state.writers number).admits ticket = true

theorem Attends.still_attends {usage : Usage S} {ticket : Ticket} {number : Nat}
    {call become : Call S.recorded} {after : Stream S.recorded}
    (before : usage.Attends ticket number) (found : usage.calls[ticket]? = some call)
    (openers : after.openers = usage.stream.openers)
    (shift : Shift ticket (lineOf usage.stream.state.writers) call.writer become.writer
      (lineOf after.state.writers))
    (attends : call.attends = some number → become.attends = some number) :
    (⟨after, usage.calls.set ticket become⟩ : Usage S).Attends ticket number := by
  have was : call.attends = some number := (attending_found found).symm.trans before.stays
  have now := attends was
  obtain ⟨turn, placed⟩ := Call.attends_place was
  obtain ⟨next, stands⟩ := Call.attends_place now
  refine ⟨openers ▸ before.opened, (attending_found (found_set found)).trans now, ?_⟩
  rw [placed, stands] at shift
  rw [shift.lines_same]
  exact before.first

/-- A message whose finish is not over is attended to, and so is the current one, by a write that
will take it out of the slot. -/
structure Attended (usage : Usage S) : Prop where
  used : usage.Used
  unopened : ∀ number, usage.stream.state.writers.length ≤ number →
    usage.stream.openers number = []
  left : ∀ number < usage.stream.state.writers.length,
    Traffic.Over number usage.traffic ∨ ∃ ticket, usage.Attends ticket number
  current : ∀ number, usage.stream.state.outbound = some number →
    ∃ ticket, usage.Attends ticket number ∧ usage.storing ticket = some number

/-- A message that is marked, and at which nobody has a call under way, is over. -/
theorem Used.is_over {usage : Usage S} (used : usage.Used) {number : Nat}
    (marked : usage.stream.marked number = true)
    (free : ∀ ticket, usage.writer ticket ≠ some (number, true)) :
    Traffic.Over number usage.traffic := by
  obtain ⟨use, read, finished, agree⟩ := used.uses number
  have passed : use = .finished := by
    apply Use.over_of number (finished.trans marked)
    intro caller request busy
    obtain ⟨under, on⟩ := (agree caller request).mp busy
    obtain ⟨other, there, turn⟩ := usage.pending_placed caller request under
    cases there.symm.trans on
    exact free caller turn
  rw [Traffic.Over, ← passed]
  exact read

theorem Used.over_grown {usage after : Usage S} (used : after.Used) {number : Nat}
    (passed : Traffic.Over number usage.traffic) {entries : List Traffic}
    (grown : after.traffic = usage.traffic ++ entries) : Traffic.Over number after.traffic := by
  obtain ⟨use, read, -⟩ := used.uses number
  have whole : Use.idle.follow number after.traffic = some use := read
  rw [grown] at whole ⊢
  exact passed.append_entries whole

theorem Used.leaves_over {usage : Usage S} (before : usage.Used) {ticket : Ticket} {number : Nat}
    {call become : Call S.recorded} {after : Stream S.recorded}
    (found : usage.calls[ticket]? = some call)
    (used : Used (⟨after, usage.calls.set ticket become⟩ : Usage S))
    (turn : call.writer = some (number, true) ∨
      (lineOf usage.stream.state.writers number).admits ticket = true)
    (away : become.writer = none) (marked : after.marked number = true) :
    Traffic.Over number after.world.traffic := by
  have inside := (List.getElem?_eq_some_iff.mp found).1
  have first : (lineOf usage.stream.state.writers number).admits ticket = true := by
    rcases turn with placed | first
    · exact before.sound.writers.first number ticket (by simp [writer, found, placed])
    · exact first
  apply used.is_over marked
  intro caller held
  by_cases mover : caller = ticket
  · subst mover
    simp [writer, inside, away] at held
  · -- Whoever else has the turn has had it before.
    have stood : usage.writer caller = some (number, true) := by
      simpa [writer, Ne.symm mover] using held
    exact mover (Line.admits_unique _ _ _
      (before.sound.writers.first number caller stood) first)

namespace Attended

variable {usage : Usage S} (attended : usage.Attended) {ticket : Ticket}
  {call become : Call S.recorded} {after : Stream S.recorded}
include attended

theorem opened_known {number : Nat} (opened : usage.stream.openers number ≠ []) :
    number < usage.stream.state.writers.length := by
  by_contra outside
  exact opened (attended.unopened number (Nat.le_of_not_lt outside))

theorem attends_other {other : Ticket} {number : Nat} (attends : usage.Attends other number)
    (different : other ≠ ticket)
    (shift : Shift ticket (lineOf usage.stream.state.writers) call.writer become.writer
      (lineOf after.state.writers))
    (tends : Tends ticket usage.stream after call become) :
    (⟨after, usage.calls.set ticket become⟩ : Usage S).Attends other number := by
  constructor
  · have known := attended.opened_known (show usage.stream.openers number ≠ [] by
      simp [attends.opened])
    cases tends with
    | stays unopened => exact unopened.openers_same ▸ attends.opened
    | leaves unopened => exact unopened.openers_same ▸ attends.opened
    | opens away grown =>
      rw [Stream.openers_opened grown, if_neg (Nat.ne_of_lt known), List.append_nil, attends.opened]
  · rw [← attends.stays, attending, attending, List.getElem?_set_ne (Ne.symm different)]
  · exact shift.admits_other number other different attends.first

theorem after_silence {later : Usage S} (used : later.Used) {entries : List Traffic}
    (grown : later.traffic = usage.traffic ++ entries)
    (unopened : usage.stream.Unopened later.stream)
    (slot : later.stream.state.outbound = usage.stream.state.outbound ∨
      later.stream.state.outbound = none)
    (stays : ∀ other number, usage.Attends other number →
      Traffic.Over number later.traffic ∨ later.Attends other number)
    (stores : ∀ other number, usage.Attends other number → usage.storing other = some number →
      later.stream.state.outbound = some number →
      later.Attends other number ∧ later.storing other = some number) : later.Attended := by
  refine ⟨used, ?_, ?_, ?_⟩
  · rw [unopened.openers_same, unopened.length]
    exact attended.unopened
  · rw [unopened.length]
    intro number known
    rcases attended.left number known with passed | ⟨other, before⟩
    · exact .inl (used.over_grown passed grown)
    · exact (stays other number before).imp_right fun attends => ⟨other, attends⟩
  · intro number current
    rcases slot with same | none
    · obtain ⟨other, before, storing⟩ := attended.current number (same ▸ current)
      exact ⟨other, stores other number before storing current⟩
    · rw [none] at current
      cases current

/-- A message is handed out: whoever attended to one does so still, and the new one is attended to
by the call that has it. -/
theorem after_opening {later : Usage S} (used : later.Used) {entries : List Traffic}
    (grown : later.traffic = usage.traffic ++ entries)
    (length : later.stream.state.writers.length = usage.stream.state.writers.length + 1)
    (openers : ∀ number, number ≠ usage.stream.state.writers.length →
      later.stream.openers number = usage.stream.openers number)
    (kept : ∀ other number, usage.Attends other number →
      later.Attends other number ∧ later.storing other = usage.storing other)
    (mine : later.Attends ticket usage.stream.state.writers.length)
    (slot : later.stream.state.outbound = usage.stream.state.outbound ∨
      later.stream.state.outbound = some usage.stream.state.writers.length ∧
        later.storing ticket = some usage.stream.state.writers.length) : later.Attended := by
  refine ⟨used, ?_, ?_, ?_⟩
  · rw [length]
    intro number beyond
    exact (openers number (Nat.ne_of_gt beyond)).trans
      (attended.unopened number (Nat.le_of_lt beyond))
  · rw [length]
    intro number known
    rcases Nat.lt_succ_iff_lt_or_eq.mp known with before | rfl
    · rcases attended.left number before with passed | ⟨other, before⟩
      · exact .inl (used.over_grown passed grown)
      · exact .inr ⟨other, (kept other number before).1⟩
    · exact .inr ⟨ticket, mine⟩
  · intro number current
    rcases slot with same | ⟨new, stores⟩
    · obtain ⟨other, before, storing⟩ := attended.current number (same ▸ current)
      obtain ⟨attends, stored⟩ := kept other number before
      exact ⟨other, attends, stored.trans storing⟩
    · cases new.symm.trans current
      exact ⟨ticket, mine, stores⟩

/-- A call that has the next message handed out attends to it, alone in its line. -/
theorem attends_new (found : usage.calls[ticket]? = some call) (away : call.writer = none)
    {kind : MessageKind} {resumed : Bool}
    (told : after.world.traffic = usage.traffic ++ Traffic.ofPoll ticket (.nextWriter kind) resumed
      (some (.opened usage.stream.state.writers.length)))
    (shift : Shift ticket (lineOf usage.stream.state.writers) call.writer become.writer
      (lineOf after.state.writers))
    (attends : become.attends = some usage.stream.state.writers.length) :
    (⟨after, usage.calls.set ticket become⟩ : Usage S).Attends ticket
      usage.stream.state.writers.length := by
  refine ⟨?_, (attending_found (found_set found)).trans attends, ?_⟩
  · rw [Stream.openers_opened told, attended.unopened _ (Nat.le_refl _), if_pos rfl,
      List.nil_append]
  · obtain ⟨turn, placed⟩ := Call.attends_place attends
    rw [away, placed] at shift
    exact shift.joins_first (lineOf_outside _ (Nat.le_refl _))

theorem after_tending (found : usage.calls[ticket]? = some call)
    (used : Used (⟨after, usage.calls.set ticket become⟩ : Usage S)) {entries : List Traffic}
    (grown : after.world.traffic = usage.traffic ++ entries)
    (shift : Shift ticket (lineOf usage.stream.state.writers) call.writer become.writer
      (lineOf after.state.writers))
    (tends : Tends ticket usage.stream after call become) :
    Attended (⟨after, usage.calls.set ticket become⟩ : Usage S) := by
  have storingNow : (⟨after, usage.calls.set ticket become⟩ : Usage S).storing ticket =
      become.stores := storing_found (found_set found)
  have storingOther (other : Ticket) (different : other ≠ ticket) :
      (⟨after, usage.calls.set ticket become⟩ : Usage S).storing other = usage.storing other := by
    simp [storing, Ne.symm different]
  have others (other : Ticket) (number : Nat) (before : usage.Attends other number)
      (different : other ≠ ticket) :
      (⟨after, usage.calls.set ticket become⟩ : Usage S).Attends other number :=
    attended.attends_other before different shift tends
  cases tends with
  | stays unopened slot attends stores =>
    -- Whoever attended to a message does so still, the mover included.
    have kept (other : Ticket) (number : Nat) (before : usage.Attends other number) :
        (⟨after, usage.calls.set ticket become⟩ : Usage S).Attends other number := by
      by_cases mover : other = ticket
      · subst mover
        exact before.still_attends found unopened.openers_same shift (attends number)
      · exact others other number before mover
    apply attended.after_silence used grown unopened (slot.imp_right And.right)
    · exact fun other number before => .inr (kept other number before)
    · intro other number before storing current
      refine ⟨kept other number before, ?_⟩
      by_cases mover : other = ticket
      · subst mover
        exact storingNow.trans (stores number ((storing_found found).symm.trans storing))
      · exact (storingOther other mover).trans storing
  | leaves unopened slot attends turn away marked retired =>
    rename_i left
    have here (number : Nat) (before : usage.Attends ticket number) : number = left :=
      Option.some.inj (before.stays.symm.trans ((attending_found found).trans attends))
    apply attended.after_silence used grown unopened (slot.imp_right And.right)
    · intro other number before
      by_cases mover : other = ticket
      · subst mover
        rw [here number before]
        exact .inl (attended.used.leaves_over found used turn away marked)
      · exact .inr (others other number before mover)
    · intro other number before storing current
      by_cases mover : other = ticket
      · subst mover
        rw [here number before] at current storing
        exact absurd current (retired ((storing_found found).symm.trans storing))
      · exact ⟨others other number before mover, (storingOther other mover).trans storing⟩
  | opens away told length attends slot vacant sought =>
    have mine := attended.attends_new found away told shift attends
    refine attended.after_opening used grown length ?_ ?_ mine ?_
    · intro number other
      rw [Stream.openers_opened told, if_neg other, List.append_nil]
    · -- Nobody who attended to a message is the one that has this one handed out.
      intro other number before
      have different : other ≠ ticket := by
        rintro rfl
        have was := before.stays.symm.trans (attending_found found)
        cases was.trans (Call.attends_away away)
      exact ⟨others other number before different, storingOther other different⟩
    · exact slot.imp And.right fun ⟨_, new, stores⟩ => ⟨new, storingNow.trans stores⟩

theorem after_move {later : Usage S} (moves : Moves T usage ticket later) : later.Attended := by
  have used := attended.used.after_move moves
  cases moves with
  | rests => exact attended
  | reads found next move =>
    obtain ⟨entries, grown, -⟩ := move.adds
    refine attended.after_tending found used grown ?_ move.tends
    rw [move.writers_same]
    exact .stays
  | writes found next move =>
    rename_i data phase stage step stream
    obtain ⟨entries, grown, -⟩ := move.adds
    have placed : (Call.write data phase : Call S.recorded).writer = stage.place :=
      Phase.place_next WriteStage.place .start rfl next
    have became : (Call.write data (.ofStep step) : Call S.recorded).writer =
        step.place WriteStage.place := Phase.place_ofStep _ _
    refine attended.after_tending found used grown ?_ (move.tends.of_next next)
    rw [placed, became]
    exact move.shifts attended.used.sound.enumerated
  | closes found next move =>
    rename_i phase stage step stream
    obtain ⟨entries, grown, -⟩ := move.adds
    have placed : (Call.close phase : Call S.recorded).writer = stage.place :=
      Phase.place_next CloseStage.place .start rfl next
    have became : (Call.close (.ofStep step) : Call S.recorded).writer =
        step.place CloseStage.place := Phase.place_ofStep _ _
    refine attended.after_tending found used grown ?_ move.tends
    rw [placed, became]
    exact move.shifts attended.used.sound.enumerated

theorem after_begin (demand : Demand) : (usage.step T (.begin demand)).Attended := by
  have attending : (usage.step T (.begin demand)).attending = usage.attending :=
    push_same usage.calls demand Call.attends (by cases demand <;> rfl)
  have storing : (usage.step T (.begin demand)).storing = usage.storing :=
    push_same usage.calls demand Call.stores (by cases demand <;> rfl)
  have kept (other : Ticket) (number : Nat) (before : usage.Attends other number) :
      (usage.step T (.begin demand)).Attends other number :=
    ⟨before.opened, attending ▸ before.stays, before.first⟩
  refine ⟨attended.used.after_begin demand, attended.unopened, ?_, ?_⟩
  · intro number known
    exact (attended.left number known).imp_right fun ⟨other, before⟩ =>
      ⟨other, kept other number before⟩
  · intro number current
    obtain ⟨other, before, stores⟩ := attended.current number current
    exact ⟨other, kept other number before, storing ▸ stores⟩

theorem after_change (become : S.World → S.World) : (usage.step T (.change become)).Attended := by
  have kept (other : Ticket) (number : Nat) (before : usage.Attends other number) :
      (usage.step T (.change become)).Attends other number :=
    ⟨before.opened, before.stays, before.first⟩
  refine ⟨⟨attended.used.sound.after_change become, attended.used.uses, attended.used.unmarked⟩,
    attended.unopened, ?_, ?_⟩
  · intro number known
    exact (attended.left number known).imp_right fun ⟨other, before⟩ =>
      ⟨other, kept other number before⟩
  · intro number current
    obtain ⟨other, before, stores⟩ := attended.current number current
    exact ⟨other, kept other number before, stores⟩

end Attended

theorem start_attended (config : Configuration) (world : S.World) :
    (start config world).Attended :=
  ⟨start_used config world, fun _ _ => rfl, nofun, nofun⟩

theorem run_attended (config : Configuration) (world : S.World) (actions : List (Action S.World))
    (lasting : ∀ action ∈ actions, ∀ ticket, action ≠ .drop ticket) :
    ((start config world).run T actions).Attended :=
  run_keeps T Attended (fun action => ∀ ticket, action ≠ .drop ticket)
    (fun _ demand _ attended => attended.after_begin demand)
    (fun _ ticket attended => attended.after_move (attended.used.sound.stretch_moves ticket))
    (fun _ ticket lasts _ => absurd rfl (lasts ticket))
    (fun _ become attended => attended.after_change become)
    (start config world) actions lasting (start_attended config world)

def Writing (usage : Usage S) : Prop :=
  ∃ (ticket : Ticket) (data : Bytes) (stage : WriteStage S.recorded),
    usage.calls[ticket]? = some (.write data (.waiting stage))

/-- No message is left open behind a finished write. In every run of any calls none of which is
given up, over any connection: the message that is current was handed out to one call, and that call
is a write under way at it; and where no write is under way, none is current and the finish of each
message ever handed out has been begun exactly once. -/
theorem none_left_open (T : Transport S) (config : Configuration) (world : S.World)
    (actions : List (Action S.World))
    (lasting : ∀ action ∈ actions, ∀ ticket, action ≠ .drop ticket) :
    let usage := (start config world).run T actions
    (∀ number, usage.stream.state.outbound = some number →
      ∃ ticket data stage turn, usage.stream.openers number = [ticket] ∧
        usage.calls[ticket]? = some (.write data (.waiting stage)) ∧
        stage.place = some (number, turn)) ∧
    (¬ usage.Writing → usage.stream.state.outbound = none ∧
      ∀ caller kind number, .ended caller (.nextWriter kind) (.opened number) ∈ usage.traffic →
        usage.traffic.countP (Traffic.finishes number) = 1) := by
  intro usage
  have attended : usage.Attended := run_attended config world actions lasting
  have stays (ticket : Ticket) (number : Nat) (attends : usage.Attends ticket number) :
      ∃ data stage turn, usage.calls[ticket]? = some (.write data (.waiting stage)) ∧
        stage.place = some (number, turn) := by
    obtain ⟨call, found, atIt⟩ := Option.bind_eq_some_iff.mp attends.stays
    obtain ⟨data, stage, turn, rfl, placed⟩ := Call.attends_write atIt
    exact ⟨data, stage, turn, found, placed⟩
  constructor
  · intro number current
    obtain ⟨ticket, attends, -⟩ := attended.current number current
    obtain ⟨data, stage, turn, found, placed⟩ := stays ticket number attends
    exact ⟨ticket, data, stage, turn, attends.opened, found, placed⟩
  · intro idle
    have nobody (ticket : Ticket) (number : Nat) : ¬ usage.Attends ticket number := by
      intro attends
      obtain ⟨data, stage, turn, found, -⟩ := stays ticket number attends
      exact idle ⟨ticket, data, stage, found⟩
    constructor
    · cases current : usage.stream.state.outbound with
      | none => rfl
      | some number =>
        obtain ⟨ticket, attends, -⟩ := attended.current number current
        exact absurd attends (nobody ticket number)
    · intro caller kind number member
      have opened : caller ∈ usage.stream.openers number :=
        List.mem_flatMap.mpr ⟨_, member, by simp [Traffic.opener]⟩
      have known := attended.opened_known (List.ne_nil_of_mem opened)
      rcases attended.left number known with passed | ⟨ticket, attends⟩
      · exact passed.finishes_once
      · exact absurd attends (nobody ticket number)

/-- Two writes wait for a message at once, and the second's takes the place of the first's. Both
messages are finished all the same. -/
theorem none_left_open_overlapping :
    let actions : List (Action Scripted.World) := [.begin (.write [1]), .begin (.write [2]),
      .poll 0, .poll 1, .change fun world => { world with gates := world.gates.notify 0 }, .poll 0,
      .change fun world => { world with gates := world.gates.notify 0 }, .poll 1,
      .change fun world => { world with gates := world.gates.notify 1 }, .poll 0,
      .change fun world => { world with gates := world.gates.notify 1 }, .poll 1]
    let usage := (start {} { inbound := [] } : Usage Scripted.signature).run
      (Scripted.transport { writerGate := some 0, writeGate := some 1 }) actions
    (∀ action ∈ actions, ∀ ticket, action ≠ .drop ticket) ∧ ¬ usage.Writing ∧
      usage.stream.state.outbound = none ∧ usage.traffic.countP (Traffic.finishes 0) = 1 ∧
      usage.traffic.countP (Traffic.finishes 1) = 1 := by
  intro actions usage
  have lasting : ∀ action ∈ actions, ∀ ticket, action ≠ .drop ticket := by simp [actions]
  have calls : usage.calls = [.write [1] (.answered (.ok 1)), .write [2] (.answered (.ok 1))] := rfl
  have idle : ¬ usage.Writing := by
    rintro ⟨ticket, data, stage, found⟩
    rw [calls] at found
    rcases ticket with _ | _ | ticket <;> cases found
  obtain ⟨vacant, finished⟩ :=
    (none_left_open (Scripted.transport { writerGate := some 0, writeGate := some 1 }) {}
      { inbound := [] } actions lasting).2 idle
  refine ⟨lasting, idle, vacant, finished 0 .text 0 ?_, finished 1 .text 1 ?_⟩
  · exact List.mem_iff_getElem?.mpr ⟨2, rfl⟩
  · exact List.mem_iff_getElem?.mpr ⟨4, rfl⟩

end Usage

end MessageStream
