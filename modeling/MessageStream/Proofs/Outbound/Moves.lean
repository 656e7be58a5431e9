import MessageStream.Proofs.Outbound.Post

/-!
What the moves of a call do on the outbound side. Reads and the shutting down do nothing there. A
write puts bytes into the message whose turn it has and then finishes it; a close finds the message
it took finished. So every stretch leaves the outbound side tidy.
-/
namespace MessageStream

variable {S : Signature} {T : Transport S}

namespace Stream

variable (T : Transport S) (stream : Stream S.recorded)

theorem finished_line (number : Nat) (change : Line → Line) :
    (stream.state.writers.modify number fun cursor =>
      { cursor with line := change cursor.line }).map (·.content.finished) = stream.finished := by
  apply map_modify_same
  exact fun _ _ => rfl

@[simp] theorem joinWriter_finished (number : Nat) (ticket : Ticket) :
    (stream.joinWriter number ticket).finished = stream.finished :=
  finished_line stream number fun line => line.join ticket

@[simp] theorem leaveWriter_finished (number : Nat) (ticket : Ticket) :
    (stream.leaveWriter T.recorded number ticket).finished = stream.finished :=
  finished_line stream number fun line => line.leave ticket

@[simp] theorem retireWriter_finished (number : Nat) (ticket : Ticket) :
    (stream.retireWriter T.recorded number ticket).finished = stream.finished :=
  finished_line stream number fun line => line.leave ticket

@[simp] theorem heard_finished (inner : S.World) (entries : List Traffic) :
    (stream.heard inner entries).finished = stream.finished := rfl

@[simp] theorem record_finished (event : Event) :
    (stream.record event).finished = stream.finished := rfl

@[simp] theorem giveBack_finished (ticket : Ticket) :
    (stream.giveBack T.recorded ticket).finished = stream.finished := rfl

@[simp] theorem openWriter_finished (writer : Numbered S.Writer) (ticket : Ticket) :
    (stream.countWriter.openWriter T.recorded writer ticket).finished =
      stream.finished ++ [false] := by
  simp [finished]

@[simp] theorem enterWriter_finished (writer : Numbered S.Writer) (ticket : Ticket) :
    (stream.countWriter.enterWriter writer ticket).finished = stream.finished ++ [false] := by
  simp [finished]

theorem finished_length : stream.finished.length = stream.state.writers.length :=
  List.length_map _

theorem finished_found {number : Nat} {cursor : Cursor (Outbound (Numbered S.Writer))}
    (found : stream.state.writers[number]? = some cursor) :
    stream.finished[number]? = some cursor.content.finished := by
  simp [finished, found]

theorem putWriter_unfinished {number : Nat} {cursor : Cursor (Outbound (Numbered S.Writer))}
    (found : stream.state.writers[number]? = some cursor) (content : S.Writer) :
    (stream.putWriter number content cursor.content.finished).finished = stream.finished := by
  apply map_modify_same
  intro other there
  rw [found] at there
  cases there
  rfl

theorem putWriter_finished (number : Nat) (content : S.Writer) (other : Nat) :
    (stream.putWriter number content true).finished[other]? =
      if other = number then stream.finished[other]?.map fun _ => true
      else stream.finished[other]? := by
  simp only [finished, putWriter_state, List.getElem?_map, List.getElem?_modify]
  by_cases here : other = number
  · subst here
    cases stream.state.writers[other]? <;> simp
  · cases stream.state.writers[other]? <;> simp [here, Ne.symm here]

end Stream

/-- A write takes no more bytes than it is given. -/
def Transport.Modest (T : Transport S) : Prop :=
  ∀ (data : Bytes) (ticket : Ticket) (stage : Option S.Writing) (whole : S.Writer × S.World)
    (taken : Nat), ((T.write data).poll ticket stage whole).2 = .ready (.ok taken) →
      taken ≤ data.length

theorem Transport.Modest.within_buffer (modest : T.Modest) {data : Bytes} {written taken : Nat}
    {ticket : Ticket} {stage : Option S.Writing} {whole after : S.Writer × S.World}
    (polled : (T.write (data.drop written)).poll ticket stage whole = (after, .ready (.ok taken)))
    (short : written < data.length) : written + taken ≤ data.length := by
  have few : taken ≤ (data.drop written).length :=
    modest (data.drop written) ticket stage whole taken (by rw [polled])
  rw [List.length_drop] at few
  omega

theorem Write.fillOrFinish_place (data : Bytes) (number written : Nat) :
    (fillOrFinish data number written : WriteStage S).place = some (number, true) := by
  unfold fillOrFinish
  split <;> rfl

theorem Write.fillOrFinish_work (data : Bytes) (number written : Nat) :
    (fillOrFinish data number written : WriteStage S).work data =
      some ⟨number, data.take written, false⟩ := by
  unfold fillOrFinish
  split <;> rfl

theorem Write.fillOrFinish_fair {config : Configuration} {data : Bytes}
    (sent : config.skips data = false) (number written : Nat) (within : written ≤ data.length) :
    (fillOrFinish data number written : WriteStage S).Fair config data := by
  unfold fillOrFinish
  split
  · rename_i short
    exact ⟨sent, short⟩
  · rename_i full
    exact ⟨sent, within, fun _ => Nat.le_antisymm within (Nat.le_of_not_lt full)⟩

section Quiet

variable {ticket : Ticket} {stream after : Stream S.recorded}

theorem ReaderComes.outbox_same {asked : Option S.ReaderOpening}
    {step : Step (ReadStage S.recorded) ReadOutcome}
    (comes : ReaderComes T ticket asked stream step after) : after.outbox = stream.outbox := by
  cases comes <;> simp [Outbox.hear_asks]

theorem ReadMove.outbox_same {room : Nat} {stage : ReadStage S.recorded}
    {step : Step (ReadStage S.recorded) ReadOutcome}
    (move : ReadMove T room ticket stage stream step after) : after.outbox = stream.outbox := by
  cases move with
  | asks standing roomy vacant comes => exact comes.outbox_same
  | hears comes => exact comes.outbox_same
  | _ => simp [Outbox.hear_reads]

theorem ReaderComes.config_same {asked : Option S.ReaderOpening}
    {step : Step (ReadStage S.recorded) ReadOutcome}
    (comes : ReaderComes T ticket asked stream step after) :
    after.state.config = stream.state.config := by
  cases comes <;> rfl

theorem ReadMove.config_same {room : Nat} {stage : ReadStage S.recorded}
    {step : Step (ReadStage S.recorded) ReadOutcome}
    (move : ReadMove T room ticket stage stream step after) :
    after.state.config = stream.state.config := by
  cases move with
  | asks standing roomy vacant comes => exact comes.config_same
  | hears comes => exact comes.config_same
  | _ => rfl

theorem FinishComes.config_same {number : Nat} {resumed : Bool}
    {progress : Progress S.Finishing (Except Failure Unit)}
    (comes : FinishComes T ticket number resumed stream progress after) :
    after.state.config = stream.state.config := by
  cases comes <;> rfl

theorem WriterComes.config_same {resumed : Bool} {step : Step (WriteStage S.recorded) WriteOutcome}
    (comes : WriterComes T ticket resumed stream step after) :
    after.state.config = stream.state.config := by
  cases comes <;> rfl

theorem WriteMove.config_same {data : Bytes} {stage : WriteStage S.recorded}
    {step : Step (WriteStage S.recorded) WriteOutcome}
    (move : WriteMove T data ticket stage stream step after) :
    after.state.config = stream.state.config := by
  cases move with
  | asks standing sent vacant comes => exact comes.config_same
  | hears comes => exact comes.config_same
  | discardPends comes => exact comes.config_same
  | discards comes => exact comes.config_same
  | finishPends comes => exact comes.config_same
  | failed comes => exact comes.config_same
  | finishFails comes => exact comes.config_same
  | delivers comes => exact comes.config_same
  | _ => rfl

theorem CloseMove.config_same {stage : CloseStage S.recorded}
    {step : Step (CloseStage S.recorded) CloseOutcome}
    (move : CloseMove T ticket stage stream step after) :
    after.state.config = stream.state.config := by
  cases move with
  | finishPends comes => exact comes.config_same
  | finishFails comes =>
    unfold Close.letGo
    split <;> exact comes.config_same
  | finishes comes shuts => exact comes.config_same
  | _ => rfl

theorem FinishComes.settled_or_polled {number : Nat} {resumed : Bool}
    {progress : Progress S.Finishing (Except Failure Unit)}
    (comes : FinishComes T ticket number resumed stream progress after) :
    (after = stream ∧ progress = .ready (.ok ()) ∧ resumed = false ∧
      stream.finished[number]? = some true) ∨
    ((resumed = true ∨ stream.finished[number]? = some false) ∧
      after.finished[number]? = some true ∧
      (∀ other, other ≠ number → after.finished[other]? = stream.finished[other]?) ∧
      after.finished.length = stream.finished.length ∧
      after.outbox = if progress.reply? (fun () => .done) = some .done
        then stream.outbox.send ticket number else stream.outbox) := by
  cases comes with
  | settled fresh found finished =>
    exact .inl ⟨rfl, rfl, fresh, finished ▸ stream.finished_found found⟩
  | polls found unsettled =>
    refine .inr ⟨?_, ?_, ?_, ?_, ?_⟩
    · rcases unsettled with resumed | unfinished
      · exact .inl resumed
      · exact .inr (unfinished ▸ stream.finished_found found)
    · simp [Stream.putWriter_finished, stream.finished_found found]
    · intro other different
      simp [Stream.putWriter_finished, different]
    · simp [Stream.finished]
    · rw [Stream.heard_outbox, Outbox.hear_poll, Stream.putWriter_outbox]
      rcases progress with later | source | nothing <;> rfl

end Quiet

theorem Post.Holds.finishes_message {config : Configuration} {usage : Usage S} {ticket : Ticket}
    {after : Stream S.recorded} {number : Nat} {payload : Bytes} {resumed : Bool}
    {progress : Progress S.Finishing (Except Failure Unit)}
    (holds : usage.post.Holds config ⟨number, payload, resumed⟩)
    (comes : FinishComes T ticket number resumed usage.stream progress after) :
    after.finished[number]? = some true ∧
      (∀ other, other ≠ number → after.finished[other]? = usage.stream.finished[other]?) ∧
      after.finished.length = usage.stream.finished.length ∧
      after.outbox = if progress.reply? (fun () => .done) = some .done
        then usage.stream.outbox.send ticket number else usage.stream.outbox := by
  rcases comes.settled_or_polled with ⟨-, -, fresh, settled⟩ | ⟨-, rest⟩
  · have tried := holds.tried
    simp only [Usage.post] at tried
    rw [settled, fresh] at tried
    cases tried
  · exact rest

namespace Usage

/-- The outbound side of a stream in sound use is tidy. -/
structure Posted (config : Configuration) (usage : Usage S) : Prop where
  sound : usage.Sound
  configured : usage.stream.state.config = config
  tidy : usage.post.Tidy config

/-- A write that can move: it stands where it believes to stand, it has answered nothing, and its
message has the bytes it has put into it. -/
structure AtWork (config : Configuration) (usage : Usage S) (ticket : Ticket) (data : Bytes)
    (phase : Phase (WriteStage S.recorded) WriteOutcome) (stage : WriteStage S.recorded) :
    Prop where
  found : usage.calls[ticket]? = some (.write data phase)
  next : phase.next? .start = some stage
  placed : (Call.write data phase : Call S.recorded).writer = stage.place
  unanswered : ∀ other outcome, (Call.write data phase : Call S.recorded) ≠
    .write other (.answered outcome)
  first : ∀ number, stage.place = some (number, true) →
    (lineOf usage.stream.state.writers number).admits ticket = true
  fair : stage.Fair config data
  holds : ∀ number work, stage.place = some (number, true) → stage.work data = some work →
    usage.post.Holds config work

namespace Posted

variable {config : Configuration} {usage : Usage S} {ticket : Ticket}
  {call become : Call S.recorded} {after : Stream S.recorded} (posted : usage.Posted config)
include posted

theorem drafts_length : usage.stream.outbox.drafts.length = usage.stream.finished.length :=
  posted.tidy.drafted

theorem alone_new (other : Ticket) :
    usage.post.writer other ≠ some (usage.stream.finished.length, true) := by
  intro placed
  have member := (posted.sound.writers.stands usage.stream.finished.length other).mpr ⟨true, placed⟩
  have inside := mem_lineOf _ member
  rw [Stream.finished_length] at inside
  exact Nat.lt_irrefl _ inside

theorem alone_first {number : Nat}
    (admitted : (lineOf usage.stream.state.writers number).admits ticket = true) (other : Ticket)
    (different : other ≠ ticket) : usage.post.writer other ≠ some (number, true) := by
  intro placed
  exact different (Line.admits_unique _ _ _ (posted.sound.writers.first number other placed)
    admitted)

theorem tidy_apart (found : usage.calls[ticket]? = some call) (away : call.writer = none)
    (shift : Shift ticket (lineOf usage.stream.state.writers) call.writer become.writer
      (lineOf after.state.writers))
    (finished : after.finished = usage.stream.finished)
    (outbox : after.outbox = usage.stream.outbox)
    (unanswered : ∀ data outcome, call ≠ .write data (.answered outcome))
    (means : ∀ post : Post S.recorded, post.Means config ticket become) :
    (⟨after, usage.calls.set ticket become⟩ : Usage S).post.Tidy config := by
  have handles : Post.Handles usage.post ticket usage.stream.finished.length call become none
      (⟨after, usage.calls.set ticket become⟩ : Usage S).post :=
    { found
      calls := rfl
      lines := shift.admits_other
      away := fun _ _ placed => by rw [away] at placed; cases placed
      alone := fun other _ => posted.alone_new other
      finished := fun _ _ => by simp only [Usage.post, finished]
      drafts := fun _ _ => by simp only [Usage.post, outbox]
      drafted := by
        simp only [Usage.post, finished, outbox]
        exact posted.drafts_length
      grows := by simp [Usage.post, finished]
      sent := by simp [Usage.post, outbox]
      sender := nofun }
  refine handles.tidy_unsent posted.tidy (means _) ?_ unanswered
  intro unfinished
  simp [Usage.post, finished] at unfinished

theorem tidy_opened (found : usage.calls[ticket]? = some call) (away : call.writer = none)
    {data : Bytes} {stage : WriteStage S.recorded} (fair : stage.Fair config data)
    (atWork : stage.work data = some ⟨usage.stream.finished.length, [], false⟩)
    (shift : Shift ticket (lineOf usage.stream.state.writers) call.writer stage.place
      (lineOf after.state.writers))
    (admitted : (lineOf after.state.writers usage.stream.finished.length).admits ticket = true)
    (finished : after.finished = usage.stream.finished ++ [false])
    (outbox : after.outbox = usage.stream.outbox.begin config.messageKind)
    (unanswered : ∀ data outcome, call ≠ .write data (.answered outcome)) :
    (⟨after, usage.calls.set ticket (.write data (.waiting stage))⟩ : Usage S).post.Tidy
      config := by
  have handles : Post.Handles usage.post ticket usage.stream.finished.length call
      (.write data (.waiting stage)) none
      (⟨after, usage.calls.set ticket (.write data (.waiting stage))⟩ : Usage S).post :=
    { found
      calls := rfl
      lines := shift.admits_other
      away := fun _ _ placed => by rw [away] at placed; cases placed
      alone := fun other _ => posted.alone_new other
      finished := fun other different => by
        simp only [Usage.post, finished]
        exact push_elsewhere _ _ different
      drafts := fun other different => by
        simp only [Usage.post, outbox]
        exact push_elsewhere _ _ (posted.drafts_length ▸ different)
      drafted := by
        have same := posted.drafts_length
        simp_all [Usage.post, Outbox.begin]
      grows := by simp [Usage.post, finished]
      sent := by simp [Usage.post, outbox, Outbox.begin]
      sender := nofun }
  -- The message is new, so it is empty and has not been sent.
  have holds : Post.Holds config
      (⟨after, usage.calls.set ticket (.write data (.waiting stage))⟩ : Usage S).post
      ⟨usage.stream.finished.length, [], false⟩ := by
    constructor
    · simp [Usage.post, finished]
    · simp [Usage.post, outbox, Outbox.begin, ← posted.drafts_length]
    · intro member
      simp only [Usage.post, outbox, Outbox.begin] at member
      obtain ⟨entry, there, same⟩ := List.mem_map.mp member
      obtain ⟨-, -, -, -, inside, -⟩ := posted.tidy.told entry there
      exact Nat.lt_irrefl _ (same ▸ inside)
  refine handles.tidy_unsent posted.tidy ⟨fair, ?_⟩ ?_ unanswered
  · intro number work placed working
    rw [atWork] at working
    cases working
    exact holds
  · intro _
    exact ⟨admitted, data, stage, _, rfl, atWork, rfl, holds⟩

theorem handles_own {number : Nat} {turn : Bool} (become : Call S.recorded)
    (after : Stream S.recorded) (entry : Option Sent) (found : usage.calls[ticket]? = some call)
    (placed : call.writer = some (number, turn))
    (admitted : (lineOf usage.stream.state.writers number).admits ticket = true)
    (shift : Shift ticket (lineOf usage.stream.state.writers) call.writer become.writer
      (lineOf after.state.writers))
    (finished : ∀ other, other ≠ number → after.finished[other]? = usage.stream.finished[other]?)
    (length : after.finished.length = usage.stream.finished.length)
    (drafts : ∀ other, other ≠ number →
      after.outbox.drafts[other]? = usage.stream.outbox.drafts[other]?)
    (drafted : after.outbox.drafts.length = usage.stream.outbox.drafts.length)
    (sent : after.outbox.sent = usage.stream.outbox.sent ++ entry.toList)
    (sender : ∀ sent, entry = some sent → sent.caller = ticket ∧ sent.number = number) :
    Post.Handles usage.post ticket number call become entry
      (⟨after, usage.calls.set ticket become⟩ : Usage S).post where
  found := found
  calls := rfl
  lines := shift.admits_other
  away other turn there := by
    rw [placed] at there
    cases there
    rfl
  alone := posted.alone_first admitted
  finished := finished
  drafts := drafts
  drafted := drafted.trans (posted.drafts_length.trans length.symm)
  grows := Nat.le_of_eq length.symm
  sent := sent
  sender := sender

theorem tidy_filled {data payload : Bytes} (bytes : Bytes) {number : Nat} {turn : Bool}
    {stage : WriteStage S.recorded} (found : usage.calls[ticket]? = some call)
    (placed : call.writer = some (number, turn))
    (admitted : (lineOf usage.stream.state.writers number).admits ticket = true)
    (holds : usage.post.Holds config ⟨number, payload, false⟩)
    (shift : Shift ticket (lineOf usage.stream.state.writers) call.writer stage.place
      (lineOf after.state.writers))
    (still : (lineOf after.state.writers number).admits ticket = true)
    (finished : after.finished = usage.stream.finished)
    (outbox : after.outbox = usage.stream.outbox.fill number bytes)
    (unanswered : ∀ data outcome, call ≠ .write data (.answered outcome))
    (fair : stage.Fair config data)
    (atWork : stage.work data = some ⟨number, payload ++ bytes, false⟩) :
    (⟨after, usage.calls.set ticket (.write data (.waiting stage))⟩ : Usage S).post.Tidy
      config := by
  have handles := posted.handles_own (.write data (.waiting stage)) after none found placed admitted
    shift (fun _ _ => by rw [finished]) (by rw [finished])
    (fun other different => by simp [outbox, Outbox.fill, Ne.symm different])
    (by simp [outbox, Outbox.fill]) (by simp [outbox, Outbox.fill]) (by simp)
  have now : Post.Holds config
      (⟨after, usage.calls.set ticket (.write data (.waiting stage))⟩ : Usage S).post
      ⟨number, payload ++ bytes, false⟩ := by
    constructor
    · simp only [Usage.post, finished]
      exact holds.tried
    · have draft := holds.draft
      simp only [Usage.post] at draft
      simp [Usage.post, outbox, Outbox.fill, draft]
    · simp only [Usage.post, outbox, Outbox.fill]
      exact holds.unsent
  refine handles.tidy_unsent posted.tidy ⟨fair, ?_⟩ ?_ unanswered
  · intro _ work _ working
    rw [atWork] at working
    cases working
    exact now
  · intro _
    exact ⟨still, data, stage, _, rfl, atWork, rfl, now⟩

theorem tidy_finish_waits {data payload : Bytes} {number : Nat} {resumed : Bool}
    {later : S.Finishing} {stage : WriteStage S.recorded} (found : usage.calls[ticket]? = some call)
    (placed : call.writer = some (number, true))
    (holds : usage.post.Holds config ⟨number, payload, resumed⟩)
    (comes : FinishComes T ticket number resumed usage.stream (.waiting later) after)
    (unanswered : ∀ data outcome, call ≠ .write data (.answered outcome))
    (fair : stage.Fair config data) (stays : stage.place = some (number, true))
    (atWork : stage.work data = some ⟨number, payload, true⟩) :
    (⟨after, usage.calls.set ticket (.write data (.waiting stage))⟩ : Usage S).post.Tidy
      config := by
  obtain ⟨tried, finished, length, outbox⟩ := holds.finishes_message comes
  have unsent : after.outbox = usage.stream.outbox := outbox
  have admitted := posted.sound.writers.first number ticket (by simp [writer, found, placed])
  have shift : Shift ticket (lineOf usage.stream.state.writers) call.writer stage.place
      (lineOf after.state.writers) := by
    rw [placed, stays, comes.lines_same]
    exact .stays
  have handles := posted.handles_own (.write data (.waiting stage)) after none found placed admitted
    shift finished length (fun _ _ => by rw [unsent]) (by rw [unsent]) (by simp [unsent]) (by simp)
  have now : Post.Holds config
      (⟨after, usage.calls.set ticket (.write data (.waiting stage))⟩ : Usage S).post
      ⟨number, payload, true⟩ := by
    refine ⟨tried, ?_, ?_⟩
    · simp only [Usage.post, unsent]
      exact holds.draft
    · simp only [Usage.post, unsent]
      exact holds.unsent
  refine handles.tidy_unsent posted.tidy ⟨fair, ?_⟩ ?_ unanswered
  · intro _ work _ working
    rw [atWork] at working
    cases working
    exact now
  · intro unfinished
    simp only [Usage.post] at unfinished
    rw [tried] at unfinished
    cases unfinished

/-- The stretch in which a write ends the finish of its message. The message is sent if the finish
ended well, with what the write put into it. -/
theorem tidy_finish_ends {data payload : Bytes} {number : Nat} {resumed : Bool}
    {result : Except Failure Unit} {between : Stream S.recorded} {outcome : WriteOutcome}
    (found : usage.calls[ticket]? = some call) (placed : call.writer = some (number, true))
    (holds : usage.post.Holds config ⟨number, payload, resumed⟩)
    (comes : FinishComes T ticket number resumed usage.stream (.ready result) between)
    (unanswered : ∀ data outcome, call ≠ .write data (.answered outcome))
    (shift : Shift ticket (lineOf usage.stream.state.writers) call.writer none
      (lineOf after.state.writers))
    (finished : after.finished = between.finished) (outbox : after.outbox = between.outbox)
    (kept : config.skips data = false) (whole : WriteOutcome.payload data outcome = payload)
    (counts : ∀ count, outcome = .ok count → count = data.length ∧ result = .ok ()) :
    (⟨after, usage.calls.set ticket (.write data (.answered outcome))⟩ : Usage S).post.Tidy
      config := by
  obtain ⟨tried, elsewhere, length, sends⟩ := holds.finishes_message comes
  rw [← finished] at tried elsewhere length
  rw [← outbox] at sends
  have admitted := posted.sound.writers.first number ticket (by simp [writer, found, placed])
  have settled : (⟨after, usage.calls.set ticket (.write data (.answered outcome))⟩ :
      Usage S).post.finished[number]? = some false → False := by
    intro unfinished
    simp only [Usage.post] at unfinished
    rw [tried] at unfinished
    cases unfinished
  -- A finish that fails marks the message as finished but sends nothing.
  cases result with
  | error source =>
    have unsent : after.outbox = usage.stream.outbox := sends
    have handles := posted.handles_own (.write data (.answered outcome)) after none found placed
      admitted shift elsewhere length (fun _ _ => by rw [unsent]) (by rw [unsent])
      (by simp [unsent]) (by simp)
    refine handles.tidy_unsent posted.tidy ?_ (fun unfinished => (settled unfinished).elim)
      unanswered
    cases outcome with
    | error source => trivial
    | ok count => cases (counts count rfl).2
  | ok nothing =>
    have draft := holds.draft
    simp only [Usage.post] at draft
    have sent : after.outbox = usage.stream.outbox.send ticket number := sends
    simp only [Outbox.send, draft] at sent
    have handles := posted.handles_own (.write data (.answered outcome)) after
      (some ⟨ticket, number, ⟨config.messageKind, payload⟩⟩) found placed admitted shift elsewhere
      length (fun _ _ => by rw [sent]) (by rw [sent]) (by rw [sent]; rfl)
      (fun _ same => by cases same; exact ⟨rfl, rfl⟩)
    refine handles.tidy_after posted.tidy ?_ (fun unfinished => (settled unfinished).elim)
      unanswered
      (fun _ => holds.unsent) ?_
    · cases outcome with
      | error source => trivial
      | ok count =>
        intro _
        refine ⟨(counts count rfl).1, ⟨ticket, number, ⟨config.messageKind, payload⟩⟩, ?_, rfl⟩
        simp [Usage.post, sent]
    · rintro entry ⟨⟩
      refine ⟨data, outcome, handles.found_self, kept, ?_, by rw [whole]⟩
      exact (List.getElem?_eq_some_iff.mp tried).1

/-- Whoever is first in line at a message not finished yet is the write that will finish it. -/
theorem first_tends {number : Nat} (unfinished : usage.stream.finished[number]? = some false)
    (turn : (lineOf usage.stream.state.writers number).admits ticket = true) :
    ∃ data stage work, usage.calls[ticket]? = some (.write data (.waiting stage)) ∧
      stage.work data = some work ∧ work.number = number ∧ usage.post.Holds config work := by
  obtain ⟨other, call, found, first, data, stage, work, shape, working, here, holds⟩ :=
    posted.tidy.tended number unfinished
  have same : other = ticket := Line.admits_unique _ _ _ first turn
  subst same shape
  exact ⟨data, stage, work, found, working, here, holds⟩

theorem at_work {data : Bytes} {phase : Phase (WriteStage S.recorded) WriteOutcome}
    {stage : WriteStage S.recorded} (found : usage.calls[ticket]? = some (.write data phase))
    (next : phase.next? .start = some stage) : usage.AtWork config ticket data phase stage := by
  have placed : (Call.write data phase : Call S.recorded).writer = stage.place :=
    Phase.place_next WriteStage.place .start rfl next
  have means := posted.tidy.means ticket _ found
  refine ⟨found, next, placed, ?_, ?_, ?_, ?_⟩
  · rintro other outcome ⟨⟩
    cases next
  · intro number turn
    exact posted.sound.writers.first number ticket (by simp [writer, found, placed, turn])
  · cases phase <;> cases next
    · trivial
    · exact means.1
  · intro number work turn working
    cases phase <;> cases next
    · cases turn
    · exact means.2 number work turn working

section Write

variable {data : Bytes} {phase : Phase (WriteStage S.recorded) WriteOutcome}
  {step : Step (WriteStage S.recorded) WriteOutcome}

theorem tidy_after_opening {stage : WriteStage S.recorded} {resumed : Bool}
    {asked : Stream S.recorded} (work : usage.AtWork config ticket data phase stage)
    (comes : WriterComes T ticket resumed asked step after) (away : stage.place = none)
    (sent : config.skips data = false)
    (writers : asked.state.writers = usage.stream.state.writers)
    (configured : asked.state.config = config) (outbox : asked.outbox = usage.stream.outbox) :
    (⟨after, usage.calls.set ticket (.write data (.ofStep step))⟩ : Usage S).post.Tidy config := by
  have nowhere := work.placed.trans away
  have shift := comes.shifts
  have finished : asked.finished = usage.stream.finished := by simp [Stream.finished, writers]
  have length := asked.finished_length
  rw [finished] at length
  rw [writers, ← nowhere] at shift
  cases comes with
  | waits =>
    refine posted.tidy_apart work.found nowhere shift finished ?_ work.unanswered
      fun _ => ⟨sent, nofun⟩
    simp [Outbox.hear_poll, outbox]
  | fails =>
    refine posted.tidy_apart work.found nowhere shift finished ?_ work.unanswered fun _ => trivial
    simp [Outbox.hear_poll, Outbox.hear, outbox]
  | late closed =>
    refine posted.tidy_opened work.found nowhere sent (by rw [length]; rfl) shift ?_
      (by simp [finished]) ?_ work.unanswered
    · simp [lineOf_enter, length, Line.admits]
    · simp [Outbox.hear_poll, Outbox.hear, outbox, configured]
  | opens standing =>
    refine posted.tidy_opened work.found nowhere sent (by rw [length]; rfl) shift ?_
      (by simp [finished]) ?_ work.unanswered
    · simp [lineOf_enter, length, Line.admits]
    · simp [Outbox.hear_poll, Outbox.hear, outbox, configured]

theorem tidy_after_start (work : usage.AtWork config ticket data phase .start)
    (move : WriteMove T data ticket .start usage.stream step after) :
    (⟨after, usage.calls.set ticket (.write data (.ofStep step))⟩ : Usage S).post.Tidy config := by
  have shift := move.shifts posted.sound.enumerated
  rw [← work.placed] at shift
  cases move with
  | refused closed =>
    exact posted.tidy_apart work.found work.placed shift rfl rfl work.unanswered fun _ => trivial
  | skips standing skipped =>
    refine posted.tidy_apart work.found work.placed shift rfl rfl work.unanswered ?_
    intro _ sent
    rw [← posted.configured, skipped] at sent
    cases sent
  | joins standing sent current =>
    rw [posted.configured] at sent
    exact posted.tidy_apart work.found work.placed shift (by simp) rfl work.unanswered
      fun _ => ⟨sent, by rintro _ _ ⟨⟩⟩
  | asks standing sent vacant comes =>
    rw [posted.configured] at sent
    exact posted.tidy_after_opening work comes rfl sent rfl posted.configured rfl

/-- A write whose turn has come finds its message finished and looks again, or goes on to fill
it. -/
theorem tidy_after_turn {number : Nat}
    (work : usage.AtWork config ticket data phase (.queued number))
    (move : WriteMove T data ticket (.queued number) usage.stream step after) :
    (⟨after, usage.calls.set ticket (.write data (.ofStep step))⟩ : Usage S).post.Tidy config := by
  have shift := move.shifts posted.sound.enumerated
  rw [← work.placed] at shift
  cases move with
  | queues blocked =>
    obtain rfl : phase = .waiting (.queued number) := by
      have next := work.next
      cases phase <;> cases next
      rfl
    simp only [Phase.ofStep, set_found work.found]
    exact posted.tidy
  | retires turn there finished =>
    have handles := posted.handles_own (.write data (.waiting .start)) _ none work.found work.placed
      turn shift (fun _ _ => by rw [Stream.retireWriter_finished]) (by simp)
      (fun _ _ => by rw [Stream.retireWriter_outbox]) (by simp) (by simp) (by simp)
    refine handles.tidy_unsent posted.tidy ⟨trivial, by rintro _ _ ⟨⟩⟩ ?_ work.unanswered
    intro unfinished
    simp only [Usage.post, Stream.retireWriter_finished, usage.stream.finished_found there,
      finished] at unfinished
    cases unfinished
  | enters turn there unfinished =>
    -- The message has a write that tends it, and that is this one, since its turn has come.
    obtain ⟨bytes, stage, own, known, working, -, holds⟩ := posted.first_tends
      (unfinished ▸ usage.stream.finished_found there) turn
    have same : own = ⟨number, [], false⟩ := by
      have next := work.next
      cases Option.some.inj (work.found.symm.trans known)
      cases next
      cases working
      rfl
    rw [same] at holds
    refine posted.tidy_filled [] work.found work.placed turn holds ?_ turn rfl
      (Outbox.fill_nil _ _).symm work.unanswered
      (Write.fillOrFinish_fair work.fair number 0 (Nat.zero_le _)) ?_
    · rw [Write.fillOrFinish_place]
      exact work.placed ▸ .enters turn
    · simp [Write.fillOrFinish_work]

theorem tidy_after_poll {number written : Nat} {pending : Option S.Writing}
    {later : WriteStage S.recorded} {cursor : Cursor (Outbound (Numbered S.Writer))}
    {content : S.Writer} {inner : S.World} {reply : Option Reply}
    (work : usage.AtWork config ticket data phase (.filling number written pending))
    (there : usage.stream.state.writers[number]? = some cursor)
    (fair : later.Fair config data) (stays : later.place = some (number, true))
    (works : later.work data =
      some ⟨number, data.take written ++ Reply.taken (data.drop written) reply, false⟩) :
    (⟨(usage.stream.putWriter number content cursor.content.finished).heard inner
        (Traffic.ofPoll ticket (.write number (data.drop written)) pending.isSome reply),
      usage.calls.set ticket (.write data (.waiting later))⟩ : Usage S).post.Tidy config := by
  have turn := work.first number rfl
  have lines : lineOf ((usage.stream.putWriter number content cursor.content.finished).heard inner
      (Traffic.ofPoll ticket (.write number (data.drop written)) pending.isSome
        reply)).state.writers = lineOf usage.stream.state.writers := by
    simp [lineOf_content]
  refine posted.tidy_filled _ work.found work.placed turn (work.holds _ _ rfl rfl) ?_ ?_
    (usage.stream.putWriter_unfinished there content) ?_ work.unanswered fair works
  · rw [lines, stays, work.placed]
    exact .stays
  · rw [lines]
    exact turn
  · rw [Stream.heard_outbox, Outbox.hear_write, Stream.putWriter_outbox]

theorem tidy_after_filling (modest : T.Modest) {number written : Nat} {pending : Option S.Writing}
    (work : usage.AtWork config ticket data phase (.filling number written pending))
    (move : WriteMove T data ticket (.filling number written pending) usage.stream step after) :
    (⟨after, usage.calls.set ticket (.write data (.ofStep step))⟩ : Usage S).post.Tidy config := by
  obtain ⟨sent, short⟩ := work.fair
  cases move with
  | pends there =>
    exact posted.tidy_after_poll work there ⟨sent, short⟩ rfl
      (by simp [WriteStage.work, Reply.taken])
  | breaks there =>
    exact posted.tidy_after_poll work there ⟨sent, Nat.le_of_lt short, nofun⟩ rfl
      (by simp [WriteStage.work, Reply.taken])
  | takes there polled gained =>
    refine posted.tidy_after_poll work there
      (Write.fillOrFinish_fair sent number _ (modest.within_buffer polled short))
      (Write.fillOrFinish_place _ _ _) ?_
    rw [Write.fillOrFinish_work, List.take_add]
    rfl
  | stalls there =>
    exact posted.tidy_after_poll work there ⟨sent, Nat.le_of_lt short, nofun⟩ rfl
      (by simp [WriteStage.work, Reply.taken])

theorem tidy_after_finishing {number written : Nat} {failure : Option Failure}
    {pending : Option S.Finishing}
    (work : usage.AtWork config ticket data phase (.finishing number written failure pending))
    (move : WriteMove T data ticket (.finishing number written failure pending) usage.stream step
      after) :
    (⟨after, usage.calls.set ticket (.write data (.ofStep step))⟩ : Usage S).post.Tidy config := by
  have shift := move.shifts posted.sound.enumerated
  rw [← work.placed] at shift
  obtain ⟨sent, -, whole⟩ := work.fair
  have holds := work.holds _ _ rfl rfl
  cases move with
  | finishPends comes =>
    exact posted.tidy_finish_waits work.found work.placed holds comes work.unanswered work.fair rfl
      rfl
  | failed comes =>
    exact posted.tidy_finish_ends work.found work.placed holds comes work.unanswered
      shift (by simp) (by simp) sent rfl (by rintro _ ⟨⟩)
  | finishFails comes =>
    exact posted.tidy_finish_ends work.found work.placed holds comes work.unanswered
      shift (by simp) (by simp) sent rfl (by rintro _ ⟨⟩)
  | delivers comes =>
    refine posted.tidy_finish_ends work.found work.placed holds comes work.unanswered
      shift (by simp) (by simp) sent ?_ ?_
    · simp [WriteOutcome.payload, whole rfl]
    · rintro count ⟨⟩
      exact ⟨whole rfl, rfl⟩

/-- Every stretch of a write leaves the outbound side tidy. -/
theorem tidy_after_write (modest : T.Modest) {stage : WriteStage S.recorded}
    (found : usage.calls[ticket]? = some (.write data phase))
    (next : phase.next? .start = some stage)
    (move : WriteMove T data ticket stage usage.stream step after) :
    (⟨after, usage.calls.set ticket (.write data (.ofStep step))⟩ : Usage S).post.Tidy config := by
  have work := posted.at_work found next
  cases stage with
  | start => exact posted.tidy_after_start work move
  | opening stage =>
    cases move with
    | hears comes =>
      exact posted.tidy_after_opening work comes rfl work.fair rfl posted.configured rfl
  | discarding number pending =>
    have holds := work.holds _ _ rfl rfl
    have shift := move.shifts posted.sound.enumerated
    rw [← work.placed] at shift
    cases move with
    | discardPends comes =>
      exact posted.tidy_finish_waits work.found work.placed holds comes work.unanswered work.fair
        rfl rfl
    | discards comes =>
      exact posted.tidy_finish_ends work.found work.placed holds comes work.unanswered
        shift (by simp) (by simp) work.fair rfl (by rintro _ ⟨⟩)
  | queued number => exact posted.tidy_after_turn work move
  | filling number written pending => exact posted.tidy_after_filling modest work move
  | finishing number written failure pending => exact posted.tidy_after_finishing work move

end Write

theorem tidy_after_read {room : Nat} {phase : Phase (ReadStage S.recorded) ReadOutcome}
    {stage : ReadStage S.recorded} {step : Step (ReadStage S.recorded) ReadOutcome}
    (found : usage.calls[ticket]? = some (.read room phase))
    (move : ReadMove T room ticket stage usage.stream step after) :
    (⟨after, usage.calls.set ticket (.read room (.ofStep step))⟩ : Usage S).post.Tidy config := by
  refine posted.tidy_apart found rfl ?_ ?_ move.outbox_same nofun fun _ => trivial
  · rw [move.writers_same]
    exact .stays
  · simp [Stream.finished, move.writers_same]

theorem finds_finished {number : Nat} {phase : Phase (CloseStage S.recorded) CloseOutcome}
    (found : usage.calls[ticket]? = some (.close phase))
    (turn : (lineOf usage.stream.state.writers number).admits ticket = true) :
    usage.stream.finished[number]? = some true := by
  have member : ticket ∈ lineOf usage.stream.state.writers number := by
    rw [Line.admits, beq_iff_eq] at turn
    exact List.mem_of_head? turn
  have inside := mem_lineOf _ member
  rw [← Stream.finished_length] at inside
  rw [List.getElem?_eq_getElem inside]
  by_contra unfinished
  obtain ⟨data, stage, work, known, -⟩ :=
    posted.first_tends (by simpa [inside] using unfinished) turn
  cases Option.some.inj (found.symm.trans known)

/-- A close never calls finish on the connection: the write before it in line has done so. -/
theorem close_finds_finished {number : Nat} {later : Option S.Finishing}
    {phase : Phase (CloseStage S.recorded) CloseOutcome}
    {progress : Progress S.Finishing (Except Failure Unit)}
    (found : usage.calls[ticket]? = some (.close phase))
    (next : phase.next? .start = some (.finishing number later))
    (comes : FinishComes T ticket number later.isSome usage.stream progress after) :
    after = usage.stream ∧ progress = .ready (.ok ()) ∧
      usage.stream.finished[number]? = some true := by
  have means := posted.tidy.means ticket _ found
  obtain ⟨fresh, finished⟩ : later = none ∧ usage.stream.finished[number]? = some true := by
    cases phase <;> cases next
    exact means
  rcases comes.settled_or_polled with ⟨same, ready, -⟩ | ⟨resumed | unfinished, -⟩
  · exact ⟨same, ready, finished⟩
  · rw [fresh] at resumed
    cases resumed
  · rw [finished] at unfinished
    cases unfinished

theorem tidy_after_close {phase : Phase (CloseStage S.recorded) CloseOutcome}
    {stage : CloseStage S.recorded} {step : Step (CloseStage S.recorded) CloseOutcome}
    (found : usage.calls[ticket]? = some (.close phase)) (next : phase.next? .start = some stage)
    (move : CloseMove T ticket stage usage.stream step after) :
    (⟨after, usage.calls.set ticket (.close (.ofStep step))⟩ : Usage S).post.Tidy config := by
  have placed : (Call.close phase : Call S.recorded).writer = stage.place :=
    Phase.place_next CloseStage.place .start rfl next
  have unanswered (data : Bytes) (outcome : WriteOutcome) :
      (Call.close phase : Call S.recorded) ≠ .write data (.answered outcome) := by rintro ⟨⟩
  have shift := move.shifts posted.sound.enumerated
  have became : (Call.close (.ofStep step) : Call S.recorded).writer =
      step.place CloseStage.place := Phase.place_ofStep _ _
  rw [← placed, ← became] at shift
  cases move with
  | takes current =>
    exact posted.tidy_apart found placed shift (Stream.joinWriter_finished _ _ _) rfl
      unanswered fun _ => trivial
  | takesIdle vacant shuts =>
    refine posted.tidy_apart found placed shift rfl rfl unanswered ?_
    intro _
    cases shuts <;> trivial
  | queues blocked =>
    rename_i number
    have same : phase = .waiting (.queued number) := by
      cases phase <;> cases next
      rfl
    subst same
    simp only [Phase.ofStep, set_found found]
    exact posted.tidy
  | enters turn =>
    rename_i number
    have finished := posted.finds_finished found turn
    have handles := posted.handles_own (.close (.waiting (.finishing number none))) _ none found
      placed turn shift (fun _ _ => rfl) rfl (fun _ _ => rfl) rfl (by simp) (by simp)
    refine handles.tidy_unsent posted.tidy ⟨rfl, finished⟩ ?_ unanswered
    intro unfinished
    simp only [Usage.post, finished] at unfinished
    cases unfinished
  -- The write before it in the line has finished the message, so the finish of a close neither
  -- waits nor fails.
  | finishPends comes => cases (posted.close_finds_finished found next comes).2.1
  | finishFails comes => cases (posted.close_finds_finished found next comes).2.1
  | finishes comes shuts =>
    rename_i number later between
    obtain ⟨rfl, -, finished⟩ := posted.close_finds_finished found next comes
    have turn := posted.sound.writers.first number ticket (by
      simp [writer, found, placed, CloseStage.place])
    have handles := posted.handles_own (.close (.ofStep step)) _ none found placed turn shift
      (fun _ _ => by rw [Stream.leaveWriter_finished]) (by simp)
      (fun _ _ => by rw [Stream.leaveWriter_outbox]) (by simp) (by simp) (by simp)
    refine handles.tidy_unsent posted.tidy ?_ ?_ unanswered
    · cases shuts <;> trivial
    · intro unfinished
      simp only [Usage.post, Stream.leaveWriter_finished, finished] at unfinished
      cases unfinished
  | pends =>
    exact posted.tidy_apart found placed shift rfl (by simp [Outbox.hear_shuts]) unanswered
      fun _ => trivial
  | fails =>
    exact posted.tidy_apart found placed shift rfl (by simp [Outbox.hear_shuts]) unanswered
      fun _ => trivial
  | closes =>
    exact posted.tidy_apart found placed shift rfl (by simp [Outbox.hear_shuts]) unanswered
      fun _ => trivial

theorem after_move (modest : T.Modest) {later : Usage S} (moves : Moves T usage ticket later) :
    later.Posted config := by
  have sound := posted.sound.after_move moves
  cases moves with
  | rests => exact posted
  | reads found next move =>
    exact ⟨sound, move.config_same.trans posted.configured, posted.tidy_after_read found move⟩
  | writes found next move =>
    exact ⟨sound, move.config_same.trans posted.configured,
      posted.tidy_after_write modest found next move⟩
  | closes found next move =>
    exact ⟨sound, move.config_same.trans posted.configured, posted.tidy_after_close found next move⟩

theorem after_begin (demand : Demand) : (usage.step T (.begin demand)).Posted config :=
  ⟨posted.sound.after_begin demand, posted.configured, posted.tidy.after_begin demand⟩

theorem after_change (become : S.World → S.World) : (usage.step T (.change become)).Posted config :=
  ⟨posted.sound.after_change become, posted.configured, posted.tidy⟩

end Posted

theorem start_posted (config : Configuration) (world : S.World) :
    (start config world).Posted config :=
  ⟨start_sound config world, rfl,
    ⟨(fun _ _ found => nomatch found), nofun, List.forall_mem_nil _, rfl, List.nodup_nil,
      List.nodup_nil⟩⟩

end Usage

end MessageStream
