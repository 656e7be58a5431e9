import MessageStream.Proofs.Bridge.FaithfulWrites
import MessageStream.Proofs.Outbound.InTurn

/-!
Shutting a bridge down. A bridge begins a write when the last has ended, and closes its stream when
no write is in flight. So, where nobody else uses the stream, its writes come in turn: every message
is finished by the write that opened it, in the order of the writes, and all are finished before the
connection is shut down. A write polled for after that is refused before it reaches the connection.
-/
namespace MessageStream

variable {S : Signature}

namespace Bridge

section Phases

variable (settled : List (Ticket × Nat))
  (bridge : Bridge (ReadStage S.recorded) (WriteStage S.recorded) (CloseStage S.recorded))
  (stream : Stream S.recorded) (record : List Deed)

/-- What the write in flight keeps; without one, every message is finished. -/
def Deals : Prop :=
  match bridge.writing with
  | none => stream.Dealing settled none false
  | some call => (call.stage.getD .start).Keeps settled call.ticket stream

/-- The read in flight stands at a message there is, and every message that is settled was opened by
a write that has ended. -/
structure Abreast : Prop where
  known : ∀ call, bridge.reading = some call → (call.stage.getD .start).Known stream
  passed : (settled.map Prod.fst).Sublist (Tally.of record).ended

/-- The bridge has not begun to close its stream. -/
structure Serving : Prop where
  abreast : bridge.Abreast settled stream record
  deals : bridge.Deals settled stream
  unclosed : bridge.closing = none
  unbegun : ∀ ticket, .begun ticket .close ∉ record

/-- The bridge has begun to close its stream, and every message is finished. -/
structure Over : Prop where
  abreast : bridge.Abreast settled stream record
  idle : bridge.writing = none
  shut : stream.Shut settled
  shutting : ∀ call, bridge.closing = some call →
    ∃ stage, call.stage = some stage ∧ stage.Shutting
  begun : ∃ ticket, .begun ticket .close ∈ record

/-- The writes of the bridge come in turn, and then its stream is closed. -/
def Turns : Prop :=
  ∃ settled, bridge.Serving settled stream record ∨ bridge.Over settled stream record

end Phases

variable {T : Transport S} {settled more : List (Ticket × Nat)}
  {bridge after : Bridge (ReadStage S.recorded) (WriteStage S.recorded) (CloseStage S.recorded)}
  {stream later : Stream S.recorded} {record grown deeds : List Deed} {bound : Ticket}

theorem Deed.begun_ofPoll {ticket caller : Ticket} {demand other : Demand} {resumed : Bool}
    {outcome : Option Outcome}
    (member : .begun caller other ∈ ofPoll ticket demand resumed outcome) : other = demand := by
  rcases List.mem_append.mp member with begun | ended
  · cases resumed with
    | true => cases begun
    | false =>
      cases List.mem_singleton.mp begun
      rfl
  · obtain ⟨_, -, same⟩ := Option.map_eq_some_iff.mp (Option.mem_toList.mp ended)
    cases same

theorem Tally.ended_grown (record deeds : List Deed) :
    (Tally.of record).ended.Sublist (Tally.of (record ++ deeds)).ended :=
  (List.sublist_append_left record deeds).filterMap Deed.ends

theorem Abreast.reading_known (abreast : bridge.Abreast settled stream record)
    (reading : after.reading = bridge.reading)
    (readers : later.state.readers = stream.state.readers) :
    ∀ call, after.reading = some call → (call.stage.getD .start).Known later := by
  rw [reading]
  intro call under number turn placed
  rw [readers]
  exact abreast.known call under number turn placed

theorem Abreast.of_same_reading (abreast : bridge.Abreast settled stream record)
    (reading : after.reading = bridge.reading)
    (readers : later.state.readers = stream.state.readers) :
    after.Abreast settled later (record ++ deeds) :=
  ⟨abreast.reading_known reading readers, abreast.passed.trans (Tally.ended_grown record deeds)⟩

theorem Serving.of_same_calls (serving : bridge.Serving settled stream record)
    (reading : after.reading = bridge.reading) (writing : after.writing = bridge.writing)
    (closing : after.closing = bridge.closing)
    (unbegun : ∀ ticket, .begun ticket .close ∉ deeds) :
    after.Serving settled stream (record ++ deeds) := by
  refine ⟨serving.abreast.of_same_reading reading rfl, ?_, closing.trans serving.unclosed, ?_⟩
  · rw [Deals, writing]
    exact serving.deals
  · intro ticket member
    exact (List.mem_append.mp member).elim (serving.unbegun ticket) (unbegun ticket)

theorem Over.of_same_calls (past : bridge.Over settled stream record)
    (reading : after.reading = bridge.reading) (writing : after.writing = bridge.writing)
    (closing : after.closing = bridge.closing) :
    after.Over settled stream (record ++ deeds) := by
  refine ⟨past.abreast.of_same_reading reading rfl, writing.trans past.idle, past.shut, ?_, ?_⟩
  · rw [closing]
    exact past.shutting
  · obtain ⟨ticket, member⟩ := past.begun
    exact ⟨ticket, List.mem_append_left _ member⟩

theorem Turns.of_same_calls (turns : bridge.Turns stream record)
    (reading : after.reading = bridge.reading)
    (writing : after.writing = bridge.writing) (closing : after.closing = bridge.closing)
    (unbegun : ∀ ticket, .begun ticket .close ∉ deeds) :
    after.Turns stream (record ++ deeds) := by
  obtain ⟨settled, serving | past⟩ := turns
  · exact ⟨settled, .inl (serving.of_same_calls reading writing closing unbegun)⟩
  · exact ⟨settled, .inr (past.of_same_calls reading writing closing)⟩

theorem Deals.write_keeps (deals : bridge.Deals settled stream) {ticket : Ticket} {data : Bytes}
    {call : InFlight Bytes (WriteStage S.recorded)}
    (asks : call = bridge.writing.getD { ticket, request := data }) :
    (call.stage.getD .start).Keeps settled call.ticket stream := by
  subst asks
  unfold Deals at deals
  cases under : bridge.writing with
  | none =>
    rw [under] at deals
    exact deals
  | some call =>
    rw [under] at deals
    exact deals

theorem Serving.begins_no_close (serving : bridge.Serving settled stream record) (demand : Demand)
    (other : demand ≠ .close) (caller : Ticket) (resumed : Bool) (outcome : Option Outcome)
    (ticket : Ticket) :
    .begun ticket .close ∉ record ++ Deed.ofPoll caller demand resumed outcome :=
  fun member => (List.mem_append.mp member).elim (serving.unbegun ticket)
    fun new => other (Deed.begun_ofPoll new).symm

section Writing

variable {call : InFlight Bytes (WriteStage S.recorded)}
  (serving : bridge.Serving settled stream record)
  (keeps : (call.stage.getD .start).Keeps settled call.ticket stream)
  (reading : after.reading = bridge.reading) (closing : after.closing = bridge.closing)
include serving keeps reading closing

theorem Serving.while_waiting {stage : WriteStage S.recorded}
    (polled : ((Stream.calls T.recorded).recorded.write call.request).poll call.ticket call.stage
      (stream, record) = ((later, grown), .waiting stage))
    (writing : after.writing = some { call with stage := some stage }) :
    after.Serving settled later grown := by
  have does : (Stream.write T.recorded call.request).poll call.ticket call.stage stream = _ :=
    StreamCalls.noted_does polled
  have kept := Write.poll_keeps T call.request call.stage keeps
  rw [does] at kept
  rw [StreamCalls.noted_adds polled]
  refine ⟨serving.abreast.of_same_reading reading kept.2, ?_, closing.trans serving.unclosed,
    serving.begins_no_close (.write call.request) nofun _ _ _⟩
  rw [Deals, writing]
  exact kept.1

theorem Serving.after_end {outcome : WriteOutcome}
    (polled : ((Stream.calls T.recorded).recorded.write call.request).poll call.ticket call.stage
      (stream, record) = ((later, grown), .ready outcome))
    (writing : after.writing = none) : ∃ more, after.Serving (settled ++ more) later grown := by
  have does : (Stream.write T.recorded call.request).poll call.ticket call.stage stream = _ :=
    StreamCalls.noted_does polled
  have kept := Write.poll_keeps T call.request call.stage keeps
  rw [does] at kept
  obtain ⟨⟨more, dealing, own⟩, readers⟩ := kept
  rw [StreamCalls.noted_adds polled]
  refine ⟨more, ⟨serving.abreast.reading_known reading readers, ?_⟩, ?_,
    closing.trans serving.unclosed, serving.begins_no_close (.write call.request) nofun _ _ _⟩
  · -- The message it has finished, if it had one, is one of its own.
    have ended : (Tally.of (record ++ Deed.ofPoll call.ticket (.write call.request)
        call.stage.isSome (some (.write outcome)))).ended =
        (Tally.of record).ended ++ [call.ticket] := by
      cases call.stage <;> simp [Tally.of, Deed.ofPoll, List.filterMap_cons, Deed.ends]
    rw [List.map_append]
    exact Eq.mpr (congrArg _ ended) (serving.abreast.passed.append own)
  · rw [Deals, writing]
    exact dealing

end Writing

theorem Settles.serves {free : Bool}
    (settles : Settles (Stream.calls T.recorded).recorded bridge (stream, record) after
      (later, grown) free)
    (serving : bridge.Serving settled stream record) :
    ∃ more, after.Serving (settled ++ more) later grown := by
  have deals := serving.deals
  cases settles with
  | idles idle => exact ⟨[], (List.append_nil settled).symm ▸ serving⟩
  | waits under polled =>
    rw [Deals, under] at deals
    refine ⟨[], ?_⟩
    rw [List.append_nil]
    exact serving.while_waiting deals rfl rfl polled rfl
  | ends under polled =>
    rw [Deals, under] at deals
    exact serving.after_end deals rfl rfl polled rfl

theorem Settles.turns {free : Bool}
    (settles : Settles (Stream.calls T.recorded).recorded bridge (stream, record) after
      (later, grown) free)
    (turns : bridge.Turns stream record) : after.Turns later grown := by
  obtain ⟨settled, serving | past⟩ := turns
  · obtain ⟨more, serving⟩ := settles.serves serving
    exact ⟨_, .inl serving⟩
  · obtain ⟨rfl, same, -⟩ := settles.unchanged_of_idle past.idle
    cases same
    exact ⟨settled, .inr past⟩

theorem MakesWay.serves {data : Bytes}
    (way : MakesWay (Stream.calls T.recorded).recorded data bridge (stream, record) after
      (later, grown))
    (serving : bridge.Serving settled stream record) :
    ∃ more, after.Serving (settled ++ more) later grown := by
  cases way with
  | same own => exact ⟨[], (List.append_nil settled).symm ▸ serving⟩
  | settles other settled => exact settled.serves serving

theorem WritePoll.serves {ticket : Ticket} {data : Bytes} {polled : Polled Nat}
    (polls : WritePoll (Stream.calls T.recorded).recorded ticket data bridge (stream, record) after
      (later, grown) polled)
    (serving : bridge.Serving settled stream record) :
    ∃ more, after.Serving (settled ++ more) later grown := by
  cases polls with
  | blocked other settled => exact settled.serves serving
  | reports way idle kept =>
    obtain ⟨more, serving⟩ := way.serves serving
    rw [← List.append_nil grown]
    exact ⟨more, serving.of_same_calls rfl rfl rfl nofun⟩
  | @waits free middle _ call stage way clean asks polled =>
    obtain ⟨more, serving⟩ := way.serves serving
    exact ⟨more, serving.while_waiting (serving.deals.write_keeps asks) rfl rfl polled rfl⟩
  | @ends free middle _ call outcome way clean asks polled =>
    obtain ⟨more, serving⟩ := way.serves serving
    have last : ∃ own, Serving (settled ++ more ++ own)
        { free with writing := none, inFlight := none, writeFailure := outcome.behind } later
        grown :=
      serving.after_end (serving.deals.write_keeps asks) rfl rfl polled rfl
    obtain ⟨own, last⟩ := last
    exact ⟨more ++ own, List.append_assoc settled more own ▸ last⟩

theorem WritePoll.refused_when_over {ticket : Ticket} {data : Bytes} {polled : Polled Nat}
    (polls : WritePoll (Stream.calls T.recorded).recorded ticket data bridge (stream, record) after
      (later, grown) polled)
    (past : bridge.Over settled stream record) :
    after.Over settled later grown ∧ later = stream ∧
      polled = some (.error (bridge.writeFailure.getD StreamError.closed.toFailure)) := by
  have refused
      {free : Bridge (ReadStage S.recorded) (WriteStage S.recorded) (CloseStage S.recorded)}
      {middle : Stream S.recorded × List Deed} {call : InFlight Bytes (WriteStage S.recorded)}
      {progress : Progress (WriteStage S.recorded) WriteOutcome}
      (way : MakesWay (Stream.calls T.recorded).recorded data bridge (stream, record) free middle)
      (asks : call = free.writing.getD { ticket, request := data })
      (polled : ((Stream.calls T.recorded).recorded.write call.request).poll call.ticket call.stage
        middle = ((later, grown), progress)) :
      free = bridge ∧ later = stream ∧ progress = .ready (.error .closed) := by
    obtain ⟨rfl, rfl⟩ := way.unchanged_of_idle past.idle
    rw [past.idle] at asks
    subst asks
    have does := (StreamCalls.noted_does polled).symm.trans (Write.poll_shut T data past.shut)
    cases does
    exact ⟨rfl, rfl, rfl⟩
  cases polls with
  | blocked other settled => cases (settled.unchanged_of_idle past.idle).2.2
  | reports way idle kept =>
    obtain ⟨rfl, same⟩ := way.unchanged_of_idle past.idle
    cases same
    rw [kept, ← List.append_nil record]
    exact ⟨past.of_same_calls rfl rfl rfl, rfl, rfl⟩
  | waits way clean asks polled => cases (refused way asks polled).2.2
  | @ends free middle _ call outcome way clean asks polled =>
    obtain ⟨rfl, rfl, same⟩ := refused way asks polled
    cases same
    obtain ⟨-, rfl⟩ := way.unchanged_of_idle past.idle
    rw [StreamCalls.noted_adds polled, clean]
    exact ⟨past.of_same_calls rfl past.idle.symm rfl, rfl, rfl⟩

theorem ReadPoll.holds_after_poll {holds : Stream S.recorded → Prop} {ticket : Ticket} {room : Nat}
    {polled : Polled Bytes}
    (polls : ReadPoll (Stream.calls T.recorded).recorded ticket room bridge (stream, record) after
      (later, grown) polled)
    (enumerated : ∀ stream, holds stream → stream.Enumerated)
    (moves : ∀ {room ticket} stage stream step after,
      ReadMove T room ticket stage stream step after → holds stream → holds after)
    (known : ∀ call, bridge.reading = some call → (call.stage.getD .start).Known stream)
    (before : holds stream) :
    holds later ∧ ∀ call, after.reading = some call → (call.stage.getD .start).Known later := by
  have asked {call : InFlight Nat (ReadStage S.recorded)}
      (asks : call = bridge.reading.getD { ticket, request := room }) :
      (call.stage.getD .start).Known stream := by
    subst asks
    cases under : bridge.reading with
    | none => exact nofun
    | some call => exact known call under
  cases polls with
  | surplus taken =>
    rw [(takeLeftover_some taken).2.2]
    exact ⟨before, known⟩
  | reports spent stored => exact ⟨before, known⟩
  | idles spent clean roomless => exact ⟨before, known⟩
  | @waits call _ stage spent clean roomy asks polled =>
    have does : (Stream.read T.recorded call.request).poll call.ticket call.stage stream = _ :=
      StreamCalls.noted_does polled
    have kept := Read.poll_keeps call.request call.ticket enumerated moves call.stage before
      (asked asks)
    rw [does] at kept
    refine ⟨kept.1, ?_⟩
    rintro _ ⟨⟩
    exact kept.2
  | @ends call _ outcome spent clean roomy asks polled =>
    have does : (Stream.read T.recorded call.request).poll call.ticket call.stage stream = _ :=
      StreamCalls.noted_does polled
    have kept := Read.poll_keeps call.request call.ticket enumerated moves call.stage before
      (asked asks)
    rw [does] at kept
    refine ⟨kept, ?_⟩
    rw [readDone_reading]
    exact nofun

theorem Deals.message_in_flight (deals : bridge.Deals settled stream) :
    ∃ message finishing, stream.Dealing settled message finishing ∧
      (message.toList.map Prod.fst).Sublist (bridge.writing.map InFlight.ticket).toList := by
  unfold Deals at deals
  split at deals
  · exact ⟨none, false, deals, List.nil_sublist _⟩
  · rename_i call under
    rw [under]
    exact WriteStage.keeps_dealing deals

theorem Deals.of_dealing (deals : bridge.Deals settled stream)
    (still : ∀ message finishing, stream.Dealing settled message finishing →
      later.Dealing settled message finishing) : bridge.Deals settled later := by
  unfold Deals at deals ⊢
  split at deals
  · exact still _ _ deals
  · exact WriteStage.keeps_still deals still

theorem readDone_closing (bridge : Bridge (ReadStage S.recorded) (WriteStage S.recorded)
    (CloseStage S.recorded)) (outcome : ReadOutcome) (room : Nat) :
    (bridge.readDone outcome room).1.closing = bridge.closing := by
  unfold readDone deliver
  dsimp only
  repeat' split
  all_goals rfl

theorem ReadPoll.closing_same {ticket : Ticket} {room : Nat} {polled : Polled Bytes}
    (polls : ReadPoll (Stream.calls T.recorded).recorded ticket room bridge (stream, record) after
      (later, grown) polled) :
    after.closing = bridge.closing ∧
      ∃ deeds, grown = record ++ deeds ∧ ∀ ticket, .begun ticket .close ∉ deeds := by
  cases polls with
  | surplus taken =>
    rw [(takeLeftover_some taken).2.2]
    exact ⟨rfl, [], (List.append_nil _).symm, nofun⟩
  | reports spent stored => exact ⟨rfl, [], (List.append_nil _).symm, nofun⟩
  | idles spent clean roomless => exact ⟨rfl, [], (List.append_nil _).symm, nofun⟩
  | waits spent clean roomy asks polled =>
    refine ⟨rfl, _, StreamCalls.noted_adds polled, ?_⟩
    intro ticket member
    cases Deed.begun_ofPoll member
  | ends spent clean roomy asks polled =>
    refine ⟨readDone_closing _ _ _, _, StreamCalls.noted_adds polled, ?_⟩
    intro ticket member
    cases Deed.begun_ofPoll member

theorem ReadPoll.turns {ticket : Ticket} {room : Nat} {polled : Polled Bytes}
    (polls : ReadPoll (Stream.calls T.recorded).recorded ticket room bridge (stream, record) after
      (later, grown) polled)
    (turns : bridge.Turns stream record) : after.Turns later grown := by
  obtain ⟨closing, deeds, rfl, unbegun⟩ := polls.closing_same
  have writing := polls.apart.writing
  obtain ⟨settled, serving | past⟩ := turns
  · have enumerated (stream : Stream S.recorded) (deals : bridge.Deals settled stream) :
        stream.Enumerated := by
      obtain ⟨_, _, dealing, -⟩ := deals.message_in_flight
      exact dealing.enumerated
    obtain ⟨deals, known⟩ := polls.holds_after_poll enumerated
      (fun _ _ _ _ move deals => Deals.of_dealing deals fun _ _ => move.dealing_after)
        serving.abreast.known
      serving.deals
    refine ⟨settled, .inl ⟨⟨known, ?_⟩, ?_, closing.trans serving.unclosed, ?_⟩⟩
    · exact serving.abreast.passed.trans (Tally.ended_grown record deeds)
    · rw [Deals, writing]
      exact deals
    · intro ticket member
      exact (List.mem_append.mp member).elim (serving.unbegun ticket) (unbegun ticket)
  · obtain ⟨shut, known⟩ := polls.holds_after_poll (fun _ shut => Stream.Shut.enumerated shut)
      (fun _ _ _ _ move shut => move.shut_after shut) past.abreast.known past.shut
    obtain ⟨ticket, begun⟩ := past.begun
    refine ⟨settled, .inr ⟨⟨known, ?_⟩, writing.trans past.idle, shut, ?_, ticket,
      List.mem_append_left _ begun⟩⟩
    · exact past.abreast.passed.trans (Tally.ended_grown record deeds)
    · rw [closing]
      exact past.shutting

theorem WritePoll.turns {ticket : Ticket} {data : Bytes} {polled : Polled Nat}
    (polls : WritePoll (Stream.calls T.recorded).recorded ticket data bridge (stream, record) after
      (later, grown) polled)
    (turns : bridge.Turns stream record) : after.Turns later grown := by
  obtain ⟨settled, serving | past⟩ := turns
  · obtain ⟨more, serving⟩ := polls.serves serving
    exact ⟨_, .inl serving⟩
  · exact ⟨settled, .inr (polls.refused_when_over past).1⟩

theorem FlushPoll.turns {polled : Polled Unit}
    (polls : FlushPoll (Stream.calls T.recorded).recorded bridge (stream, record) after
      (later, grown) polled)
    (turns : bridge.Turns stream record) : after.Turns later grown := by
  cases polls with
  | blocked settled => exact settled.turns turns
  | reports settled kept =>
    rw [← List.append_nil grown]
    exact (settled.turns turns).of_same_calls rfl rfl rfl nofun
  | flushes settled clean => exact settled.turns turns

theorem Abreast.over_after_close_poll {ticket : Ticket} {stage : Option (CloseStage S.recorded)}
    (abreast : bridge.Abreast settled stream record) (idle : bridge.writing = none)
    (shuts : Close.Shuts settled stream ((Stream.close T.recorded).poll ticket stage stream))
    (begun : stage = none ∨ ∃ ticket, .begun ticket .close ∈ record)
    {progress : Progress (CloseStage S.recorded) CloseOutcome}
    (polled : (Stream.calls T.recorded).recorded.close.poll ticket stage (stream, record) =
      ((later, grown), progress))
    (reading : after.reading = bridge.reading) (writing : after.writing = bridge.writing)
    (closing : ∀ call, after.closing = some call →
      ∃ next, call.stage = some next ∧ progress = .waiting next) :
    after.Over settled later grown := by
  have does : (Stream.close T.recorded).poll ticket stage stream = _ :=
    StreamCalls.noted_does polled
  rw [does] at shuts
  rw [StreamCalls.noted_adds polled]
  have noted : ∃ caller, .begun caller .close ∈ record ++ Deed.ofPoll ticket .close stage.isSome
      (progress.answer?.map Outcome.close) := by
    rcases begun with rfl | ⟨caller, member⟩
    · exact ⟨ticket, List.mem_append_right _ (.head _)⟩
    · exact ⟨caller, List.mem_append_left _ member⟩
  cases progress with
  | waiting stage =>
    obtain ⟨shutting, shut, readers⟩ := shuts
    refine ⟨abreast.of_same_reading reading readers, writing.trans idle, shut, ?_, noted⟩
    intro call under
    obtain ⟨next, stands, same⟩ := closing call under
    cases same
    exact ⟨_, stands, shutting⟩
  | ready outcome =>
    obtain ⟨shut, readers⟩ := shuts
    refine ⟨abreast.of_same_reading reading readers, writing.trans idle, shut, ?_, noted⟩
    intro call under
    obtain ⟨next, -, same⟩ := closing call under
    cases same

theorem Turns.close_shuts (turns : bridge.Turns stream record) (idle : bridge.writing = none)
    (T : Transport S) {ticket : Ticket} {call : InFlight Unit (CloseStage S.recorded)}
    (asks : call = bridge.closing.getD { ticket, request := () }) :
    ∃ settled, bridge.Abreast settled stream record ∧
      Close.Shuts settled stream
        ((Stream.close T.recorded).poll call.ticket call.stage stream) ∧
      (call.stage = none ∨ ∃ ticket, .begun ticket .close ∈ record) := by
  subst asks
  obtain ⟨settled, serving | past⟩ := turns
  · have dealing := serving.deals
    rw [Deals, idle] at dealing
    rw [serving.unclosed]
    exact ⟨settled, serving.abreast, Close.first_shuts T (.inl dealing), .inl rfl⟩
  · refine ⟨settled, past.abreast, ?_⟩
    cases under : bridge.closing with
    | none => exact ⟨Close.first_shuts T (.inr past.shut), .inl rfl⟩
    | some call =>
      obtain ⟨stage, stands, shutting⟩ := past.shutting call under
      rw [Option.getD_some, stands]
      exact ⟨Close.poll_shuts T shutting past.shut, .inr past.begun⟩

theorem pollShutdown_turns (T : Transport S) (ticket : Ticket) (order : bridge.InOrder)
    (turns : bridge.Turns stream record) :
    let polled := bridge.pollShutdown (Stream.calls T.recorded).recorded ticket (stream, record)
    polled.1.1.Turns polled.1.2.1 polled.1.2.2 := by
  have settles := settle_settles (Stream.calls T.recorded).recorded order (stream, record)
  unfold pollShutdown
  generalize bridge.settle (Stream.calls T.recorded).recorded (stream, record) = result
    at settles ⊢
  obtain ⟨⟨free, middle, between⟩, _ | _⟩ := result
  · exact settles.turns turns
  · have idle := settles.idle_of_free
    dsimp only
    generalize asks : free.closing.getD { ticket, request := () } = call
    obtain ⟨settled, abreast, shuts, begun⟩ := (settles.turns turns).close_shuts idle T asks.symm
    unfold pollCall
    rcases polled : (Stream.calls T.recorded).recorded.close.poll call.ticket call.stage
      (middle, between) with ⟨⟨last, grown⟩, stage | outcome⟩
    · refine ⟨settled, .inr (abreast.over_after_close_poll idle shuts begun polled rfl rfl ?_)⟩
      rintro _ ⟨⟩
      exact ⟨stage, rfl, rfl⟩
    · exact ⟨settled, .inr (abreast.over_after_close_poll idle shuts begun polled rfl rfl nofun)⟩

theorem Turns.of_changed_world (turns : bridge.Turns stream record) (inner : S.World) :
    bridge.Turns { stream with world := { stream.world with inner } } record := by
  have enumerated (before : stream.Enumerated) :
      Stream.Enumerated { stream with world := { stream.world with inner } } :=
    ⟨before.readers, before.writers, before.inbound, before.outbound⟩
  obtain ⟨settled, serving | past⟩ := turns
  · exact ⟨settled, .inl ⟨⟨serving.abreast.known, serving.abreast.passed⟩,
      serving.deals.of_dealing fun _ _ before => ⟨enumerated before.enumerated, before.standing,
        before.slot, before.books, before.unshut, before.unmarked⟩,
      serving.unclosed, serving.unbegun⟩⟩
  · obtain ⟨before, closed, vacant, books, shuts⟩ := past.shut
    exact ⟨settled, .inr ⟨⟨past.abreast.known, past.abreast.passed⟩, past.idle,
      ⟨enumerated before, closed, vacant, books, shuts⟩, past.shutting, past.begun⟩⟩

theorem Turns.traffic_in_turn (turns : bridge.Turns stream record)
    (tended : Tended bridge record bound) :
    let traffic := stream.world.traffic
    (∀ before caller after, traffic = before ++ .begun caller .close :: after →
      Traffic.invoked before = Traffic.opened traffic ∧
        Traffic.completed before = Traffic.opened traffic) ∧
    Traffic.completed traffic <+: Traffic.invoked traffic ∧
      Traffic.invoked traffic <+: Traffic.opened traffic ∧
      (bridge.writing = none → Traffic.completed traffic = Traffic.opened traffic) ∧
      ((Traffic.opened traffic).map Prod.fst).Sublist (Tally.of record).begun := by
  intro traffic
  obtain ⟨next, small, writes, -, once, older⟩ := tended.to_balances
  obtain ⟨settled, serving | past⟩ := turns
  · obtain ⟨message, finishing, dealing, own⟩ := serving.deals.message_in_flight
    obtain ⟨completes, invokes⟩ := dealing.books.completed_prefix_invoked
    refine ⟨?_, completes, invokes, ?_, ?_⟩
    · intro before caller after split
      have shuts : .begun caller .close ∈ traffic := by
        rw [split]
        exact List.mem_append_right _ (.head _)
      exact absurd rfl (dealing.unshut _ shuts)
    · intro idle
      rw [idle] at own
      have none : message.toList = [] := List.map_eq_nil_iff.mp (List.sublist_nil.mp own)
      rw [dealing.books.completed, dealing.books.opened, none, List.append_nil]
    · have under : (bridge.writing.map InFlight.ticket).toList =
          ((bridge.duty none next).writing.map Prod.fst).toList := by
        cases h : bridge.writing <;> simp [duty, h]
      rw [dealing.books.opened, List.map_append, writes]
      exact serving.abreast.passed.append (under ▸ own)
  · obtain ⟨completes, invokes⟩ := past.shut.books.completed_prefix_invoked
    have all : Traffic.opened traffic = settled :=
      past.shut.books.opened.trans (List.append_nil _)
    refine ⟨?_, completes, invokes, ?_, ?_⟩
    · intro before caller after split
      have books := past.shut.shuts before caller after split
      rw [all]
      exact ⟨books.invoked.trans (List.append_nil _), books.completed⟩
    · intro _
      rw [all, past.shut.books.completed]
    · rw [all, writes]
      exact past.abreast.passed.trans (List.sublist_append_left _ _)

end Bridge

namespace Bridged

open Bridge (Turns Tended)

/-- A step of a bridge over a stream of its own: between two polls the world of the connection may
change in any way, but nobody else uses the stream. -/
def Action.alone : Action S.World → Action (Stream S.recorded)
  | .poll request => .poll request
  | .change become => .change fun stream =>
      { stream with world := { stream.world with inner := become stream.world.inner } }

theorem turns_step (T : Transport S)
    {bridged : Bridged (Stream S.recorded) (ReadStage S.recorded) (WriteStage S.recorded)
      (CloseStage S.recorded)}
    (tended : Tended bridged.bridge bridged.record bridged.next)
    (turns : bridged.bridge.Turns bridged.world bridged.record) (action : Action S.World) :
    let later := bridged.step (Stream.calls T.recorded) action.alone
    later.bridge.Turns later.world later.record := by
  cases action with
  | change become => exact turns.of_changed_world _
  | poll request =>
    cases request with
    | read room =>
      exact ((bridged.bridge.pollRead_polls (Stream.calls T.recorded).recorded bridged.next room
        (bridged.world, bridged.record)).turns turns).of_same_calls rfl rfl rfl nofun
    | write data =>
      exact ((Bridge.pollWrite_polls (Stream.calls T.recorded).recorded bridged.next data
        tended.order (bridged.world, bridged.record)).turns turns).of_same_calls rfl rfl rfl nofun
    | flush =>
      exact ((Bridge.pollFlush_polls (Stream.calls T.recorded).recorded tended.order
        (bridged.world, bridged.record)).turns turns).of_same_calls rfl rfl rfl nofun
    | shutdown =>
      exact (Bridge.pollShutdown_turns T bridged.next tended.order turns).of_same_calls rfl rfl rfl
        nofun

def alone (config : Configuration) (world : S.World) :
    Bridged (Stream S.recorded) (ReadStage S.recorded) (WriteStage S.recorded)
      (CloseStage S.recorded) where
  world := (Usage.start config world).stream

theorem start_turns (config : Configuration) (world : S.World) :
    let bridged := alone config world
    bridged.bridge.Turns bridged.world bridged.record := by
  refine ⟨[], .inl ⟨⟨nofun, List.nil_sublist _⟩, ?_, rfl, nofun⟩⟩
  exact ⟨(Usage.start_sound config world).enumerated, rfl, rfl, ⟨rfl, rfl, rfl⟩, nofun, nofun⟩

theorem run_turns (T : Transport S) (config : Configuration) (world : S.World)
    (actions : List (Action S.World)) :
    let bridged := (alone config world).run (Stream.calls T.recorded) (actions.map .alone)
    Tended bridged.bridge bridged.record bridged.next ∧
      bridged.bridge.Turns bridged.world bridged.record := by
  suffices kept : ∀ bridged : Bridged (Stream S.recorded) (ReadStage S.recorded)
      (WriteStage S.recorded) (CloseStage S.recorded),
      Tended bridged.bridge bridged.record bridged.next →
      bridged.bridge.Turns bridged.world bridged.record →
      let later := bridged.run (Stream.calls T.recorded) (actions.map .alone)
      Tended later.bridge later.record later.next ∧ later.bridge.Turns later.world later.record from
    kept _ (start_tended 0) (start_turns config world)
  induction actions with
  | nil => exact fun _ tended turns => ⟨tended, turns⟩
  | cons action later ih =>
    exact fun bridged tended turns =>
      ih _ (tended_step tended action.alone) (turns_step T tended turns action)

theorem write_refused_when_over (T : Transport S) {settled : List (Ticket × Nat)}
    {bridged : Bridged (Stream S.recorded) (ReadStage S.recorded) (WriteStage S.recorded)
      (CloseStage S.recorded)}
    (order : bridged.bridge.InOrder)
    (past : bridged.bridge.Over settled bridged.world bridged.record) (data : Bytes) :
    let polled := bridged.poll (Stream.calls T.recorded) (.write data)
    polled.2 = .failed (bridged.bridge.writeFailure.getD ⟨.brokenPipe, .streamClosed⟩) ∧
      polled.1.2.1 = bridged.world := by
  have polls := Bridge.pollWrite_polls (Stream.calls T.recorded).recorded bridged.next data order
    (bridged.world, bridged.record)
  obtain ⟨-, same, refused⟩ := polls.refused_when_over past
  refine ⟨?_, same⟩
  simp only [poll, Prod.map, refused, Bridge.Answer.of]
  rfl

/-- Shutting a bridge down cuts off none of its writes. However a bridge that is the only user of
its stream is polled, and whatever its connection does meanwhile: when shutting the connection down
is begun, the finish of every outbound message that is ever opened has been begun and is over; the
messages are finished in the order in which they were opened, each by the write that opened it, and
so in the order in which the writes were begun, and all of them where no write is in flight; and
once the close of the stream has been begun, a poll for a write answers with the failure held or a
broken pipe, and leaves the stream and its connection alone. -/
theorem shutdown_cuts_off_no_write (T : Transport S) (config : Configuration) (world : S.World)
    (actions : List (Action S.World)) :
    let calls := Stream.calls T.recorded
    let bridged := (alone config world).run calls (actions.map .alone)
    let traffic := bridged.world.world.traffic
    let begun := (Bridge.Tally.of bridged.record).begun
    (∀ before caller after, traffic = before ++ .begun caller .close :: after →
      Traffic.invoked before = Traffic.opened traffic ∧
        Traffic.completed before = Traffic.opened traffic) ∧
    (Traffic.completed traffic <+: Traffic.invoked traffic ∧
      Traffic.invoked traffic <+: Traffic.opened traffic ∧
      (bridged.bridge.writing = none → Traffic.completed traffic = Traffic.opened traffic) ∧
      ((Traffic.opened traffic).map Prod.fst).Sublist begun ∧ begun.Nodup) ∧
    ∀ ticket, .begun ticket .close ∈ bridged.record → ∀ data,
      let polled := bridged.poll calls (.write data)
      polled.2 = .failed (bridged.bridge.writeFailure.getD ⟨.brokenPipe, .streamClosed⟩) ∧
        polled.1.2.1 = bridged.world := by
  intro calls bridged traffic begun
  obtain ⟨tended, turns⟩ := run_turns T config world actions
  obtain ⟨next, -, balances⟩ := tended.to_balances
  obtain ⟨shuts, completes, invokes, all, opens⟩ := turns.traffic_in_turn tended
  refine ⟨shuts, ⟨completes, invokes, all, opens, balances.once⟩, ?_⟩
  intro ticket closing data
  obtain ⟨settled, serving | past⟩ := turns
  · exact absurd closing (serving.unbegun ticket)
  · exact write_refused_when_over T tended.order past data

/-- A write waits at its gate, and a shutdown waits for the write. When the gate has been opened, a
poll for the shutdown has the write take its bytes and finish its message first. -/
example :
    let calls := Stream.calls (Scripted.transport { writeGate := some 0 }).recorded
    let actions : List (Action Scripted.signature.World) :=
      [.poll (.write [1, 2]), .poll .shutdown,
        .change fun world : Scripted.World => { world with gates := world.gates.notify 0 },
        .poll .shutdown]
    let bridged := (alone {} ({ inbound := [] } : Scripted.World)).run calls (actions.map .alone)
    bridged.world.world.traffic =
        [.begun 0 (.nextWriter .text), .ended 0 (.nextWriter .text) (.opened 0),
          .begun 0 (.write 0 [1, 2]), .ended 0 (.write 0 [1, 2]) (.accepted 2),
          .begun 0 (.finish 0), .ended 0 (.finish 0) .done,
          .begun 2 .close, .ended 2 .close .done] ∧
      (bridged.poll calls (.write [3])).2 = .failed ⟨.brokenPipe, .streamClosed⟩ := by
  decide +kernel

end Bridged

end MessageStream
