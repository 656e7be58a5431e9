import MessageStream.Proofs.Usage.Frame

/-!
The bytes that outbound messages have accepted, read off the record of their connection with the
call each share came from. Only a write that fills a message adds a share, and it is its own; so
what has been accepted from a write is the part of its bytes that it takes for written. All of this
holds of any stream, whatever else is done to it.
-/
namespace MessageStream

variable {S : Signature}

/-- Bytes that a message has accepted from one call. -/
structure Share where
  caller : Ticket
  number : Nat
  bytes : Bytes
  deriving DecidableEq, Repr

def Request.fills : Request → Bool
  | .write _ _ => true
  | _ => false

def Traffic.shares : Traffic → List Share
  | .ended caller (.write number data) (.accepted count) => [⟨caller, number, data.take count⟩]
  | _ => []

namespace Stream

def shares (stream : Stream S.recorded) : List Share :=
  stream.world.traffic.flatMap Traffic.shares

/-- All the bytes that messages have accepted from one call. -/
def acceptedFrom (stream : Stream S.recorded) (ticket : Ticket) : Bytes :=
  (stream.shares.filter (·.caller = ticket)).flatMap Share.bytes

variable {stream after : Stream S.recorded}

theorem shares_same (same : after.world.traffic = stream.world.traffic) :
    after.shares = stream.shares :=
  congrArg (List.flatMap Traffic.shares) same

theorem shares_poll {ticket : Ticket} {request : Request} {resumed : Bool} {reply : Option Reply}
    (grown : after.world.traffic =
      stream.world.traffic ++ Traffic.ofPoll ticket request resumed reply) :
    after.shares = stream.shares ++
      reply.elim [] fun reply => Traffic.shares (.ended ticket request reply) := by
  rw [shares, grown, List.flatMap_append, Traffic.ofPoll_flatMap _ fun _ _ => rfl]
  cases reply <;> rfl

theorem shares_aside {ticket : Ticket} {request : Request} {resumed : Bool} {reply : Option Reply}
    (grown : after.world.traffic =
      stream.world.traffic ++ Traffic.ofPoll ticket request resumed reply)
    (other : request.fills = false) : after.shares = stream.shares := by
  rw [shares_poll grown]
  cases reply with
  | none => exact List.append_nil _
  | some reply =>
    cases request with
    | write number data => cases other
    | _ => exact List.append_nil _

theorem acceptedFrom_same (same : after.shares = stream.shares) :
    after.acceptedFrom = stream.acceptedFrom := by
  funext ticket
  rw [acceptedFrom, acceptedFrom, same]

theorem acceptedFrom_push {share : Share} (grown : after.shares = stream.shares ++ [share])
    (ticket : Ticket) : after.acceptedFrom ticket =
      stream.acceptedFrom ticket ++ if share.caller = ticket then share.bytes else [] := by
  rw [acceptedFrom, grown, List.filter_append, List.flatMap_append, acceptedFrom]
  by_cases own : share.caller = ticket <;> simp [own]

section Polls

variable (T : Transport S) (ticket : Ticket) (stream : Stream S.recorded)

theorem reader_shares (number room : Nat) (stage : Option S.Reading) :
    ((onReader number (T.recorded.read room)).poll ticket stage stream).1.shares =
      stream.shares := by
  simp only [onReader, Operation.withinOption]
  cases found : stream.state.readers[number]? with
  | none => rfl
  | some cursor =>
    have called := Recorded.callOn_poll (.read · room) .yielded (T.read room) ticket stage
      cursor.content stream.world
    simp only [Option.map_some, Transport.recorded, called]
    exact shares_aside rfl rfl

theorem finish_shares (number : Nat) (stage : Option S.Finishing) :
    ((onWriter number (Outbound.finish T.recorded)).poll ticket stage stream).1.shares =
      stream.shares := by
  simp only [onWriter, Operation.withinOption]
  cases found : stream.state.writers[number]? with
  | none => rfl
  | some cursor =>
    have called := Recorded.callOn_poll .finish (fun () => .done) T.finish ticket stage
      cursor.content.writer stream.world
    simp only [Option.map_some, Outbound.finish]
    split
    · rfl
    · simp only [Transport.recorded, called]
      exact shares_aside rfl rfl

theorem close_shares (stage : Option S.Closing) :
    ((onConnection T.recorded.close).poll ticket stage stream).1.shares = stream.shares := by
  have called := Recorded.call_poll .close (fun () => .done) T.close ticket stage stream.world
  simp only [onConnection, Operation.within, Transport.recorded, called]
  exact shares_aside rfl rfl

theorem opening_shares {Opening Content : Type} (request : Request)
    (count : Recorded S.World → Nat) (counted : Recorded S.World → Recorded S.World)
    (operation : Operation S.World Opening (Except Failure Content))
    (commutes : ∀ recorded entry, counted (recorded.note entry) = (counted recorded).note entry)
    (keeps : ∀ recorded inner entries, count (Recorded.heard recorded inner entries) =
      count recorded)
    (quiet : ∀ recorded, (counted recorded).traffic = recorded.traffic)
    (other : request.fills = false) (stage : Option Opening) :
    ((onConnection (Recorded.opening request count counted operation)).poll ticket stage
      stream).1.shares = stream.shares := by
  have called := Recorded.opening_poll request count counted operation commutes keeps ticket stage
    stream.world
  simp only [onConnection, Operation.within, called]
  rcases operation.poll ticket stage stream.world.inner with ⟨inner, later | source | content⟩
  · exact shares_aside rfl other
  · exact shares_aside rfl other
  · exact shares_aside (quiet _) other

theorem nextReader_shares (stage : Option S.ReaderOpening) :
    ((onConnection T.recorded.nextReader).poll ticket stage stream).1.shares = stream.shares :=
  opening_shares ticket stream .nextReader (·.readers)
    (fun recorded => { recorded with readers := recorded.readers + 1 }) T.nextReader
    (fun _ _ => rfl) (fun _ _ _ => rfl) (fun _ => rfl) rfl stage

theorem nextWriter_shares (kind : MessageKind) (stage : Option S.WriterOpening) :
    ((onConnection (T.recorded.nextWriter kind)).poll ticket stage stream).1.shares =
      stream.shares :=
  opening_shares ticket stream (.nextWriter kind) (·.writers)
    (fun recorded => { recorded with writers := recorded.writers + 1 }) (T.nextWriter kind)
    (fun _ _ => rfl) (fun _ _ _ => rfl) (fun _ => rfl) rfl stage

/-- A write of a message adds what that accepts, and nothing before it does. -/
theorem writer_shares (number : Nat) (data : Bytes) (stage : Option S.Writing) :
    let polled := (onWriter number (Outbound.write T.recorded data)).poll ticket stage stream
    (polled.1.shares = stream.shares ∧ ∀ count, polled.2 ≠ .ready (some (.ok count))) ∨
      ∃ other count whole, polled.2 = .ready (some (.ok count)) ∧
        polled.1.shares = stream.shares ++ [⟨ticket, other, data.take count⟩] ∧
        ((T.write data).poll ticket stage whole).2 = .ready (.ok count) := by
  simp only [onWriter, Operation.withinOption]
  cases found : stream.state.writers[number]? with
  | none => exact .inl ⟨rfl, by rintro count ⟨⟩⟩
  | some cursor =>
    have called := Recorded.callOn_poll (.write · data) .accepted (T.write data) ticket stage
      cursor.content.writer stream.world
    simp only [Option.map_some, Outbound.write, Operation.within, Transport.recorded, called]
    rcases result : (T.write data).poll ticket stage
      (cursor.content.writer.content, stream.world.inner) with
      ⟨⟨content, inner⟩, later | source | count⟩
    · exact .inl ⟨(shares_poll rfl).trans (List.append_nil _), by rintro count ⟨⟩⟩
    · exact .inl ⟨(shares_poll rfl).trans (List.append_nil _), by rintro count ⟨⟩⟩
    · exact .inr ⟨_, count, _, rfl, (shares_poll rfl).trans rfl, by rw [result]⟩

end Polls

end Stream

namespace Read

variable (T : Transport S) (room : Nat) (ticket : Ticket) (stream : Stream S.recorded)

theorem ask_shares (stage : Option S.ReaderOpening) :
    (ask T.recorded ticket stage stream).1.shares = stream.shares := by
  have polled := Stream.nextReader_shares T ticket stream stage
  unfold ask
  generalize (Stream.onConnection T.recorded.nextReader).poll ticket stage stream = result
    at polled ⊢
  obtain ⟨after, later | source | reader⟩ := result
  · exact polled
  · exact (Stream.shares_same (Stream.giveBack_traffic T after ticket)).trans polled
  · simp only [opened]
    split
    · exact (Stream.shares_same (Stream.giveBack_traffic T _ ticket)).trans polled
    · exact (Stream.shares_same (Stream.giveBack_traffic T _ ticket)).trans polled

theorem yielded_shares (number : Nat) (copied bytes : Bytes) :
    (yielded room number copied bytes ticket stream).1.shares = stream.shares := by
  unfold yielded exhausted
  split
  · rfl
  · dsimp only
    split <;> rfl

theorem advance_shares (stage : ReadStage S.recorded) :
    (advance T.recorded room ticket stage stream).1.shares = stream.shares := by
  cases stage with
  | start =>
    simp only [advance, start]
    split
    · rfl
    · split
      · rfl
      · split
        · rfl
        · exact ask_shares T ticket (stream.borrow ticket) none
  | opening stage => exact ask_shares T ticket stream (some stage)
  | queued number =>
    simp only [advance]
    split <;> rfl
  | draining number copied stage =>
    have polled := Stream.reader_shares T ticket stream number (room - copied.length) stage
    simp only [advance]
    generalize (Stream.onReader number (T.recorded.read (room - copied.length))).poll ticket stage
      stream = result at polled ⊢
    obtain ⟨after, later | _ | source | bytes⟩ := result
    · exact polled
    · exact (yielded_shares room ticket after number copied []).trans polled
    · exact polled
    · exact (yielded_shares room ticket after number copied bytes).trans polled

end Read

namespace Close

variable (T : Transport S) (ticket : Ticket) (stream : Stream S.recorded)

theorem letGo_shares : (letGo T.recorded ticket stream).shares = stream.shares := by
  unfold letGo
  split
  · exact Stream.shares_same (Stream.giveBack_traffic T stream ticket)
  · rfl

theorem shutDown_shares : (shutDown ticket stream).1.shares = stream.shares := by
  unfold shutDown
  split <;> rfl

theorem advance_shares (stage : CloseStage S.recorded) :
    (advance T.recorded ticket stage stream).1.shares = stream.shares := by
  cases stage with
  | start =>
    simp only [advance, start]
    split
    · rfl
    · exact shutDown_shares ticket (take ticket stream)
  | queued number =>
    simp only [advance]
    split <;> rfl
  | finishing number stage =>
    have polled := Stream.finish_shares T ticket stream number stage
    simp only [advance]
    generalize (Stream.onWriter number (Outbound.finish T.recorded)).poll ticket stage stream =
      result at polled ⊢
    obtain ⟨after, later | _ | source | nothing⟩ := result
    · exact polled
    · exact (shutDown_shares ticket _).trans
        ((Stream.shares_same (Stream.leaveWriter_traffic T after number ticket)).trans polled)
    · exact (letGo_shares T ticket _).trans
        ((Stream.shares_same (Stream.leaveWriter_traffic T after number ticket)).trans polled)
    · exact (shutDown_shares ticket _).trans
        ((Stream.shares_same (Stream.leaveWriter_traffic T after number ticket)).trans polled)
  | closing stage =>
    have polled := Stream.close_shares T ticket stream stage
    simp only [advance]
    generalize (Stream.onConnection T.recorded.close).poll ticket stage stream = result
      at polled ⊢
    obtain ⟨after, later | source | nothing⟩ := result
    · exact polled
    · exact (Stream.shares_same (Stream.giveBack_traffic T after ticket)).trans polled
    · exact (Stream.shares_same (Stream.giveBack_traffic T _ ticket)).trans polled

end Close

end MessageStream
