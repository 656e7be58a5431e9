import MessageStream.Proofs.Pair.Receiving

/-!
A write and a close over one end of a pair, with no other call under way. One poll runs either of
them to its end. A write adds one message to the inbox opposite and nothing else is different there;
a close takes one sender from it.
-/
namespace MessageStream.Pair

theorem nextWriter_poll (side : Side) (kind : MessageKind) (ticket : Ticket) (stage : Option Empty)
    (world : World) (connected : (world.endpoint side).closed = false) :
    (nextWriter side kind).poll ticket stage world =
      (world.change side.other fun peer => { peer with senders := peer.senders + 1 },
        .ready (.ok { side, kind })) := by
  simp [nextWriter, Operation.instant, connected]

theorem write_polled (data : Bytes) (ticket : Ticket) (stage : Option Empty) (writer : Writer)
    (world : World) (unfinished : writer.finished = false) :
    (write data).poll ticket stage (writer, world) =
      (({ writer with payload := writer.payload ++ data }, world), .ready (.ok data.length)) := by
  simp [write, writeNow, Operation.instant, unfinished]

theorem finish_polled (ticket : Ticket) (stage : Option Empty) (writer : Writer) (world : World)
    (unfinished : writer.finished = false)
    (alive : (world.endpoint writer.side.other).alive = true) :
    finish.poll ticket stage (writer, world) =
      (({ writer with finished := true, payload := [] },
        world.change writer.side.other fun peer => { peer with
          inbox := peer.inbox ++ [⟨writer.kind, writer.payload⟩], senders := peer.senders - 1 }),
        .ready (.ok ())) := by
  simp [finish, finishNow, Operation.instant, unfinished, put, alive, dropSender,
    World.change_change]

theorem close_polled (side : Side) (ticket : Ticket) (stage : Option Empty) (world : World)
    (connected : (world.endpoint side).closed = false) :
    (close side).poll ticket stage world =
      (dropSender side (world.change side fun endpoint => { endpoint with closed := true }),
        .ready (.ok ())) := by
  simp [close, Operation.instant, connected]

/-- A stream over one end with no call under way that could send. -/
structure Rests (side : Side) (stream : End) : Prop where
  enumerated : stream.Enumerated
  vacant : stream.state.outbound = none
  unborrowed : stream.state.lease.borrowers = []
  connected : (stream.world.inner.endpoint side).closed = stream.state.isClosed

/-- A write is at a message of its own that has taken the given bytes so far. -/
structure Composes (side : Side) (ticket : Ticket) (before : World) (number : Nat) (payload : Bytes)
    (stream : End) : Prop where
  enumerated : stream.Enumerated
  standing : stream.state.isClosed = false
  unborrowed : stream.state.lease.borrowers = []
  connected : (before.endpoint side).closed = false
  alive : (before.endpoint side.other).alive = true
  current : stream.state.outbound = some number
  found : ∃ kind, stream.state.writers[number]? =
    some ⟨⟨⟨number, ⟨side, kind, payload, false⟩⟩, false⟩, [ticket]⟩
  world : stream.world.inner =
    before.change side.other fun peer => { peer with senders := peer.senders + 1 }

inductive Sends (side : Side) (data : Bytes) (ticket : Ticket) (before : World) :
    WriteStage signature.recorded → End → Prop where
  | start {stream : End} (rests : Rests side stream)
      (alive : (before.endpoint side.other).alive = true) (same : stream.world.inner = before) :
    Sends side data ticket before .start stream
  | queued {number : Nat} {stream : End}
      (composes : Composes side ticket before number [] stream) :
    Sends side data ticket before (.queued number) stream
  | filling {number : Nat} {stream : End} (more : data ≠ [])
      (composes : Composes side ticket before number [] stream) :
    Sends side data ticket before (.filling number 0 none) stream
  | finishing {number : Nat} {stream : End}
      (composes : Composes side ticket before number data stream) :
    Sends side data ticket before (.finishing number data.length none none) stream

inductive Sent (side : Side) (data : Bytes) (before : World) :
    Progress (WriteStage signature.recorded) WriteOutcome → End → Prop where
  | refused {stream : End} (rests : Rests side stream) (closed : stream.state.isClosed = true)
      (same : stream.world.inner = before) :
    Sent side data before (.ready (.error .closed)) stream
  | delivered {stream : End} {count : Nat} (inbox : List Message) (rests : Rests side stream)
      (standing : stream.state.isClosed = false)
      (world : stream.world.inner = before.change side.other fun peer => { peer with inbox })
      (arrived : inbox.flatMap (·.payload) = before.arriving side.other ++ data) :
    Sent side data before (.ready (.ok count)) stream

def writesLeft : WriteStage signature.recorded → End → Nat
  | .start, _ => 4
  | .queued _, _ => 3
  | .filling _ _ _, _ => 2
  | _, _ => 1

section Writing

variable {side : Side} {data : Bytes} {ticket : Ticket} {before : World} {stream after : End}
  {step : Step (WriteStage signature.recorded) WriteOutcome}

theorem opening_leads
    (comes : WriterComes (transport side) ticket false (stream.borrow ticket) step after)
    (rests : Rests side stream) (standing : stream.state.isClosed = false)
    (alive : (before.endpoint side.other).alive = true) (same : stream.world.inner = before) :
    step.Leads (Sends side data ticket before) (Sent side data before) writesLeft 4 after := by
  have connected : (before.endpoint side).closed = false := by
    rw [← same, rests.connected, standing]
  have enumerated := comes.enumerated (rests.enumerated.after_borrow ticket)
  have asked (kind : MessageKind) (stage : Option Empty) :=
    nextWriter_poll side kind ticket stage before connected
  rw [← same] at asked
  cases comes with
  | waits polled => cases (asked _ _).symm.trans polled
  | fails polled => cases (asked _ _).symm.trans polled
  | late closed polled => cases standing.symm.trans closed
  | opens standing polled =>
    cases (asked _ _).symm.trans polled
    refine ⟨.queued ⟨enumerated, standing, ?_, connected, alive, rfl,
      ⟨stream.state.config.messageKind, ?_⟩, ?_⟩, by simp [writesLeft]⟩
    · simp [Lease.giveBack_borrow, rests.unborrowed]
    · simp
    · rw [Stream.giveBack_standing]
      · simp [Stream.openWriter, rests.vacant, same]
      · exact standing

theorem filling_leads {number : Nat} (more : data ≠ [])
    (composes : Composes side ticket before number [] stream)
    (move : WriteMove (transport side) data ticket (.filling number 0 none) stream step after) :
    step.Leads (Sends side data ticket before) (Sent side data before) writesLeft 2 after := by
  obtain ⟨kind, there⟩ := composes.found
  have enumerated := move.enumerated composes.enumerated
  have taken (world : World) :=
    write_polled data ticket none ⟨side, kind, [], false⟩ world rfl
  cases move with
  | pends found polled =>
    cases there.symm.trans found
    cases (taken _).symm.trans polled
  | breaks found polled =>
    cases there.symm.trans found
    cases (taken _).symm.trans polled
  | stalls found polled =>
    cases there.symm.trans found
    have noneTaken := (taken _).symm.trans polled
    simp [more] at noneTaken
  | takes found polled gained =>
    cases there.symm.trans found
    cases (taken _).symm.trans polled
    have finishes : (Write.fillOrFinish data number (0 + data.length) :
        WriteStage signature.recorded) = .finishing number data.length none none := by
      simp [Write.fillOrFinish]
    rw [finishes]
    refine ⟨.finishing ⟨enumerated, composes.standing, composes.unborrowed, composes.connected,
      composes.alive, composes.current, ⟨kind, ?_⟩, composes.world⟩, by simp [writesLeft]⟩
    simp [there]

theorem finishing_leads {number : Nat} (composes : Composes side ticket before number data stream)
    (move : WriteMove (transport side) data ticket (.finishing number data.length none none) stream
      step after) :
    step.Leads (Sends side data ticket before) (Sent side data before) writesLeft 1 after := by
  obtain ⟨kind, there⟩ := composes.found
  have enumerated := move.enumerated composes.enumerated
  have alive : (stream.world.inner.endpoint side.other).alive = true := by
    simp [composes.world, composes.alive]
  have finished := finish_polled ticket none ⟨side, kind, data, false⟩ stream.world.inner rfl alive
  cases move with
  | finishPends comes =>
    cases comes with
    | polls found unsettled polled =>
      cases there.symm.trans found
      cases finished.symm.trans polled
  | finishFails comes =>
    cases comes with
    | polls found unsettled polled =>
      cases there.symm.trans found
      cases finished.symm.trans polled
  | delivers comes =>
    cases comes with
    | settled fresh found settled =>
      cases there.symm.trans found
      cases settled
    | polls found unsettled polled =>
      cases there.symm.trans found
      cases finished.symm.trans polled
      -- The writer has been finished, so giving it up takes no sender away.
      have world (inner : World) (entries : List Traffic) :
          (((stream.putWriter number ⟨side, kind, [], true⟩ true).heard inner entries).retireWriter
            (transport side).recorded number ticket).world.inner = inner := by
        simp [Stream.retireWriter, Stream.settleWriter, Stream.putWriter, Stream.heard,
          Stream.modify, there, composes.current, Line.leave, Transport.recorded, transport,
          dropWriter, Recorded.heard]
      have arrived : (stream.world.inner.endpoint side.other).inbox =
          (before.endpoint side.other).inbox := by
        simp [composes.world]
      refine .delivered ((before.endpoint side.other).inbox ++ [⟨kind, data⟩])
        ⟨enumerated, ?_, composes.unborrowed, ?_⟩ composes.standing ?_ ?_
      · simp [composes.current]
      · refine (congrArg (fun inner => (World.endpoint inner side).closed) (world _ _)).trans ?_
        refine Eq.trans ?_ composes.standing.symm
        simp [composes.world, composes.connected]
      · refine (world _ _).trans ?_
        rw [composes.world, World.change_change]
        apply World.change_congr
        simp
      · simp [World.arriving]

theorem write_leads {stage : WriteStage signature.recorded}
    (sends : Sends side data ticket before stage stream)
    (move : WriteMove (transport side) data ticket stage stream step after) :
    step.Leads (Sends side data ticket before) (Sent side data before) writesLeft
      (writesLeft stage stream) after := by
  cases sends with
  | start rests alive same =>
    cases move with
    | refused closed => exact .refused rests closed same
    | skips standing skipped =>
      have empty : data = [] := by
        simp only [Configuration.skips, Bool.and_eq_true, List.isEmpty_iff] at skipped
        exact skipped.1
      refine .delivered (before.endpoint side.other).inbox rests standing ?_ ?_
      · rw [same]
        exact (World.change_same ..).symm
      · simp [empty, World.arriving]
    | joins standing sent current => cases rests.vacant.symm.trans current
    | asks standing sent vacant comes => exact opening_leads comes rests standing alive same
  | queued composes =>
    rename_i number
    obtain ⟨kind, there⟩ := composes.found
    have turn : (lineOf stream.state.writers number).admits ticket = true := by
      rw [lineOf_found _ there]
      simp [Line.admits]
    cases move with
    | queues blocked => cases blocked.symm.trans turn
    | retires turn found finished =>
      cases there.symm.trans found
      cases finished
    | enters turn found unfinished =>
      cases data with
      | nil => exact ⟨.finishing composes, by simp [Write.fillOrFinish, writesLeft]⟩
      | cons first rest =>
        exact ⟨.filling (List.cons_ne_nil first rest) composes,
          by simp [Write.fillOrFinish, writesLeft]⟩
  | filling more composes => exact filling_leads more composes move
  | finishing composes => exact finishing_leads composes move

theorem Sends.enumerated {stage : WriteStage signature.recorded}
    (sends : Sends side data ticket before stage stream) : stream.Enumerated := by
  cases sends with
  | start rests alive same => exact rests.enumerated
  | queued composes => exact composes.enumerated
  | filling more composes => exact composes.enumerated
  | finishing composes => exact composes.enumerated

theorem Composes.number_known {number : Nat} {payload : Bytes}
    (composes : Composes side ticket before number payload stream) :
    number < stream.state.writers.length := by
  obtain ⟨kind, there⟩ := composes.found
  exact (List.getElem?_eq_some_iff.mp there).1

theorem Sends.place_known {stage : WriteStage signature.recorded}
    (sends : Sends side data ticket before stage stream) (number : Nat) (turn : Bool)
    (placed : stage.place = some (number, turn)) : number < stream.state.writers.length := by
  cases sends with
  | start rests alive same => cases placed
  | queued composes =>
    cases placed
    exact composes.number_known
  | filling more composes =>
    cases placed
    exact composes.number_known
  | finishing composes =>
    cases placed
    exact composes.number_known

/-- One poll of the only write of a stream runs it to its end. -/
theorem write_poll (data : Bytes) (ticket : Ticket) (rests : Rests side stream)
    (alive : (stream.world.inner.endpoint side.other).alive = true) :
    Sent side data stream.world.inner
      ((Stream.write (transport side).recorded data).poll ticket none stream).2
      ((Stream.write (transport side).recorded data).poll ticket none stream).1 := by
  apply Step.run_ends writesLeft
  · intro stage stream sends
    exact write_leads sends (Write.advance_moves (transport side) data ticket stage stream
      sends.enumerated sends.place_known)
  · exact .start rests alive rfl
  · show 4 < data.length + 16
    omega

end Writing

inductive Closes (side : Side) (ticket : Ticket) (before : World) :
    CloseStage signature.recorded → End → Prop where
  | start {stream : End} (rests : Rests side stream) (same : stream.world.inner = before) :
    Closes side ticket before .start stream
  | closing {stream : End} (enumerated : stream.Enumerated) (vacant : stream.state.outbound = none)
      (taken : stream.state.lease = ⟨false, [ticket]⟩)
      (connected : (before.endpoint side).closed = false) (same : stream.world.inner = before) :
    Closes side ticket before (.closing none) stream

/-- What the only close of a stream comes to. -/
structure Shut (side : Side) (before : World)
    (progress : Progress (CloseStage signature.recorded) CloseOutcome) (stream : End) : Prop where
  answered : progress = .ready (.ok ())
  rests : Rests side stream
  closed : stream.state.isClosed = true
  other : stream.world.inner.endpoint side.other =
    if (before.endpoint side).closed then before.endpoint side.other
    else { before.endpoint side.other with senders := (before.endpoint side.other).senders - 1 }

def closesLeft : CloseStage signature.recorded → End → Nat
  | .start, _ => 2
  | _, _ => 1

section Closing

variable {side : Side} {ticket : Ticket} {before : World} {stream after : End}
  {step : Step (CloseStage signature.recorded) CloseOutcome}

theorem close_leads {stage : CloseStage signature.recorded}
    (closes : Closes side ticket before stage stream)
    (move : CloseMove (transport side) ticket stage stream step after) :
    step.Leads (Closes side ticket before) (Shut side before) closesLeft (closesLeft stage stream)
      after := by
  cases closes with
  | start rests same =>
    cases move with
    | takes current => cases rests.vacant.symm.trans current
    | takesIdle vacant shuts =>
      have enumerated := rests.enumerated.after_take ticket
      cases owned : stream.state.lease.owned with
      | true =>
        have lease : (Close.take ticket stream).state.lease = ⟨false, [ticket]⟩ := by
          simp [owned, Lease.borrow, Lease.surrender, rests.unborrowed]
        have connected : (before.endpoint side).closed = false := by
          rw [← same, rests.connected]
          simp [Stream.State.isClosed, owned]
        cases shuts with
        | owner taken => exact ⟨.closing enumerated rfl lease connected same, by simp [closesLeft]⟩
        | other absent =>
          rw [lease] at absent
          simp at absent
      | false =>
        have lease : (Close.take ticket stream).state.lease = stream.state.lease := by
          simp [owned]
        have closed : stream.state.isClosed = true := by simp [Stream.State.isClosed, owned]
        cases shuts with
        | owner taken =>
          rw [lease, rests.unborrowed] at taken
          cases taken
        | other absent =>
          refine ⟨rfl, ⟨enumerated, rfl, by rw [lease, rests.unborrowed], ?_⟩, ?_, ?_⟩
          · simp [rests.connected, Stream.State.isClosed, owned]
          · simp [Stream.State.isClosed, owned]
          · rw [← same, rests.connected, closed]
            simp
  | closing enumerated vacant taken connected same =>
    subst same
    have shut (stage : Option Empty) :=
      close_polled side ticket stage stream.world.inner connected
    have enumeratedAfter := move.enumerated enumerated
    cases move with
    | pends polled => cases (shut _).symm.trans polled
    | fails polled => cases (shut _).symm.trans polled
    | closes polled =>
      cases (shut _).symm.trans polled
      have world (inner : World) (entries : List Traffic) :
          (((stream.heard inner entries).record .closed).giveBack (transport side).recorded
            ticket).world.inner = drop side inner := by
        simp [Stream.giveBack, Stream.heard, Stream.record, Recorded.heard, taken, Lease.giveBack,
          Lease.live, Transport.recorded, transport]
      -- The connection goes with its last borrower, which had closed it: no sender is lost twice.
      refine ⟨rfl, ⟨enumeratedAfter, vacant, ?_, ?_⟩, ?_, ?_⟩
      · simp [taken, Lease.giveBack]
      · refine (congrArg (fun inner => (World.endpoint inner side).closed) (world _ _)).trans ?_
        simp [drop, dropSender, Stream.State.isClosed, taken, Lease.giveBack]
      · simp [Stream.State.isClosed, taken, Lease.giveBack]
      · refine (congrArg (fun inner => World.endpoint inner side.other) (world _ _)).trans ?_
        simp [drop, dropSender, connected]

theorem close_poll (ticket : Ticket) (rests : Rests side stream) :
    Shut side stream.world.inner
      ((Stream.close (transport side).recorded).poll ticket none stream).2
      ((Stream.close (transport side).recorded).poll ticket none stream).1 := by
  apply Step.run_ends closesLeft
  · intro stage stream closes
    apply close_leads closes
    cases closes with
    | start rests same =>
      exact Close.advance_moves (transport side) ticket .start stream rests.enumerated nofun
    | closing enumerated vacant taken connected same =>
      exact Close.advance_moves (transport side) ticket (.closing none) stream enumerated nofun
  · exact .start rests rfl
  · show 2 < Close.limit
    decide

end Closing

end MessageStream.Pair
