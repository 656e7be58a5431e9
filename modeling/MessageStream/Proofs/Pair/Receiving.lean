import MessageStream.Proofs.Usage.Shifts
import MessageStream.Transport.Pair

/-!
A read over one end of a pair. One poll runs it to its end unless there is neither a byte nor the
end to find, and then it waits for a message. Either way no byte is lost: what the read returns,
what is left of the current message and what is in the inbox are together what there was before.
-/
namespace MessageStream

namespace Pair

abbrev End := Stream signature.recorded

theorem World.change_change (world : World) (side : Side) (first second : Endpoint → Endpoint) :
    (world.change side first).change side second =
      world.change side fun endpoint => second (first endpoint) := by
  cases side <;> rfl

theorem World.change_congr (world : World) (side : Side) (first second : Endpoint → Endpoint)
    (agree : first (world.endpoint side) = second (world.endpoint side)) :
    world.change side first = world.change side second := by
  cases side <;> simp_all [change, endpoint]

theorem World.change_same (world : World) (side : Side) :
    (world.change side fun endpoint => { endpoint with inbox := (world.endpoint side).inbox }) =
      world := by
  cases side <;> rfl

def World.arriving (side : Side) (world : World) : Bytes :=
  (world.endpoint side).inbox.flatMap (·.payload)

/-- One end has received some of what had arrived, or begun or given up a wait for more. -/
structure World.Receives (side : Side) (before after : World) : Prop where
  other : after.endpoint side.other = before.endpoint side.other
  alive : (after.endpoint side).alive = (before.endpoint side).alive
  closed : (after.endpoint side).closed = (before.endpoint side).closed
  senders : (after.endpoint side).senders = (before.endpoint side).senders

namespace World.Receives

variable {side : Side} {first second third : World}

theorem refl (side : Side) (world : World) : Receives side world world := ⟨rfl, rfl, rfl, rfl⟩

theorem trans (one : Receives side first second) (two : Receives side second third) :
    Receives side first third where
  other := two.other.trans one.other
  alive := two.alive.trans one.alive
  closed := two.closed.trans one.closed
  senders := two.senders.trans one.senders

theorem of_change (side : Side) (world : World) (inbox : List Message) (line : Line) :
    Receives side world (world.change side fun endpoint => { endpoint with inbox, line }) where
  other := by simp
  alive := by simp
  closed := by simp
  senders := by simp

end World.Receives

theorem nextReader_poll (side : Side) (ticket : Ticket) (stage : Option Unit) (world : World)
    (connected : (world.endpoint side).closed = false)
    (alone : (world.endpoint side).line = [] ∨ (world.endpoint side).line = [ticket]) :
    (nextReader side).poll ticket stage world =
      match (world.endpoint side).inbox with
      | message :: rest =>
        (world.change side fun endpoint => { endpoint with inbox := rest, line := [] },
          .ready (.ok message.payload))
      | [] =>
        if (world.endpoint side).senders = 0 then
          (world.change side fun endpoint => { endpoint with inbox := [], line := [] },
            .ready (.error (peerClosed .unexpectedEof)))
        else
          (world.change side fun endpoint => { endpoint with inbox := [], line := [ticket] },
            .waiting ()) := by
  have joined : (world.endpoint side).line.join ticket = [ticket] := by
    rcases alone with empty | only <;> simp [Line.join, *]
  have first : Line.admits [ticket] ticket = true := by simp [Line.admits]
  have gone : Line.leave [ticket] ticket = [] := by simp [Line.leave]
  simp only [nextReader, receive, Operation.map, connected, Bool.and_false, Bool.false_eq_true,
    ↓reduceIte, World.endpoint_change_same, joined, first, take]
  -- The receive joins the line and, unless it has to wait, leaves it in the same poll.
  cases waiting : (world.endpoint side).inbox with
  | cons message rest =>
    simp only [World.change_change]
    congr 1
    apply World.change_congr
    simp [joined, gone]
  | nil =>
    by_cases hung : (world.endpoint side).senders = 0
    · simp only [hung, ↓reduceIte, World.change_change]
      congr 1
      apply World.change_congr
      simp [joined, gone, waiting]
    · simp only [hung, ↓reduceIte]
      congr 1
      apply World.change_congr
      simp [joined, waiting]

theorem nextReader_cancel (side : Side) (ticket : Ticket) (world : World)
    (waiting : (world.endpoint side).line = [ticket]) :
    (nextReader side).cancel ticket () world =
      world.change side fun endpoint =>
        { endpoint with inbox := (world.endpoint side).inbox, line := [] } := by
  show (world.change side fun endpoint => { endpoint with line := endpoint.line.leave ticket }) = _
  apply World.change_congr
  simp [waiting, Line.leave]

theorem read_polled {room : Nat} {ticket : Ticket} {stage : Option Empty} {left content : Bytes}
    {world inner : World} {progress : Progress Empty (Except Failure Bytes)}
    (polled : (read room).poll ticket stage (left, world) = ((content, inner), progress)) :
    ∃ bytes, progress = .ready (.ok bytes) ∧ left = bytes ++ content ∧ inner = world ∧
      (bytes = [] → 0 < room → left = []) := by
  cases polled
  refine ⟨left.take room, rfl, (List.take_append_drop room left).symm, rfl, ?_⟩
  intro noneTaken roomy
  rcases List.take_eq_nil_iff.mp noneTaken with roomless | ended
  · exact absurd roomless (Nat.ne_of_gt roomy)
  · exact ended

structure Connected (side : Side) (stream : End) : Prop where
  enumerated : stream.Enumerated
  standing : stream.state.isClosed = false
  connected : (stream.world.inner.endpoint side).closed = false

inductive Current (stream : End) : Bytes → Prop where
  | vacant (vacant : stream.state.inbound = none) : Current stream []
  | message {number : Nat} {left : Bytes} (current : stream.state.inbound = some number)
      (found : stream.state.readers[number]? = some ⟨⟨number, left⟩, []⟩) : Current stream left

/-- A read is at the current message, alone, and nobody is waiting for another. -/
structure AtWork (side : Side) (ticket : Ticket) (number : Nat) (left : Bytes) (stream : End) :
    Prop where
  current : stream.state.inbound = some number
  found : stream.state.readers[number]? = some ⟨⟨number, left⟩, [ticket]⟩
  free : (stream.world.inner.endpoint side).line = []

/-- Where the only read of a stream may stand, and the bytes it has copied or finds in the current
message. -/
inductive Stands (side : Side) (room : Nat) (ticket : Ticket) (stream : End) :
    ReadStage signature.recorded → Bytes → Prop where
  | start {bytes : Bytes} (current : Current stream bytes)
      (free : (stream.world.inner.endpoint side).line = []) :
    Stands side room ticket stream .start bytes
  | opening (vacant : stream.state.inbound = none)
      (waiting : (stream.world.inner.endpoint side).line = [ticket]) (roomy : 0 < room) :
    Stands side room ticket stream (.opening ()) []
  | queued {number : Nat} {left : Bytes} (works : AtWork side ticket number left stream)
      (roomy : 0 < room) : Stands side room ticket stream (.queued number) left
  | draining {number : Nat} {copied left : Bytes} (works : AtWork side ticket number left stream)
      (short : copied.length < room) :
    Stands side room ticket stream (.draining number copied none) (copied ++ left)

/-- What the only read of a stream comes to in one poll, of all the bytes there are. -/
inductive Result (side : Side) (room : Nat) (ticket : Ticket) (total : Bytes) (after : End) :
    Progress (ReadStage signature.recorded) ReadOutcome → Prop where
  | waits (vacant : after.state.inbound = none)
      (waiting : (after.world.inner.endpoint side).line = [ticket]) (roomy : 0 < room)
      (empty : (after.world.inner.endpoint side).inbox = []) (nothing : total = [])
      (linked : (after.world.inner.endpoint side).senders ≠ 0) :
    Result side room ticket total after (.waiting (.opening ()))
  | fills {data : Bytes} (left : Bytes) (current : Current after left)
      (free : (after.world.inner.endpoint side).line = [])
      (taken : total = data ++ (left ++ after.world.inner.arriving side))
      (gained : 0 < room → data ≠ []) :
    Result side room ticket total after (.ready (.filled data))
  | hangsUp (vacant : after.state.inbound = none)
      (free : (after.world.inner.endpoint side).line = [])
      (empty : (after.world.inner.endpoint side).inbox = []) (nothing : total = [])
      (hung : (after.world.inner.endpoint side).senders = 0) :
    Result side room ticket total after (.ready (.broken [] (peerClosed .unexpectedEof)))

def stretchesLeft (side : Side) (room : Nat) (stage : ReadStage signature.recorded)
    (stream : End) : Nat :=
  4 * (stream.world.inner.endpoint side).inbox.length +
    match stage with
    | .start => if stream.state.inbound.isSome then room + 5 else room + 1
    | .opening _ => room + 1
    | .queued _ => room + 4
    | .draining _ copied _ => room - copied.length + 2

structure Underway (side : Side) (room : Nat) (ticket : Ticket) (before : World) (total : Bytes)
    (stage : ReadStage signature.recorded) (stream : End) : Prop where
  connected : Connected side stream
  receives : World.Receives side before stream.world.inner
  stands : ∃ bytes, Stands side room ticket stream stage bytes ∧
    bytes ++ stream.world.inner.arriving side = total

structure Over (side : Side) (room : Nat) (ticket : Ticket) (before : World) (total : Bytes)
    (progress : Progress (ReadStage signature.recorded) ReadOutcome) (stream : End) : Prop where
  connected : Connected side stream
  receives : World.Receives side before stream.world.inner
  result : Result side room ticket total stream progress

section Stretches

variable {side : Side} {room : Nat} {ticket : Ticket} {before : World} {total : Bytes}
  {stream after : End} {step : Step (ReadStage signature.recorded) ReadOutcome}

theorem Connected.after_giveBack (connected : Connected side stream) (ticket : Ticket) :
    Connected side (stream.giveBack (transport side).recorded ticket) where
  enumerated := connected.enumerated.after_giveBack ticket
  standing := connected.standing
  connected := by
    rw [Stream.giveBack_standing _ _ _ connected.standing]
    exact connected.connected

theorem Connected.after_heard (connected : Connected side stream) {inner : World}
    (receives : World.Receives side stream.world.inner inner) (entries : List Traffic) :
    Connected side (stream.heard inner entries) :=
  ⟨connected.enumerated.after_heard _ _, connected.standing,
    receives.closed.trans connected.connected⟩

theorem Connected.after_opening (connected : Connected side stream) {inner : World}
    (receives : World.Receives side stream.world.inner inner) (entries : List Traffic)
    (payload : Bytes) (ticket : Ticket) :
    Connected side (((stream.heard inner entries).countReader.openReader
      ⟨stream.state.readers.length, payload⟩ ticket).record .inboundOpened) where
  enumerated := ((connected.enumerated.after_heard _ _).after_openReader _ _).after_record _
  standing := connected.standing
  connected := receives.closed.trans connected.connected

/-- Asking finds a message, or the end, or waits. -/
theorem asks_lead {asked : Option Unit}
    (comes : ReaderComes (transport side) ticket asked stream step after)
    (connected : Connected side stream) (receives : World.Receives side before stream.world.inner)
    (vacant : stream.state.inbound = none)
    (alone : (stream.world.inner.endpoint side).line = [] ∨
      (stream.world.inner.endpoint side).line = [ticket])
    (roomy : 0 < room) (all : stream.world.inner.arriving side = total) :
    step.Leads (Underway side room ticket before total) (Over side room ticket before total)
      (stretchesLeft side room)
      (4 * (stream.world.inner.endpoint side).inbox.length + (room + 1)) after := by
  have answer := nextReader_poll side ticket asked stream.world.inner connected.connected alone
  unfold World.arriving at all
  -- The inbox decides what comes; the other answers of a connection are ruled out by it.
  cases waiting : (stream.world.inner.endpoint side).inbox with
  | cons message rest =>
    simp only [waiting] at answer all
    cases comes with
    | waits polled => cases answer.symm.trans polled
    | fails polled => cases answer.symm.trans polled
    | late closed polled =>
      rw [connected.standing] at closed
      cases closed
    | opens standing polled =>
      cases answer.symm.trans polled
      have moved := World.Receives.of_change side stream.world.inner rest []
      have opened := connected.after_opening moved (Traffic.ofPoll ticket .nextReader asked.isSome
        (some (.opened stream.state.readers.length))) message.payload ticket
      refine ⟨⟨opened.after_giveBack ticket, ?_, message.payload, .queued ⟨?_, ?_, ?_⟩ roomy, ?_⟩,
        ?_⟩
      · rw [Stream.giveBack_standing _ _ _ opened.standing]
        exact receives.trans moved
      · rfl
      · simp
      · rw [Stream.giveBack_standing _ _ _ opened.standing]
        simp
      · rw [Stream.giveBack_standing _ _ _ opened.standing]
        simpa [World.arriving] using all
      · -- One message less in the inbox pays for the stretches the new one may take.
        unfold stretchesLeft
        rw [Stream.giveBack_standing _ _ _ opened.standing]
        simp
        omega
  | nil =>
    simp only [waiting] at answer all
    by_cases hung : (stream.world.inner.endpoint side).senders = 0
    · simp only [hung, ↓reduceIte] at answer
      cases comes with
      | waits polled => cases answer.symm.trans polled
      | late closed polled => cases answer.symm.trans polled
      | opens standing polled => cases answer.symm.trans polled
      | fails polled =>
        cases answer.symm.trans polled
        have moved := World.Receives.of_change side stream.world.inner [] []
        have heard := connected.after_heard moved (Traffic.ofPoll ticket .nextReader asked.isSome
          (some (.failed (peerClosed .unexpectedEof))))
        refine ⟨heard.after_giveBack ticket, ?_, .hangsUp vacant ?_ ?_ all.symm ?_⟩ <;>
          rw [Stream.giveBack_standing _ _ _ heard.standing]
        · exact receives.trans moved
        · simp
        · simp
        · simpa using hung
    · simp only [hung, ↓reduceIte] at answer
      cases comes with
      | late closed polled => cases answer.symm.trans polled
      | opens standing polled => cases answer.symm.trans polled
      | fails polled => cases answer.symm.trans polled
      | waits polled =>
        cases answer.symm.trans polled
        have moved := World.Receives.of_change side stream.world.inner [] [ticket]
        refine ⟨connected.after_heard moved _, receives.trans moved,
          .waits vacant ?_ roomy ?_ all.symm ?_⟩
        · simp
        · simp
        · simpa using hung

theorem start_leads (connected : Connected side stream)
    (receives : World.Receives side before stream.world.inner) {bytes : Bytes}
    (current : Current stream bytes) (free : (stream.world.inner.endpoint side).line = [])
    (all : bytes ++ stream.world.inner.arriving side = total)
    (move : ReadMove (transport side) room ticket .start stream step after) :
    step.Leads (Underway side room ticket before total) (Over side room ticket before total)
      (stretchesLeft side room) (stretchesLeft side room .start stream) after := by
  cases move with
  | refused closed =>
    rw [connected.standing] at closed
    cases closed
  | idles standing roomless =>
    refine ⟨connected, receives, .fills bytes current free all.symm ?_⟩
    intro roomy
    exact absurd roomless (Nat.ne_of_gt roomy)
  | joins standing roomy found =>
    rename_i number
    have enumerated := connected.enumerated.after_joinReader number ticket
    cases current with
    | vacant vacant => cases vacant.symm.trans found
    | message current there =>
      cases current.symm.trans found
      refine ⟨⟨⟨enumerated, connected.standing, connected.connected⟩, receives, bytes,
        .queued ⟨found, ?_, free⟩ (Nat.pos_of_ne_zero roomy), all⟩, ?_⟩
      · simp [there, Line.join]
      · simp [stretchesLeft, found]
  | asks standing roomy vacant comes =>
    cases current with
    | message current there => cases vacant.symm.trans current
    | vacant vacant =>
      have lead := asks_lead comes ⟨connected.enumerated.after_borrow ticket, connected.standing,
        connected.connected⟩ receives vacant (.inl free) (Nat.pos_of_ne_zero roomy) all
      simpa [stretchesLeft, vacant] using lead

theorem draining_leads {number : Nat} {copied left : Bytes} (connected : Connected side stream)
    (receives : World.Receives side before stream.world.inner)
    (works : AtWork side ticket number left stream) (short : copied.length < room)
    (all : copied ++ left ++ stream.world.inner.arriving side = total)
    (move : ReadMove (transport side) room ticket (.draining number copied none) stream step
      after) :
    step.Leads (Underway side room ticket before total) (Over side room ticket before total)
      (stretchesLeft side room) (stretchesLeft side room (.draining number copied none) stream)
      after := by
  have enumerated := move.enumerated connected.enumerated
  have there := works.found
  have spare : 0 < room - copied.length := Nat.sub_pos_of_lt short
  cases move with
  | pends found polled =>
    obtain ⟨bytes, ready, -⟩ := read_polled polled
    cases ready
  | fails found polled =>
    obtain ⟨bytes, ready, -⟩ := read_polled polled
    cases ready
  | goesOn found polled gained still =>
    rename_i content inner bytes
    cases there.symm.trans found
    obtain ⟨bytes, ⟨⟩, rfl, rfl, -⟩ := read_polled polled
    refine ⟨⟨⟨enumerated, connected.standing, connected.connected⟩, receives,
      (copied ++ bytes) ++ content, .draining ⟨works.current, ?_, works.free⟩ still, ?_⟩, ?_⟩
    · simp [there]
    · simpa using all
    · -- Every byte copied is one stretch less.
      have more : 0 < bytes.length := List.length_pos_iff.mpr gained
      simp only [stretchesLeft, Stream.heard_inner, List.length_append]
      omega
  | fulfils found polled gained full =>
    rename_i content inner bytes
    cases there.symm.trans found
    obtain ⟨bytes, ⟨⟩, rfl, rfl, -⟩ := read_polled polled
    refine ⟨⟨enumerated, connected.standing, connected.connected⟩, receives,
      .fills content (.message works.current ?_) works.free ?_ ?_⟩
    · simp [there, Line.leave]
    · simpa using all.symm
    · simp [gained]
  | passes found polled =>
    cases there.symm.trans found
    obtain ⟨bytes, ready, whole, rfl, ended⟩ := read_polled polled
    cases ready
    -- No bytes where there is room for some: the message has ended, and the read begins again.
    cases ended rfl short
    refine ⟨⟨⟨enumerated, connected.standing, connected.connected⟩, receives, [],
      .start (.vacant ?_) works.free, ?_⟩, ?_⟩
    · simp [works.current]
    · simpa using all
    · simp [stretchesLeft, works.current]
  | ends found polled gained =>
    cases there.symm.trans found
    obtain ⟨bytes, ready, whole, rfl, ended⟩ := read_polled polled
    cases ready
    cases ended rfl spare
    refine ⟨⟨enumerated, connected.standing, connected.connected⟩, receives,
      .fills [] (.vacant ?_) works.free ?_ fun _ => gained⟩
    · simp [works.current]
    · simpa using all.symm

theorem read_leads {stage : ReadStage signature.recorded}
    (underway : Underway side room ticket before total stage stream)
    (move : ReadMove (transport side) room ticket stage stream step after) :
    step.Leads (Underway side room ticket before total) (Over side room ticket before total)
      (stretchesLeft side room) (stretchesLeft side room stage stream) after := by
  obtain ⟨connected, receives, bytes, stands, all⟩ := underway
  cases stands with
  | start current free => exact start_leads connected receives current free all move
  | opening vacant waiting roomy =>
    cases move with
    | hears comes =>
      exact asks_lead comes connected receives vacant (.inr waiting) roomy all
  | queued works roomy =>
    rename_i number
    have turn : (lineOf stream.state.readers number).admits ticket = true := by
      rw [lineOf_found _ works.found]
      simp [Line.admits]
    cases move with
    | queues blocked => cases blocked.symm.trans turn
    | enters turn =>
      refine ⟨⟨connected, receives, bytes, .draining works roomy, all⟩, ?_⟩
      simp [stretchesLeft]
  | draining works short => exact draining_leads connected receives works short all move

theorem Stands.place_known {stage : ReadStage signature.recorded} {bytes : Bytes}
    (stands : Stands side room ticket stream stage bytes) (number : Nat) (turn : Bool)
    (placed : stage.place = some (number, turn)) : number < stream.state.readers.length := by
  cases stands with
  | start current free => cases placed
  | opening vacant waiting roomy => cases placed
  | queued works roomy =>
    cases placed
    exact (List.getElem?_eq_some_iff.mp works.found).1
  | draining works short =>
    cases placed
    exact (List.getElem?_eq_some_iff.mp works.found).1

/-- One poll of the only read of a stream runs it to its end, or to a wait for a message where no
byte is to be had. -/
theorem read_poll (room : Nat) (ticket : Ticket) (stage : Option (ReadStage signature.recorded))
    (connected : Connected side stream) {bytes : Bytes}
    (stands : Stands side room ticket stream (stage.getD .start) bytes) :
    Over side room ticket stream.world.inner (bytes ++ stream.world.inner.arriving side)
      ((Stream.read (transport side).recorded room).poll ticket stage stream).2
      ((Stream.read (transport side).recorded room).poll ticket stage stream).1 := by
  apply Step.run_ends (stretchesLeft side room)
  · intro stage stream underway
    apply read_leads underway
    obtain ⟨bytes, stands, -⟩ := underway.stands
    exact Read.advance_moves (transport side) room ticket stage stream
      underway.connected.enumerated stands.place_known
  · exact ⟨connected, .refl side _, bytes, stands, rfl⟩
  · have fits : stretchesLeft side room (stage.getD .start) stream ≤
        4 * (stream.world.inner.endpoint side).inbox.length + (room + 5) := by
      unfold stretchesLeft
      split
      · split <;> omega
      all_goals omega
    show _ < 4 * ((stream.world.inner.endpoint side).inbox.length + 4) + room
    omega

/-- Giving up a read that waits for a message leaves the stream as it was before the read. -/
theorem read_cancel (connected : Connected side stream)
    (stands : Stands side room ticket stream (.opening ()) []) :
    let after := (Stream.read (transport side).recorded room).cancel ticket (.opening ()) stream
    Connected side after ∧ World.Receives side stream.world.inner after.world.inner ∧
      after.world.inner.arriving side = stream.world.inner.arriving side ∧
      Stands side room ticket after .start [] := by
  intro after
  cases stands with
  | opening vacant waiting roomy =>
    have cancelled := World.Receives.of_change side stream.world.inner
      (stream.world.inner.endpoint side).inbox []
    have heard := connected.after_heard cancelled [.cancelled ticket .nextReader]
    have shape : after = (stream.heard ((nextReader side).cancel ticket () stream.world.inner)
        [.cancelled ticket .nextReader]).giveBack (transport side).recorded ticket := rfl
    rw [nextReader_cancel side ticket _ waiting] at shape
    rw [shape]
    refine ⟨heard.after_giveBack ticket, ?_, ?_, .start (.vacant vacant) ?_⟩
    · rw [Stream.giveBack_standing _ _ _ heard.standing]
      exact cancelled
    · rw [Stream.giveBack_standing _ _ _ heard.standing]
      simp [World.arriving]
    · rw [Stream.giveBack_standing _ _ _ heard.standing]
      simp

end Stretches

end Pair

end MessageStream
