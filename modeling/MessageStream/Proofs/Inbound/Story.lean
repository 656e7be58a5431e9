import MessageStream.Proofs.Inbound.Deframer
import MessageStream.Proofs.Inbound.Delivery

/-!
What a stream has been told. The record says what each opening found and what each message has
played, and a stretch of a read makes of it what the de-framer makes: whatever the current message
is going to play and the openings to come will find, the stretch has read from the front of it.
-/
namespace MessageStream

variable {S : Signature} {T : Transport S}

/-- What a connection promises of its readers besides: a read yields no more than there is room for,
and one that fails takes nothing. -/
structure Transport.Deals (T : Transport S) (rest : S.Reader → Bytes) : Prop
    extends T.Drains rest where
  fits : ∀ {room : Nat} {ticket : Ticket} {stage : Option S.Reading} {reader after : S.Reader}
    {world inner : S.World} {bytes : Bytes},
    (T.read room).poll ticket stage (reader, world) = ((after, inner), .ready (.ok bytes)) →
      bytes.length ≤ room
  fails : ∀ {room : Nat} {ticket : Ticket} {stage : Option S.Reading} {reader after : S.Reader}
    {world inner : S.World} {source : Failure},
    (T.read room).poll ticket stage (reader, world) = ((after, inner), .ready (.error source)) →
      rest after = rest reader

def Reply.tape : Reply → Tape
  | .yielded data => .ofBytes data
  | .failed source => [.error source]
  | _ => []

namespace Traffic

def found : Traffic → List (Except Failure Nat)
  | .ended _ .nextReader (.opened number) => [.ok number]
  | .ended _ .nextReader (.failed source) => [.error source]
  | _ => []

def played (number : Nat) : Traffic → Tape
  | .ended _ (.read message _) reply => if message = number then reply.tape else []
  | _ => []

def falters : Traffic → Bool
  | .ended _ (.read _ _) (.failed _) => true
  | _ => false

end Traffic

namespace Stream

def openings (stream : Stream S.recorded) : List (Except Failure Nat) :=
  stream.world.traffic.flatMap Traffic.found

def played (stream : Stream S.recorded) (number : Nat) : Tape :=
  stream.world.traffic.flatMap (Traffic.played number)

def content (rest : S.Reader → Bytes) (stream : Stream S.recorded) (number : Nat) : Bytes :=
  Tape.bytes (stream.played number) ++ (stream.held rest number).getD []

/-- What the openings so far have found: a failure, or a message. -/
def contents (rest : S.Reader → Bytes) (stream : Stream S.recorded) :
    List (Except Failure Bytes) :=
  stream.openings.map (Except.map (stream.content rest))

/-- What a message has played and, if it is current, is going to play. -/
def tape (stream : Stream S.recorded) (future : Backlog) (number : Nat) : Tape :=
  stream.played number ++ if stream.state.inbound = some number then future.current else []

/-- All there was to read before anything was read, if the given is what is left of it. -/
def told (stream : Stream S.recorded) (future : Backlog) : Backlog where
  ahead := stream.openings.map (Except.map (stream.tape future)) ++ future.ahead

/-- What the openings so far have found: a failure, or a message as its reader plays it. -/
def offered (rest : S.Reader → Bytes) (stream : Stream S.recorded) : List (Except Failure Tape) :=
  stream.openings.map (Except.map fun number =>
    stream.played number ++ .ofBytes ((stream.held rest number).getD []))

def unread (rest : S.Reader → Bytes) (stream : Stream S.recorded) : Backlog where
  current := stream.state.inbound.elim [] fun number =>
    .ofBytes ((stream.held rest number).getD [])

/-- Where no message is current, none has anything more to play. -/
def Continues (stream : Stream S.recorded) (future : Backlog) : Prop :=
  stream.state.inbound = none → future.current = []

/-- Messages come one after the other: none is current but the last, none but the current one holds
any more bytes, and none has played before it was opened. -/
structure InOrder (rest : S.Reader → Bytes) (stream : Stream S.recorded) : Prop where
  drained : ∀ number bytes, stream.held rest number = some bytes →
    stream.state.inbound ≠ some number → bytes = []
  latest : ∀ number, stream.state.inbound = some number →
    stream.openings.getLast? = some (.ok number)
  known : ∀ number, .ok number ∈ stream.openings → number < stream.state.readers.length
  unplayed : ∀ number, stream.state.readers.length ≤ number → stream.played number = []

/-- What a stretch of a read has been told, and what was left to read before it, by what is left to
read after it. -/
inductive Hears (rest : S.Reader → Bytes) (stream after : Stream S.recorded) :
    (Backlog → Backlog) → Prop where
  | nothing (openings : after.openings = stream.openings) (played : after.played = stream.played)
      (held : after.held rest = stream.held rest)
      (length : after.state.readers.length = stream.state.readers.length)
      (inbound : after.state.inbound = stream.state.inbound) : Hears rest stream after id
  | refusal (source : Failure) (vacant : stream.state.inbound = none)
      (openings : after.openings = stream.openings ++ [.error source])
      (played : after.played = stream.played) (held : after.held rest = stream.held rest)
      (length : after.state.readers.length = stream.state.readers.length)
      (inbound : after.state.inbound = none) :
    Hears rest stream after fun future => { ahead := .error source :: future.ahead }
  | message (vacant : stream.state.inbound = none)
      (openings : after.openings = stream.openings ++ [.ok stream.state.readers.length])
      (played : after.played = stream.played)
      (held : ∀ number, number ≠ stream.state.readers.length →
        after.held rest number = stream.held rest number)
      (length : after.state.readers.length = stream.state.readers.length + 1)
      (inbound : after.state.inbound = some stream.state.readers.length) :
    Hears rest stream after fun future => { ahead := .ok future.current :: future.ahead }
  | plays (number : Nat) (tape : Tape) (left : Bytes)
      (current : stream.state.inbound = some number) (openings : after.openings = stream.openings)
      (played : ∀ other, after.played other =
        stream.played other ++ if number = other then tape else [])
      (before : stream.held rest number = some (Tape.bytes tape ++ left))
      (held : ∀ other, after.held rest other =
        if other = number then some left else stream.held rest other)
      (length : after.state.readers.length = stream.state.readers.length)
      (inbound : after.state.inbound = some number ∨ after.state.inbound = none ∧ left = []) :
    Hears rest stream after fun future => { future with current := tape ++ future.current }

theorem openings_grown {stream after : Stream S.recorded} {ticket : Ticket} {request : Request}
    {resumed : Bool} {reply : Option Reply}
    (grown : after.world.traffic =
      stream.world.traffic ++ Traffic.ofPoll ticket request resumed reply) :
    after.openings = stream.openings ++
      reply.elim [] fun reply => Traffic.found (.ended ticket request reply) := by
  rw [openings, grown, List.flatMap_append, Traffic.ofPoll_flatMap _ fun _ _ => rfl]
  cases reply <;> rfl

theorem played_grown {stream after : Stream S.recorded} {ticket : Ticket} {request : Request}
    {resumed : Bool} {reply : Option Reply}
    (grown : after.world.traffic =
      stream.world.traffic ++ Traffic.ofPoll ticket request resumed reply) (number : Nat) :
    after.played number = stream.played number ++
      reply.elim [] fun reply => Traffic.played number (.ended ticket request reply) := by
  rw [played, grown, List.flatMap_append, Traffic.ofPoll_flatMap _ fun _ _ => rfl]
  cases reply <;> rfl

theorem unread_continues (rest : S.Reader → Bytes) (stream : Stream S.recorded) :
    stream.Continues (stream.unread rest) := by
  intro vacant
  simp [unread, vacant]

theorem InOrder.told_unread {rest : S.Reader → Bytes} {stream : Stream S.recorded}
    (inOrder : stream.InOrder rest) :
    stream.told (stream.unread rest) = { ahead := stream.offered rest } := by
  have same (number : Nat) : stream.tape (stream.unread rest) number =
      stream.played number ++ .ofBytes ((stream.held rest number).getD []) := by
    unfold tape
    congr 1
    by_cases current : stream.state.inbound = some number
    · simp [unread, current]
    · cases there : stream.held rest number with
      | none => simp [current, Tape.ofBytes]
      | some bytes => simp [current, Tape.ofBytes, inOrder.drained number bytes there current]
  have all : stream.tape (stream.unread rest) = fun number =>
      stream.played number ++ .ofBytes ((stream.held rest number).getD []) := funext same
  rw [told, all]
  exact congrArg (Backlog.mk []) (List.append_nil _)

theorem offered_bytes (rest : S.Reader → Bytes) (stream : Stream S.recorded) :
    (stream.offered rest).map (Except.map Tape.bytes) = stream.contents rest := by
  have same (found : Except Failure Nat) :
      ((found.map fun number => stream.played number ++
        Tape.ofBytes ((stream.held rest number).getD [])).map Tape.bytes) =
        found.map (stream.content rest) := by
    cases found with
    | error source => rfl
    | ok number => simp [Except.map, content]
  simp [offered, contents, same]

namespace Hears

theorem of_poll {rest : S.Reader → Bytes} {stream after : Stream S.recorded} {number space : Nat}
    {cursor : Cursor (Numbered S.Reader)} {content : S.Reader} {ticket : Ticket} {resumed : Bool}
    {reply : Option Reply} (tape : Tape) (current : stream.state.inbound = some number)
    (found : stream.state.readers[number]? = some cursor)
    (took : rest cursor.content.content = Tape.bytes tape ++ rest content)
    (grown : after.world.traffic =
      stream.world.traffic ++ Traffic.ofPoll ticket (.read number space) resumed reply)
    (answer : (reply.map Reply.tape).getD [] = tape)
    (held : after.held rest = (stream.putReader number content).held rest)
    (length : after.state.readers.length = stream.state.readers.length)
    (inbound : after.state.inbound = some number ∨
      after.state.inbound = none ∧ rest content = []) :
    stream.Hears rest after fun future => { future with current := tape ++ future.current } := by
  refine .plays number tape (rest content) current ?_ ?_ ?_ ?_ length inbound
  · rw [openings_grown grown]
    cases reply <;> exact List.append_nil _
  · intro other
    rw [played_grown grown, ← answer]
    cases reply with
    | none => simp
    | some reply => rfl
  · rw [held_some found, took]
  · intro other
    rw [held]
    exact putReader_held found content other

theorem of_borrow {rest : S.Reader → Bytes} {stream after : Stream S.recorded}
    {earlier : Backlog → Backlog} {ticket : Ticket}
    (hears : (stream.borrow ticket).Hears rest after earlier) :
    stream.Hears rest after earlier := by
  cases hears with
  | nothing openings played held length inbound =>
    exact .nothing openings played held length inbound
  | refusal source vacant openings played held length inbound =>
    exact .refusal source vacant openings played held length inbound
  | message vacant openings played held length inbound =>
    exact .message vacant openings played held length inbound
  | plays number tape left current openings played before held length inbound =>
    exact .plays number tape left current openings played before held length inbound

section

variable {rest : S.Reader → Bytes} {stream after : Stream S.recorded}
  {earlier : Backlog → Backlog} (hears : stream.Hears rest after earlier)
include hears

theorem drained_after (inOrder : stream.InOrder rest) (number : Nat) (bytes : Bytes)
    (there : after.held rest number = some bytes) (away : after.state.inbound ≠ some number) :
    bytes = [] := by
  have drained := inOrder.drained
  cases hears with
  | nothing openings played held length inbound =>
    exact drained number bytes (held ▸ there) (inbound ▸ away)
  | refusal source vacant openings played held length inbound =>
    exact drained number bytes (held ▸ there) (by simp [vacant])
  | message vacant openings played held length inbound =>
    have older : number ≠ stream.state.readers.length := by
      rintro rfl
      exact away inbound
    rw [held number older] at there
    exact drained number bytes there (by simp [vacant])
  | plays current tape left reading openings played before held length inbound =>
    rw [held] at there
    by_cases same : number = current
    · rw [if_pos same] at there
      rcases inbound with still | ⟨-, ended⟩
      · exact absurd (same ▸ still) away
      · exact (Option.some.inj there).symm.trans ended
    · rw [if_neg same] at there
      refine drained number bytes there ?_
      rw [reading]
      rintro ⟨⟩
      exact same rfl

theorem latest_after (inOrder : stream.InOrder rest) (number : Nat)
    (current : after.state.inbound = some number) :
    after.openings.getLast? = some (.ok number) := by
  cases hears with
  | nothing openings played held length inbound =>
    exact openings ▸ inOrder.latest number (inbound ▸ current)
  | refusal source vacant openings played held length inbound => cases inbound.symm.trans current
  | message vacant openings played held length inbound =>
    cases inbound.symm.trans current
    simp [openings]
  | plays reading tape left was openings played before held length inbound =>
    rw [openings]
    rcases inbound with still | ⟨cleared, -⟩
    · cases still.symm.trans current
      exact inOrder.latest number was
    · cases cleared.symm.trans current

theorem known_after (inOrder : stream.InOrder rest) (number : Nat)
    (member : .ok number ∈ after.openings) : number < after.state.readers.length := by
  cases hears with
  | nothing openings played held length inbound =>
    exact length ▸ inOrder.known number (openings ▸ member)
  | refusal source vacant openings played held length inbound =>
    rw [openings, List.mem_append, List.mem_singleton] at member
    exact length ▸ inOrder.known number (member.resolve_right nofun)
  | message vacant openings played held length inbound =>
    rw [openings, List.mem_append, List.mem_singleton] at member
    rw [length]
    rcases member with old | new
    · exact Nat.lt_succ_of_lt (inOrder.known number old)
    · cases new
      exact Nat.lt_succ_self _
  | plays reading tape left current openings played before held length inbound =>
    exact length ▸ inOrder.known number (openings ▸ member)

theorem unplayed_after (inOrder : stream.InOrder rest) (number : Nat)
    (outside : after.state.readers.length ≤ number) : after.played number = [] := by
  cases hears with
  | nothing openings played held length inbound =>
    exact played ▸ inOrder.unplayed number (length ▸ outside)
  | refusal source vacant openings played held length inbound =>
    exact played ▸ inOrder.unplayed number (length ▸ outside)
  | message vacant openings played held length inbound =>
    rw [length] at outside
    exact played ▸ inOrder.unplayed number (Nat.le_of_succ_le outside)
  | plays reading tape left current openings played before held length inbound =>
    rw [length] at outside
    have inside : reading < stream.state.readers.length := inOrder.known reading
      (List.mem_of_getLast? (inOrder.latest reading current))
    rw [played, inOrder.unplayed number outside, if_neg (by omega)]
    rfl

theorem stays_in_order (inOrder : stream.InOrder rest) : after.InOrder rest :=
  ⟨hears.drained_after inOrder, hears.latest_after inOrder, hears.known_after inOrder,
    hears.unplayed_after inOrder⟩

theorem told_unchanged (inOrder : stream.InOrder rest) (future : Backlog)
    (continues : after.Continues future) :
    stream.Continues (earlier future) ∧ stream.told (earlier future) = after.told future := by
  cases hears with
  | nothing openings played held length inbound =>
    refine ⟨fun vacant => continues (inbound.trans vacant), ?_⟩
    have same : stream.tape future = after.tape future := by
      funext number
      simp only [Stream.tape, played, inbound]
    simp only [Stream.told, openings, id_eq, same]
  | refusal source vacant openings played held length inbound =>
    refine ⟨fun _ => rfl, ?_⟩
    simp [Stream.told, Stream.tape, openings, played, inbound, vacant, Except.map]
  | message vacant openings played held length inbound =>
    refine ⟨fun _ => rfl, ?_⟩
    -- The new message has played nothing, and none of the others is current.
    have fresh := inOrder.unplayed _ (Nat.le_refl _)
    have old (found : Except Failure Nat) (member : found ∈ stream.openings) :
        found.map (stream.tape { ahead := .ok future.current :: future.ahead }) =
          found.map (after.tape future) := by
      cases found with
      | error source => rfl
      | ok number =>
        have other := Nat.ne_of_gt (inOrder.known number member)
        simp [Except.map, Stream.tape, played, inbound, vacant, other]
    simp only [Stream.told, openings, List.map_append, List.map_congr_left old, List.append_assoc]
    simp [Except.map, Stream.tape, played, inbound, fresh]
  | plays number tape left current openings played before held length inbound =>
    refine ⟨fun vacant => absurd (vacant.symm.trans current) nofun, ?_⟩
    have same : stream.tape { future with current := tape ++ future.current } =
        after.tape future := by
      funext other
      simp only [Stream.tape, played, current]
      by_cases here : number = other
      · rcases inbound with still | ⟨cleared, -⟩
        · simp [here, still]
        · simp [here, cleared, continues cleared]
      · rcases inbound with still | ⟨cleared, -⟩
        · simp [here, still]
        · simp [here, cleared]
    simp only [Stream.told, openings, same]

theorem contents_grow (inOrder : stream.InOrder rest) :
    stream.contents rest <+: after.contents rest := by
  have kept (same : ∀ number, number < stream.state.readers.length →
      after.content rest number = stream.content rest number)
      (more : List (Except Failure Nat)) (openings : after.openings = stream.openings ++ more) :
      stream.contents rest <+: after.contents rest := by
    refine ⟨more.map (Except.map (after.content rest)), ?_⟩
    rw [Stream.contents, Stream.contents, openings, List.map_append]
    congr 1
    apply List.map_congr_left
    intro found member
    cases found with
    | error source => rfl
    | ok number => exact congrArg Except.ok (same number (inOrder.known number member)).symm
  cases hears with
  | nothing openings played held length inbound =>
    refine kept (fun number _ => ?_) [] (by simpa using openings)
    rw [content, content, played, held]
  | refusal source vacant openings played held length inbound =>
    refine kept (fun number _ => ?_) _ openings
    rw [content, content, played, held]
  | message vacant openings played held length inbound =>
    refine kept (fun number inside => ?_) _ openings
    rw [content, content, played, held number (Nat.ne_of_lt inside)]
  | plays number tape left current openings played before held length inbound =>
    refine kept (fun other _ => ?_) [] (by simpa using openings)
    rw [content, content, played, held]
    by_cases here : other = number
    · subst here
      simp [before]
    · simp [here, Ne.symm here]

end

end Hears

end Stream

def Step.due (room : Nat) :
    Step (ReadStage S) ReadOutcome → Backlog → Option (ReadOutcome × Backlog)
  | .waiting stage, future => future.resume room stage.copied
  | .onward stage, future => future.resume room stage.copied
  | .ready outcome, future => some (outcome, future)

def ReadStage.Finds (slot : Option Nat) : ReadStage S → Prop
  | .start => True
  | .opening _ => slot = none
  | .queued number => slot = some number
  | .draining number _ _ => slot = some number

section Moves

variable {room : Nat} {ticket : Ticket} {stage : ReadStage S.recorded}
  {step : Step (ReadStage S.recorded) ReadOutcome} {stream after : Stream S.recorded}
  {rest : S.Reader → Bytes}

theorem ReaderComes.resume_eq_due {asked : Option S.ReaderOpening}
    (comes : ReaderComes T ticket asked stream step after)
    (standing : stream.state.isClosed = false) (vacant : stream.state.inbound = none)
    (roomy : 0 < room) :
    ∃ earlier, stream.Hears rest after earlier ∧ ∀ future, after.Continues future →
      (earlier future).resume room [] = step.due room future := by
  have unplayed {reply : Option Reply} {later : Stream S.recorded}
      (grown : later.world.traffic = stream.world.traffic ++
        Traffic.ofPoll ticket .nextReader asked.isSome reply) : later.played = stream.played := by
    funext number
    rw [Stream.played_grown grown]
    cases reply <;> exact List.append_nil _
  cases comes with
  | waits polled =>
    rename_i inner later
    have grown : (stream.heard inner
        (Traffic.ofPoll ticket .nextReader asked.isSome none)).world.traffic = _ := rfl
    refine ⟨id, .nothing ?_ (unplayed grown) rfl rfl rfl, fun future _ => rfl⟩
    simpa using Stream.openings_grown grown
  | fails polled =>
    rename_i inner source
    have grown : ((stream.heard inner (Traffic.ofPoll ticket .nextReader asked.isSome
        (some (.failed source)))).giveBack T.recorded ticket).world.traffic = _ :=
      Stream.giveBack_traffic T _ ticket
    refine ⟨_, .refusal source vacant (Stream.openings_grown grown) (unplayed grown) rfl rfl
      vacant, fun future continues => ?_⟩
    rw [Backlog.resume_fresh, Backlog.read_refused roomy]
    have same : future = { ahead := future.ahead } := by
      rw [← continues vacant]
    exact congrArg (fun left => some (ReadOutcome.broken [] source, left)) same.symm
  | late closed =>
    rw [standing] at closed
    cases closed
  | opens standing polled =>
    rename_i inner reader
    have grown : ((((stream.heard inner (Traffic.ofPoll ticket .nextReader asked.isSome
        (some (.opened stream.state.readers.length)))).countReader.openReader
          ⟨stream.state.readers.length, reader⟩ ticket).record .inboundOpened).giveBack T.recorded
            ticket).world.traffic = _ := Stream.giveBack_traffic T _ ticket
    refine ⟨_, .message vacant (Stream.openings_grown grown) (unplayed grown) ?_ ?_ rfl,
      fun future _ => Backlog.read_onward roomy _ _⟩
    · intro number other
      simp [Stream.held, push_elsewhere _ _ other]
    · simp

/-- A stretch of a read takes from what is left to read what the de-framer takes. -/
theorem ReadMove.resume_eq_due (move : ReadMove T room ticket stage stream step after)
    (deals : T.Deals rest) (standing : stream.state.isClosed = false)
    (roomy : stage.Roomy room) (finds : stage.Finds stream.state.inbound) :
    ∃ earlier, stream.Hears rest after earlier ∧ ∀ future, after.Continues future →
      (earlier future).resume room stage.copied = step.due room future := by
  cases move with
  | refused closed =>
    rw [standing] at closed
    cases closed
  | idles standing roomless =>
    subst roomless
    exact ⟨id, .nothing rfl rfl rfl rfl rfl, fun future _ => rfl⟩
  | joins standing needed current =>
    refine ⟨id, .nothing rfl rfl ?_ (by simp) rfl, fun future _ => rfl⟩
    funext other
    exact Stream.joinReader_held rest stream _ other ticket
  | asks standing needed vacant comes =>
    obtain ⟨earlier, hears, due⟩ := comes.resume_eq_due standing vacant (Nat.pos_of_ne_zero needed)
    exact ⟨earlier, hears.of_borrow, due⟩
  | hears comes => exact comes.resume_eq_due standing finds roomy
  | queues blocked => exact ⟨id, .nothing rfl rfl rfl rfl rfl, fun future _ => rfl⟩
  | enters turn => exact ⟨id, .nothing rfl rfl rfl rfl rfl, fun future _ => rfl⟩
  | pends found polled =>
    exact ⟨_, .of_poll [] finds found (deals.waits polled).symm rfl rfl rfl (by simp) (.inl finds),
      fun future _ => rfl⟩
  | fails found polled =>
    rename_i source
    refine ⟨_, .of_poll [.error source] finds found (deals.fails polled).symm rfl rfl ?_ (by simp)
      (.inl finds), fun future _ => Backlog.resume_fails _ _ roomy source⟩
    funext other
    exact Stream.leaveReader_held rest _ _ other ticket
  | goesOn found polled gained short =>
    rename_i bytes
    have took := deals.yields polled
    have fits := deals.fits polled
    refine ⟨_, .of_poll (.ofBytes bytes) finds found (by simpa using took) rfl rfl rfl (by simp)
      (.inl finds), fun future _ => Backlog.resume_play _ _ gained ?_⟩
    exact Nat.add_le_of_le_sub' (Nat.le_of_lt roomy) fits
  | fulfils found polled gained full =>
    rename_i number copied space cursor content inner bytes
    have took := deals.yields polled
    have fits := deals.fits polled
    refine ⟨_, .of_poll (.ofBytes bytes) finds found (by simpa using took) rfl rfl ?_ (by simp)
      (.inl finds), fun future _ => ?_⟩
    · funext other
      exact Stream.leaveReader_held rest _ _ other ticket
    · have within := Nat.add_le_of_le_sub' (Nat.le_of_lt roomy) fits
      exact (Backlog.resume_play _ _ gained within).trans
        (Backlog.resume_full _ _ (by simp [gained]) (Nat.le_of_not_lt full))
  | passes found polled =>
    have ended := deals.rest_eq_nil roomy polled
    have current : stream.state.inbound = some _ := finds
    refine ⟨_, .of_poll [] current found (deals.yields polled) rfl rfl ?_ (by simp)
      (.inr ⟨by simp [current], ended⟩), fun future _ => rfl⟩
    funext other
    exact Stream.leaveReader_held rest _ _ other ticket
  | ends found polled gained =>
    have ended := deals.rest_eq_nil (Nat.sub_pos_of_lt roomy) polled
    have current : stream.state.inbound = some _ := finds
    refine ⟨_, .of_poll [] current found (deals.yields polled) rfl rfl ?_ (by simp)
      (.inr ⟨by simp [current], ended⟩), fun future continues => ?_⟩
    · funext other
      exact Stream.leaveReader_held rest _ _ other ticket
    · have spent : future.current = [] := continues (by simp [current])
      have same : future = { ahead := future.ahead } := by
        rw [← spent]
      rw [same]
      exact Backlog.resume_ends _ gained

theorem ReaderComes.finds {asked : Option S.ReaderOpening}
    (comes : ReaderComes T ticket asked stream step after) (vacant : stream.state.inbound = none)
    (next : ReadStage S.recorded) (goes : (Phase.ofStep step).next? .start = some next) :
    next.Finds after.state.inbound := by
  cases comes with
  | waits =>
    cases goes
    exact vacant
  | opens standing =>
    cases goes
    rfl
  | _ => cases goes

theorem ReadMove.finds (move : ReadMove T room ticket stage stream step after)
    (finds : stage.Finds stream.state.inbound) (next : ReadStage S.recorded)
    (goes : (Phase.ofStep step).next? .start = some next) : next.Finds after.state.inbound := by
  cases move with
  | joins standing needed current =>
    cases goes
    exact current
  | asks standing needed vacant comes => exact comes.finds vacant next goes
  | hears comes => exact comes.finds finds next goes
  | passes found polled =>
    cases goes
    trivial
  | _ =>
    cases goes
    try exact finds

end Moves

end MessageStream
