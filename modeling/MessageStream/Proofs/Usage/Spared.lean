import MessageStream.Proofs.Closing
import MessageStream.Proofs.Duplex.Confined

/-!
What a stream that is open leaves alone. Only a close calls the close of the connection, and it
closes the stream in its first stretch. So what the connection changes in no other of its calls
stays as it is for as long as the stream is open, however many reads and writes are begun, polled
and given up.
-/
namespace MessageStream

section Operations

variable {World Part Stage Answer Large : Type} {part : World → Part}
  {operation : Operation World Stage Answer}

/-- An operation that leaves a part of the world alone, polled or given up. -/
structure Operation.Spares (part : World → Part) (operation : Operation World Stage Answer) :
    Prop where
  poll : ∀ ticket stage, MessageStream.Spares part (operation.poll ticket stage)
  cancel : ∀ ticket stage world, part (operation.cancel ticket stage world) = part world

namespace Operation.Spares

variable {large : Large → Part} {replace : Large → World → Large}

theorem within {inside : Large → World} (spares : operation.Spares part)
    (leaves : ∀ whole ⦃world⦄, part world = part (inside whole) →
      large (replace whole world) = large whole) :
    (operation.within inside replace).Spares large :=
  ⟨fun ticket stage whole => leaves whole (spares.poll ticket stage (inside whole)),
    fun ticket stage whole => leaves whole (spares.cancel ticket stage (inside whole))⟩

theorem withinOption {inside : Large → Option World} (spares : operation.Spares part)
    (leaves : ∀ whole ⦃before⦄, inside whole = some before → ∀ ⦃world⦄, part world = part before →
      large (replace whole world) = large whole) :
    (operation.withinOption inside replace).Spares large := by
  constructor
  · intro ticket stage whole
    unfold Operation.withinOption
    dsimp only
    split
    · rfl
    · rename_i world found
      exact leaves whole found (spares.poll ticket stage world)
  · intro ticket stage whole
    unfold Operation.withinOption
    dsimp only
    split
    · rfl
    · rename_i world found
      exact leaves whole found (spares.cancel ticket stage world)

theorem phase_poll (spares : operation.Spares part) (ticket : Ticket)
    (phase : Phase Stage Answer) (world : World) :
    part (Phase.poll operation ticket (world, phase)).1 = part world := by
  cases phase with
  | fresh => exact spares.poll ticket none world
  | waiting stage => exact spares.poll ticket (some stage) world
  | answered answer => rfl
  | dropped stage => rfl

theorem phase_drop (spares : operation.Spares part) (ticket : Ticket)
    (phase : Phase Stage Answer) (world : World) :
    part (Phase.drop operation ticket (world, phase)).1 = part world := by
  cases phase with
  | fresh => rfl
  | waiting stage => exact spares.cancel ticket stage world
  | answered answer => rfl
  | dropped stage => rfl

end Operation.Spares

end Operations

variable {S : Signature} {Part : Type}

/-- A part of the world that no call on a connection touches but its close. -/
structure Transport.Spares (T : Transport S) (part : S.World → Part) : Prop where
  nextReader : T.nextReader.Spares part
  read : ∀ room, (T.read room).Spares fun whole => part whole.2
  nextWriter : ∀ kind, (T.nextWriter kind).Spares part
  write : ∀ data, (T.write data).Spares fun whole => part whole.2
  finish : T.finish.Spares fun whole => part whole.2
  dropWriter : ∀ writer world, part (T.dropWriter writer world) = part world
  drop : ∀ world, part (T.drop world) = part world

namespace Recorded

variable {World Content Stage Answer : Type} {part : World → Part}

theorem noteBegin_inner (stage : Option Stage) (ticket : Ticket) (request : Request)
    (recorded : Recorded World) :
    (noteBegin stage ticket request recorded).inner = recorded.inner := by
  unfold noteBegin
  split <;> rfl

theorem noteEnd_inner (reply : Answer → Reply) (ticket : Ticket) (request : Request)
    (progress : Progress Stage (Except Failure Answer)) (recorded : Recorded World) :
    (noteEnd reply ticket request progress recorded).inner = recorded.inner := by
  unfold noteEnd
  split <;> rfl

theorem callOn_spares {operation : Operation (Content × World) Stage (Except Failure Answer)}
    (spares : operation.Spares fun whole => part whole.2) (request : Nat → Request)
    (reply : Answer → Reply) :
    (callOn request reply operation).Spares fun whole => part whole.2.inner := by
  constructor
  · intro ticket stage whole
    show part (noteEnd _ _ _ _ _).inner = part whole.2.inner
    rw [noteEnd_inner, noteBegin_inner]
    exact spares.poll ticket stage (whole.1.content, whole.2.inner)
  · exact fun ticket stage whole => spares.cancel ticket stage (whole.1.content, whole.2.inner)

theorem opening_spares {operation : Operation World Stage (Except Failure Content)}
    (spares : operation.Spares part) (request : Request) (count : Recorded World → Nat)
    (counted : Recorded World → Recorded World)
    (same : ∀ recorded, (counted recorded).inner = recorded.inner) :
    (opening request count counted operation).Spares fun recorded => part recorded.inner := by
  constructor
  · intro ticket stage recorded
    have kept := spares.poll ticket stage recorded.inner
    unfold opening
    simp only [noteBegin_inner]
    rcases polled : operation.poll ticket stage recorded.inner with
      ⟨inner, later | source | content⟩ <;> rw [polled] at kept
    · exact kept
    · exact kept
    · exact (congrArg part (same _)).trans kept
  · exact fun ticket stage recorded => spares.cancel ticket stage recorded.inner

end Recorded

namespace Operation.Spares

variable {Stage Answer : Type} {part : S.World → Part}

theorem onConnection {operation : Operation S.World Stage Answer}
    (kept : operation.Spares part) :
    (Stream.onConnection operation).Spares fun stream => part stream.world :=
  kept.within fun _ _ same => same

theorem onReader (number : Nat)
    {operation : Operation (S.Reader × S.World) Stage Answer}
    (kept : operation.Spares fun whole => part whole.2) :
    (Stream.onReader number operation).Spares fun stream => part stream.world := by
  refine kept.withinOption fun stream before found world same => ?_
  obtain ⟨cursor, -, rfl⟩ := Option.map_eq_some_iff.mp found
  exact same

theorem onWriter (number : Nat)
    {operation : Operation (Outbound S.Writer × S.World) Stage Answer}
    (kept : operation.Spares fun whole => part whole.2) :
    (Stream.onWriter number operation).Spares fun stream => part stream.world := by
  refine kept.withinOption fun stream before found world same => ?_
  obtain ⟨cursor, -, rfl⟩ := Option.map_eq_some_iff.mp found
  exact same

end Operation.Spares

namespace Transport.Spares

variable {T : Transport S} {part : S.World → Part} (spares : T.Spares part)
include spares

theorem recorded_spares : T.recorded.Spares fun recorded => part recorded.inner where
  nextReader := Recorded.opening_spares spares.nextReader .nextReader (·.readers)
    (fun recorded => { recorded with readers := recorded.readers + 1 }) fun _ => rfl
  read room := Recorded.callOn_spares (spares.read room) (.read · room) .yielded
  nextWriter kind := Recorded.opening_spares (spares.nextWriter kind) (.nextWriter kind)
    (·.writers) (fun recorded => { recorded with writers := recorded.writers + 1 }) fun _ => rfl
  write data := Recorded.callOn_spares (spares.write data) (.write · data) .accepted
  finish := Recorded.callOn_spares spares.finish .finish fun () => .done
  dropWriter _ _ := spares.dropWriter _ _
  drop _ := spares.drop _

theorem giveBack_spares (stream : Stream S) (ticket : Ticket) :
    part (stream.giveBack T ticket).world = part stream.world := by
  unfold Stream.giveBack
  dsimp only
  split
  · rfl
  · exact spares.drop stream.world

theorem settleWriter_spares (number : Nat) (stream : Stream S) :
    part (stream.settleWriter T number).world = part stream.world := by
  unfold Stream.settleWriter
  dsimp only
  split
  · rfl
  · split
    · rfl
    · exact spares.dropWriter _ _

theorem leaveWriter_spares (stream : Stream S) (number : Nat) (ticket : Ticket) :
    part (stream.leaveWriter T number ticket).world = part stream.world :=
  spares.settleWriter_spares number _

theorem retireWriter_spares (stream : Stream S) (number : Nat) (ticket : Ticket) :
    part (stream.retireWriter T number ticket).world = part stream.world :=
  spares.settleWriter_spares number _

theorem openWriter_spares (stream : Stream S) (writer : S.Writer) (ticket : Ticket) :
    part (stream.openWriter T writer ticket).world = part stream.world := by
  unfold Stream.openWriter
  dsimp only
  split
  · rfl
  · exact spares.settleWriter_spares _ _

theorem write_spares (data : Bytes) :
    (Outbound.write T data).Spares fun whole => part whole.2 :=
  (spares.write data).within fun _ _ same => same

theorem finish_spares : (Outbound.finish T).Spares fun whole => part whole.2 := by
  constructor
  · intro ticket stage whole
    unfold Outbound.finish
    dsimp only
    split
    · rfl
    · exact spares.finish.poll ticket stage (whole.1.writer, whole.2)
  · exact fun ticket stage whole => spares.finish.cancel ticket stage (whole.1.writer, whole.2)

theorem read_opened (reader : S.Reader) (ticket : Ticket) :
    MessageStream.Spares (fun stream => part stream.world) (Read.opened T reader ticket) := by
  intro stream
  unfold Read.opened
  split
  · exact spares.giveBack_spares _ ticket
  · exact spares.giveBack_spares _ ticket

theorem read_ask (ticket : Ticket) (stage : Option S.ReaderOpening) :
    MessageStream.Spares (fun stream => part stream.world) (Read.ask T ticket stage) := by
  intro stream
  have kept := spares.nextReader.onConnection.poll ticket stage stream
  unfold Read.ask
  rcases polled : (Stream.onConnection T.nextReader).poll ticket stage stream with
    ⟨after, later | source | reader⟩ <;> rw [polled] at kept
  · exact kept
  · exact (spares.giveBack_spares _ ticket).trans kept
  · exact (spares.read_opened reader ticket after).trans kept

theorem read_advance (room : Nat) (ticket : Ticket) (stage : ReadStage S) :
    MessageStream.Spares (fun stream => part stream.world) (Read.advance T room ticket stage) := by
  intro stream
  cases stage with
  | start =>
    simp only [Read.advance, Read.start]
    split
    · rfl
    · split
      · rfl
      · split
        · rfl
        · exact spares.read_ask ticket none (stream.borrow ticket)
  | opening stage => exact spares.read_ask ticket (some stage) stream
  | queued number =>
    simp only [Read.advance]
    split <;> rfl
  | draining number copied stage =>
    have kept := ((spares.read (room - copied.length)).onReader number).poll ticket stage stream
    have yielded (bytes : Bytes) (after : Stream S) :
        (Read.yielded room number copied bytes ticket after).1.world = after.world := by
      unfold Read.yielded
      dsimp only
      split
      · rfl
      · split <;> rfl
    simp only [Read.advance]
    rcases polled : (Stream.onReader number (T.read (room - copied.length))).poll ticket stage
      stream with ⟨after, later | _ | source | bytes⟩ <;> rw [polled] at kept
    · exact kept
    · exact (congrArg part (yielded [] after)).trans kept
    · exact kept
    · exact (congrArg part (yielded bytes after)).trans kept

theorem streamRead_spares (room : Nat) :
    (Stream.read T room).Spares fun stream => part stream.world := by
  constructor
  · exact fun ticket stage stream => Step.run_spares (spares.read_advance room ticket) _ _ stream
  · intro ticket stage stream
    rcases stage with _ | stage | number | ⟨number, copied, _ | stage⟩
    · rfl
    · exact (spares.giveBack_spares _ ticket).trans
        (spares.nextReader.onConnection.cancel ticket stage stream)
    · rfl
    · rfl
    · exact ((spares.read _).onReader number).cancel ticket stage stream

theorem write_opened (writer : S.Writer) (ticket : Ticket) :
    MessageStream.Spares (fun stream => part stream.world) (Write.opened T writer ticket) := by
  intro stream
  unfold Write.opened
  dsimp only
  split
  · rfl
  · exact (spares.giveBack_spares _ ticket).trans (spares.openWriter_spares stream writer ticket)

theorem write_ask (ticket : Ticket) (stage : Option S.WriterOpening) :
    MessageStream.Spares (fun stream => part stream.world) (Write.ask T ticket stage) := by
  intro stream
  have kept := (spares.nextWriter stream.state.config.messageKind).onConnection.poll ticket stage
    stream
  unfold Write.ask
  rcases polled : (Stream.onConnection (T.nextWriter stream.state.config.messageKind)).poll ticket
    stage stream with ⟨after, later | source | writer⟩ <;> rw [polled] at kept
  · exact kept
  · exact (spares.giveBack_spares _ ticket).trans kept
  · exact (spares.write_opened writer ticket after).trans kept

theorem write_advance (data : Bytes) (ticket : Ticket) (stage : WriteStage S) :
    MessageStream.Spares (fun stream => part stream.world)
      (Write.advance T data ticket stage) := by
  intro stream
  cases stage with
  | start =>
    simp only [Write.advance, Write.start]
    split
    · rfl
    · split
      · rfl
      · split
        · rfl
        · exact spares.write_ask ticket none (stream.borrow ticket)
  | opening stage => exact spares.write_ask ticket (some stage) stream
  | discarding number stage =>
    have kept := (spares.finish_spares.onWriter number).poll ticket stage stream
    simp only [Write.advance]
    rcases polled : (Stream.onWriter number (Outbound.finish T)).poll ticket stage stream with
      ⟨after, later | result⟩ <;> rw [polled] at kept
    · exact kept
    · exact (spares.giveBack_spares _ ticket).trans
        ((spares.leaveWriter_spares after number ticket).trans kept)
  | queued number =>
    simp only [Write.advance]
    split
    · unfold Write.admitted
      split
      · split
        · exact spares.retireWriter_spares stream number ticket
        · rfl
      · rfl
    · rfl
  | filling number written stage =>
    have kept := ((spares.write_spares (data.drop written)).onWriter number).poll ticket stage
      stream
    simp only [Write.advance]
    rcases polled : (Stream.onWriter number (Outbound.write T (data.drop written))).poll ticket
      stage stream with ⟨after, later | _ | source | _ | taken⟩ <;> rw [polled] at kept <;>
      exact kept
  | finishing number written failure stage =>
    have kept := (spares.finish_spares.onWriter number).poll ticket stage stream
    simp only [Write.advance]
    rcases polled : (Stream.onWriter number (Outbound.finish T)).poll ticket stage stream with
      ⟨after, later | result⟩ <;> rw [polled] at kept
    · exact kept
    · have retired := (spares.retireWriter_spares after number ticket).trans kept
      unfold Write.finished
      dsimp only
      split <;> exact retired

theorem streamWrite_spares (data : Bytes) :
    (Stream.write T data).Spares fun stream => part stream.world := by
  constructor
  · exact fun ticket stage stream => Step.run_spares (spares.write_advance data ticket) _ _ stream
  · intro ticket stage stream
    have finish (number : Nat) := spares.finish_spares.onWriter number
    have leave (left : Stream S) (number : Nat) := spares.leaveWriter_spares left number ticket
    rcases stage with _ | stage | ⟨number, _ | stage⟩ | number | ⟨number, written, _ | stage⟩ |
      ⟨number, written, failure, _ | stage⟩
    · rfl
    · exact (spares.giveBack_spares _ ticket).trans
        ((spares.nextWriter _).onConnection.cancel ticket stage stream)
    · exact (spares.giveBack_spares _ ticket).trans (leave _ number)
    · exact (spares.giveBack_spares _ ticket).trans
        ((leave _ number).trans ((finish number).cancel ticket stage stream))
    · exact leave _ number
    · exact leave _ number
    · exact (leave _ number).trans
        (((spares.write_spares _).onWriter number).cancel ticket stage stream)
    · exact leave _ number
    · exact (leave _ number).trans ((finish number).cancel ticket stage stream)

end Transport.Spares

namespace Usage

variable {T : Transport S} {part : S.World → Part}

theorem Settled.acted_spares {usage : Usage S} {ticket : Ticket}
    {act : Stream S.recorded × Call S.recorded → Stream S.recorded × Call S.recorded}
    (later : (usage.onCall act ticket).Settled)
    (acts : ∀ call, (act (usage.stream, call)).2.shuts = true ∨
      part (act (usage.stream, call)).1.world.inner = part usage.stream.world.inner)
    (standing : (usage.onCall act ticket).stream.state.isClosed = false) :
    part (usage.onCall act ticket).stream.world.inner = part usage.stream.world.inner := by
  cases found : usage.calls[ticket]? with
  | none => simp only [onCall, found]
  | some call =>
    simp only [onCall, found] at later standing ⊢
    refine (acts call).resolve_left fun shuts => ?_
    have closed := later.taken.trans (any_becomes found _ shuts)
    exact absurd (standing.symm.trans closed) Bool.false_ne_true

theorem step_spares (spares : T.Spares part) {usage : Usage S} (settled : usage.Settled)
    (action : Action S.World)
    (still : ∀ become, action = .change become → ∀ world, part (become world) = part world)
    (standing : (usage.step T action).stream.state.isClosed = false) :
    part (usage.step T action).stream.world.inner = part usage.stream.world.inner := by
  have later : (usage.step T action).Settled := settled.after_run [action]
  cases action with
  | begin demand => rfl
  | change become => exact still become rfl usage.stream.world.inner
  | poll ticket =>
    refine Settled.acted_spares later (fun call => ?_) standing
    cases call with
    | read room phase =>
      exact .inr ((spares.recorded_spares.streamRead_spares room).phase_poll ticket phase _)
    | write data phase =>
      exact .inr ((spares.recorded_spares.streamWrite_spares data).phase_poll ticket phase _)
    | close phase =>
      have polled (progress : Progress (CloseStage S.recorded) CloseOutcome) :
          (Call.close (.ofProgress progress) : Call S.recorded).shuts = true := by
        cases progress <;> rfl
      cases phase with
      | fresh => exact .inl (polled _)
      | waiting stage => exact .inl (polled _)
      | answered answer => exact .inr rfl
      | dropped stage => exact .inr rfl
  | drop ticket =>
    refine Settled.acted_spares later (fun call => ?_) standing
    cases call with
    | read room phase =>
      exact .inr ((spares.recorded_spares.streamRead_spares room).phase_drop ticket phase _)
    | write data phase =>
      exact .inr ((spares.recorded_spares.streamWrite_spares data).phase_drop ticket phase _)
    | close phase =>
      cases phase with
      | waiting stage => exact .inl rfl
      | fresh => exact .inr rfl
      | answered answer => exact .inr rfl
      | dropped stage => exact .inr rfl

/-- While a stream is open, its connection stays as it was in every part that only a close
touches, if the connection does not change it by itself. -/
theorem open_spares (spares : T.Spares part) (config : Configuration) (world : S.World)
    (actions : List (Action S.World))
    (still : ∀ become, Action.change become ∈ actions → ∀ world, part (become world) = part world)
    (standing : ((start config world).run T actions).stream.state.isClosed = false) :
    part ((start config world).run T actions).stream.world.inner = part world := by
  suffices kept : ∀ usage : Usage S, usage.Settled →
      (usage.run T actions).stream.state.isClosed = false →
      part (usage.run T actions).stream.world.inner = part usage.stream.world.inner from
    kept _ (start_settled config world) standing
  clear standing
  induction actions with
  | nil => exact fun _ _ _ => rfl
  | cons action later ih =>
    intro usage settled standing
    have after : (usage.step T action).Settled := settled.after_run [action]
    have unclosed : (usage.step T action).stream.state.isClosed = false := by
      cases closed : (usage.step T action).stream.state.isClosed with
      | false => rfl
      | true =>
        have shut := sealed_run (T := T) after.sound (after.to_sealed closed) later
        exact (shut.not_standing standing).elim
    refine (ih (fun become member => still become (.tail _ member)) _ after standing).trans ?_
    exact step_spares spares settled action (fun become same => still become (same ▸ .head _))
      unclosed

end Usage

end MessageStream
