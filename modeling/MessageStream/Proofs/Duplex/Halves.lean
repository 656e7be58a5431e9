import MessageStream.Counters
import MessageStream.Proofs.Duplex.Confined

/-!
The two halves of a stream. Reads find in the stream its inbound messages, which of them is current
and the events of their own direction; writes find the outbound ones. Both look at whether the
stream has been closed, and neither changes that. So over a connection that divides in the same way,
reads are confined to the one half and writes to the other.
-/
namespace MessageStream

def Event.direction? : Event → Option Direction
  | inboundOpened => some .inbound
  | inboundMoved _ => some .inbound
  | inboundExhausted _ => some .inbound
  | inboundDiscarded => some .inbound
  | outboundOpened _ => some .outbound
  | outboundMoved _ => some .outbound
  | outboundFinalized _ => some .outbound
  | outboundDiscarded _ => some .outbound
  | closed => none

def Journal.along (direction : Direction) (journal : Journal) : Journal :=
  journal.filter fun event => event.direction? == some direction

theorem Journal.along_append (direction : Direction) (before after : Journal) :
    Journal.along direction (before ++ after) =
      Journal.along direction before ++ Journal.along direction after :=
  List.filter_append ..

namespace Counters

variable {direction : Direction} {first second : Counters}

theorem direction_of_change {event : Event} {counter : Counter} {amount : Nat}
    (changed : change? event = some (counter, amount)) :
    event.direction? = some counter.direction := by
  cases event <;> cases changed <;> rfl

theorem observe_along (event : Event)
    (same : ∀ quantity, first ⟨quantity, direction⟩ = second ⟨quantity, direction⟩)
    (quantity : Quantity) :
    first.observe event ⟨quantity, direction⟩ = second.observe event ⟨quantity, direction⟩ := by
  cases changed : change? event with
  | none => simpa only [observe, changed] using same quantity
  | some change =>
    simp only [observe, changed, add]
    split
    · rename_i here
      rw [value, value, ← here, same]
    · exact same quantity

theorem observe_across {event : Event} (across : event.direction? ≠ some direction)
    (quantity : Quantity) :
    first.observe event ⟨quantity, direction⟩ = first ⟨quantity, direction⟩ := by
  cases changed : change? event with
  | none => simp only [observe, changed]
  | some change =>
    simp only [observe, changed, add]
    split
    · rename_i here
      have own := congrArg (fun counter => some counter.direction) here.symm
      exact absurd ((direction_of_change changed).trans own) across
    · rfl

theorem ofJournal_along (direction : Direction) (journal : Journal) (quantity : Quantity) :
    ofJournal journal ⟨quantity, direction⟩ =
      ofJournal (journal.along direction) ⟨quantity, direction⟩ := by
  suffices counted : ∀ first second : Counters,
      (∀ quantity, first ⟨quantity, direction⟩ = second ⟨quantity, direction⟩) →
      journal.foldl observe first ⟨quantity, direction⟩ =
        (journal.along direction).foldl observe second ⟨quantity, direction⟩ from
    counted zero zero fun _ => rfl
  intro first second same
  induction journal generalizing first second with
  | nil => exact same quantity
  | cons event rest ih =>
    unfold Journal.along at ih ⊢
    by_cases here : event.direction? = some direction
    · rw [List.filter_cons_of_pos (by simpa using here)]
      exact ih _ _ (observe_along event same)
    · rw [List.filter_cons_of_neg (by simpa using here)]
      exact ih _ _ fun quantity => (observe_across here quantity).trans (same quantity)

theorem ofJournal_of_along {first second : Journal}
    (same : first.along direction = second.along direction) (quantity : Quantity) :
    ofJournal first ⟨quantity, direction⟩ = ofJournal second ⟨quantity, direction⟩ := by
  rw [ofJournal_along, same, ← ofJournal_along]

end Counters

variable {S : Signature} {In Out : Type}

/-- What reads find in a stream. -/
structure ReadHalf (S : Signature) (In : Type) where
  closed : Bool
  current : Option Nat
  readers : List (Cursor S.Reader)
  events : Journal
  world : In

/-- What writes find in a stream. -/
structure WriteHalf (S : Signature) (Out : Type) where
  closed : Bool
  config : Configuration
  current : Option Nat
  writers : List (Cursor (Outbound S.Writer))
  events : Journal
  world : Out

def ReadHalf.inWorld (half : ReadHalf S In) (world : In) : ReadHalf S In := { half with world }

def WriteHalf.inWorld (half : WriteHalf S Out) (world : Out) : WriteHalf S Out :=
  { half with world }

/-- A transport whose world has two parts, one for each direction. The calls of a direction depend
on their own part and leave the other alone, and letting go of the connection changes neither. -/
structure Transport.Divides (T : Transport S) (inward : S.World → In) (outward : S.World → Out) :
    Prop where
  nextReader : T.nextReader.Confined inward outward
  read : ∀ room, (T.read room).Confined (Prod.map id inward) fun whole => outward whole.2
  supply : ∀ ⦃left right⦄, inward left = inward right → T.supply left = T.supply right
  nextWriter : ∀ kind, (T.nextWriter kind).Confined outward inward
  write : ∀ data, (T.write data).Confined (Prod.map id outward) fun whole => inward whole.2
  finish : T.finish.Confined (Prod.map id outward) fun whole => inward whole.2
  dropWriter : ∀ writer ⦃left right⦄, outward left = outward right →
    outward (T.dropWriter writer left) = outward (T.dropWriter writer right)
  dropWriterSpares : ∀ writer world, inward (T.dropWriter writer world) = inward world
  dropInward : ∀ world, inward (T.drop world) = inward world
  dropOutward : ∀ world, outward (T.drop world) = outward world

namespace Stream

def readHalf (inward : S.World → In) (stream : Stream S) : ReadHalf S In where
  closed := stream.state.isClosed
  current := stream.state.inbound
  readers := stream.state.readers
  events := stream.journal.along .inbound
  world := inward stream.world

def writeHalf (outward : S.World → Out) (stream : Stream S) : WriteHalf S Out where
  closed := stream.state.isClosed
  config := stream.state.config
  current := stream.state.outbound
  writers := stream.state.writers
  events := stream.journal.along .outbound
  world := outward stream.world

section Changes

variable (T : Transport S) (inward : S.World → In) (outward : S.World → Out) (stream : Stream S)
  (number : Nat) (ticket : Ticket)

@[simp] theorem joinReader_readHalf : (stream.joinReader number ticket).readHalf inward =
    { stream.readHalf inward with
      readers := (stream.readHalf inward).readers.modify number fun cursor =>
        { cursor with line := cursor.line.join ticket } } := rfl

@[simp] theorem joinReader_writeHalf :
    (stream.joinReader number ticket).writeHalf outward = stream.writeHalf outward := rfl

@[simp] theorem leaveReader_readHalf : (stream.leaveReader number ticket).readHalf inward =
    { stream.readHalf inward with
      readers := (stream.readHalf inward).readers.modify number fun cursor =>
        { cursor with line := cursor.line.leave ticket } } := rfl

@[simp] theorem leaveReader_writeHalf :
    (stream.leaveReader number ticket).writeHalf outward = stream.writeHalf outward := rfl

@[simp] theorem clearInbound_readHalf : (stream.clearInbound number).readHalf inward =
    { stream.readHalf inward with
      current := if (stream.readHalf inward).current = some number then none
        else (stream.readHalf inward).current } := rfl

@[simp] theorem clearInbound_writeHalf :
    (stream.clearInbound number).writeHalf outward = stream.writeHalf outward := rfl

@[simp] theorem openReader_readHalf (reader : S.Reader) :
    (stream.openReader reader ticket).readHalf inward =
    { stream.readHalf inward with
      readers := (stream.readHalf inward).readers ++ [{ content := reader, line := [ticket] }]
      current := some (stream.readHalf inward).readers.length } := rfl

@[simp] theorem openReader_writeHalf (reader : S.Reader) :
    (stream.openReader reader ticket).writeHalf outward = stream.writeHalf outward := rfl

@[simp] theorem discardReader_readHalf (reader : S.Reader) :
    (stream.discardReader reader).readHalf inward =
    { stream.readHalf inward with
      readers := (stream.readHalf inward).readers ++ [{ content := reader }] } := rfl

@[simp] theorem discardReader_writeHalf (reader : S.Reader) :
    (stream.discardReader reader).writeHalf outward = stream.writeHalf outward := rfl

@[simp] theorem joinWriter_readHalf :
    (stream.joinWriter number ticket).readHalf inward = stream.readHalf inward := rfl

@[simp] theorem joinWriter_writeHalf : (stream.joinWriter number ticket).writeHalf outward =
    { stream.writeHalf outward with
      writers := (stream.writeHalf outward).writers.modify number fun cursor =>
        { cursor with line := cursor.line.join ticket } } := rfl

@[simp] theorem enterWriter_readHalf (writer : S.Writer) :
    (stream.enterWriter writer ticket).readHalf inward = stream.readHalf inward := rfl

@[simp] theorem enterWriter_writeHalf (writer : S.Writer) :
    (stream.enterWriter writer ticket).writeHalf outward =
    { stream.writeHalf outward with
      writers := (stream.writeHalf outward).writers ++
        [{ content := { writer }, line := [ticket] }] } := rfl

@[simp] theorem borrow_readHalf :
    (stream.borrow ticket).readHalf inward = stream.readHalf inward := rfl

@[simp] theorem borrow_writeHalf :
    (stream.borrow ticket).writeHalf outward = stream.writeHalf outward := rfl

@[simp] theorem record_readHalf (event : Event) : (stream.record event).readHalf inward =
    { stream.readHalf inward with
      events := (stream.readHalf inward).events ++ Journal.along .inbound [event] } := by
  simp [readHalf, record, Journal.along_append]

@[simp] theorem record_writeHalf (event : Event) : (stream.record event).writeHalf outward =
    { stream.writeHalf outward with
      events := (stream.writeHalf outward).events ++ Journal.along .outbound [event] } := by
  simp [writeHalf, record, Journal.along_append]

theorem recordIf_eq (condition : Bool) (event : Event) :
    stream.recordIf condition event = if condition then stream.record event else stream := by
  cases condition <;> rfl

variable {T inward outward} (divides : T.Divides inward outward)
include divides

-- Who uses the connection is in neither half. It decides only when the connection is let go, and
-- nothing shows that it has been.
theorem giveBack_readHalf :
    (stream.giveBack T ticket).readHalf inward = stream.readHalf inward := by
  have world : inward (stream.giveBack T ticket).world = inward stream.world := by
    unfold giveBack
    split
    · rfl
    · exact divides.dropInward stream.world
  exact congrArg (stream.readHalf inward).inWorld world

theorem giveBack_writeHalf :
    (stream.giveBack T ticket).writeHalf outward = stream.writeHalf outward := by
  have world : outward (stream.giveBack T ticket).world = outward stream.world := by
    unfold giveBack
    split
    · rfl
    · exact divides.dropOutward stream.world
  exact congrArg (stream.writeHalf outward).inWorld world

theorem settleWriter_readHalf :
    (stream.settleWriter T number).readHalf inward = stream.readHalf inward := by
  have world : inward (stream.settleWriter T number).world = inward stream.world := by
    unfold settleWriter
    dsimp only
    split
    · rfl
    · split
      · rfl
      · exact divides.dropWriterSpares _ _
  exact congrArg (stream.readHalf inward).inWorld world

theorem settleWriter_writeHalf {left right : Stream S}
    (same : left.writeHalf outward = right.writeHalf outward) :
    (left.settleWriter T number).writeHalf outward =
      (right.settleWriter T number).writeHalf outward := by
  have current : left.state.outbound = right.state.outbound := congrArg WriteHalf.current same
  have writers : left.state.writers = right.state.writers := congrArg WriteHalf.writers same
  have before : outward left.world = outward right.world := congrArg WriteHalf.world same
  have world : outward (left.settleWriter T number).world =
      outward (right.settleWriter T number).world := by
    unfold settleWriter
    dsimp only
    rw [current, writers]
    split
    · exact before
    · split
      · exact before
      · exact divides.dropWriter _ before
  exact congrArg₂ WriteHalf.inWorld same world

theorem leaveWriter_readHalf :
    (stream.leaveWriter T number ticket).readHalf inward = stream.readHalf inward :=
  settleWriter_readHalf _ number divides

theorem leaveWriter_writeHalf {left right : Stream S}
    (same : left.writeHalf outward = right.writeHalf outward) :
    (left.leaveWriter T number ticket).writeHalf outward =
      (right.leaveWriter T number ticket).writeHalf outward := by
  apply settleWriter_writeHalf number divides
  exact congrArg (fun half => { half with
    writers := half.writers.modify number fun cursor =>
      { cursor with line := cursor.line.leave ticket } }) same

theorem retireWriter_readHalf :
    (stream.retireWriter T number ticket).readHalf inward = stream.readHalf inward :=
  settleWriter_readHalf _ number divides

theorem retireWriter_writeHalf {left right : Stream S}
    (same : left.writeHalf outward = right.writeHalf outward) :
    (left.retireWriter T number ticket).writeHalf outward =
      (right.retireWriter T number ticket).writeHalf outward := by
  apply settleWriter_writeHalf number divides
  exact congrArg (fun half => { half with
    writers := half.writers.modify number fun cursor =>
      { cursor with line := cursor.line.leave ticket }
    current := if half.current = some number then none else half.current }) same

theorem openWriter_readHalf (writer : S.Writer) :
    (stream.openWriter T writer ticket).readHalf inward = stream.readHalf inward := by
  have world : inward (stream.openWriter T writer ticket).world = inward stream.world := by
    unfold openWriter
    dsimp only
    split
    · rfl
    · exact congrArg ReadHalf.world (settleWriter_readHalf _ _ divides)
  exact congrArg (stream.readHalf inward).inWorld world

theorem openWriter_writeHalf (writer : S.Writer) {left right : Stream S}
    (same : left.writeHalf outward = right.writeHalf outward) :
    (left.openWriter T writer ticket).writeHalf outward =
      (right.openWriter T writer ticket).writeHalf outward := by
  have current : left.state.outbound = right.state.outbound := congrArg WriteHalf.current same
  let enter (half : WriteHalf S Out) : WriteHalf S Out := { half with
    writers := half.writers ++ [{ content := { writer }, line := [ticket] }]
    current := some half.writers.length }
  have entered := congrArg enter same
  have world : outward (left.openWriter T writer ticket).world =
      outward (right.openWriter T writer ticket).world := by
    unfold openWriter
    dsimp only
    rw [current]
    split
    · exact congrArg WriteHalf.world same
    · exact congrArg WriteHalf.world (settleWriter_writeHalf _ divides entered)
  exact congrArg₂ WriteHalf.inWorld entered world

end Changes

section Operations

variable {Stage Answer : Type} {inward : S.World → In} {outward : S.World → Out}

theorem onConnection_reads {operation : Operation S.World Stage Answer}
    (confined : operation.Confined inward outward) :
    (onConnection operation).Confined (readHalf inward) (writeHalf outward) :=
  confined.within (fun _ _ => congrArg ReadHalf.world)
    (fun _ _ same _ _ => congrArg₂ ReadHalf.inWorld same)
    fun stream _ => congrArg (stream.writeHalf outward).inWorld

theorem onConnection_writes {operation : Operation S.World Stage Answer}
    (confined : operation.Confined outward inward) :
    (onConnection operation).Confined (writeHalf outward) (readHalf inward) :=
  confined.within (fun _ _ => congrArg WriteHalf.world)
    (fun _ _ same _ _ => congrArg₂ WriteHalf.inWorld same)
    fun stream _ => congrArg (stream.readHalf inward).inWorld

theorem onReader_reads (number : Nat) {operation : Operation (S.Reader × S.World) Stage Answer}
    (confined : operation.Confined (Prod.map id inward) fun whole => outward whole.2) :
    (onReader number operation).Confined (readHalf inward) (writeHalf outward) := by
  refine confined.withinOption ?_ ?_ ?_
  · intro left right same
    have readers : left.state.readers = right.state.readers := congrArg ReadHalf.readers same
    have world : inward left.world = inward right.world := congrArg ReadHalf.world same
    simp [readers, world, Function.comp_def]
  · intro left right same first second agree
    have content : first.1 = second.1 := (Prod.ext_iff.mp agree).1
    have world : inward first.2 = inward second.2 := (Prod.ext_iff.mp agree).2
    exact congrArg₂ (fun half content => { half with
      readers := half.readers.modify number fun cursor => { cursor with content } })
      (congrArg₂ ReadHalf.inWorld same world) content
  · intro stream before found world agree
    obtain ⟨cursor, -, rfl⟩ := Option.map_eq_some_iff.mp found
    exact congrArg (stream.writeHalf outward).inWorld agree

theorem onWriter_writes (number : Nat)
    {operation : Operation (Outbound S.Writer × S.World) Stage Answer}
    (confined : operation.Confined (Prod.map id outward) fun whole => inward whole.2) :
    (onWriter number operation).Confined (writeHalf outward) (readHalf inward) := by
  refine confined.withinOption ?_ ?_ ?_
  · intro left right same
    have writers : left.state.writers = right.state.writers := congrArg WriteHalf.writers same
    have world : outward left.world = outward right.world := congrArg WriteHalf.world same
    simp [writers, world, Function.comp_def]
  · intro left right same first second agree
    have content : first.1 = second.1 := (Prod.ext_iff.mp agree).1
    have world : outward first.2 = outward second.2 := (Prod.ext_iff.mp agree).2
    exact congrArg₂ (fun half content => { half with
      writers := half.writers.modify number fun cursor => { cursor with content } })
      (congrArg₂ WriteHalf.inWorld same world) content
  · intro stream before found world agree
    obtain ⟨cursor, -, rfl⟩ := Option.map_eq_some_iff.mp found
    exact congrArg (stream.readHalf inward).inWorld agree

end Operations

end Stream

namespace Outbound

variable {T : Transport S} {inward : S.World → In} {outward : S.World → Out}

theorem write_confined (divides : T.Divides inward outward) (data : Bytes) :
    (write T data).Confined (Prod.map id outward) fun whole => inward whole.2 := by
  refine (divides.write data).within ?_ ?_ fun _ _ agree => agree
  · rintro ⟨message, left⟩ ⟨_, right⟩ same
    exact congrArg (Prod.map Outbound.writer id) same
  · rintro ⟨message, left⟩ ⟨_, right⟩ same first second agree
    exact congrArg₂ (fun whole changed => ({ whole.1 with writer := changed.1 }, changed.2)) same
      agree

theorem finish_confined (divides : T.Divides inward outward) :
    (finish T).Confined (Prod.map id outward) fun whole => inward whole.2 where
  poll ticket stage := by
    rintro ⟨message, left⟩ ⟨_, right⟩ same
    obtain rfl : message = _ := (Prod.mk.inj same).1
    have found : Prod.map id outward (message.writer, left) =
        Prod.map id outward (message.writer, right) := congrArg (Prod.map Outbound.writer id) same
    obtain ⟨answers, agree⟩ := divides.finish.poll ticket stage found
    unfold finish
    dsimp only
    split
    · exact ⟨rfl, same⟩
    · exact ⟨answers, congrArg (Prod.map (Outbound.mk · true) id) agree⟩
  pollSpares ticket stage whole := by
    unfold finish
    dsimp only
    split
    · rfl
    · exact divides.finish.pollSpares ticket stage (whole.1.writer, whole.2)
  cancel ticket stage := by
    rintro ⟨message, left⟩ ⟨_, right⟩ same
    obtain rfl : message = _ := (Prod.mk.inj same).1
    have found : Prod.map id outward (message.writer, left) =
        Prod.map id outward (message.writer, right) := congrArg (Prod.map Outbound.writer id) same
    exact congrArg (Prod.map (Outbound.mk · message.finished) id)
      (divides.finish.cancel ticket stage found)
  cancelSpares ticket stage whole :=
    divides.finish.cancelSpares ticket stage (whole.1.writer, whole.2)

end Outbound

end MessageStream
