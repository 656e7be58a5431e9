import MessageStream.Proofs.Inbound.NoByteLost
import MessageStream.Proofs.Usage.Record

/-!
To whom the bytes of a message go. A read that takes bytes from a message keeps the turn at it until
it returns, so what it takes stands together in what the message yields, apart from what any other
call takes, and it takes from no other message. A read that has returned takes no more, so what
another takes of the message afterwards comes later. All this holds whatever is closed, given up or
failed meanwhile.
-/
namespace MessageStream

variable {S : Signature} {T : Transport S}

theorem pair_front {Item : Type} {first second : List Item} {one other : Item}
    (inOrder : [one, other].Sublist (first ++ second)) (absent : other ∉ second) :
    [one, other].Sublist first := by
  obtain ⟨front, rear, split, early, late⟩ := List.sublist_append_iff.mp inOrder
  have empty : rear = [] := by
    by_contra some
    have last : other ∈ rear := by
      have same := congrArg List.getLast? split
      rw [List.getLast?_append_of_ne_nil _ some] at same
      exact List.mem_of_getLast? same.symm
    exact absent (late.subset last)
  rw [empty, List.append_nil] at split
  exact split ▸ early

def Traffic.output (number : Nat) : Traffic → List (Ticket × UInt8)
  | .ended caller (.read message _) (.yielded data) =>
    if message = number then data.map (Prod.mk caller) else []
  | _ => []

theorem Traffic.ofPoll_output (number : Nat) (reader : Ticket) (request : Request) (resumed : Bool)
    (reply : Option Reply) :
    (Traffic.ofPoll reader request resumed reply).flatMap (Traffic.output number) =
      match reply with
      | none => []
      | some reply => (Traffic.ended reader request reply).output number :=
  Traffic.ofPoll_flatMap _ (fun _ _ => rfl) reader request resumed reply

namespace Stream

variable {stream after : Stream S.recorded} {caller : Ticket} {number : Nat} {bytes : Bytes}

/-- All bytes a message has yielded, in order, each with the call to which it went. -/
def output (stream : Stream S.recorded) (number : Nat) : List (Ticket × UInt8) :=
  stream.world.traffic.flatMap (Traffic.output number)

theorem output_bytes (stream : Stream S.recorded) (number : Nat) :
    (stream.output number).map Prod.snd = stream.givenBy number := by
  rw [output, givenBy, List.map_flatMap]
  apply List.flatMap_congr
  intro entry member
  rcases entry with _ | ⟨reader, request, reply⟩ | _
  · rfl
  · cases request <;> cases reply <;> try rfl
    simp only [Traffic.output, Traffic.given]
    split <;> simp [Function.comp_def]
  · rfl

/-- These bytes went to a call, together, from one message, and no others did. -/
structure Portion (stream : Stream S.recorded) (caller : Ticket) (number : Nat) (bytes : Bytes) :
    Prop where
  together : ∃ before after, stream.output number = before ++ bytes.map (Prod.mk caller) ++ after ∧
    ∀ item ∈ before ++ after, item.1 ≠ caller
  only : ∀ other, other ≠ number → ∀ item ∈ stream.output other, item.1 ≠ caller

/-- The same for a call to which the last bytes of the message went. -/
structure Filling (stream : Stream S.recorded) (caller : Ticket) (number : Nat) (bytes : Bytes) :
    Prop where
  last : ∃ before, stream.output number = before ++ bytes.map (Prod.mk caller) ∧
    ∀ item ∈ before, item.1 ≠ caller
  only : ∀ other, other ≠ number → ∀ item ∈ stream.output other, item.1 ≠ caller

theorem Filling.to_portion (filling : stream.Filling caller number bytes) :
    stream.Portion caller number bytes := by
  obtain ⟨before, split, apart⟩ := filling.last
  exact ⟨⟨before, [], by rw [split, List.append_nil], by rwa [List.append_nil]⟩, filling.only⟩

theorem Filling.of_nothing_taken (none : ∀ number, ∀ item ∈ stream.output number, item.1 ≠ caller)
    (number : Nat) : stream.Filling caller number [] :=
  ⟨⟨stream.output number, by simp, none number⟩, fun other _ => none other⟩

theorem Filling.while_others_take (filling : stream.Filling caller number bytes)
    (still : after.output number = stream.output number)
    (grown : ∀ other, ∃ more, after.output other = stream.output other ++ more ∧
      ∀ item ∈ more, item.1 ≠ caller) : after.Filling caller number bytes := by
  refine ⟨still ▸ filling.last, ?_⟩
  intro other different item member
  obtain ⟨more, added, others⟩ := grown other
  rw [added] at member
  exact (List.mem_append.mp member).elim (filling.only other different item) (others item)

theorem Filling.take_more (filling : stream.Filling caller number bytes) {more : Bytes}
    (grown : ∀ other, after.output other =
      stream.output other ++ if number = other then more.map (Prod.mk caller) else []) :
    after.Filling caller number (bytes ++ more) := by
  obtain ⟨before, split, apart⟩ := filling.last
  refine ⟨⟨before, ?_, apart⟩, ?_⟩
  · rw [grown, if_pos rfl, split, List.map_append, List.append_assoc]
  · intro other different
    rw [grown, if_neg (Ne.symm different), List.append_nil]
    exact filling.only other different

namespace Portion

theorem nothing_taken (portion : stream.Portion caller number []) (other : Nat) :
    ∀ item ∈ stream.output other, item.1 ≠ caller := by
  by_cases same : other = number
  · obtain ⟨before, after, split, apart⟩ := portion.together
    rw [same, split, List.map_nil, List.append_nil]
    exact apart
  · exact portion.only other same

theorem while_others_take (portion : stream.Portion caller number bytes)
    (grown : ∀ other, ∃ more, after.output other = stream.output other ++ more ∧
      ∀ item ∈ more, item.1 ≠ caller) : after.Portion caller number bytes := by
  constructor
  · obtain ⟨before, rest, split, apart⟩ := portion.together
    obtain ⟨more, added, others⟩ := grown number
    refine ⟨before, rest ++ more, by simp [added, split], ?_⟩
    intro item member
    rw [← List.append_assoc] at member
    exact (List.mem_append.mp member).elim (apart item) (others item)
  · intro other different item member
    obtain ⟨more, added, others⟩ := grown other
    rw [added] at member
    exact (List.mem_append.mp member).elim (portion.only other different item) (others item)

/-- The bytes that went to a call are a contiguous part of what the message has yielded. -/
theorem bytes_contiguous (portion : stream.Portion caller number bytes) :
    bytes <:+: stream.givenBy number := by
  obtain ⟨before, rest, split, -⟩ := portion.together
  refine ⟨before.map Prod.snd, rest.map Prod.snd, ?_⟩
  rw [← output_bytes, split]
  simp [Function.comp_def]

end Portion

theorem Adds.output_same {ticket : Ticket} {makes : Request → Bool}
    (adds : stream.Adds ticket makes after)
    (spares : ∀ number room, makes (.read number room) = false) : after.output = stream.output := by
  obtain ⟨entries, grown, made⟩ := adds
  funext number
  have nothing : entries.flatMap (Traffic.output number) = [] := by
    apply List.flatMap_eq_nil_iff.mpr
    intro entry member
    have fits := (made entry member).2
    unfold Traffic.output
    split
    · rw [Traffic.request, spares] at fits
      cases fits
    · rfl
  rw [Stream.output, grown, List.flatMap_append, nothing, List.append_nil, Stream.output]

end Stream

section Moves

variable {room : Nat} {ticket : Ticket} {stage : ReadStage S.recorded}
  {step : Step (ReadStage S.recorded) ReadOutcome} {stream after : Stream S.recorded}

theorem ReaderComes.output_same {asked : Option S.ReaderOpening}
    (comes : ReaderComes T ticket asked stream step after) :
    step.copied = [] ∧ after.output = stream.output := by
  refine ⟨(comes.takenBy_same ticket).2, ?_⟩
  funext number
  cases comes <;> simp [Stream.output, Traffic.ofPoll_output, Traffic.output]

theorem ReadMove.output_grows (move : ReadMove T room ticket stage stream step after) :
    (∃ number copied asked bytes, stage = .draining number copied asked ∧
      step.copied = copied ++ bytes ∧
      (∀ other, after.output other =
        stream.output other ++ if number = other then bytes.map (Prod.mk ticket) else []) ∧
      ∀ message data later, Phase.ofStep step = .waiting (.draining message data later) →
        message = number) ∨
    (stage.copied = [] ∧ step.copied = [] ∧ after.output = stream.output) := by
  cases move with
  | asks standing roomy vacant comes => exact .inr ⟨rfl, comes.output_same⟩
  | hears comes => exact .inr ⟨rfl, comes.output_same⟩
  | pends found polled =>
    refine .inl ⟨_, _, _, [], rfl, (List.append_nil _).symm, ?_, ?_⟩
    · simp [Stream.output, Traffic.ofPoll_output]
    · rintro message data later ⟨⟩
      rfl
  | fails found polled =>
    refine .inl ⟨_, _, _, [], rfl, (List.append_nil _).symm, ?_, nofun⟩
    simp [Stream.output, Traffic.ofPoll_output, Traffic.output]
  | goesOn found polled gained short =>
    refine .inl ⟨_, _, _, _, rfl, rfl, ?_, ?_⟩
    · simp [Stream.output, Traffic.ofPoll_output, Traffic.output]
    · rintro message data later ⟨⟩
      rfl
  | fulfils found polled gained full =>
    refine .inl ⟨_, _, _, _, rfl, rfl, ?_, nofun⟩
    simp [Stream.output, Traffic.ofPoll_output, Traffic.output]
  | passes found polled =>
    refine .inl ⟨_, _, _, [], rfl, rfl, ?_, nofun⟩
    simp [Stream.output, Traffic.ofPoll_output, Traffic.output]
  | ends found polled gained =>
    refine .inl ⟨_, _, _, [], rfl, (List.append_nil _).symm, ?_, nofun⟩
    simp [Stream.output, Traffic.ofPoll_output, Traffic.output]
  | joins standing roomy current => exact .inr ⟨rfl, rfl, by simp [funext_iff, Stream.output]⟩
  | _ => exact .inr ⟨rfl, rfl, rfl⟩

theorem ReadDrop.output_same (drop : ReadDrop T ticket stage stream after) :
    after.output = stream.output := by
  funext number
  cases drop <;> simp [Stream.output, Traffic.output]

end Moves

namespace Usage

theorem Moves.read_ended {usage after : Usage S} {ticket : Ticket}
    (moves : Moves T usage ticket after) {room : Nat}
    {phase : Phase (ReadStage S.recorded) ReadOutcome}
    (found : usage.calls[ticket]? = some (.read room phase)) (ended : phase.next? .start = none) :
    after = usage := by
  cases moves with
  | rests => rfl
  | reads there next move =>
    cases found.symm.trans there
    cases ended.symm.trans next
  | writes there => cases found.symm.trans there
  | closes there => cases found.symm.trans there

theorem Drops.read_ended {usage after : Usage S} {ticket : Ticket}
    (drops : Drops T usage ticket after) {room : Nat}
    {phase : Phase (ReadStage S.recorded) ReadOutcome}
    (found : usage.calls[ticket]? = some (.read room phase)) (ended : phase.next? .start = none) :
    after = usage := by
  cases drops with
  | rests => rfl
  | forgets demand there =>
    cases demand <;> cases found.symm.trans there
    cases ended
  | reads there =>
    cases found.symm.trans there
    cases ended
  | writes there => cases found.symm.trans there
  | closes there => cases found.symm.trans there

theorem Moves.output_grows {usage after : Usage S} {ticket : Ticket}
    (moves : Moves T usage ticket after)
    (number : Nat) : ∃ more, after.stream.output number = usage.stream.output number ++ more ∧
      ∀ item ∈ more, item.1 = ticket := by
  have nothing (same : after.stream.output = usage.stream.output) :
      ∃ more, after.stream.output number = usage.stream.output number ++ more ∧
        ∀ item ∈ more, item.1 = ticket :=
    ⟨[], by rw [same, List.append_nil], List.forall_mem_nil _⟩
  cases moves with
  | rests => exact nothing rfl
  | writes found next move => exact nothing (move.adds.output_same fun _ _ => rfl)
  | closes found next move => exact nothing (move.adds.output_same fun _ _ => rfl)
  | reads found next move =>
    rcases move.output_grows with ⟨message, copied, asked, bytes, -, -, grown, -⟩ | ⟨-, -, same⟩
    · refine ⟨_, grown number, ?_⟩
      intro item member
      split at member
      · obtain ⟨byte, -, rfl⟩ := List.mem_map.mp member
        rfl
      · cases member
    · exact nothing same

theorem Drops.output_same {usage after : Usage S} {ticket : Ticket}
    (drops : Drops T usage ticket after) : after.stream.output = usage.stream.output := by
  cases drops with
  | rests => rfl
  | forgets demand found => rfl
  | reads found drop => exact drop.output_same
  | writes found drop => exact drop.adds.output_same fun _ _ => rfl
  | closes found drop => exact drop.adds.output_same fun _ _ => rfl

/-- The bytes of every read not given up stand together in what one message has yielded, and where
the read is still at a message, nothing has been taken from that message since. -/
structure Apportioned (usage : Usage S) : Prop where
  sound : usage.Sound
  portions : ∀ (ticket : Ticket) (room : Nat) (phase : Phase (ReadStage S.recorded) ReadOutcome),
    usage.calls[ticket]? = some (.read room phase) → (∀ stage, phase ≠ .dropped stage) →
      ∃ number, usage.stream.Portion ticket number phase.copied
  fillings : ∀ (ticket : Ticket) (room number : Nat) (copied : Bytes) (asked : Option S.Reading),
    usage.calls[ticket]? = some (.read room (.waiting (.draining number copied asked))) →
      usage.stream.Filling ticket number copied
  readers : ∀ number, ∀ item ∈ usage.stream.output number,
    ∃ room phase, usage.calls[item.1]? = some (.read room phase)

namespace Apportioned

variable {usage : Usage S} (apportioned : usage.Apportioned) {ticket : Ticket}
include apportioned

theorem mover_portion {room : Nat} {phase : Phase (ReadStage S.recorded) ReadOutcome}
    {stage : ReadStage S.recorded} {step : Step (ReadStage S.recorded) ReadOutcome}
    {after : Stream S.recorded} (found : usage.calls[ticket]? = some (.read room phase))
    (next : phase.next? .start = some stage)
    (move : ReadMove T room ticket stage usage.stream step after) :
    (∃ number, after.Portion ticket number step.copied) ∧
      ∀ number copied asked, Phase.ofStep step = .waiting (.draining number copied asked) →
        after.Filling ticket number copied := by
  have total {message : Nat} {data : Bytes} {later : Option S.Reading}
      (goes : Phase.ofStep step = .waiting (.draining message data later)) :
      step.copied = data := by
    rw [← Phase.copied_ofStep, goes]
    rfl
  rcases move.output_grows with
    ⟨number, copied, asked, bytes, rfl, taken, grown, stays⟩ | ⟨empty, still, same⟩
  · have filling : usage.stream.Filling ticket number copied := by
      cases phase <;> cases next
      exact apportioned.fillings ticket room number copied asked found
    have extended := filling.take_more grown
    refine ⟨⟨number, taken ▸ extended.to_portion⟩, ?_⟩
    intro message data later goes
    rw [stays message data later goes, ← total goes, taken]
    exact extended
  · -- Nothing has gone to the read yet, so it may be at any message.
    have none (number : Nat) : ∀ item ∈ after.output number, item.1 ≠ ticket := by
      have lasts (dropped : Option (ReadStage S.recorded)) : phase ≠ .dropped dropped := by
        rintro rfl
        cases next
      obtain ⟨message, portion⟩ := apportioned.portions ticket room phase found lasts
      rw [Phase.copied_next next, empty] at portion
      exact same ▸ portion.nothing_taken number
    refine ⟨⟨0, still ▸ (Stream.Filling.of_nothing_taken none 0).to_portion⟩, ?_⟩
    intro message data later goes
    rw [← total goes, still]
    exact .of_nothing_taken none message

theorem after_read {room : Nat} {phase : Phase (ReadStage S.recorded) ReadOutcome}
    {stage : ReadStage S.recorded} {step : Step (ReadStage S.recorded) ReadOutcome}
    {after : Stream S.recorded} (found : usage.calls[ticket]? = some (.read room phase))
    (next : phase.next? .start = some stage)
    (move : ReadMove T room ticket stage usage.stream step after)
    (sound : Sound (⟨after, usage.calls.set ticket (.read room (.ofStep step))⟩ : Usage S)) :
    Apportioned (⟨after, usage.calls.set ticket (.read room (.ofStep step))⟩ : Usage S) := by
  have inside := (List.getElem?_eq_some_iff.mp found).1
  have moves : Moves T usage ticket ⟨after, _⟩ := .reads found next move
  obtain ⟨portion, filling⟩ := apportioned.mover_portion found next move
  have others (other : Ticket) (different : other ≠ ticket) (number : Nat) :
      ∃ more, after.output number = usage.stream.output number ++ more ∧
        ∀ item ∈ more, item.1 ≠ other := by
    obtain ⟨more, added, mine⟩ := moves.output_grows number
    exact ⟨more, added, fun item member same => different (same.symm.trans (mine item member))⟩
  refine ⟨sound, ?_, ?_, ?_⟩
  · intro other space later there lasts
    rcases set_cases there with ⟨rfl, same⟩ | ⟨different, kept⟩
    · cases same
      rw [Phase.copied_ofStep]
      exact portion
    · obtain ⟨number, theirs⟩ := apportioned.portions other space later kept lasts
      exact ⟨number, theirs.while_others_take (others other different)⟩
  · intro other space number copied asked there
    rcases set_cases there with ⟨rfl, same⟩ | ⟨different, kept⟩
    · injection same with _ goes
      exact filling number copied asked goes.symm
    · have theirs := apportioned.fillings other space number copied asked kept
      refine theirs.while_others_take ?_ (others other different)
      -- The turn at this message is the other's, so the mover takes nothing from it.
      have held : usage.reader other = some (number, true) := by
        simp [reader, kept, Call.reader, Phase.place, ReadStage.place]
      rcases move.output_grows with ⟨message, data, later, bytes, rfl, -, grown, -⟩ | ⟨-, -, same⟩
      · have elsewhere : message ≠ number := by
          rintro rfl
          have turn : usage.reader ticket = some (message, true) := by
            simp [reader, found, Call.reader, Phase.place_next ReadStage.place .start rfl next,
              ReadStage.place]
          exact different (apportioned.sound.readers.one_at_a_time held turn)
        rw [grown, if_neg elsewhere, List.append_nil]
      · rw [same]
  · intro number item member
    obtain ⟨more, added, mine⟩ := moves.output_grows number
    have reads : (usage.calls.set ticket (.read room (.ofStep step)))[ticket]? =
        some (.read room (.ofStep step)) := List.getElem?_set_self inside
    by_cases mover : item.1 = ticket
    · rw [mover]
      exact ⟨room, _, reads⟩
    · have old : item ∈ usage.stream.output number := by
        rw [added] at member
        exact (List.mem_append.mp member).resolve_right fun new => mover (mine item new)
      obtain ⟨space, later, there⟩ := apportioned.readers number item old
      exact ⟨space, later, (List.getElem?_set_ne (Ne.symm mover)).trans there⟩

theorem of_same_output {call become : Call S.recorded} {after : Stream S.recorded}
    (found : usage.calls[ticket]? = some call)
    (sound : Sound (⟨after, usage.calls.set ticket become⟩ : Usage S))
    (same : after.output = usage.stream.output)
    (kind : ∀ room phase, call = .read room phase → ∃ stage, become = .read room (.dropped stage))
    (quiet : ∀ room phase, become = .read room phase → ∃ stage, phase = .dropped stage) :
    Apportioned (⟨after, usage.calls.set ticket become⟩ : Usage S) := by
  have inside := (List.getElem?_eq_some_iff.mp found).1
  have nothing (caller : Ticket) (number : Nat) :
      ∃ more, after.output number = usage.stream.output number ++ more ∧
        ∀ item ∈ more, item.1 ≠ caller :=
    ⟨[], by rw [same, List.append_nil], List.forall_mem_nil _⟩
  refine ⟨sound, ?_, ?_, ?_⟩
  · intro other room phase there lasts
    rcases set_cases there with ⟨rfl, moved⟩ | ⟨different, kept⟩
    · obtain ⟨stage, dropped⟩ := quiet room phase moved.symm
      exact absurd dropped (lasts stage)
    · obtain ⟨number, portion⟩ := apportioned.portions other room phase kept lasts
      exact ⟨number, portion.while_others_take (nothing other)⟩
  · intro other room number copied asked there
    rcases set_cases there with ⟨rfl, moved⟩ | ⟨different, kept⟩
    · obtain ⟨stage, dropped⟩ := quiet room _ moved.symm
      cases dropped
    · exact (apportioned.fillings other room number copied asked kept).while_others_take
        (by rw [same])
        (nothing other)
  · intro number item member
    obtain ⟨room, phase, there⟩ := apportioned.readers number item (same ▸ member)
    by_cases mover : item.1 = ticket
    · have same := Option.some.inj (found.symm.trans (mover ▸ there))
      obtain ⟨stage, dropped⟩ := kind room phase same
      exact ⟨room, .dropped stage, by rw [mover, ← dropped]; exact List.getElem?_set_self inside⟩
    · exact ⟨room, phase, (List.getElem?_set_ne (Ne.symm mover)).trans there⟩

theorem after_move {after : Usage S} (moves : Moves T usage ticket after) : after.Apportioned := by
  have sound := apportioned.sound.after_move moves
  cases moves with
  | rests => exact apportioned
  | reads found next move => exact apportioned.after_read found next move sound
  | writes found next move =>
    exact apportioned.of_same_output found sound (move.adds.output_same fun _ _ => rfl) nofun nofun
  | closes found next move =>
    exact apportioned.of_same_output found sound (move.adds.output_same fun _ _ => rfl) nofun nofun

theorem after_drop {after : Usage S} (drops : Drops T usage ticket after) : after.Apportioned := by
  have sound := apportioned.sound.after_drop drops
  have same := drops.output_same
  cases drops with
  | rests => exact apportioned
  | forgets demand found =>
    refine apportioned.of_same_output found sound same ?_ ?_
    · rintro room phase begins
      cases demand <;> cases begins
      exact ⟨none, rfl⟩
    · rintro room phase begins
      cases demand <;> cases begins
      exact ⟨none, rfl⟩
  | reads found drop =>
    refine apportioned.of_same_output found sound same ?_ ?_
    · rintro room phase ⟨⟩
      exact ⟨_, rfl⟩
    · rintro room phase ⟨⟩
      exact ⟨_, rfl⟩
  | writes found drop => exact apportioned.of_same_output found sound same nofun nofun
  | closes found drop => exact apportioned.of_same_output found sound same nofun nofun

theorem after_begin (demand : Demand) : (usage.step T (.begin demand)).Apportioned := by
  have unknown (number : Nat) : ∀ item ∈ usage.stream.output number,
      item.1 ≠ usage.calls.length := by
    rintro item member same
    obtain ⟨room, phase, there⟩ := apportioned.readers number item member
    simp [same] at there
  refine ⟨apportioned.sound.after_begin demand, ?_, ?_, ?_⟩
  · intro other room phase there lasts
    rcases push_cases there with ⟨rfl, new⟩ | ⟨-, old⟩
    · have nothing : phase.copied = [] := by
        cases demand <;> cases new
        rfl
      exact ⟨0, nothing ▸ (Stream.Filling.of_nothing_taken unknown 0).to_portion⟩
    · exact apportioned.portions other room phase old lasts
  · intro other room number copied asked there
    rcases push_cases there with ⟨-, new⟩ | ⟨-, old⟩
    · cases demand <;> cases new
    · exact apportioned.fillings other room number copied asked old
  · intro number item member
    obtain ⟨room, phase, there⟩ := apportioned.readers number item member
    exact ⟨room, phase,
      (List.getElem?_append_left (List.getElem?_eq_some_iff.mp there).1).trans there⟩

theorem after_change (become : S.World → S.World) :
    (usage.step T (.change become)).Apportioned := by
  have nothing (caller : Ticket) (number : Nat) :
      ∃ more, (usage.step T (.change become)).stream.output number =
        usage.stream.output number ++ more ∧ ∀ item ∈ more, item.1 ≠ caller :=
    ⟨[], (List.append_nil _).symm, List.forall_mem_nil _⟩
  refine ⟨apportioned.sound.after_change become, ?_, ?_, apportioned.readers⟩
  · intro other room phase there lasts
    obtain ⟨number, portion⟩ := apportioned.portions other room phase there lasts
    exact ⟨number, portion.while_others_take (nothing other)⟩
  · intro other room number copied asked there
    exact (apportioned.fillings other room number copied asked there).while_others_take rfl
      (nothing other)

theorem after_run (actions : List (Action S.World)) : (usage.run T actions).Apportioned :=
  moves_keep Apportioned (fun _ demand apportioned => apportioned.after_begin demand)
    (fun moves apportioned => apportioned.after_move moves)
    (fun drops apportioned => apportioned.after_drop drops)
    (fun _ become apportioned => apportioned.after_change become) apportioned.sound apportioned
      actions

end Apportioned

theorem start_apportioned (config : Configuration) (world : S.World) :
    (start config world).Apportioned :=
  ⟨start_sound config world, nofun, nofun, nofun⟩

/-- Since an earlier moment no read that had ended by then has moved, and no byte has gone to it. -/
structure Succeeds (earlier later : Usage S) : Prop where
  kept : ∀ (ticket : Ticket) (room : Nat) (phase : Phase (ReadStage S.recorded) ReadOutcome),
    earlier.calls[ticket]? = some (.read room phase) → phase.next? .start = none →
      later.calls[ticket]? = some (.read room phase)
  output : ∀ number, ∃ more, later.stream.output number = earlier.stream.output number ++ more ∧
    ∀ item ∈ more, ∀ room phase, earlier.calls[item.1]? = some (.read room phase) →
      phase.next? .start ≠ none

namespace Succeeds

variable {earlier later : Usage S} (succeeds : Succeeds earlier later)
include succeeds

theorem after_move {ticket : Ticket} {after : Usage S} (moves : Moves T later ticket after) :
    Succeeds earlier after := by
  by_cases ended : ∃ room phase, earlier.calls[ticket]? = some (.read room phase) ∧
      phase.next? .start = none
  · obtain ⟨room, phase, found, rested⟩ := ended
    rw [moves.read_ended (succeeds.kept ticket room phase found rested) rested]
    exact succeeds
  · constructor
    · intro other room phase found rested
      have different : other ≠ ticket := by
        rintro rfl
        exact ended ⟨room, phase, found, rested⟩
      rw [moves.calls_other different]
      exact succeeds.kept other room phase found rested
    · intro number
      obtain ⟨more, grown, others⟩ := succeeds.output number
      obtain ⟨fresh, added, mine⟩ := moves.output_grows number
      refine ⟨more ++ fresh, by rw [added, grown, List.append_assoc], ?_⟩
      intro item member room phase found
      rcases List.mem_append.mp member with old | new
      · exact others item old room phase found
      · intro rested
        exact ended ⟨room, phase, mine item new ▸ found, rested⟩

theorem after_drop {ticket : Ticket} {after : Usage S} (drops : Drops T later ticket after) :
    Succeeds earlier after := by
  refine ⟨?_, drops.output_same ▸ succeeds.output⟩
  intro other room phase found ended
  have there := succeeds.kept other room phase found ended
  by_cases same : other = ticket
  · subst same
    rw [drops.read_ended there ended]
    exact there
  · rw [drops.calls_other same]
    exact there

theorem after_begin (demand : Demand) : Succeeds earlier (later.step T (.begin demand)) := by
  refine ⟨?_, succeeds.output⟩
  intro ticket room phase found ended
  have there := succeeds.kept ticket room phase found ended
  exact (List.getElem?_append_left (List.getElem?_eq_some_iff.mp there).1).trans there

end Succeeds

theorem run_succeeds {usage : Usage S} (sound : usage.Sound) (actions : List (Action S.World)) :
    Succeeds usage (usage.run T actions) :=
  moves_keep (Succeeds usage) (fun _ demand succeeds => succeeds.after_begin demand)
    (fun moves succeeds => succeeds.after_move moves)
    (fun drops succeeds => succeeds.after_drop drops)
    (fun _ _ succeeds => ⟨succeeds.kept, succeeds.output⟩) sound
    ⟨fun _ _ _ found _ => found, fun _ => ⟨[], by simp, nofun⟩⟩ actions

/-- What a read had taken when it returned comes before whatever a read takes that had not returned
by then. -/
theorem Apportioned.answers_in_order {earlier later : Usage S} (apportioned : earlier.Apportioned)
    (succeeds : Succeeds earlier later) {first second : Ticket} {room space : Nat}
    {outcome answer : ReadOutcome}
    (returned : earlier.calls[first]? = some (.read room (.answered outcome)))
    (pending : earlier.calls[second]? ≠ some (.read space (.answered answer)))
    (returns : later.calls[second]? = some (.read space (.answered answer))) (number : Nat)
    (one other : UInt8) :
    ¬ [(second, other), (first, one)].Sublist (later.stream.output number) := by
  intro inOrder
  have different : first ≠ second := by
    rintro rfl
    have kept := succeeds.kept first room _ returned rfl
    exact pending (returned.trans (kept.symm.trans returns))
  obtain ⟨more, grown, unreturned⟩ := succeeds.output number
  -- Nothing has gone to the first since, so both bytes had been taken when it had returned.
  have early : [(second, other), (first, one)].Sublist (earlier.stream.output number) := by
    rw [grown] at inOrder
    exact pair_front inOrder fun member => unreturned _ member room _ returned rfl
  have taken : (second, other) ∈ earlier.stream.output number := early.subset (.head _)
  obtain ⟨width, phase, found⟩ := apportioned.readers number _ taken
  have unmoved (ended : phase.next? .start = none) : False := by
    have kept := succeeds.kept second width phase found ended
    cases Option.some.inj (kept.symm.trans returns)
    exact pending found
  -- So the second read was under way, and had taken bytes of this message: it was still at it.
  cases phase with
  | answered result => exact unmoved rfl
  | dropped stage => exact unmoved rfl
  | fresh =>
    obtain ⟨message, portion⟩ := apportioned.portions second width _ found nofun
    exact portion.nothing_taken number _ taken rfl
  | waiting stage =>
    obtain ⟨message, portion⟩ := apportioned.portions second width _ found nofun
    cases stage with
    | draining current copied asked =>
      have filling := apportioned.fillings second width current copied asked found
      obtain ⟨before, split, apart⟩ := filling.last
      have here : number = current := by
        by_contra elsewhere
        exact filling.only number elsewhere _ taken rfl
      rw [here, split] at early
      have alone : (first, one) ∉ copied.map (Prod.mk second) := by
        intro member
        obtain ⟨byte, -, same⟩ := List.mem_map.mp member
        exact different (congrArg Prod.fst same).symm
      exact apart _ ((pair_front early alone).subset (.head _)) rfl
    | _ => exact portion.nothing_taken number _ taken rfl

/-- Reads share a message out. In every state that any calls lead to, given up or not, over any
connection: the bytes of every read that has returned, well or with a failure, stand together in
what one message has yielded, and no other byte has gone to that read; and of what a message has
yielded, the bytes of a read that returned earlier come before those of one that returned later. -/
theorem reads_take_portions (T : Transport S) (config : Configuration) (world : S.World)
    (before after : List (Action S.World)) :
    let earlier := (start config world).run T before
    let usage := earlier.run T after
    (∀ ticket room outcome, usage.calls[ticket]? = some (.read room (.answered outcome)) →
      ∃ number, usage.stream.Portion ticket number outcome.data ∧
        outcome.data <:+: usage.stream.givenBy number) ∧
    ∀ first room outcome second space answer,
      earlier.calls[first]? = some (.read room (.answered outcome)) →
      earlier.calls[second]? ≠ some (.read space (.answered answer)) →
      usage.calls[second]? = some (.read space (.answered answer)) →
      ∀ number one other,
        ¬ [(second, other), (first, one)].Sublist (usage.stream.output number) := by
  intro earlier usage
  have apportioned : earlier.Apportioned := (start_apportioned config world).after_run before
  constructor
  · intro ticket room outcome found
    obtain ⟨number, portion⟩ :=
      (apportioned.after_run (T := T) after).portions ticket room _ found nofun
    exact ⟨number, portion, portion.bytes_contiguous⟩
  · intro first room outcome second space answer returned pending returns
    exact apportioned.answers_in_order (run_succeeds apportioned.sound after) returned pending
      returns

/-- Two reads share a message, piece by piece, and the second takes what the first has left. -/
theorem reads_take_portions_shared :
    let earlier := (start (S := Scripted.signature) {} { inbound := [.ok [97, 98, 99]] }).run
      (Scripted.transport { readChunk := some 1 })
      [.begin (.read 2), .begin (.read 2), .poll 0]
    let usage := earlier.run (Scripted.transport { readChunk := some 1 }) [.poll 1]
    earlier.calls[0]? = some (.read 2 (.answered (.filled [97, 98]))) ∧
    earlier.calls[1]? = some (.begin (.read 2)) ∧
    usage.calls[1]? = some (.read 2 (.answered (.filled [99]))) ∧
    (∃ number, usage.stream.Portion 1 number [99] ∧ [99] <:+: usage.stream.givenBy number) ∧
    ¬ [(1, 99), (0, 97)].Sublist (usage.stream.output 0) := by
  intro earlier usage
  have first : earlier.calls[0]? = some (.read 2 (.answered (.filled [97, 98]))) := rfl
  have waiting : earlier.calls[1]? = some (.begin (.read 2)) := rfl
  have second : usage.calls[1]? = some (.read 2 (.answered (.filled [99]))) := rfl
  obtain ⟨portions, inOrder⟩ := reads_take_portions (Scripted.transport { readChunk := some 1 }) {}
    { inbound := [.ok [97, 98, 99]] } [.begin (.read 2), .begin (.read 2), .poll 0] [.poll 1]
  refine ⟨first, waiting, second, portions 1 2 _ second, ?_⟩
  exact inOrder 0 2 _ 1 2 _ first (by rw [waiting]; nofun) second 0 97 99

end Usage

end MessageStream
