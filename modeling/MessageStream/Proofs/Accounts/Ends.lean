import MessageStream.Proofs.Accounts.Calls
import MessageStream.Proofs.Progress.Rounds

/-!
Inbound messages at their end. A reader reports its end when it yields nothing where there was room.
The read that hears of it clears the message and counts it, but only where the message is still
current: another may have been opened in its place meanwhile, or a close may have taken it.
-/
namespace MessageStream

variable {S : Signature} {T : Transport S}

namespace Traffic

/-- The inbound message whose reader reports its end by an entry of the record. -/
def exhausts : Traffic → List Nat
  | .ended _ (.read number room) (.yielded []) => if 0 < room then [number] else []
  | _ => []

def exhausted (traffic : List Traffic) : List Nat := traffic.flatMap exhausts

theorem mem_exhausts {entry : Traffic} {number : Nat} (ends : number ∈ entry.exhausts) :
    ∃ caller room, 0 < room ∧ entry = .ended caller (.read number room) (.yielded []) := by
  unfold exhausts at ends
  split at ends
  · split at ends
    · rename_i roomy
      cases List.mem_singleton.mp ends
      exact ⟨_, _, roomy, rfl⟩
    · cases ends
  · cases ends

theorem mem_exhausted {number : Nat} {traffic : List Traffic} :
    number ∈ exhausted traffic ↔ Finished .inbound number traffic := by
  rw [exhausted, List.mem_flatMap]
  constructor
  · rintro ⟨entry, member, ends⟩
    obtain ⟨caller, room, roomy, rfl⟩ := mem_exhausts ends
    exact ⟨caller, room, roomy, member⟩
  · rintro ⟨caller, room, roomy, member⟩
    refine ⟨_, member, ?_⟩
    simp [exhausts, roomy]

end Traffic

namespace Stream

variable {stream after : Stream S.recorded} {ticket : Ticket}

def exhausted (stream : Stream S.recorded) : List Nat := Traffic.exhausted stream.world.traffic

theorem exhausted_grown {entries : List Traffic}
    (grown : after.world.traffic = stream.world.traffic ++ entries) :
    after.exhausted = stream.exhausted ++ entries.flatMap Traffic.exhausts := by
  rw [exhausted, exhausted, Traffic.exhausted, Traffic.exhausted, grown, List.flatMap_append]

theorem Adds.exhausted_same {makes : Request → Bool} (adds : stream.Adds ticket makes after)
    (apart : ∀ number room, makes (.read number room) = false) :
    after.exhausted = stream.exhausted := by
  obtain ⟨entries, grown, made⟩ := adds
  have none : entries.flatMap Traffic.exhausts = [] := by
    apply List.flatMap_eq_nil_iff.mpr
    intro entry member
    apply List.eq_nil_iff_forall_not_mem.mpr
    intro number ends
    obtain ⟨caller, room, -, rfl⟩ := Traffic.mem_exhausts ends
    exact Bool.false_ne_true ((apart number room).symm.trans (made _ member).2)
  rw [exhausted_grown grown, none, List.append_nil]

/-- What one stretch of a call is to the inbound messages, by where the call stands before it and
after. -/
inductive Receives (stream after : Stream S.recorded) (before : Place) : Place → Prop where
  | rests {now : Place} (told : after.exhausted = stream.exhausted)
      (counted : after.journal.total ⟨.messages, .inbound⟩ =
        stream.journal.total ⟨.messages, .inbound⟩)
      (slot : after.state.inbound = stream.state.inbound)
      (place : ∀ number turn, now = some (number, turn) →
        stream.state.inbound = some number ∨ ∃ turn, before = some (number, turn)) :
    Receives stream after before now
  | opens {number : Nat} {turn : Bool} (told : after.exhausted = stream.exhausted)
      (counted : after.journal.total ⟨.messages, .inbound⟩ =
        stream.journal.total ⟨.messages, .inbound⟩)
      (slot : after.state.inbound = some number)
      (opened : Traffic.Opened .inbound number after.world.traffic) :
    Receives stream after before (some (number, turn))
  | ends {number : Nat} (stood : before = some (number, true))
      (told : after.exhausted = stream.exhausted ++ [number])
      (counted : after.journal.total ⟨.messages, .inbound⟩ =
        stream.journal.total ⟨.messages, .inbound⟩ +
          if stream.state.inbound = some number then 1 else 0)
      (slot : after.state.inbound =
        if stream.state.inbound = some number then none else stream.state.inbound) :
    Receives stream after before none
  | closes (told : after.exhausted = stream.exhausted)
      (counted : after.journal.total ⟨.messages, .inbound⟩ =
        stream.journal.total ⟨.messages, .inbound⟩)
      (slot : after.state.inbound = none) : Receives stream after before none

namespace Receives

theorem of_staying {number : Nat} {was is : Bool} (told : after.exhausted = stream.exhausted)
    (counted : after.journal.total ⟨.messages, .inbound⟩ =
      stream.journal.total ⟨.messages, .inbound⟩)
    (slot : after.state.inbound = stream.state.inbound) :
    stream.Receives after (some (number, was)) (some (number, is)) := by
  refine .rests told counted slot ?_
  rintro other turn ⟨⟩
  exact .inr ⟨was, rfl⟩

theorem of_no_place {before : Place} (told : after.exhausted = stream.exhausted)
    (counted : after.journal.total ⟨.messages, .inbound⟩ =
      stream.journal.total ⟨.messages, .inbound⟩)
    (slot : after.state.inbound = stream.state.inbound) :
    stream.Receives after before none :=
  .rests told counted slot nofun

theorem of_borrow {before now : Place}
    (receives : (stream.borrow ticket).Receives after before now) :
    stream.Receives after before now := by
  cases receives with
  | rests told counted slot place => exact .rests told counted slot place
  | opens told counted slot opened => exact .opens told counted slot opened
  | ends stood told counted slot => exact .ends stood told counted slot
  | closes told counted slot => exact .closes told counted slot

end Receives

end Stream

section Moves

variable {ticket : Ticket} {stream after : Stream S.recorded}

theorem ReaderComes.receives {asked : Option S.ReaderOpening} {before : Place}
    {step : Step (ReadStage S.recorded) ReadOutcome}
    (comes : ReaderComes T ticket asked stream step after) :
    stream.Receives after before (step.place ReadStage.place) := by
  have polled {reply : Option Reply} {later : Stream S.recorded}
      (grown : later.world.traffic =
        stream.world.traffic ++ Traffic.ofPoll ticket .nextReader asked.isSome reply) :
      later.exhausted = stream.exhausted := by
    rw [Stream.exhausted_grown grown, Traffic.ofPoll_flatMap _ (fun _ _ => rfl)]
    cases reply <;> simp [Traffic.exhausts]
  cases comes with
  | waits => exact .of_no_place (polled rfl) rfl rfl
  | fails => exact .of_no_place (polled (Stream.giveBack_traffic T _ ticket)) rfl rfl
  | late closed => exact .of_no_place (polled (Stream.giveBack_traffic T _ ticket)) (by simp) rfl
  | opens standing =>
    refine .opens (polled (Stream.giveBack_traffic T _ ticket)) (by simp) rfl ?_
    refine ⟨ticket, .nextReader, rfl, ?_⟩
    rw [Stream.giveBack_traffic]
    exact List.mem_append_right _ (List.mem_append_right _ (.head _))

theorem ReadMove.receives {room : Nat} {stage : ReadStage S.recorded}
    {step : Step (ReadStage S.recorded) ReadOutcome}
    (move : ReadMove T room ticket stage stream step after) (roomy : stage.Roomy room) :
    stream.Receives after stage.place (step.place ReadStage.place) := by
  -- Only a reader that yields nothing where there is room reports its end.
  have polled {number space : Nat} {resumed : Bool} {reply : Option Reply}
      {later : Stream S.recorded} (grown : later.world.traffic =
        stream.world.traffic ++ Traffic.ofPoll ticket (.read number space) resumed reply)
      (going : reply ≠ some (.yielded [])) :
      later.exhausted = stream.exhausted := by
    rw [Stream.exhausted_grown grown, Traffic.ofPoll_flatMap _ (fun _ _ => rfl)]
    cases reply with
    | none => exact List.append_nil _
    | some reply =>
      cases reply with
      | yielded bytes =>
        cases bytes with
        | nil => exact absurd rfl going
        | cons first rest => exact List.append_nil _
      | _ => exact List.append_nil _
  have ends {number space : Nat} {resumed : Bool} {later : Stream S.recorded}
      (space_left : 0 < space)
      (grown : later.world.traffic = stream.world.traffic ++
        Traffic.ofPoll ticket (.read number space) resumed (some (.yielded []))) :
      later.exhausted = stream.exhausted ++ [number] := by
    rw [Stream.exhausted_grown grown, Traffic.ofPoll_flatMap _ (fun _ _ => rfl)]
    simp [Traffic.exhausts, space_left]
  have counts (current : Bool) (filled : Nat) (stream : Stream S.recorded) :
      (stream.recordIf current (.inboundExhausted filled)).journal.total ⟨.messages, .inbound⟩ =
        stream.journal.total ⟨.messages, .inbound⟩ + if current then 1 else 0 := by
    cases current <;> simp [Stream.recordIf, Event.amount, Counters.change?]
  cases move with
  | refused closed => exact .of_no_place rfl rfl rfl
  | idles standing roomless => exact .of_no_place rfl rfl rfl
  | joins standing needed current =>
    refine .rests rfl rfl rfl ?_
    rintro number turn ⟨⟩
    exact .inl current
  | asks standing needed vacant comes => exact comes.receives.of_borrow
  | hears comes => exact comes.receives
  | queues blocked => exact .of_staying rfl rfl rfl
  | enters turn => exact .of_staying rfl rfl rfl
  | pends found => exact .of_staying (polled rfl (Option.some_ne_none _).symm) rfl rfl
  | fails found =>
    exact .of_no_place (polled rfl (by simp)) (by simp [Event.amount, Counters.change?]) rfl
  | goesOn found here gained short => exact .of_staying (polled rfl (by simpa using gained)) rfl rfl
  | fulfils found here gained full =>
    exact .of_no_place (polled rfl (by simpa using gained))
      (by simp [Event.amount, Counters.change?]) rfl
  | passes found => exact .ends rfl (ends roomy rfl) (by simp [counts]) rfl
  | ends found here gained =>
    refine .ends rfl (ends (Nat.sub_pos_of_lt roomy) rfl) ?_ rfl
    simp [counts, Event.amount, Counters.change?]

theorem CloseMove.receives {stage : CloseStage S.recorded} {before : Place}
    {step : Step (CloseStage S.recorded) CloseOutcome}
    (move : CloseMove T ticket stage stream step after) : stream.Receives after before none := by
  have told := move.adds.exhausted_same fun _ _ => rfl
  rcases move.inbound_same_or_closed with same | ⟨-, taken⟩
  · exact .of_no_place told move.journal_total same
  · exact .closes told move.journal_total taken

theorem ReadDrop.exhausted_same {stage : ReadStage S.recorded}
    (drop : ReadDrop T ticket stage stream after) : after.exhausted = stream.exhausted := by
  have cancelled {request : Request} {later : Stream S.recorded}
      (grown : later.world.traffic = stream.world.traffic ++ [.cancelled ticket request]) :
      later.exhausted = stream.exhausted :=
    (Stream.exhausted_grown grown).trans (List.append_nil _)
  cases drop with
  | starts => rfl
  | asks => exact cancelled (Stream.giveBack_traffic T _ ticket)
  | leaves stands => rfl
  | breaksOff stands => exact cancelled rfl

end Moves

namespace Usage

variable {config : Configuration} {usage after : Usage S} {ticket : Ticket}

theorem Moves.receives (moves : Moves T usage ticket after) (booked : usage.Booked config)
    (paced : usage.Paced) :
    usage.stream.Receives after.stream (usage.place .inbound ticket)
      (after.place .inbound ticket) := by
  cases moves with
  | rests => exact .rests rfl rfl rfl fun _ turn stands => .inr ⟨turn, stands⟩
  | reads found next move =>
    rw [place_found found, place_found (found_set found)]
    simp only [Direction.place, Call.reader, Phase.place_ofStep,
      Phase.place_next ReadStage.place .start rfl next]
    exact move.receives ((paced.frugal ticket _ found).1 _ next)
  | writes found next move =>
    rw [place_found found, place_found (found_set found)]
    have unskipped := booked.unskipped ticket _ _ found _ next
    rw [← booked.configured] at unskipped
    refine .of_no_place (move.adds.exhausted_same fun _ _ => rfl) ?_ move.inbound_same
    exact move.journal_total unskipped
  | closes found next move =>
    rw [place_found found, place_found (found_set found)]
    exact move.receives

theorem Drops.nothing_received (drops : Drops T usage ticket after) :
    after.stream.exhausted = usage.stream.exhausted ∧
      after.stream.journal = usage.stream.journal ∧
      after.stream.state.inbound = usage.stream.state.inbound ∧
      ∀ place, after.place .inbound ticket = some place →
        usage.place .inbound ticket = some place := by
  have gone {call become : Call S.recorded} {stream : Stream S.recorded} {place : Nat × Bool}
      (found : usage.calls[ticket]? = some call) (away : Direction.inbound.place become = none)
      (stands : (⟨stream, usage.calls.set ticket become⟩ : Usage S).place .inbound ticket =
        some place) : usage.place .inbound ticket = some place := by
    rw [place_found (found_set found), away] at stands
    cases stands
  cases drops with
  | rests => exact ⟨rfl, rfl, rfl, fun _ stands => stands⟩
  | forgets demand found =>
    exact ⟨rfl, rfl, rfl, fun _ => gone found (by cases demand <;> rfl)⟩
  | reads found drop =>
    exact ⟨drop.exhausted_same, drop.journal_same, (drop.same_messages .inbound).2,
      fun _ => gone found rfl⟩
  | writes found drop =>
    exact ⟨drop.adds.exhausted_same fun _ _ => rfl, drop.journal_same, drop.inbound_same,
      fun _ => gone found rfl⟩
  | closes found drop =>
    exact ⟨drop.adds.exhausted_same fun _ _ => rfl, drop.journal_same,
      (drop.same_messages .inbound).2,
      fun _ => gone found rfl⟩

end Usage

end MessageStream
