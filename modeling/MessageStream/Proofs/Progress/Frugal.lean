import MessageStream.Proofs.Inbound.Delivery
import MessageStream.Proofs.Outbound.Shares
import MessageStream.Proofs.Progress.Passing

/-!
How often a call calls the connection. Each call to the reader of a message brings the read a byte,
or is the last that it makes to that reader; so a read makes no more of them than it has room for.
Each call to the writer of a message takes a byte of the write, or is the last; so a write makes no
more of them than it has bytes.
-/
namespace MessageStream

variable {S : Signature} {T : Transport S}

def Request.drains (number : Nat) : Request → Bool
  | .read message _ => message == number
  | _ => false

def Traffic.begunBy (caller : Ticket) (makes : Request → Bool) : Traffic → Bool
  | .begun other request => other == caller && makes request
  | _ => false

/-- How many calls of a kind the caller has begun. -/
def Stream.begunBy (stream : Stream S.recorded) (caller : Ticket) (makes : Request → Bool) : Nat :=
  stream.world.traffic.countP (Traffic.begunBy caller makes)

theorem Traffic.ofPoll_begunBy (caller ticket : Ticket) (makes : Request → Bool) (request : Request)
    (resumed : Bool) (reply : Option Reply) :
    (Traffic.ofPoll ticket request resumed reply).countP (Traffic.begunBy caller makes) =
      (!resumed && (ticket == caller && makes request)).toNat := by
  have ended : (reply.map (Traffic.ended ticket request)).toList.countP
      (Traffic.begunBy caller makes) = 0 := by
    cases reply <;> simp [Traffic.begunBy]
  rw [Traffic.ofPoll, List.countP_append, ended]
  cases resumed with
  | true => rfl
  | false => cases here : (ticket == caller && makes request) <;> simp [Traffic.begunBy, here]

section Counts

variable {ticket caller : Ticket} {stream after : Stream S.recorded} {makes asked : Request → Bool}

theorem Stream.begunBy_same (same : after.world.traffic = stream.world.traffic) :
    after.begunBy caller makes = stream.begunBy caller makes := by
  rw [begunBy, begunBy, same]

theorem Stream.begunBy_polled {request : Request} {resumed : Bool} {reply : Option Reply}
    (grown : after.world.traffic =
      stream.world.traffic ++ Traffic.ofPoll ticket request resumed reply) :
    after.begunBy caller makes = stream.begunBy caller makes +
      (!resumed && (ticket == caller && makes request)).toNat := by
  rw [begunBy, begunBy, grown, List.countP_append, Traffic.ofPoll_begunBy]

theorem Stream.Adds.begunBy_same (adds : stream.Adds ticket makes after)
    (silent : caller ≠ ticket ∨ ∀ request, makes request = true → asked request = false) :
    after.begunBy caller asked = stream.begunBy caller asked := by
  obtain ⟨entries, grown, made⟩ := adds
  have none : entries.countP (Traffic.begunBy caller asked) = 0 := by
    apply List.countP_eq_zero.mpr
    intro entry member counted
    obtain ⟨mine, makes⟩ := made entry member
    cases entry with
    | begun other request =>
      obtain ⟨same, asks⟩ : other = caller ∧ asked request = true := by
        simpa [Traffic.begunBy] using counted
      rcases silent with different | never
      · exact different (same.symm.trans mine)
      · cases asks.symm.trans (never request makes)
    | ended other request reply => cases counted
    | cancelled other request => cases counted
  rw [Stream.begunBy, Stream.begunBy, grown, List.countP_append, none, Nat.add_zero]

theorem Stream.begunBy_cancelled {request : Request}
    (grown : after.world.traffic = stream.world.traffic ++ [.cancelled ticket request]) :
    after.begunBy caller makes = stream.begunBy caller makes := by
  simp [begunBy, grown, Traffic.begunBy]

end Counts

/-- How many calls a read may have made to the reader of a message by now: none before its turn, and
then one for each byte, and one that is under way. -/
def ReadStage.calls (number : Nat) : ReadStage S → Nat
  | .draining message copied stage =>
    if message = number then copied.length + stage.isSome.toNat else 0
  | _ => 0

/-- How many calls a write may have made to fill its message by now. -/
def WriteStage.Frugal (data : Bytes) (calls : Nat) : WriteStage S → Prop
  | .filling _ written stage => written < data.length ∧ calls ≤ written + stage.isSome.toNat
  | .finishing _ _ _ _ => calls ≤ data.length
  | _ => calls = 0

section Moves

variable {ticket : Ticket} {stream after : Stream S.recorded}

theorem ReadStage.calls_away {stage : ReadStage S} {number : Nat}
    (away : stage.place ≠ some (number, true)) : stage.calls number = 0 := by
  cases stage with
  | draining message copied stage =>
    refine if_neg ?_
    rintro rfl
    exact away rfl
  | _ => rfl

theorem ReaderComes.begunBy_same {asked : Option S.ReaderOpening}
    {step : Step (ReadStage S.recorded) ReadOutcome}
    (comes : ReaderComes T ticket asked stream step after) (caller : Ticket) (number : Nat) :
    after.begunBy caller (Request.drains number) =
      stream.begunBy caller (Request.drains number) := by
  have polled {reply : Option Reply} {later : Stream S.recorded}
      (grown : later.world.traffic =
        stream.world.traffic ++ Traffic.ofPoll ticket .nextReader asked.isSome reply) :
      later.begunBy caller (Request.drains number) =
        stream.begunBy caller (Request.drains number) := by
    rw [Stream.begunBy_polled grown]
    simp [Request.drains]
  cases comes with
  | waits => exact polled rfl
  | fails => exact polled (Stream.giveBack_traffic T _ ticket)
  | late closed => exact polled (Stream.giveBack_traffic T _ ticket)
  | opens standing => exact polled (Stream.giveBack_traffic T _ ticket)

theorem ReadMove.calls_reader {room number : Nat} {copied : Bytes} {stage : Option S.Reading}
    {step : Step (ReadStage S.recorded) ReadOutcome}
    (move : ReadMove T room ticket (.draining number copied stage) stream step after) :
    ∃ reply, after.world.traffic = stream.world.traffic ++
      Traffic.ofPoll ticket (.read number (room - copied.length)) stage.isSome reply := by
  cases move <;> exact ⟨_, rfl⟩

theorem ReadMove.begunBy_away {room number : Nat} {stage : ReadStage S.recorded}
    {step : Step (ReadStage S.recorded) ReadOutcome}
    (move : ReadMove T room ticket stage stream step after)
    (away : stage.place ≠ some (number, true)) (caller : Ticket) :
    after.begunBy caller (Request.drains number) =
      stream.begunBy caller (Request.drains number) := by
  cases stage with
  | start =>
    cases move with
    | asks standing roomy vacant comes => exact comes.begunBy_same caller number
    | _ => exact Stream.begunBy_same rfl
  | opening stage =>
    cases move with
    | hears comes => exact comes.begunBy_same caller number
  | queued message => cases move <;> exact Stream.begunBy_same rfl
  | draining message copied stage =>
    obtain ⟨reply, grown⟩ := move.calls_reader
    have other : message ≠ number := by
      rintro rfl
      exact away rfl
    rw [Stream.begunBy_polled grown]
    simp [Request.drains, other]

/-- A stretch of a read keeps to its bound, and leaves a message exhausted where it starts over. -/
theorem ReadMove.frugal {room number : Nat} {stage : ReadStage S.recorded}
    {step : Step (ReadStage S.recorded) ReadOutcome}
    (move : ReadMove T room ticket stage stream step after) (roomy : stage.Roomy room)
    (few : stream.begunBy ticket (Request.drains number) ≤ stage.calls number) :
    after.begunBy ticket (Request.drains number) ≤ room ∧
      ∀ next, (Phase.ofStep step).next? .start = some next →
        after.begunBy ticket (Request.drains number) ≤ next.calls number ∨
          next = .start ∧ stage.place = some (number, true) := by
  by_cases turn : stage.place = some (number, true)
  · obtain ⟨copied, stage, rfl⟩ : ∃ copied inner, stage = .draining number copied inner := by
      cases stage <;> cases turn
      exact ⟨_, _, rfl⟩
    obtain ⟨reply, grown⟩ := move.calls_reader
    have short : copied.length < room := roomy
    -- A call under way has been counted when it was begun.
    have counted : after.begunBy ticket (Request.drains number) ≤ copied.length + 1 := by
      rw [Stream.begunBy_polled grown]
      simp only [ReadStage.calls, if_pos] at few
      cases stage <;> simp [Request.drains] at few ⊢ <;> omega
    refine ⟨Nat.le_trans counted short, ?_⟩
    intro next goes
    cases move with
    | pends found polled =>
      cases goes
      exact .inl (by simpa [ReadStage.calls] using counted)
    | goesOn found polled gained shorter =>
      cases goes
      have some := List.length_pos_iff.mpr gained
      left
      simp only [ReadStage.calls, if_pos, List.length_append]
      omega
    | passes found polled =>
      cases goes
      exact .inr ⟨rfl, turn⟩
    | _ => cases goes
  · have none : after.begunBy ticket (Request.drains number) = 0 := by
      rw [move.begunBy_away turn]
      exact Nat.le_zero.mp (ReadStage.calls_away turn ▸ few)
    rw [none]
    exact ⟨Nat.zero_le _, fun _ _ => .inl (Nat.zero_le _)⟩

theorem Write.fillOrFinish_frugal {data : Bytes} {number written calls : Nat}
    (few : calls ≤ written) (bounded : calls ≤ data.length) :
    (Write.fillOrFinish data number written : WriteStage S).Frugal data calls := by
  unfold Write.fillOrFinish
  split
  · rename_i short
    exact ⟨short, few⟩
  · exact bounded

theorem WriteMove.calls_writer {data : Bytes} {number written : Nat} {stage : Option S.Writing}
    {step : Step (WriteStage S.recorded) WriteOutcome}
    (move : WriteMove T data ticket (.filling number written stage) stream step after) :
    ∃ reply, after.world.traffic = stream.world.traffic ++
      Traffic.ofPoll ticket (.write number (data.drop written)) stage.isSome reply := by
  cases move <;> exact ⟨_, rfl⟩

theorem Stream.begunBy_filled {data rest : Bytes} {number written : Nat} {stage : Option S.Writing}
    {reply : Option Reply} (frugal : (WriteStage.filling number written stage :
      WriteStage S.recorded).Frugal data (stream.begunBy ticket Request.fills))
    (grown : after.world.traffic = stream.world.traffic ++
      Traffic.ofPoll ticket (.write number rest) stage.isSome reply) :
    after.begunBy ticket Request.fills ≤ written + 1 ∧ written < data.length := by
  obtain ⟨short, few⟩ := frugal
  refine ⟨?_, short⟩
  rw [Stream.begunBy_polled grown]
  cases stage <;> simp [Request.fills] at few ⊢ <;> omega

theorem WriteStage.Frugal.calls_le {data : Bytes} {calls : Nat} {stage : WriteStage S}
    (frugal : stage.Frugal data calls) : calls ≤ data.length := by
  cases stage with
  | filling number written stage =>
    obtain ⟨short, few⟩ := frugal
    have one := Bool.toNat_le stage.isSome
    omega
  | finishing number written failure stage => exact frugal
  | _ => exact Nat.le_trans (Nat.le_of_eq frugal) (Nat.zero_le _)

theorem WriterComes.frugal {data : Bytes} {resumed : Bool} {calls : Nat}
    {step : Step (WriteStage S.recorded) WriteOutcome}
    (comes : WriterComes T ticket resumed stream step after) (none : calls = 0) :
    after.begunBy ticket Request.fills = stream.begunBy ticket Request.fills ∧
      ∀ next, (Phase.ofStep step).next? .start = some next → next.Frugal data calls := by
  constructor
  · have adds : stream.Adds ticket Direction.outbound.asks after := comes.adds fun _ => rfl
    refine adds.begunBy_same (.inr ?_)
    intro request asks
    cases request <;> first | rfl | cases asks
  · intro next goes
    cases comes <;> cases goes <;> exact none

theorem FinishComes.begunBy_fills {number : Nat} {resumed : Bool}
    {progress : Progress S.Finishing (Except Failure Unit)}
    (comes : FinishComes T ticket number resumed stream progress after) (caller : Ticket) :
    after.begunBy caller Request.fills = stream.begunBy caller Request.fills := by
  have adds : stream.Adds ticket (fun request => !request.fills) after := comes.adds rfl
  exact adds.begunBy_same (.inr fun request made => by simpa using made)

theorem WriteMove.frugal {data : Bytes} {stage : WriteStage S.recorded}
    {step : Step (WriteStage S.recorded) WriteOutcome}
    (move : WriteMove T data ticket stage stream step after)
    (frugal : stage.Frugal data (stream.begunBy ticket Request.fills)) :
    after.begunBy ticket Request.fills ≤ data.length ∧
      ∀ next, (Phase.ofStep step).next? .start = some next →
        next.Frugal data (after.begunBy ticket Request.fills) := by
  -- Only a poll of the writer is counted, and only a write that is filling makes one.
  have unchanged
      (same : after.begunBy ticket Request.fills = stream.begunBy ticket Request.fills)
      (goesOn : ∀ next, (Phase.ofStep step).next? .start = some next →
        next.Frugal data (stream.begunBy ticket Request.fills)) :
      after.begunBy ticket Request.fills ≤ data.length ∧
        ∀ next, (Phase.ofStep step).next? .start = some next →
          next.Frugal data (after.begunBy ticket Request.fills) := by
    rw [same]
    exact ⟨frugal.calls_le, goesOn⟩
  have filled {number written : Nat} {inner : Option S.Writing}
      (fills : stage = .filling number written inner) :
      after.begunBy ticket Request.fills ≤ written + 1 ∧ written < data.length := by
    subst fills
    obtain ⟨reply, grown⟩ := move.calls_writer
    exact Stream.begunBy_filled frugal grown
  have retired {number : Nat} {middle : Stream S.recorded} :
      (middle.retireWriter T.recorded number ticket).begunBy ticket Request.fills =
        middle.begunBy ticket Request.fills :=
    Stream.begunBy_same (Stream.retireWriter_traffic T middle number ticket)
  cases move with
  | refused closed => exact unchanged rfl nofun
  | skips standing skipped => exact unchanged rfl nofun
  | joins standing sent current => exact unchanged rfl (by rintro next ⟨⟩; exact frugal)
  | asks standing sent vacant comes =>
    obtain ⟨same, goesOn⟩ := comes.frugal frugal
    exact unchanged same goesOn
  | hears comes =>
    obtain ⟨same, goesOn⟩ := comes.frugal frugal
    exact unchanged same goesOn
  | discardPends comes =>
    exact unchanged (comes.begunBy_fills ticket) (by rintro next ⟨⟩; exact frugal)
  | discards comes =>
    refine unchanged (Eq.trans (Stream.begunBy_same ?_) (comes.begunBy_fills ticket)) nofun
    exact (Stream.giveBack_traffic T _ ticket).trans (Stream.leaveWriter_traffic T _ _ ticket)
  | queues blocked => exact unchanged rfl (by rintro next ⟨⟩; exact frugal)
  | retires turn found finished =>
    exact unchanged retired (by rintro next ⟨⟩; exact frugal)
  | enters turn found unfinished =>
    refine unchanged rfl ?_
    rintro next ⟨⟩
    exact Write.fillOrFinish_frugal (Nat.le_of_eq frugal) frugal.calls_le
  | pends found polled =>
    obtain ⟨counted, short⟩ := filled rfl
    refine ⟨Nat.le_trans counted short, ?_⟩
    rintro next ⟨⟩
    exact ⟨short, counted⟩
  | breaks found polled =>
    obtain ⟨counted, short⟩ := filled rfl
    have bounded := Nat.le_trans counted short
    exact ⟨bounded, by rintro next ⟨⟩; exact bounded⟩
  | takes found polled gained =>
    obtain ⟨counted, short⟩ := filled rfl
    have bounded := Nat.le_trans counted short
    refine ⟨bounded, ?_⟩
    rintro next ⟨⟩
    exact Write.fillOrFinish_frugal
      (Nat.le_trans counted (Nat.add_le_add_left (Nat.one_le_iff_ne_zero.mpr gained) _)) bounded
  | stalls found polled =>
    obtain ⟨counted, short⟩ := filled rfl
    have bounded := Nat.le_trans counted short
    exact ⟨bounded, by rintro next ⟨⟩; exact bounded⟩
  | finishPends comes =>
    exact unchanged (comes.begunBy_fills ticket) (by rintro next ⟨⟩; exact frugal)
  | failed comes => exact unchanged (retired.trans (comes.begunBy_fills ticket)) nofun
  | finishFails comes => exact unchanged (retired.trans (comes.begunBy_fills ticket)) nofun
  | delivers comes => exact unchanged (retired.trans (comes.begunBy_fills ticket)) nofun

theorem ReadDrop.begunBy_same {stage : ReadStage S.recorded}
    (drop : ReadDrop T ticket stage stream after) (caller : Ticket) (makes : Request → Bool) :
    after.begunBy caller makes = stream.begunBy caller makes := by
  cases drop with
  | starts => rfl
  | asks => exact Stream.begunBy_cancelled (Stream.giveBack_traffic T _ ticket)
  | leaves stands => exact Stream.begunBy_same rfl
  | breaksOff stands => exact Stream.begunBy_cancelled rfl

theorem BreakOff.begunBy_same {number : Nat} {request : Option Request}
    (breaks : BreakOff ticket number stream request after) (caller : Ticket)
    (makes : Request → Bool) : after.begunBy caller makes = stream.begunBy caller makes := by
  cases breaks with
  | idle => rfl
  | busy found => exact Stream.begunBy_cancelled rfl

theorem WriteDrop.begunBy_same {data : Bytes} {stage : WriteStage S.recorded}
    (drop : WriteDrop T data ticket stage stream after) (caller : Ticket)
    (makes : Request → Bool) : after.begunBy caller makes = stream.begunBy caller makes := by
  cases drop with
  | starts => rfl
  | asks => exact Stream.begunBy_cancelled (Stream.giveBack_traffic T _ ticket)
  | leaves stands breaks =>
    exact (Stream.begunBy_same (Stream.leaveWriter_traffic T _ _ ticket)).trans
      (breaks.begunBy_same caller makes)
  | discards breaks =>
    refine Eq.trans (Stream.begunBy_same ?_) (breaks.begunBy_same caller makes)
    exact (Stream.giveBack_traffic T _ ticket).trans (Stream.leaveWriter_traffic T _ _ ticket)

theorem CloseDrop.begunBy_same {stage : CloseStage S.recorded}
    (drop : CloseDrop T ticket stage stream after) (caller : Ticket) (makes : Request → Bool) :
    after.begunBy caller makes = stream.begunBy caller makes := by
  cases drop with
  | starts => rfl
  | leaves stands breaks =>
    refine Eq.trans (Stream.begunBy_same ?_) (breaks.begunBy_same caller makes)
    simp
  | rests => exact Stream.begunBy_same (Stream.giveBack_traffic T _ ticket)
  | shuts => exact Stream.begunBy_cancelled (Stream.giveBack_traffic T _ ticket)

end Moves

end MessageStream
