import MessageStream.Proofs.Usage.Record

/-!
Failures are one's own. A call fails, or goes on with a failure in hand, only after the record shows
that a call it made on the connection failed with that very failure, or that a message took none of
its bytes.
-/
namespace MessageStream

variable {S : Signature} {T : Transport S}

def Traffic.failure? : Traffic → Option Failure
  | .ended _ _ (.failed source) => some source
  | .ended _ (.write _ _) (.accepted 0) => some (.bare .writeZero)
  | _ => none

/-- The failure with which a call has come back, or which it will report once it has finished its
message. -/
def Call.cause? : Call S → Option Failure
  | .read _ (.answered (.broken _ source)) => some source
  | .write _ (.waiting (.finishing _ _ failure _)) => failure
  | .write _ (.answered (.error (.transport _ source))) => some source
  | .close (.answered (.error (.transport _ source))) => some source
  | _ => none

/-- The record shows that a call of the caller's failed so. -/
def Stream.Blames (stream : Stream S.recorded) (caller : Ticket) (source : Failure) : Prop :=
  ∃ entry ∈ stream.world.traffic, entry.caller = caller ∧ entry.failure? = some source

theorem Stream.blames_last {stream after : Stream S.recorded} {caller : Ticket} {request : Request}
    {resumed : Bool} {reply : Reply} {source : Failure}
    (grown : after.world.traffic =
      stream.world.traffic ++ Traffic.ofPoll caller request resumed (some reply))
    (told : (Traffic.ended caller request reply).failure? = some source) :
    after.Blames caller source := by
  refine ⟨_, ?_, rfl, told⟩
  rw [grown, Traffic.ofPoll]
  simp

theorem Stream.Blames.of_adds {stream after : Stream S.recorded} {ticket caller : Ticket}
    {makes : Request → Bool} {source : Failure} (blames : stream.Blames caller source)
    (adds : stream.Adds ticket makes after) : after.Blames caller source := by
  obtain ⟨entry, member, mine, told⟩ := blames
  obtain ⟨entries, grown, -⟩ := adds
  exact ⟨entry, grown ▸ List.mem_append_left _ member, mine, told⟩

theorem Stream.Blames.of_same_traffic {stream after : Stream S.recorded} {caller : Ticket}
    {source : Failure}
    (blames : stream.Blames caller source)
    (same : after.world.traffic = stream.world.traffic) : after.Blames caller source := by
  rw [Blames, same]
  exact blames

section Moves

variable {ticket : Ticket} {stream after : Stream S.recorded} {source : Failure}

theorem ReaderComes.blames {room : Nat} {asked : Option S.ReaderOpening}
    {step : Step (ReadStage S.recorded) ReadOutcome}
    (comes : ReaderComes T ticket asked stream step after)
    (fails : (Call.read room (.ofStep step) : Call S.recorded).cause? = some source) :
    after.Blames ticket source := by
  cases comes with
  | fails =>
    cases fails
    exact Stream.blames_last (Stream.giveBack_traffic T _ ticket) rfl
  | _ => cases fails

theorem ReadMove.blames {room : Nat} {stage : ReadStage S.recorded}
    {step : Step (ReadStage S.recorded) ReadOutcome}
    (move : ReadMove T room ticket stage stream step after)
    (fails : (Call.read room (.ofStep step) : Call S.recorded).cause? = some source) :
    after.Blames ticket source := by
  cases move with
  | asks standing roomy vacant comes => exact comes.blames fails
  | hears comes => exact comes.blames fails
  | fails found polled =>
    cases fails
    exact Stream.blames_last rfl rfl
  | _ => cases fails

theorem WriterComes.blames {data : Bytes} {resumed : Bool}
    {step : Step (WriteStage S.recorded) WriteOutcome}
    (comes : WriterComes T ticket resumed stream step after)
    (fails : (Call.write data (.ofStep step) : Call S.recorded).cause? = some source) :
    after.Blames ticket source := by
  cases comes with
  | fails =>
    cases fails
    exact Stream.blames_last (Stream.giveBack_traffic T _ ticket) rfl
  | _ => cases fails

theorem FinishComes.blames {number : Nat} {resumed : Bool}
    (comes : FinishComes T ticket number resumed stream (.ready (.error source)) after) :
    after.Blames ticket source := by
  cases comes with
  | polls found unsettled => exact Stream.blames_last rfl rfl

theorem Write.fillOrFinish_failure (data : Bytes) (number written : Nat) :
    (Call.write data (.waiting (fillOrFinish data number written)) : Call S).cause? = none := by
  unfold fillOrFinish
  split <;> rfl

theorem WriteMove.blames {data : Bytes} {stage : WriteStage S.recorded}
    {step : Step (WriteStage S.recorded) WriteOutcome}
    (move : WriteMove T data ticket stage stream step after)
    (held : ∀ source, (Call.write data (.waiting stage)).cause? = some source →
      stream.Blames ticket source)
    (fails : (Call.write data (.ofStep step)).cause? = some source) :
    after.Blames ticket source := by
  have grows := move.adds
  cases move with
  | asks standing sent vacant comes => exact comes.blames fails
  | hears comes => exact comes.blames fails
  | enters turn found unfinished =>
    rw [Phase.ofStep, Write.fillOrFinish_failure] at fails
    cases fails
  | breaks found =>
    cases fails
    exact Stream.blames_last rfl rfl
  | takes found polled gained =>
    rw [Phase.ofStep, Write.fillOrFinish_failure] at fails
    cases fails
  | stalls found =>
    cases fails
    exact Stream.blames_last rfl rfl
  | finishPends comes => exact (held source fails).of_adds grows
  | failed comes =>
    cases fails
    exact (held _ rfl).of_adds grows
  | finishFails comes =>
    cases fails
    exact comes.blames.of_same_traffic (by simp)
  | _ => cases fails

theorem CloseMove.blames {stage : CloseStage S.recorded}
    {step : Step (CloseStage S.recorded) CloseOutcome}
    (move : CloseMove T ticket stage stream step after)
    (fails : (Call.close (.ofStep step) : Call S.recorded).cause? = some source) :
    after.Blames ticket source := by
  cases move with
  | takesIdle vacant shuts => cases shuts <;> cases fails
  | finishFails comes =>
    cases fails
    exact comes.blames.of_same_traffic (by simp)
  | finishes comes shuts => cases shuts <;> cases fails
  | fails =>
    cases fails
    exact Stream.blames_last (Stream.giveBack_traffic T _ ticket) rfl
  | _ => cases fails

end Moves

namespace Usage

/-- Every failure of a call is one that the record shows of a call it made. -/
def Blamed (usage : Usage S) : Prop :=
  ∀ caller call source, usage.calls[caller]? = some call → call.cause? = some source →
    usage.stream.Blames caller source

namespace Blamed

variable {usage : Usage S} (blamed : usage.Blamed)
include blamed

theorem after_touch {ticket : Ticket} {become : Call S.recorded} {after : Stream S.recorded}
    {makes : Request → Bool} (adds : usage.stream.Adds ticket makes after)
    (blames : ∀ source, become.cause? = some source → after.Blames ticket source) :
    Blamed (⟨after, usage.calls.set ticket become⟩ : Usage S) := by
  intro caller other source there fails
  rcases set_cases there with ⟨rfl, rfl⟩ | ⟨-, before⟩
  · exact blames source fails
  · exact (blamed caller other source before fails).of_adds adds

theorem after_move {ticket : Ticket} {after : Usage S} (moves : Moves T usage ticket after) :
    after.Blamed := by
  cases moves with
  | rests => exact blamed
  | reads found next move => exact blamed.after_touch move.adds fun _ => move.blames
  | writes found next move =>
    rename_i data phase stage step stream
    refine blamed.after_touch move.adds fun _ => move.blames ?_
    intro source fails
    cases phase <;> cases next
    · cases fails
    · exact blamed ticket _ source found fails
  | closes found next move => exact blamed.after_touch move.adds fun _ => move.blames

theorem after_drop {ticket : Ticket} {after : Usage S} (drops : Drops T usage ticket after) :
    after.Blamed := by
  cases drops with
  | rests => exact blamed
  | forgets demand found =>
    have nothing : usage.stream.Adds ticket (fun _ => false) usage.stream := .of_same_traffic rfl
    refine blamed.after_touch nothing ?_
    cases demand <;> nofun
  | reads found drop => exact blamed.after_touch drop.adds nofun
  | writes found drop => exact blamed.after_touch drop.adds nofun
  | closes found drop => exact blamed.after_touch drop.adds nofun

theorem after_begin (demand : Demand) : (usage.step T (.begin demand)).Blamed := by
  intro caller call source found fails
  rcases push_cases found with ⟨-, rfl⟩ | ⟨-, before⟩
  · cases demand <;> cases fails
  · exact blamed caller call source before fails

theorem after_run (sound : usage.Sound) (actions : List (Action S.World)) :
    (usage.run T actions).Blamed :=
  moves_keep Blamed (fun _ demand blamed => blamed.after_begin demand)
    (fun moves blamed => blamed.after_move moves) (fun drops blamed => blamed.after_drop drops)
    (fun _ _ blamed => blamed) sound blamed actions

end Blamed

theorem start_blamed (config : Configuration) (world : S.World) :
    (start config world).Blamed := by
  intro caller call source found
  cases found

end Usage

end MessageStream
