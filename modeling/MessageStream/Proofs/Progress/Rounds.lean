import MessageStream.Proofs.Progress.Frugal
import MessageStream.Proofs.Usage.Trail

/-!
The rounds of a call. A read or a write looks at the state, goes to a message, and may come back to
look again. Each time it does, it has done for good with the message it was at. So it goes round at
most once for each message handed out, and once more.
-/
namespace MessageStream

variable {S : Signature} {T : Transport S}

def ReadStage.looks : ReadStage S → Bool
  | .start => true
  | _ => false

def WriteStage.looks : WriteStage S → Bool
  | .start => true
  | _ => false

namespace Call

def looks : Call S → Bool
  | read _ phase => (phase.next? .start).any ReadStage.looks
  | write _ phase => (phase.next? .start).any WriteStage.looks
  | close _ => false

def direction : Call S → Direction
  | read _ _ => .inbound
  | write _ _ => .outbound
  | close _ => .outbound

theorem looks_read {room : Nat} {phase : Phase (ReadStage S) ReadOutcome}
    (looks : (read room phase).looks = true) : phase.next? .start = some .start := by
  rcases phase with _ | stage | _ | _
  · rfl
  · cases stage <;> first | rfl | cases looks
  · cases looks
  · cases looks

theorem looks_write {data : Bytes} {phase : Phase (WriteStage S) WriteOutcome}
    (looks : (write data phase).looks = true) : phase.next? .start = some .start := by
  rcases phase with _ | stage | _ | _
  · rfl
  · cases stage <;> first | rfl | cases looks
  · cases looks
  · cases looks

end Call

theorem Phase.stretch_next {World Stage Answer : Type}
    {advance : Stage → World → World × Step Stage Answer} {start stage : Stage} {world : World}
    {phase : Phase Stage Answer} (next : phase.next? start = some stage) :
    Phase.stretch advance start (world, phase) = (advance stage world).map id .ofStep := by
  cases phase <;> cases next <;> rfl

section Moves

variable {ticket : Ticket} {stream after : Stream S.recorded}

theorem ReadMove.looks_past {room : Nat} {step : Step (ReadStage S.recorded) ReadOutcome}
    (move : ReadMove T room ticket .start stream step after) :
    (Call.read room (.ofStep step) : Call S.recorded).looks = false := by
  cases move with
  | asks standing roomy vacant comes => cases comes <;> rfl
  | _ => rfl

theorem WriteMove.looks_past {data : Bytes} {step : Step (WriteStage S.recorded) WriteOutcome}
    (move : WriteMove T data ticket .start stream step after) :
    (Call.write data (.ofStep step) : Call S.recorded).looks = false := by
  cases move with
  | asks standing sent vacant comes => cases comes <;> rfl
  | _ => rfl

end Moves

namespace Usage

variable {usage after : Usage S} {ticket : Ticket}

def looks (usage : Usage S) (ticket : Ticket) : Bool := usage.calls[ticket]?.any Call.looks

theorem looks_found {call : Call S.recorded} (found : usage.calls[ticket]? = some call) :
    usage.looks ticket = call.looks := by
  rw [looks, found, Option.any_some]

theorem Sound.looks_past (sound : usage.Sound) (looks : usage.looks ticket = true) :
    (usage.stretch T ticket).looks ticket = false := by
  cases found : usage.calls[ticket]? with
  | none => simp [Usage.looks, found] at looks
  | some call =>
    rw [looks_found found] at looks
    have acted : (usage.stretch T ticket).calls[ticket]? =
        some (Call.stretch T.recorded ticket (usage.stream, call)).2 := by
      simp only [stretch, onCall, found]
      exact found_set found
    rw [looks_found acted]
    cases call with
    | read room phase =>
      simp only [Call.stretch, Phase.stretch_next (Call.looks_read looks)]
      exact (Read.start_moves T room ticket usage.stream sound.enumerated).looks_past
    | write data phase =>
      simp only [Call.stretch, Phase.stretch_next (Call.looks_write looks)]
      exact (Write.start_moves T data ticket usage.stream sound.enumerated).looks_past
    | close phase => cases looks

/-- What a call keeps to while it goes on: a read has room for what it does, and no call makes more
calls on the connection than it may. -/
def Frugal (usage : Usage S) (ticket : Ticket) : Call S.recorded → Prop
  | .read room phase => (∀ stage, phase.next? .start = some stage → stage.Roomy room) ∧
    ∀ number, usage.stream.begunBy ticket (Request.drains number) ≤ room ∧
      ∀ stage, phase.next? .start = some stage →
        usage.stream.begunBy ticket (Request.drains number) ≤ stage.calls number ∨
          usage.Behind .inbound number ticket
  | .write data phase => usage.stream.begunBy ticket Request.fills ≤ data.length ∧
    ∀ stage, phase.next? .start = some stage →
      stage.Frugal data (usage.stream.begunBy ticket Request.fills)
  | .close _ => True

structure Paced (usage : Usage S) : Prop where
  used : usage.Used
  traced : usage.Traced
  frugal : ∀ (ticket : Ticket) (call : Call S.recorded), usage.calls[ticket]? = some call →
    usage.Frugal ticket call

/-- A read that starts over has found its message exhausted, and has done with it for good. -/
theorem Paced.read_starts_over (paced : usage.Paced) {room : Nat}
    {phase : Phase (ReadStage S.recorded) ReadOutcome} {stage : ReadStage S.recorded}
    {step : Step (ReadStage S.recorded) ReadOutcome} {stream : Stream S.recorded}
    (found : usage.calls[ticket]? = some (.read room phase))
    (next : phase.next? .start = some stage)
    (move : ReadMove T room ticket stage usage.stream step stream)
    (again : (Phase.ofStep step).next? .start = some .start) :
    ∃ number turn, stage.place = some (number, turn) ∧
      (⟨stream, usage.calls.set ticket (.read room (.ofStep step))⟩ : Usage S).Behind .inbound
        number ticket := by
  have roomy := (paced.frugal ticket _ found).1 stage next
  cases move with
  | passes here polled =>
    rename_i number _ _ _ _
    refine ⟨number, true, rfl, ?_, ?_, ?_, ?_⟩
    · refine ⟨ticket, room, roomy, ?_⟩
      exact List.mem_append_right _ (List.mem_append_right _ (.head _))
    · simpa [Direction.entered] using (List.getElem?_eq_some_iff.mp here).1
    · simp only [Direction.slot, Stream.recordIf_state, Stream.clearInbound_state]
      split
      · exact (Option.some_ne_none number).symm
      · assumption
    · intro turn
      rw [place_found (found_set found)]
      exact (Option.some_ne_none _).symm
  | asks standing needed vacant comes => cases comes <;> cases again
  | hears comes => cases comes <;> cases again
  | _ => cases again

/-- A write that starts over has found its message finished, and has done with it for good. -/
theorem Used.write_starts_over (used : usage.Used) {data : Bytes}
    {phase : Phase (WriteStage S.recorded) WriteOutcome} {stage : WriteStage S.recorded}
    {step : Step (WriteStage S.recorded) WriteOutcome} {stream : Stream S.recorded}
    (found : usage.calls[ticket]? = some (.write data phase))
    (next : phase.next? .start = some stage)
    (move : WriteMove T data ticket stage usage.stream step stream)
    (later : Used (⟨stream, usage.calls.set ticket (.write data (.ofStep step))⟩ : Usage S))
    (again : (Phase.ofStep step).next? .start = some .start) :
    ∃ number turn, stage.place = some (number, turn) ∧
      (⟨stream, usage.calls.set ticket (.write data (.ofStep step))⟩ : Usage S).Behind .outbound
        number ticket := by
  have away {number written : Nat} :
      (Write.fillOrFinish data number written : WriteStage S.recorded) ≠ .start := by
    unfold Write.fillOrFinish
    split <;> nofun
  cases move with
  | retires turn here finished =>
    rename_i number _
    have marked : (usage.stream.retireWriter T.recorded number ticket).marked number = true :=
      (congrFun (Stream.marked_same (Stream.retireWriter_finished T _ number ticket)) number).trans
        ((Stream.marked_found here).trans finished)
    refine ⟨number, false, rfl, used.leaves_over found later (.inr turn) rfl marked, ?_, ?_, ?_⟩
    · simpa [Direction.entered] using (List.getElem?_eq_some_iff.mp here).1
    · simp only [Direction.slot, Stream.retireWriter_state]
      split
      · exact (Option.some_ne_none number).symm
      · assumption
    · intro turn
      rw [place_found (found_set found)]
      exact (Option.some_ne_none _).symm
  | asks standing sent vacant comes => cases comes <;> cases again
  | hears comes => cases comes <;> cases again
  | enters turn here unfinished => exact absurd (Option.some.inj again) away
  | takes here polled gained => exact absurd (Option.some.inj again) away
  | _ => cases again

theorem Paced.starts_over (paced : usage.Paced) (moves : Moves T usage ticket after)
    (used : after.Used) (past : usage.looks ticket = false) (again : after.looks ticket = true) :
    ∃ call number turn, usage.calls[ticket]? = some call ∧
      call.direction.place call = some (number, turn) ∧
      after.Behind call.direction number ticket := by
  cases moves with
  | rests => cases past.symm.trans again
  | reads found next move =>
    rw [looks_found (found_set found)] at again
    obtain ⟨number, turn, stands, behind⟩ :=
      paced.read_starts_over found next move (Call.looks_read again)
    exact ⟨_, number, turn, found,
      (Phase.place_next ReadStage.place .start rfl next).trans stands, behind⟩
  | writes found next move =>
    rw [looks_found (found_set found)] at again
    obtain ⟨number, turn, stands, behind⟩ :=
      paced.used.write_starts_over found next move used (Call.looks_write again)
    exact ⟨_, number, turn, found,
      (Phase.place_next WriteStage.place .start rfl next).trans stands, behind⟩
  | closes found next move =>
    rw [looks_found (found_set found)] at again
    cases again

theorem Moves.begunBy_other (moves : Moves T usage ticket after) {other : Ticket}
    (different : other ≠ ticket) (makes : Request → Bool) :
    after.stream.begunBy other makes = usage.stream.begunBy other makes := by
  cases moves with
  | rests => rfl
  | reads found next move => exact move.adds.begunBy_same (.inl different)
  | writes found next move => exact move.adds.begunBy_same (.inl different)
  | closes found next move => exact move.adds.begunBy_same (.inl different)

theorem Drops.begunBy_same (drops : Drops T usage ticket after) (caller : Ticket)
    (makes : Request → Bool) :
    after.stream.begunBy caller makes = usage.stream.begunBy caller makes := by
  cases drops with
  | rests => rfl
  | forgets demand found => rfl
  | reads found drop => exact drop.begunBy_same caller makes
  | writes found drop => exact drop.begunBy_same caller makes
  | closes found drop => exact drop.begunBy_same caller makes

theorem Frugal.while_left_alone {call : Call S.recorded} {other : Ticket}
    (frugal : usage.Frugal other call)
    (same : ∀ makes, after.stream.begunBy other makes = usage.stream.begunBy other makes)
    (behind : ∀ number, usage.Behind .inbound number other → after.Behind .inbound number other) :
    after.Frugal other call := by
  cases call with
  | read room phase =>
    obtain ⟨roomy, drains⟩ := frugal
    refine ⟨roomy, fun number => ?_⟩
    rw [same]
    exact ⟨(drains number).1, fun stage next => ((drains number).2 stage next).imp_right
      (behind number)⟩
  | write data phase =>
    unfold Frugal
    rw [same]
    exact frugal
  | close phase => trivial

namespace Paced

variable (paced : usage.Paced)
include paced

theorem after_move (moves : Moves T usage ticket after) : after.Paced := by
  have used := paced.used.after_move moves
  refine ⟨used, paced.traced.after_move moves, ?_⟩
  intro other call there
  by_cases mover : other = ticket
  · subst mover
    cases moves with
    | rests => exact paced.frugal other call there
    | reads found next move =>
      cases (found_set found).symm.trans there
      obtain ⟨roomy, drains⟩ := paced.frugal other _ found
      refine ⟨move.roomy (roomy _ next), fun number => ?_⟩
      rcases (drains number).2 _ next with few | behind
      · obtain ⟨bounded, goes⟩ := move.frugal (roomy _ next) few
        refine ⟨bounded, fun later onward => (goes later onward).imp_right ?_⟩
        rintro ⟨rfl, turn⟩
        obtain ⟨passed, first, stands, behind⟩ := paced.read_starts_over found next move onward
        cases stands.symm.trans turn
        exact behind
      · have away : _ ≠ some (number, true) := fun stands => behind.away true
          ((place_found found).trans
            ((Phase.place_next ReadStage.place .start rfl next).trans stands))
        rw [move.begunBy_away away]
        exact ⟨(drains number).1, fun _ _ => .inr (behind.after_move (.reads found next move) used)⟩
    | writes found next move =>
      cases (found_set found).symm.trans there
      exact move.frugal ((paced.frugal other _ found).2 _ next)
    | closes found next move =>
      cases (found_set found).symm.trans there
      trivial
  · rw [moves.calls_other mover] at there
    exact (paced.frugal other call there).while_left_alone (moves.begunBy_other mover)
      fun number behind => behind.after_move moves used

theorem after_drop (drops : Drops T usage ticket after) : after.Paced := by
  have used := paced.used.after_drop drops
  have aside {other : Ticket} {call : Call S.recorded} (frugal : usage.Frugal other call) :
      after.Frugal other call :=
    frugal.while_left_alone (drops.begunBy_same other) fun number behind => behind.after_drop drops
      used
  refine ⟨used, paced.traced.after_drop drops, ?_⟩
  intro other call there
  by_cases mover : other = ticket
  · subst mover
    cases drops with
    | rests => exact paced.frugal other call there
    | forgets demand found =>
      cases (found_set found).symm.trans there
      have kept := aside (paced.frugal other _ found)
      cases demand with
      | read room => exact ⟨nofun, fun number => ⟨(kept.2 number).1, nofun⟩⟩
      | write data => exact ⟨kept.1, nofun⟩
      | close => trivial
    | reads found drop =>
      cases (found_set found).symm.trans there
      have kept := aside (paced.frugal other _ found)
      exact ⟨nofun, fun number => ⟨(kept.2 number).1, nofun⟩⟩
    | writes found drop =>
      cases (found_set found).symm.trans there
      exact ⟨(aside (paced.frugal other _ found)).1, nofun⟩
    | closes found drop =>
      cases (found_set found).symm.trans there
      trivial
  · rw [drops.calls_other mover] at there
    exact aside (paced.frugal other call there)

theorem after_begin (demand : Demand) : (usage.step T (.begin demand)).Paced := by
  refine ⟨paced.used.after_begin demand, paced.traced.after_begin demand, ?_⟩
  intro other call there
  rcases push_cases there with ⟨new, rfl⟩ | ⟨-, old⟩
  · -- A call just begun stands nowhere in the record.
    have silent (makes : Request → Bool) : usage.stream.begunBy other makes = 0 := by
      apply List.countP_eq_zero.mpr
      intro entry member counted
      obtain ⟨call, found, -⟩ := paced.traced.callers entry member
      cases entry with
      | begun caller request =>
        obtain ⟨rfl, -⟩ : caller = other ∧ makes request = true := by
          simpa [Traffic.begunBy] using counted
        exact absurd (List.getElem?_eq_some_iff.mp found).1
          (Nat.not_lt_of_le (Nat.le_of_eq new.symm))
      | _ => cases counted
    cases demand with
    | read room =>
      refine ⟨fun stage next => by cases next; trivial, fun number => ?_⟩
      have none : (usage.step T (.begin (.read room))).stream.begunBy other
          (Request.drains number) = 0 := silent _
      rw [none]
      exact ⟨Nat.zero_le _, fun _ _ => .inl (Nat.zero_le _)⟩
    | write data =>
      have none : (usage.step T (.begin (.write data))).stream.begunBy other Request.fills = 0 :=
        silent _
      refine ⟨none ▸ Nat.zero_le _, fun stage next => ?_⟩
      cases next
      exact none
    | close => trivial
  · exact (paced.frugal other call old).while_left_alone (fun _ => rfl)
      fun number behind => behind.after_begin demand

theorem after_change (become : S.World → S.World) : (usage.step T (.change become)).Paced :=
  ⟨⟨paced.used.sound.after_change become, paced.used.uses, paced.used.unmarked⟩,
    ⟨paced.traced.borrowers, paced.traced.callers, paced.traced.closers⟩,
    fun ticket call found => (paced.frugal ticket call found).while_left_alone (fun _ => rfl)
      fun _ behind => behind.after_change become⟩

end Paced

theorem start_paced (config : Configuration) (world : S.World) : (start config world).Paced :=
  ⟨start_used config world, start_traced config world, nofun⟩

end Usage

end MessageStream
