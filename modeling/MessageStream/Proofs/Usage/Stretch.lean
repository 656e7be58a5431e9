import Mathlib.Logic.Function.Iterate
import MessageStream.Proofs.Usage.Basic

/-!
Stretches. A poll runs a call stretch by stretch, and a property that every single stretch keeps is
kept by every poll. So an invariant of a stream in use need only be checked for one stretch of one
call, for giving a call up, for beginning one, and for a change of the world. And where every
stretch leaves fewer to come, a poll is over before its limit.
-/
namespace MessageStream

/-- A call waits where it should, or has come to an answer as it should. -/
def Progress.Meets {World Stage Answer : Type} (good : Stage → World → Prop)
    (right : Answer → World → Prop) : Progress Stage Answer → World → Prop
  | .waiting stage, world => good stage world
  | .ready answer, world => right answer world

namespace Step

variable {World Stage Answer : Type}

/-- Where a stretch leads: to a stage from which fewer stretches are left, or to a final result. -/
def Leads (good : Stage → World → Prop) (final : Progress Stage Answer → World → Prop)
    (left : Stage → World → Nat) (bound : Nat) : Step Stage Answer → World → Prop
  | .waiting stage, world => final (.waiting stage) world
  | .onward stage, world => good stage world ∧ left stage world < bound
  | .ready answer, world => final (.ready answer) world

/-- An operation whose stretches lead on, with ever fewer left, comes to a final result before its
limit cuts it off. -/
theorem run_ends {advance : Stage → World → World × Step Stage Answer}
    {good : Stage → World → Prop} {final : Progress Stage Answer → World → Prop}
    (left : Stage → World → Nat)
    (leads : ∀ stage world, good stage world →
      Leads good final left (left stage world) (advance stage world).2 (advance stage world).1)
    (limit : Nat) (stage : Stage) (world : World) (start : good stage world)
    (enough : left stage world < limit) :
    final (run advance limit stage world).2 (run advance limit stage world).1 := by
  -- The limit is never used up: what is left of the stretches stays below what is left of it.
  induction limit generalizing stage world with
  | zero => exact absurd enough (Nat.not_lt_zero _)
  | succ limit ih =>
    have next := leads stage world start
    rcases result : advance stage world with ⟨after, later | later | answer⟩
    · simp only [run, result]
      rwa [result] at next
    · rw [result] at next
      simp only [run, result]
      exact ih later after next.1 (Nat.lt_of_lt_of_le next.2 (Nat.le_of_lt_succ enough))
    · simp only [run, result]
      rwa [result] at next

def Meets (good : Stage → World → Prop) (right : Answer → World → Prop) :
    Step Stage Answer → World → Prop
  | .waiting stage, world => good stage world
  | .onward stage, world => good stage world
  | .ready answer, world => right answer world

/-- What every stretch keeps is kept by a poll, in whichever way it comes to an end. -/
theorem run_meets {advance : Stage → World → World × Step Stage Answer}
    {good : Stage → World → Prop} {right : Answer → World → Prop}
    (meets : ∀ stage world, good stage world →
      Meets good right (advance stage world).2 (advance stage world).1)
    (limit : Nat) (stage : Stage) (world : World) (start : good stage world) :
    (run advance limit stage world).2.Meets good right (run advance limit stage world).1 := by
  induction limit generalizing stage world with
  | zero => exact start
  | succ limit ih =>
    have next := meets stage world start
    rcases result : advance stage world with ⟨after, later | later | answer⟩
    · rw [result] at next
      simp only [run, result]
      exact next
    · rw [result] at next
      simp only [run, result]
      exact ih later after next
    · rw [result] at next
      simp only [run, result]
      exact next

theorem run_same {Part : Type} {advance : Stage → World → World × Step Stage Answer}
    (part : World → Part) (same : ∀ world stage, part (advance stage world).1 = part world)
    (limit : Nat) (stage : Stage) (world : World) :
    part (run advance limit stage world).1 = part world := by
  induction limit generalizing stage world with
  | zero => rfl
  | succ limit ih =>
    have kept := same world stage
    rcases result : advance stage world with ⟨after, later | later | answer⟩
    · rw [result] at kept
      simpa only [run, result] using kept
    · rw [result] at kept
      simp only [run, result]
      exact (ih later after).trans kept
    · rw [result] at kept
      simpa only [run, result] using kept

def strides (advance : Stage → World → World × Step Stage Answer) : Nat → Stage → World → Nat
  | 0, _, _ => 0
  | limit + 1, stage, world =>
    match advance stage world with
    | (world, .onward stage) => strides advance limit stage world + 1
    | _ => 1

theorem strides_pos (advance : Stage → World → World × Step Stage Answer) {limit : Nat}
    (positive : 0 < limit) (stage : Stage) (world : World) :
    0 < strides advance limit stage world := by
  obtain ⟨limit, rfl⟩ := Nat.exists_eq_succ_of_ne_zero (Nat.ne_of_gt positive)
  rcases result : advance stage world with ⟨after, waits | goes | answer⟩ <;>
    simp [strides, result]

end Step

namespace Phase

variable {World Stage Answer : Type}

def ofStep : Step Stage Answer → Phase Stage Answer
  | .waiting stage => waiting stage
  | .onward stage => waiting stage
  | .ready answer => answered answer

def stretch (advance : Stage → World → World × Step Stage Answer) (start : Stage) :
    World × Phase Stage Answer → World × Phase Stage Answer
  | (world, fresh) => (advance start world).map id ofStep
  | (world, waiting stage) => (advance stage world).map id ofStep
  | (world, ended) => (world, ended)

def strides (advance : Stage → World → World × Step Stage Answer) (start : Stage)
    (limit : World → Nat) : World × Phase Stage Answer → Nat
  | (world, fresh) => Step.strides advance (limit world) start world
  | (world, waiting stage) => Step.strides advance (limit world) stage world
  | _ => 0

theorem run_stretches (advance : Stage → World → World × Step Stage Answer) (start : Stage)
    (limit : Nat) (stage : Stage) (world : World) :
    (Step.run advance limit stage world).map id ofProgress =
      (stretch advance start)^[Step.strides advance limit stage world] (world, waiting stage) := by
  -- A run stops where its limit is used up, so the induction is on the limit.
  induction limit generalizing stage world with
  | zero => rfl
  | succ limit ih =>
    rcases result : advance stage world with ⟨after, waits | goes | answer⟩
    · simp [Step.run, Step.strides, result, stretch, ofStep, ofProgress]
    · have first : stretch advance start (world, waiting stage) = (after, waiting goes) := by
        simp [stretch, result, ofStep]
      simp only [Step.run, Step.strides, result, Function.iterate_succ_apply, first]
      exact ih goes after
    · simp [Step.run, Step.strides, result, stretch, ofStep, ofProgress]

theorem poll_stretches (advance : Stage → World → World × Step Stage Answer) (start : Stage)
    (limit : World → Nat) (positive : ∀ world, 0 < limit world)
    (operation : Operation World Stage Answer) (ticket : Ticket)
    (runs : ∀ stage world, operation.poll ticket stage world =
      Step.run advance (limit world) (stage.getD start) world)
    (before : World × Phase Stage Answer) :
    poll operation ticket before =
      (stretch advance start)^[strides advance start limit before] before := by
  rcases before with ⟨world, _ | stage | answer | stage⟩
  · -- A call that has not been polled goes on from the first stage.
    obtain ⟨count, more⟩ := Nat.exists_eq_succ_of_ne_zero
      (Nat.ne_of_gt (Step.strides_pos advance (positive world) start world))
    have whole := run_stretches advance start (limit world) start world
    simp only [poll, strides, runs, Option.getD_none]
    rw [more, Function.iterate_succ_apply] at whole ⊢
    exact whole
  · simp only [poll, strides, runs, Option.getD_some]
    exact run_stretches advance start (limit world) stage world
  · rfl
  · rfl

end Phase

namespace Call

variable {S : Signature}

def stretch (T : Transport S) (ticket : Ticket) : Stream S × Call S → Stream S × Call S
  | (stream, read room phase) =>
    (Phase.stretch (Read.advance T room ticket) .start (stream, phase)).map id (read room)
  | (stream, write data phase) =>
    (Phase.stretch (Write.advance T data ticket) .start (stream, phase)).map id (write data)
  | (stream, close phase) =>
    (Phase.stretch (Close.advance T ticket) .start (stream, phase)).map id close

theorem stretch_iterate {Stage Answer : Type} (T : Transport S) (ticket : Ticket)
    (advance : Stage → Stream S → Stream S × Step Stage Answer) (start : Stage)
    (make : Phase Stage Answer → Call S)
    (made : ∀ before, stretch T ticket (before.map id make) =
      (Phase.stretch advance start before).map id make)
    (count : Nat) (before : Stream S × Phase Stage Answer) :
    ((Phase.stretch advance start)^[count] before).map id make =
      (stretch T ticket)^[count] (before.map id make) :=
  Function.Semiconj.iterate_right (f := Prod.map id make) (fun part => (made part).symm) count
    before

def strides (T : Transport S) (ticket : Ticket) : Stream S × Call S → Nat
  | (stream, read room phase) =>
    Phase.strides (Read.advance T room ticket) .start (Read.limit T room) (stream, phase)
  | (stream, write data phase) =>
    Phase.strides (Write.advance T data ticket) .start (fun _ => Write.limit data) (stream, phase)
  | (stream, close phase) =>
    Phase.strides (Close.advance T ticket) .start (fun _ => Close.limit) (stream, phase)

theorem poll_stretches (T : Transport S) (ticket : Ticket) (before : Stream S × Call S) :
    poll T ticket before = (stretch T ticket)^[strides T ticket before] before := by
  rcases before with ⟨stream, ⟨room, phase⟩ | ⟨data, phase⟩ | phase⟩
  · have same := Phase.poll_stretches (Read.advance T room ticket) .start (Read.limit T room)
      (fun stream => by unfold Read.limit; omega) (Stream.read T room) ticket (fun _ _ => rfl)
      (stream, phase)
    exact (congrArg (Prod.map id (read room)) same).trans
      (stretch_iterate T ticket _ _ (read room) (fun _ => rfl) _ (stream, phase))
  · have same := Phase.poll_stretches (Write.advance T data ticket) .start
      (fun _ => Write.limit data) (fun _ => Nat.succ_pos _) (Stream.write T data) ticket
      (fun _ _ => rfl) (stream, phase)
    exact (congrArg (Prod.map id (write data)) same).trans
      (stretch_iterate T ticket _ _ (write data) (fun _ => rfl) _ (stream, phase))
  · have same := Phase.poll_stretches (Close.advance T ticket) .start (fun _ => Close.limit)
      (fun _ => Nat.succ_pos _) (Stream.close T) ticket (fun _ _ => rfl) (stream, phase)
    exact (congrArg (Prod.map id close) same).trans
      (stretch_iterate T ticket _ _ close (fun _ => rfl) _ (stream, phase))

end Call

namespace Usage

variable {S : Signature}

def stretch (T : Transport S) (ticket : Ticket) (usage : Usage S) : Usage S :=
  usage.onCall (Call.stretch T.recorded ticket) ticket

theorem onCall_iterate
    (act : Stream S.recorded × Call S.recorded → Stream S.recorded × Call S.recorded)
    (ticket : Ticket) (count : Nat) (usage : Usage S) :
    usage.onCall act^[count] ticket = (onCall act ticket)^[count] usage := by
  induction count generalizing usage with
  | zero =>
    cases found : usage.calls[ticket]? with
    | none => simp [onCall, found]
    | some call =>
      obtain ⟨inside, rfl⟩ := List.getElem?_eq_some_iff.mp found
      simp [onCall, inside]
  | succ count ih =>
    rw [Function.iterate_succ_apply, ← ih]
    cases found : usage.calls[ticket]? with
    | none => simp [onCall, found]
    | some call =>
      have inside : ticket < usage.calls.length := (List.getElem?_eq_some_iff.mp found).1
      simp only [onCall, found, List.getElem?_set_self inside, Function.iterate_succ_apply,
        List.set_set]

def strides (T : Transport S) (ticket : Ticket) (usage : Usage S) : Nat :=
  match usage.calls[ticket]? with
  | none => 0
  | some call => Call.strides T.recorded ticket (usage.stream, call)

theorem poll_stretches (T : Transport S) (ticket : Ticket) (usage : Usage S) :
    usage.step T (.poll ticket) = (stretch T ticket)^[usage.strides T ticket] usage := by
  cases found : usage.calls[ticket]? with
  | none => simp [step, onCall, strides, found]
  | some call =>
    have same := Call.poll_stretches T.recorded ticket (usage.stream, call)
    refine Eq.trans ?_ (onCall_iterate _ ticket (usage.strides T ticket) usage)
    simp only [step, onCall, strides, found, same]

theorem poll_keeps (T : Transport S) (holds : Usage S → Prop)
    (stretches : ∀ usage ticket, holds usage → holds (usage.stretch T ticket)) (usage : Usage S)
    (ticket : Ticket) (before : holds usage) : holds (usage.step T (.poll ticket)) := by
  rw [poll_stretches T ticket usage]
  generalize usage.strides T ticket = count
  induction count generalizing usage with
  | zero => exact before
  | succ count again => exact again _ (stretches usage ticket before)

/-- What every stretch keeps, and every other step that is allowed, holds throughout a run. -/
theorem run_keeps (T : Transport S) (holds : Usage S → Prop) (allowed : Action S.World → Prop)
    (begins : ∀ usage demand, allowed (.begin demand) → holds usage →
      holds (usage.step T (.begin demand)))
    (stretches : ∀ usage ticket, holds usage → holds (usage.stretch T ticket))
    (drops : ∀ usage ticket, allowed (.drop ticket) → holds usage →
      holds (usage.step T (.drop ticket)))
    (changes : ∀ usage become, holds usage → holds (usage.step T (.change become)))
    (usage : Usage S) (actions : List (Action S.World))
    (permitted : ∀ action ∈ actions, allowed action) (before : holds usage) :
    holds (usage.run T actions) := by
  induction actions generalizing usage with
  | nil => exact before
  | cons action rest ih =>
    apply ih (usage.step T action) (fun later member => permitted later (.tail _ member))
    have fits := permitted action (.head _)
    cases action with
    | begin demand => exact begins usage demand fits before
    -- A poll is the one step that is made of several.
    | poll ticket => exact poll_keeps T holds stretches usage ticket before
    | drop ticket => exact drops usage ticket fits before
    | change become => exact changes usage become before

end Usage

end MessageStream
