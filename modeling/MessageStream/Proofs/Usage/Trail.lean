import MessageStream.Proofs.Usage.Sound

/-!
The trail of a run: every stretch that a call runs, in order, each with the use of the stream it
starts from. What holds of no stretches at the start, and is kept by every single stretch when it is
added, holds of the trail of every run.
-/
namespace MessageStream

variable {S : Signature} {T : Transport S}

/-- One stretch of a run: whose it is, and what it starts from. -/
structure Stretch (S : Signature) where
  ticket : Ticket
  before : Usage S

def Stretch.after (T : Transport S) (stretch : Stretch S) : Usage S :=
  stretch.before.stretch T stretch.ticket

namespace Usage

def stretches (T : Transport S) (ticket : Ticket) : Nat → Usage S → List (Stretch S)
  | 0, _ => []
  | count + 1, usage => ⟨ticket, usage⟩ :: stretches T ticket count (usage.stretch T ticket)

def stepTrail (T : Transport S) (usage : Usage S) : Action S.World → List (Stretch S)
  | .poll ticket => usage.stretches T ticket (usage.strides T ticket)
  | _ => []

def trail (T : Transport S) : Usage S → List (Action S.World) → List (Stretch S)
  | _, [] => []
  | usage, action :: rest => usage.stepTrail T action ++ (usage.step T action).trail T rest

/-- What every move adds to, and every other step keeps, holds of the trail of a run of a stream in
sound use. -/
theorem trail_keep (holds : List (Stretch S) → Usage S → Prop)
    (begins : ∀ trail usage demand, holds trail usage → holds trail (usage.step T (.begin demand)))
    (moves : ∀ {trail usage ticket}, Moves T usage ticket (usage.stretch T ticket) →
      holds trail usage → holds (trail ++ [⟨ticket, usage⟩]) (usage.stretch T ticket))
    (drops : ∀ {trail usage ticket after}, Drops T usage ticket after → holds trail usage →
      holds trail after)
    (changes : ∀ trail usage become, holds trail usage →
      holds trail (usage.step T (.change become)))
    {usage : Usage S} (sound : usage.Sound) (before : holds [] usage)
    (actions : List (Action S.World)) : holds (usage.trail T actions) (usage.run T actions) := by
  have strides (ticket : Ticket) (count : Nat) (trail : List (Stretch S)) (usage : Usage S)
      (sound : usage.Sound) (kept : holds trail usage) :
      holds (trail ++ usage.stretches T ticket count) ((stretch T ticket)^[count] usage) := by
    induction count generalizing trail usage with
    | zero => simpa [stretches] using kept
    | succ count ih =>
      have moved : Moves T usage ticket (usage.stretch T ticket) := sound.stretch_moves ticket
      simpa [stretches] using ih _ _ (sound.after_move moved) (moves moved kept)
  -- The trail of the rest of a run is added to what has gone before.
  suffices run : ∀ past, holds past usage →
      holds (past ++ usage.trail T actions) (usage.run T actions) from run [] before
  clear before
  intro past kept
  induction actions generalizing past usage with
  | nil =>
    rw [trail, List.append_nil]
    exact kept
  | cons action rest ih =>
    have step : holds (past ++ usage.stepTrail T action) (usage.step T action) := by
      cases action with
      | begin demand => simpa [stepTrail] using begins past usage demand kept
      | poll ticket =>
        rw [poll_stretches T ticket usage]
        exact strides ticket _ past usage sound kept
      | drop ticket => simpa [stepTrail] using drops (sound.step_drops ticket) kept
      | change become => simpa [stepTrail] using changes past usage become kept
    rw [trail, ← List.append_assoc]
    exact ih (sound.after_run [action]) _ step

end Usage

end MessageStream
