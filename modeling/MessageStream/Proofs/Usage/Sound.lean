import MessageStream.Proofs.Usage.Shifts

/-!
Sound use. In every run, with calls given up or not, readers and writers keep their numbers, and
lines and places agree. So each stretch of a run is one of the moves, and each call given up one of
the drops.
-/
namespace MessageStream

def Call.forgotten {S : Signature} : Demand → Call S
  | .read room => .read room (.dropped none)
  | .write data => .write data (.dropped none)
  | .close => .close (.dropped none)

inductive Call.Returned {S : Signature} : Call S → Prop where
  | read (room : Nat) (outcome : ReadOutcome) : Returned (.read room (.answered outcome))
  | write (data : Bytes) (outcome : WriteOutcome) : Returned (.write data (.answered outcome))
  | close (outcome : CloseOutcome) : Returned (.close (.answered outcome))

namespace Usage

variable {S : Signature} {T : Transport S}

def reader (usage : Usage S) (ticket : Ticket) : Place := usage.calls[ticket]?.bind Call.reader

def writer (usage : Usage S) (ticket : Ticket) : Place := usage.calls[ticket]?.bind Call.writer

/-- What a stream in use keeps, whatever its callers do. -/
structure Sound (usage : Usage S) : Prop where
  enumerated : usage.stream.Enumerated
  readers : Orderly (lineOf usage.stream.state.readers) usage.reader
  writers : Orderly (lineOf usage.stream.state.writers) usage.writer

/-- What one stretch of a call makes of a stream in use. -/
inductive Moves (T : Transport S) (usage : Usage S) (ticket : Ticket) : Usage S → Prop where
  | rests : Moves T usage ticket usage
  | reads {room : Nat} {phase : Phase (ReadStage S.recorded) ReadOutcome}
      {stage : ReadStage S.recorded} {step : Step (ReadStage S.recorded) ReadOutcome}
      {after : Stream S.recorded} (found : usage.calls[ticket]? = some (.read room phase))
      (next : phase.next? .start = some stage)
      (move : ReadMove T room ticket stage usage.stream step after) :
    Moves T usage ticket ⟨after, usage.calls.set ticket (.read room (.ofStep step))⟩
  | writes {data : Bytes} {phase : Phase (WriteStage S.recorded) WriteOutcome}
      {stage : WriteStage S.recorded} {step : Step (WriteStage S.recorded) WriteOutcome}
      {after : Stream S.recorded} (found : usage.calls[ticket]? = some (.write data phase))
      (next : phase.next? .start = some stage)
      (move : WriteMove T data ticket stage usage.stream step after) :
    Moves T usage ticket ⟨after, usage.calls.set ticket (.write data (.ofStep step))⟩
  | closes {phase : Phase (CloseStage S.recorded) CloseOutcome}
      {stage : CloseStage S.recorded} {step : Step (CloseStage S.recorded) CloseOutcome}
      {after : Stream S.recorded} (found : usage.calls[ticket]? = some (.close phase))
      (next : phase.next? .start = some stage)
      (move : CloseMove T ticket stage usage.stream step after) :
    Moves T usage ticket ⟨after, usage.calls.set ticket (.close (.ofStep step))⟩

/-- What giving a call up makes of a stream in use. -/
inductive Drops (T : Transport S) (usage : Usage S) (ticket : Ticket) : Usage S → Prop where
  | rests : Drops T usage ticket usage
  | forgets (demand : Demand) (found : usage.calls[ticket]? = some (.begin demand)) :
    Drops T usage ticket ⟨usage.stream, usage.calls.set ticket (.forgotten demand)⟩
  | reads {room : Nat} {stage : ReadStage S.recorded} {after : Stream S.recorded}
      (found : usage.calls[ticket]? = some (.read room (.waiting stage)))
      (drop : ReadDrop T ticket stage usage.stream after) :
    Drops T usage ticket ⟨after, usage.calls.set ticket (.read room (.dropped (some stage)))⟩
  | writes {data : Bytes} {stage : WriteStage S.recorded} {after : Stream S.recorded}
      (found : usage.calls[ticket]? = some (.write data (.waiting stage)))
      (drop : WriteDrop T data ticket stage usage.stream after) :
    Drops T usage ticket ⟨after, usage.calls.set ticket (.write data (.dropped (some stage)))⟩
  | closes {stage : CloseStage S.recorded} {after : Stream S.recorded}
      (found : usage.calls[ticket]? = some (.close (.waiting stage)))
      (drop : CloseDrop T ticket stage usage.stream after) :
    Drops T usage ticket ⟨after, usage.calls.set ticket (.close (.dropped (some stage)))⟩

theorem Moves.unchanged_of_returned {usage after : Usage S} {ticket : Ticket}
    (moves : Moves T usage ticket after) {call : Call S.recorded}
    (found : usage.calls[ticket]? = some call) (returned : call.Returned) : after = usage := by
  cases moves with
  | rests => rfl
  | reads there next move =>
    cases Option.some.inj (there.symm.trans found)
    cases returned
    cases next
  | writes there next move =>
    cases Option.some.inj (there.symm.trans found)
    cases returned
    cases next
  | closes there next move =>
    cases Option.some.inj (there.symm.trans found)
    cases returned
    cases next

theorem Moves.calls_other {usage after : Usage S} {ticket : Ticket}
    (moves : Moves T usage ticket after)
    {other : Ticket} (different : other ≠ ticket) : after.calls[other]? = usage.calls[other]? := by
  cases moves with
  | rests => rfl
  | reads there next move => exact List.getElem?_set_ne (Ne.symm different)
  | writes there next move => exact List.getElem?_set_ne (Ne.symm different)
  | closes there next move => exact List.getElem?_set_ne (Ne.symm different)

theorem Drops.calls_other {usage after : Usage S} {ticket : Ticket}
    (drops : Drops T usage ticket after)
    {other : Ticket} (different : other ≠ ticket) : after.calls[other]? = usage.calls[other]? := by
  cases drops with
  | rests => rfl
  | forgets demand there => exact List.getElem?_set_ne (Ne.symm different)
  | reads there drop => exact List.getElem?_set_ne (Ne.symm different)
  | writes there drop => exact List.getElem?_set_ne (Ne.symm different)
  | closes there drop => exact List.getElem?_set_ne (Ne.symm different)

theorem set_place {Part : Type} {calls : List (Call S.recorded)} {ticket : Ticket}
    {call : Call S.recorded} (found : calls[ticket]? = some call) (become : Call S.recorded)
    (place : Call S.recorded → Option Part) :
    (fun caller : Ticket => (calls.set ticket become)[caller]?.bind place) =
      Function.update (fun caller => calls[caller]?.bind place) ticket (place become) := by
  have inside := (List.getElem?_eq_some_iff.mp found).1
  funext caller
  by_cases same : caller = ticket
  · subst same
    simp [inside]
  · simp [same, Ne.symm same]

theorem set_found {calls : List (Call S.recorded)} {ticket : Ticket} {call : Call S.recorded}
    (found : calls[ticket]? = some call) : calls.set ticket call = calls := by
  obtain ⟨inside, same⟩ := List.getElem?_eq_some_iff.mp found
  rw [← same, List.set_getElem_self]

theorem set_same {Part : Type} {calls : List (Call S.recorded)} {ticket : Ticket}
    {call : Call S.recorded} (found : calls[ticket]? = some call) (become : Call S.recorded)
    (place : Call S.recorded → Option Part) (unmoved : place become = place call) :
    (fun caller : Ticket => (calls.set ticket become)[caller]?.bind place) =
      fun caller => calls[caller]?.bind place := by
  rw [set_place found, unmoved]
  exact Function.update_eq_self_iff.mpr (by simp [found])

theorem push_same {Part : Type} (calls : List (Call S.recorded)) (demand : Demand)
    (place : Call S.recorded → Option Part) (away : place (.begin demand) = none) :
    (fun caller : Ticket => (calls ++ [.begin demand])[caller]?.bind place) =
      fun caller => calls[caller]?.bind place := by
  funext caller
  by_cases here : caller = calls.length
  · subst here
    simp [away]
  · rw [push_elsewhere _ _ here]

namespace Sound

variable {usage : Usage S} (sound : usage.Sound)
include sound

theorem known_reader {ticket : Ticket} {call : Call S.recorded}
    (found : usage.calls[ticket]? = some call) (number : Nat) (turn : Bool)
    (stands : call.reader = some (number, turn)) : number < usage.stream.state.readers.length :=
  mem_lineOf _ ((sound.readers.stands number ticket).mpr ⟨turn, by simp [reader, found, stands]⟩)

theorem known_writer {ticket : Ticket} {call : Call S.recorded}
    (found : usage.calls[ticket]? = some call) (number : Nat) (turn : Bool)
    (stands : call.writer = some (number, turn)) : number < usage.stream.state.writers.length :=
  mem_lineOf _ ((sound.writers.stands number ticket).mpr ⟨turn, by simp [writer, found, stands]⟩)

theorem stretch_moves (ticket : Ticket) : Moves T usage ticket (usage.stretch T ticket) := by
  unfold Usage.stretch onCall
  split
  · exact .rests
  · rename_i call found
    -- A call that has ended is put back as it was.
    have resting : Moves T usage ticket ⟨usage.stream, usage.calls.set ticket call⟩ := by
      rw [set_found found]
      exact .rests
    cases call with
    | read room phase =>
      cases phase with
      | fresh =>
        exact .reads found rfl
          (Read.advance_moves T room ticket .start usage.stream sound.enumerated nofun)
      | waiting stage =>
        exact .reads found rfl
          (Read.advance_moves T room ticket stage usage.stream sound.enumerated
            (sound.known_reader found))
      | _ => exact resting
    | write data phase =>
      cases phase with
      | fresh =>
        exact .writes found rfl
          (Write.advance_moves T data ticket .start usage.stream sound.enumerated nofun)
      | waiting stage =>
        exact .writes found rfl
          (Write.advance_moves T data ticket stage usage.stream sound.enumerated
            (sound.known_writer found))
      | _ => exact resting
    | close phase =>
      cases phase with
      | fresh =>
        exact .closes found rfl
          (Close.advance_moves T ticket .start usage.stream sound.enumerated nofun)
      | waiting stage =>
        exact .closes found rfl
          (Close.advance_moves T ticket stage usage.stream sound.enumerated
            (sound.known_writer found))
      | _ => exact resting

theorem step_drops (ticket : Ticket) : Drops T usage ticket (usage.step T (.drop ticket)) := by
  unfold Usage.step onCall
  dsimp only
  split
  · exact .rests
  · rename_i call found
    have resting : Drops T usage ticket ⟨usage.stream, usage.calls.set ticket call⟩ := by
      rw [set_found found]
      exact .rests
    cases call with
    | read room phase =>
      cases phase with
      | fresh => exact .forgets (.read room) found
      | waiting stage =>
        exact .reads found
          (Read.cancel_drops T room ticket stage usage.stream sound.enumerated
            (sound.known_reader found))
      | _ => exact resting
    | write data phase =>
      cases phase with
      | fresh => exact .forgets (.write data) found
      | waiting stage =>
        exact .writes found
          (Write.cancel_drops T data ticket stage usage.stream sound.enumerated
            (sound.known_writer found))
      | _ => exact resting
    | close phase =>
      cases phase with
      | fresh => exact .forgets .close found
      | waiting stage =>
        exact .closes found
          (Close.cancel_drops T ticket stage usage.stream sound.enumerated
            (sound.known_writer found))
      | _ => exact resting

theorem after_shift {ticket : Ticket} {call become : Call S.recorded} {after : Stream S.recorded}
    (found : usage.calls[ticket]? = some call) (enumerated : after.Enumerated)
    (readers : Shift ticket (lineOf usage.stream.state.readers) call.reader become.reader
      (lineOf after.state.readers))
    (writers : Shift ticket (lineOf usage.stream.state.writers) call.writer become.writer
      (lineOf after.state.writers)) :
    Sound (⟨after, usage.calls.set ticket become⟩ : Usage S) := by
  have seen : usage.reader ticket = call.reader := by simp [reader, found]
  have heard : usage.writer ticket = call.writer := by simp [writer, found]
  refine ⟨enumerated, ?_, ?_⟩
  · rw [← seen] at readers
    exact (congrArg (Orderly _) (set_place found become Call.reader)).mpr
      (sound.readers.after_shift readers)
  · rw [← heard] at writers
    exact (congrArg (Orderly _) (set_place found become Call.writer)).mpr
      (sound.writers.after_shift writers)

theorem after_move {ticket : Ticket} {after : Usage S} (moves : Moves T usage ticket after) :
    after.Sound := by
  cases moves with
  | rests => exact sound
  | reads found next move =>
    apply sound.after_shift found (move.enumerated sound.enumerated)
    · simp only [Call.reader, Phase.place_next ReadStage.place .start rfl next,
        Phase.place_ofStep]
      exact move.shifts sound.enumerated
    · rw [move.writers_same]
      exact .stays
  | writes found next move =>
    apply sound.after_shift found (move.enumerated sound.enumerated)
    · rw [move.readers_same]
      exact .stays
    · simp only [Call.writer, Phase.place_next WriteStage.place .start rfl next,
        Phase.place_ofStep]
      exact move.shifts sound.enumerated
  | closes found next move =>
    apply sound.after_shift found (move.enumerated sound.enumerated)
    · rw [move.readers_same]
      exact .stays
    · simp only [Call.writer, Phase.place_next CloseStage.place .start rfl next,
        Phase.place_ofStep]
      exact move.shifts sound.enumerated

theorem after_drop {ticket : Ticket} {after : Usage S} (drops : Drops T usage ticket after) :
    after.Sound := by
  cases drops with
  | rests => exact sound
  | forgets demand found =>
    refine ⟨sound.enumerated, ?_, ?_⟩
    · have same := set_same found (.forgotten demand) Call.reader (by cases demand <;> rfl)
      exact (congrArg (Orderly _) same).mpr sound.readers
    · have same := set_same found (.forgotten demand) Call.writer (by cases demand <;> rfl)
      exact (congrArg (Orderly _) same).mpr sound.writers
  | reads found drop =>
    apply sound.after_shift found (drop.enumerated sound.enumerated)
    · exact drop.shifts
    · rw [drop.writers_same]
      exact .stays
  | writes found drop =>
    apply sound.after_shift found (drop.enumerated sound.enumerated)
    · rw [drop.readers_same]
      exact .stays
    · exact drop.shifts
  | closes found drop =>
    apply sound.after_shift found (drop.enumerated sound.enumerated)
    · rw [drop.readers_same]
      exact .stays
    · exact drop.shifts

theorem after_begin (demand : Demand) : (usage.step T (.begin demand)).Sound := by
  refine ⟨sound.enumerated, ?_, ?_⟩
  · have same := push_same usage.calls demand Call.reader (by cases demand <;> rfl)
    exact (congrArg (Orderly _) same).mpr sound.readers
  · have same := push_same usage.calls demand Call.writer (by cases demand <;> rfl)
    exact (congrArg (Orderly _) same).mpr sound.writers

theorem after_change (become : S.World → S.World) : (usage.step T (.change become)).Sound :=
  ⟨⟨sound.enumerated.readers, sound.enumerated.writers, sound.enumerated.inbound,
    sound.enumerated.outbound⟩, sound.readers, sound.writers⟩

theorem after_run (actions : List (Action S.World)) : (usage.run T actions).Sound :=
  run_keeps T Sound (fun _ => True) (fun _ demand _ sound => sound.after_begin demand)
    (fun _ ticket sound => sound.after_move (sound.stretch_moves ticket))
    (fun _ ticket _ sound => sound.after_drop (sound.step_drops ticket))
    (fun _ become sound => sound.after_change become) usage actions (fun _ _ => trivial) sound

end Sound

theorem start_sound (config : Configuration) (world : S.World) : (start config world).Sound :=
  ⟨⟨rfl, rfl, nofun, nofun⟩, ⟨fun _ => List.nodup_nil, by simp [start, Stream.State.new, lineOf,
    reader], nofun⟩, ⟨fun _ => List.nodup_nil, by simp [start, Stream.State.new, lineOf, writer],
    nofun⟩⟩

/-- What every move, every drop, every beginning and every change of the world keeps holds
throughout the runs of a stream in sound use. -/
theorem moves_keep (holds : Usage S → Prop)
    (begins : ∀ usage demand, holds usage → holds (usage.step T (.begin demand)))
    (moves : ∀ {usage ticket after}, Moves T usage ticket after → holds usage → holds after)
    (drops : ∀ {usage ticket after}, Drops T usage ticket after → holds usage → holds after)
    (changes : ∀ usage become, holds usage → holds (usage.step T (.change become)))
    {usage : Usage S} (sound : usage.Sound) (before : holds usage)
    (actions : List (Action S.World)) : holds (usage.run T actions) := by
  refine (run_keeps T (fun usage => usage.Sound ∧ holds usage) (fun _ => True) ?_ ?_ ?_ ?_ usage
    actions (fun _ _ => trivial) ⟨sound, before⟩).2
  · rintro usage demand - ⟨sound, kept⟩
    exact ⟨sound.after_begin demand, begins usage demand kept⟩
  · rintro usage ticket ⟨sound, kept⟩
    have moved : Moves T usage ticket _ := sound.stretch_moves ticket
    exact ⟨sound.after_move moved, moves moved kept⟩
  · rintro usage ticket - ⟨sound, kept⟩
    have dropped : Drops T usage ticket _ := sound.step_drops ticket
    exact ⟨sound.after_drop dropped, drops dropped kept⟩
  · rintro usage become ⟨sound, kept⟩
    exact ⟨sound.after_change become, changes usage become kept⟩

end Usage

end MessageStream
