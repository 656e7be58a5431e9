import Mathlib.Data.List.Perm.Subperm
import MessageStream.Proofs.Progress.Rounds

/-!
No call spins. A call that looks at the state again has done for good with the message it was at,
and that message is exhausted or finished. So the rounds of a call are bounded by the messages
handed out, and the calls it makes on each message by its buffer.
-/
namespace MessageStream

variable {S : Signature} {T : Transport S}

def Direction.handedOut {World : Type} : Direction → Recorded World → Nat
  | inbound, recorded => recorded.readers
  | outbound, recorded => recorded.writers

/-- The first stretch of a round of the call. -/
def Stretch.opensRound (ticket : Ticket) (stretch : Stretch S) : Bool :=
  stretch.ticket == ticket && stretch.before.looks ticket

/-- How often the call goes round. -/
def Stretch.rounds (ticket : Ticket) (trail : List (Stretch S)) : Nat :=
  trail.countP (opensRound ticket)

theorem Stretch.rounds_snoc (ticket mover : Ticket) (trail : List (Stretch S)) (usage : Usage S) :
    rounds ticket (trail ++ [⟨mover, usage⟩]) =
      rounds ticket trail + (mover == ticket && usage.looks ticket).toNat := by
  have last : List.countP (opensRound ticket) [(⟨mover, usage⟩ : Stretch S)] =
      (mover == ticket && usage.looks ticket).toNat := by
    cases here : (mover == ticket && usage.looks ticket) <;> simp [opensRound, here]
  rw [rounds, rounds, List.countP_append, last]

namespace Usage

variable {usage after : Usage S} {ticket : Ticket}

theorem Moves.direction_same (moves : Moves T usage ticket after) {other : Ticket}
    {become : Call S.recorded} (there : after.calls[other]? = some become) :
    ∃ call, usage.calls[other]? = some call ∧ become.direction = call.direction := by
  cases moves with
  | rests => exact ⟨become, there, rfl⟩
  | _ found =>
    rcases set_cases there with ⟨rfl, rfl⟩ | ⟨-, old⟩
    · exact ⟨_, found, rfl⟩
    · exact ⟨become, old, rfl⟩

theorem Drops.direction_same (drops : Drops T usage ticket after) {other : Ticket}
    {become : Call S.recorded} (there : after.calls[other]? = some become) :
    ∃ call, usage.calls[other]? = some call ∧ become.direction = call.direction ∧
      (become.looks = true → call.looks = true) := by
  cases drops with
  | rests => exact ⟨become, there, rfl, id⟩
  | forgets demand found =>
    rcases set_cases there with ⟨rfl, rfl⟩ | ⟨-, old⟩
    · exact ⟨_, found, by cases demand <;> rfl, by cases demand <;> nofun⟩
    · exact ⟨become, old, rfl, id⟩
  | _ found =>
    rcases set_cases there with ⟨rfl, rfl⟩ | ⟨-, old⟩
    · exact ⟨_, found, rfl, nofun⟩
    · exact ⟨become, old, rfl, id⟩

theorem Moves.calls_length (moves : Moves T usage ticket after) :
    after.calls.length = usage.calls.length := by
  cases moves <;> simp

theorem Drops.calls_length (drops : Drops T usage ticket after) :
    after.calls.length = usage.calls.length := by
  cases drops <;> simp

/-- A call has gone round once for each message it has done with, and is in one more round unless it
is about to look. -/
structure GoesRound (usage : Usage S) (ticket : Ticket) (rounds : Nat) : Prop where
  absent : usage.calls.length ≤ ticket → rounds = 0
  passed : ∀ call, usage.calls[ticket]? = some call → ∃ passed : List Nat, passed.Nodup ∧
    (∀ number ∈ passed, usage.Behind call.direction number ticket) ∧
    rounds ≤ passed.length + (!call.looks).toNat

theorem GoesRound.rounds_le {rounds : Nat} {call : Call S.recorded}
    (goes : usage.GoesRound ticket rounds) (sound : usage.Sound)
    (found : usage.calls[ticket]? = some call) :
    rounds ≤ call.direction.handedOut usage.stream.world + 1 := by
  obtain ⟨passed, distinct, behind, counted⟩ := goes.passed call found
  have entered : call.direction.handedOut usage.stream.world =
      call.direction.entered usage.stream.state := by
    cases call.direction with
    | inbound => exact sound.enumerated.reader_count
    | outbound => exact sound.enumerated.writer_count
  have within : passed.length ≤ call.direction.entered usage.stream.state := by
    have among : passed ⊆ List.range (call.direction.entered usage.stream.state) :=
      fun number member => List.mem_range.mpr (behind number member).known
    simpa using (distinct.subperm among).length_le
  have one := Bool.toNat_le (!call.looks)
  omega

theorem GoesRound.after_move {rounds : Nat} {mover : Ticket} (goes : usage.GoesRound ticket rounds)
    (paced : usage.Paced) (moves : Moves T usage mover (usage.stretch T mover)) :
    (usage.stretch T mover).GoesRound ticket
      (rounds + (mover == ticket && usage.looks ticket).toNat) := by
  have used : (usage.stretch T mover).Used := paced.used.after_move moves
  constructor
  · intro outside
    rw [moves.calls_length] at outside
    have idle : usage.looks ticket = false := by
      rw [looks, List.getElem?_eq_none outside, Option.any_none]
    rw [idle, Bool.and_false, goes.absent outside]
    rfl
  · intro become there
    obtain ⟨call, found, same⟩ := moves.direction_same there
    obtain ⟨passed, distinct, behind, counted⟩ := goes.passed call found
    rw [same]
    have kept (number : Nat) (member : number ∈ passed) :
        (usage.stretch T mover).Behind call.direction number ticket :=
      (behind number member).after_move moves used
    rw [looks_found found]
    by_cases self : mover = ticket
    · subst self
      have nowLooks := looks_found there
      rw [beq_self_eq_true, Bool.true_and]
      cases looks : call.looks with
      | true =>
        have past := paced.used.sound.looks_past (T := T) ((looks_found found).trans looks)
        rw [nowLooks] at past
        refine ⟨passed, distinct, kept, ?_⟩
        rw [looks] at counted
        rw [past]
        exact Nat.succ_le_succ counted
      | false =>
        rw [looks] at counted
        cases again : become.looks with
        | false => exact ⟨passed, distinct, kept, counted⟩
        | true =>
          obtain ⟨mine, number, turn, there, stands, done⟩ := paced.starts_over moves used
            ((looks_found found).trans looks) (nowLooks.trans again)
          cases found.symm.trans there
          refine ⟨number :: passed, List.nodup_cons.mpr ⟨?_, distinct⟩, ?_, counted⟩
          · exact fun member => (behind number member).away turn ((place_found found).trans stands)
          · exact List.forall_mem_cons.mpr ⟨done, kept⟩
    · rw [moves.calls_other (Ne.symm self)] at there
      cases found.symm.trans there
      rw [beq_eq_false_iff_ne.mpr self, Bool.false_and]
      exact ⟨passed, distinct, kept, counted⟩

theorem GoesRound.after_drop {rounds : Nat} {mover : Ticket} (goes : usage.GoesRound ticket rounds)
    (drops : Drops T usage mover after) (used : after.Used) : after.GoesRound ticket rounds := by
  constructor
  · intro outside
    exact goes.absent (drops.calls_length ▸ outside)
  · intro become there
    obtain ⟨call, found, same, looked⟩ := drops.direction_same there
    obtain ⟨passed, distinct, behind, counted⟩ := goes.passed call found
    rw [same]
    refine ⟨passed, distinct, fun number member => (behind number member).after_drop drops used,
      Nat.le_trans counted (Nat.add_le_add_left ?_ _)⟩
    cases looks : become.looks with
    | true => exact Nat.le_of_eq (by rw [looked looks])
    | false => exact Bool.toNat_le _

theorem GoesRound.after_begin {rounds : Nat} (goes : usage.GoesRound ticket rounds)
    (demand : Demand) :
    (usage.step T (.begin demand)).GoesRound ticket rounds := by
  constructor
  · intro outside
    refine goes.absent (Nat.le_trans ?_ outside)
    exact List.length_append ▸ Nat.le_add_right _ _
  · intro call there
    rcases push_cases there with ⟨new, rfl⟩ | ⟨-, old⟩
    · rw [goes.absent (Nat.le_of_eq new.symm)]
      exact ⟨[], List.nodup_nil, List.forall_mem_nil _, Nat.zero_le _⟩
    · obtain ⟨passed, distinct, behind, counted⟩ := goes.passed call old
      exact ⟨passed, distinct, fun number member => (behind number member).after_begin demand,
        counted⟩

theorem GoesRound.after_change {rounds : Nat} (goes : usage.GoesRound ticket rounds)
    (become : S.World → S.World) : (usage.step T (.change become)).GoesRound ticket rounds := by
  refine ⟨goes.absent, fun call found => ?_⟩
  obtain ⟨passed, distinct, behind, counted⟩ := goes.passed call found
  exact ⟨passed, distinct, fun number member => (behind number member).after_change become, counted⟩

/-- Whenever a call starts over, it has done for good with the message it was at. -/
def DoneWith (T : Transport S) (trail : List (Stretch S)) (usage : Usage S) : Prop :=
  ∀ earlier stretch later, trail = earlier ++ stretch :: later →
    (stretch.after T).looks stretch.ticket = true →
    ∃ direction number turn,
      stretch.before.place direction stretch.ticket = some (number, turn) ∧
      ∀ moment ∈ stretch.after T :: later.map (·.before) ++ [usage],
        moment.Behind direction number stretch.ticket

theorem DoneWith.of_behind {trail : List (Stretch S)} (done : DoneWith T trail usage)
    (behind : ∀ {direction number caller}, usage.Behind direction number caller →
      after.Behind direction number caller) : DoneWith T trail after := by
  intro earlier stretch later split again
  obtain ⟨direction, number, turn, stands, always⟩ := done earlier stretch later split again
  refine ⟨direction, number, turn, stands, ?_⟩
  intro moment member
  rcases List.mem_append.mp member with old | new
  · exact always moment (List.mem_append_left _ old)
  · rw [List.mem_singleton.mp new]
    exact behind (always usage (List.mem_append_right _ (.head _)))

theorem DoneWith.after_move {trail : List (Stretch S)} (done : DoneWith T trail usage)
    (paced : usage.Paced) (moves : Moves T usage ticket (usage.stretch T ticket)) :
    DoneWith T (trail ++ [⟨ticket, usage⟩]) (usage.stretch T ticket) := by
  have used : (usage.stretch T ticket).Used := paced.used.after_move moves
  intro earlier stretch later split again
  rcases split_snoc split with ⟨rest, rfl, rfl⟩ | ⟨rfl, rfl, rfl⟩
  · -- A stretch of before, after which one more has come.
    obtain ⟨direction, number, turn, stands, always⟩ := done earlier stretch rest rfl again
    refine ⟨direction, number, turn, stands, ?_⟩
    intro moment member
    have now : usage.Behind direction number stretch.ticket :=
      always usage (List.mem_append_right _ (.head _))
    simp only [List.map_append, List.map_cons, List.map_nil] at member
    rcases List.mem_append.mp member with old | new
    · rw [← List.cons_append] at old
      exact always moment old
    · rw [List.mem_singleton.mp new]
      exact now.after_move moves used
  · -- The stretch made now.
    cases past : usage.looks ticket with
    | true => cases (paced.used.sound.looks_past past).symm.trans again
    | false =>
      obtain ⟨call, number, turn, found, stands, behind⟩ := paced.starts_over moves used past again
      refine ⟨call.direction, number, turn, (place_found found).trans stands, ?_⟩
      intro moment member
      have here : moment = usage.stretch T ticket := by simpa [Stretch.after] using member
      exact here ▸ behind

/-- No call spins. In every run of any calls, given up or not, over any connection: whenever a call
comes back to look at the state, it has done with the message it was at, which is exhausted or
finished, and from then on that message is not current and the call is not at it; so a call goes
round at most once for each message handed out in its direction, and once more. A read makes at most
as many calls to the reader of one message as it has room for bytes, and a write at most as many to
fill its message as it has bytes. -/
theorem no_call_spins (T : Transport S) (config : Configuration) (world : S.World)
    (actions : List (Action S.World)) :
    let trail := (start config world).trail T actions
    let usage := (start config world).run T actions
    DoneWith T trail usage ∧
    (∀ ticket call, usage.calls[ticket]? = some call →
      Stretch.rounds ticket trail ≤ call.direction.handedOut usage.stream.world + 1) ∧
    (∀ ticket room phase, usage.calls[ticket]? = some (.read room phase) → ∀ number,
      usage.stream.begunBy ticket (Request.drains number) ≤ room) ∧
    (∀ ticket data phase, usage.calls[ticket]? = some (.write data phase) →
      usage.stream.begunBy ticket Request.fills ≤ data.length) := by
  intro trail usage
  obtain ⟨paced, done, goes⟩ : usage.Paced ∧ DoneWith T trail usage ∧
      ∀ ticket, usage.GoesRound ticket (Stretch.rounds ticket trail) := by
    refine trail_keep (fun trail usage => usage.Paced ∧ DoneWith T trail usage ∧
      ∀ ticket, usage.GoesRound ticket (Stretch.rounds ticket trail)) ?_ ?_ ?_ ?_
      (start_sound config world) ⟨start_paced config world, ?_, ?_⟩ actions
    · rintro trail usage demand ⟨paced, done, goes⟩
      exact ⟨paced.after_begin demand, done.of_behind fun behind => behind.after_begin demand,
        fun ticket => (goes ticket).after_begin demand⟩
    · rintro trail usage mover moves ⟨paced, done, goes⟩
      refine ⟨paced.after_move moves, done.after_move paced moves, fun ticket => ?_⟩
      rw [Stretch.rounds_snoc]
      exact (goes ticket).after_move paced moves
    · rintro trail usage mover after drops ⟨paced, done, goes⟩
      have later := paced.after_drop drops
      exact ⟨later, done.of_behind fun behind => behind.after_drop drops later.used,
        fun ticket => (goes ticket).after_drop drops later.used⟩
    · rintro trail usage become ⟨paced, done, goes⟩
      exact ⟨paced.after_change become, done.of_behind fun behind => behind.after_change become,
        fun ticket => (goes ticket).after_change become⟩
    · intro earlier stretch later split
      cases earlier <;> cases split
    · exact fun ticket => ⟨fun _ => rfl, nofun⟩
  refine ⟨done, fun ticket call found => (goes ticket).rounds_le paced.used.sound found, ?_, ?_⟩
  · intro ticket room phase found number
    exact ((paced.frugal ticket _ found).2 number).1
  · intro ticket data phase found
    exact (paced.frugal ticket _ found).1

/-- A read that comes upon an empty message goes round twice. -/
example : Stretch.rounds 0 (trail (Scripted.transport {})
    (start {} { inbound := [.ok [], .ok [7]] }) [.begin (.read 1), .poll 0]) = 2 := rfl

end Usage

end MessageStream
