import MessageStream.Proofs.Closing
import MessageStream.Proofs.Usage.Lending
import MessageStream.Proofs.Usage.Record

/-!
What a call leaves behind. A call that has not been polled has not used the connection and stands
nowhere in its record, and what the record says of shutting the connection down is the doing of a
close that has been polled.
-/
namespace MessageStream

variable {S : Signature} {T : Transport S}

def Call.isFresh : Call S → Bool
  | .read _ .fresh => true
  | .write _ .fresh => true
  | .close .fresh => true
  | _ => false

theorem Call.begin_isFresh (demand : Demand) : (Call.begin demand : Call S).isFresh = true := by
  cases demand <;> rfl

namespace Usage

def Polled (usage : Usage S) (caller : Ticket) : Prop :=
  ∃ call, usage.calls[caller]? = some call ∧ call.isFresh = false

/-- What the record holds of one call. -/
def own (usage : Usage S) (ticket : Ticket) : List Traffic :=
  usage.traffic.filter (·.caller == ticket)

theorem Polled.set_call {usage : Usage S} {caller ticket : Ticket} {call become : Call S.recorded}
    (polled : usage.Polled caller) (found : usage.calls[ticket]? = some call)
    (progressed : become.isFresh = false) (after : Stream S.recorded) :
    (⟨after, usage.calls.set ticket become⟩ : Usage S).Polled caller := by
  obtain ⟨other, there, begun⟩ := polled
  by_cases mover : caller = ticket
  · subst mover
    exact ⟨become, List.getElem?_set_self (List.getElem?_eq_some_iff.mp found).1, progressed⟩
  · exact ⟨other, (List.getElem?_set_ne (Ne.symm mover)).trans there, begun⟩

theorem polled_self {calls : List (Call S.recorded)} {ticket : Ticket}
    {call become : Call S.recorded} (found : calls[ticket]? = some call)
    (progressed : become.isFresh = false) (after : Stream S.recorded) :
    (⟨after, calls.set ticket become⟩ : Usage S).Polled ticket :=
  ⟨become, List.getElem?_set_self (List.getElem?_eq_some_iff.mp found).1, progressed⟩

structure Traced (usage : Usage S) : Prop where
  borrowers : ∀ caller ∈ usage.stream.borrowers, usage.Polled caller
  callers : ∀ entry ∈ usage.traffic, usage.Polled entry.caller
  closers : ∀ entry ∈ usage.traffic, entry.request = .close →
    ∃ call, usage.calls[entry.caller]? = some call ∧ call.shuts = true

namespace Traced

variable {usage : Usage S} (traced : usage.Traced)
include traced

theorem own_fresh {ticket : Ticket} {demand : Demand}
    (found : usage.calls[ticket]? = some (.begin demand)) : usage.own ticket = [] := by
  apply List.filter_eq_nil_iff.mpr
  intro entry member same
  obtain ⟨call, there, begun⟩ := traced.callers entry member
  rw [beq_iff_eq.mp same, found] at there
  rw [← Option.some.inj there, Call.begin_isFresh] at begun
  cases begun

theorem not_borrower {ticket : Ticket} {demand : Demand}
    (found : usage.calls[ticket]? = some (.begin demand)) : ticket ∉ usage.stream.borrowers := by
  intro member
  obtain ⟨call, there, begun⟩ := traced.borrowers ticket member
  rw [found] at there
  rw [← Option.some.inj there, Call.begin_isFresh] at begun
  cases begun

/-- Until a close has been polled, nothing is recorded of shutting the connection down. -/
theorem no_close_recorded (standing : usage.calls.any Call.shuts = false) :
    ∀ entry ∈ usage.traffic, entry.request ≠ .close := by
  intro entry member shuts
  obtain ⟨call, found, polled⟩ := traced.closers entry member shuts
  exact Bool.false_ne_true ((shuts_false_of_standing standing found).symm.trans polled)

theorem after_touch {ticket : Ticket} {call become : Call S.recorded} {after : Stream S.recorded}
    {makes : Request → Bool} (found : usage.calls[ticket]? = some call)
    (lends : usage.stream.Lends ticket after) (adds : usage.stream.Adds ticket makes after)
    (progressed : become.isFresh = false) (keeps : call.shuts = true → become.shuts = true)
    (closes : makes .close = true → become.shuts = true) :
    Traced (⟨after, usage.calls.set ticket become⟩ : Usage S) := by
  have mover := polled_self found progressed after
  have inside := (List.getElem?_eq_some_iff.mp found).1
  obtain ⟨entries, grown, made⟩ := adds
  have traffic : (⟨after, usage.calls.set ticket become⟩ : Usage S).traffic =
      usage.traffic ++ entries := grown
  refine ⟨?_, ?_, ?_⟩
  · intro caller member
    by_cases self : caller = ticket
    · exact self ▸ mover
    · exact (traced.borrowers caller ((lends caller self).mp member)).set_call found progressed
        after
  · intro entry member
    rw [traffic] at member
    rcases List.mem_append.mp member with old | new
    · exact (traced.callers entry old).set_call found progressed after
    · exact (made entry new).1 ▸ mover
  · intro entry member shuts
    rw [traffic] at member
    have closer : entry.caller = ticket → become.shuts = true →
        ∃ call, (usage.calls.set ticket become)[entry.caller]? = some call ∧
          call.shuts = true := by
      rintro rfl shut
      exact ⟨become, List.getElem?_set_self inside, shut⟩
    rcases List.mem_append.mp member with old | new
    · obtain ⟨earlier, there, shut⟩ := traced.closers entry old shuts
      by_cases self : entry.caller = ticket
      · rw [self, found] at there
        exact closer self (keeps ((Option.some.inj there).symm ▸ shut))
      · exact ⟨earlier, (List.getElem?_set_ne (Ne.symm self)).trans there, shut⟩
    · obtain ⟨self, fits⟩ := made entry new
      exact closer self (closes (shuts ▸ fits))

theorem after_move {ticket : Ticket} {after : Usage S} (moves : Moves T usage ticket after) :
    after.Traced := by
  cases moves with
  | rests => exact traced
  | reads found next move =>
    rename_i step stream
    exact traced.after_touch found move.lends move.adds (by cases step <;> rfl) nofun nofun
  | writes found next move =>
    rename_i step stream
    exact traced.after_touch found move.lends move.adds (by cases step <;> rfl) nofun nofun
  | closes found next move =>
    rename_i step stream
    have shut : (Call.close (.ofStep step) : Call S.recorded).shuts = true := by
      cases step <;> rfl
    exact traced.after_touch found move.lends move.adds (by cases step <;> rfl) (fun _ => shut)
      fun _ => shut

theorem after_drop {ticket : Ticket} {after : Usage S} (drops : Drops T usage ticket after) :
    after.Traced := by
  cases drops with
  | rests => exact traced
  | forgets demand found =>
    have nothing : usage.stream.Adds ticket (fun _ => false) usage.stream := .of_same_traffic rfl
    refine traced.after_touch found (.of_same rfl) nothing ?_ ?_ nofun
    · cases demand <;> rfl
    · cases demand <;> nofun
  | reads found drop => exact traced.after_touch found drop.lends drop.adds rfl nofun nofun
  | writes found drop => exact traced.after_touch found drop.lends drop.adds rfl nofun nofun
  | closes found drop =>
    exact traced.after_touch found drop.lends drop.adds rfl (fun _ => rfl) fun _ => rfl

theorem after_begin (demand : Demand) : (usage.step T (.begin demand)).Traced := by
  -- The call begun comes after all that are there, so those stay where they are.
  have there {caller : Ticket} {call : Call S.recorded} (found : usage.calls[caller]? = some call) :
      (usage.step T (.begin demand)).calls[caller]? = some call :=
    (List.getElem?_append_left (List.getElem?_eq_some_iff.mp found).1).trans found
  refine ⟨?_, ?_, ?_⟩
  · intro caller member
    obtain ⟨call, found, past⟩ := traced.borrowers caller member
    exact ⟨call, there found, past⟩
  · intro entry member
    obtain ⟨call, found, past⟩ := traced.callers entry member
    exact ⟨call, there found, past⟩
  · intro entry member shuts
    obtain ⟨call, found, shut⟩ := traced.closers entry member shuts
    exact ⟨call, there found, shut⟩

theorem after_run (sound : usage.Sound) (actions : List (Action S.World)) :
    (usage.run T actions).Traced :=
  moves_keep Traced (fun _ demand traced => traced.after_begin demand)
    (fun moves traced => traced.after_move moves) (fun drops traced => traced.after_drop drops)
    (fun _ _ traced => ⟨traced.borrowers, traced.callers, traced.closers⟩) sound traced actions

end Traced

theorem Moves.traffic_grows {usage after : Usage S} {ticket : Ticket}
    (moves : Moves T usage ticket after) : usage.traffic <+: after.traffic := by
  cases moves with
  | rests => exact List.prefix_rfl
  | reads found next move => exact move.adds.traffic_grows
  | writes found next move => exact move.adds.traffic_grows
  | closes found next move => exact move.adds.traffic_grows

theorem Drops.traffic_grows {usage after : Usage S} {ticket : Ticket}
    (drops : Drops T usage ticket after) : usage.traffic <+: after.traffic := by
  cases drops with
  | rests => exact List.prefix_rfl
  | forgets demand found => exact List.prefix_rfl
  | reads found drop => exact drop.adds.traffic_grows
  | writes found drop => exact drop.adds.traffic_grows
  | closes found drop => exact drop.adds.traffic_grows

/-- What has been recorded stays recorded. -/
theorem run_grown (T : Transport S) {usage : Usage S} (sound : usage.Sound)
    (actions : List (Action S.World)) : usage.traffic <+: (usage.run T actions).traffic :=
  moves_keep (T := T) (fun later => usage.traffic <+: later.traffic) (fun _ _ grown => grown)
    (fun moves grown => grown.trans moves.traffic_grows)
      (fun drops grown => grown.trans drops.traffic_grows)
    (fun _ _ grown => grown) sound List.prefix_rfl actions

theorem start_traced (config : Configuration) (world : S.World) : (start config world).Traced :=
  ⟨nofun, List.forall_mem_nil _, List.forall_mem_nil _⟩

end Usage

end MessageStream
