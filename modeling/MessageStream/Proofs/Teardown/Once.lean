import MessageStream.Proofs.Teardown.Standing
import MessageStream.Proofs.Usage.Blame

/-!
Teardown happens once. The first close to be polled takes the connection and the current message,
and it alone shuts the connection down, once the message has been finished. Every other close does
not use the connection and answers at its first poll.
-/
namespace MessageStream

variable {S : Signature} {T : Transport S}

/-- A close that has nothing to do with the connection: it has not been polled, or it found the
stream closed. -/
inductive Bystands : Phase (CloseStage S) CloseOutcome → Prop where
  | fresh : Bystands .fresh
  | forgotten : Bystands (.dropped none)
  | spared : Bystands (.answered (.ok ()))

def Settles (taken : Option Nat) (traffic : List Traffic) : Prop :=
  ∀ number, taken = some number → Use.idle.follow number traffic = some .finished

namespace Usage

/-- One close has taken the connection and the current message, and every other stands by. -/
structure Teardown (taker : Ticket) (taken : Option Nat) (usage : Usage S) : Prop where
  used : usage.Used
  settled : usage.Settled
  traced : usage.Traced
  closers : ∀ entry ∈ usage.traffic, entry.request = .close → entry.caller = taker
  strangers : ∀ other phase, other ≠ taker → usage.calls[other]? = some (.close phase) →
    Bystands phase
  stands : ∃ phase, usage.calls[taker]? = some (.close phase) ∧
    Standing taker taken phase (usage.own taker)
  borrows : ∀ stage, usage.calls[taker]? = some (.close (.waiting stage)) →
    taker ∈ usage.stream.borrowers
  finished : ∀ stage, usage.calls[taker]? = some (.close (.waiting (.closing stage))) →
    Settles taken usage.traffic
  orderly : ∀ before after, usage.traffic = before ++ .begun taker .close :: after →
    Settles taken before

theorem Used.settled_when_grown {usage after : Usage S} (used : after.Used) {taken : Option Nat}
    (settles : Settles taken usage.traffic) {entries : List Traffic}
    (grown : after.traffic = usage.traffic ++ entries) : Settles taken after.traffic := by
  intro number current
  obtain ⟨use, read, -⟩ := used.uses number
  have finished : use = .finished := by
    have whole : Use.idle.follow number after.traffic = some use := read
    rw [grown, Use.follow_append, settles number current] at whole
    exact Use.follow_over whole
  exact finished ▸ read

theorem own_grown {usage after : Usage S} {entries : List Traffic} {ticket : Ticket}
    (grown : after.traffic = usage.traffic ++ entries)
    (mine : ∀ entry ∈ entries, entry.caller = ticket) :
    after.own ticket = usage.own ticket ++ entries := by
  have kept : entries.filter (·.caller == ticket) = entries := by
    apply List.filter_eq_self.mpr
    intro entry member
    simpa using mine entry member
  rw [own, own, grown, List.filter_append, kept]

theorem own_other {usage after : Usage S} {entries : List Traffic} {ticket : Ticket}
    (grown : after.traffic = usage.traffic ++ entries)
    (others : ∀ entry ∈ entries, entry.caller ≠ ticket) :
    after.own ticket = usage.own ticket := by
  have none : entries.filter (·.caller == ticket) = [] := by
    apply List.filter_eq_nil_iff.mpr
    intro entry member
    simpa using others entry member
  rw [own, own, grown, List.filter_append, none, List.append_nil]

namespace Teardown

variable {taker : Ticket} {taken : Option Nat} {usage : Usage S}
  (torn : Teardown taker taken usage)
include torn

theorem stream_closed : usage.stream.state.isClosed = true := by
  obtain ⟨phase, found, standing⟩ := torn.stands
  exact torn.settled.taken.trans (any_there found standing.call_shuts)

theorem after_other_call {ticket : Ticket} {after : Usage S} {makes : Request → Bool}
    (different : ticket ≠ taker) (used : after.Used) (settled : after.Settled)
    (traced : after.Traced) (same : after.calls[taker]? = usage.calls[taker]?)
    (lends : usage.stream.Lends ticket after.stream)
    (adds : usage.stream.Adds ticket makes after.stream) (spares : makes .close = false)
    (strangers : ∀ other phase, other ≠ taker → after.calls[other]? = some (.close phase) →
      Bystands phase) : Teardown taker taken after := by
  obtain ⟨entries, grown, made⟩ := adds
  have traffic : after.traffic = usage.traffic ++ entries := grown
  have others (entry : Traffic) (member : entry ∈ entries) : entry.caller ≠ taker :=
    (made entry member).1 ▸ different
  refine ⟨used, settled, traced, ?_, strangers, ?_, ?_, ?_, ?_⟩
  · intro entry member shuts
    rw [traffic] at member
    rcases List.mem_append.mp member with old | new
    · exact torn.closers entry old shuts
    · have fits := (made entry new).2
      rw [shuts, spares] at fits
      cases fits
  · rw [same, own_other traffic others]
    exact torn.stands
  · intro stage waits
    exact (lends taker (Ne.symm different)).mpr (torn.borrows stage (same ▸ waits))
  · intro stage waits
    exact used.settled_when_grown (torn.finished stage (same ▸ waits)) traffic
  · intro before rest split
    rcases split_append (traffic.symm.trans split) with ⟨mid, early⟩ | ⟨front, -, late⟩
    · exact torn.orderly before mid early
    · exact absurd rfl (others _ (late ▸ List.mem_append_right front (.head rest)))

/-- The message that was taken is settled when the close leaves it, for the close had the turn at
it, and so nobody has a call on it under way. -/
theorem settled_when_left {stage : CloseStage S.recorded} {become : Call S.recorded}
    {stream : Stream S.recorded} (found : usage.calls[taker]? = some (.close (.waiting stage)))
    (used : Used (⟨stream, usage.calls.set taker become⟩ : Usage S)) (free : become.pending = none)
    (marked : ∀ number, taken = some number →
      stage.place = some (number, true) ∧ stream.marked number = true) :
    Settles taken stream.world.traffic := by
  intro number current
  obtain ⟨held, done⟩ := marked number current
  obtain ⟨use, read, finished, agree⟩ := used.uses number
  refine Use.over_of number (finished.trans done) ?_ ▸ read
  intro caller request busy
  obtain ⟨under, on⟩ := (agree caller request).mp busy
  have pending : (⟨stream, usage.calls.set taker become⟩ : Usage S).pending =
      Function.update usage.pending taker become.pending :=
    set_place found become Call.pending
  rw [pending] at under
  by_cases mover : caller = taker
  · rw [mover, Function.update_self, free] at under
    cases under
  · rw [Function.update_of_ne mover] at under
    have turn : usage.writer taker = some (number, true) := by
      simpa [writer, found, Call.writer, Phase.place] using held
    exact mover
      (pending_turn usage.pending_placed torn.used.sound.writers.one_at_a_time turn under on)

theorem after_stretch {stage : CloseStage S.recorded}
    {step : Step (CloseStage S.recorded) CloseOutcome}
    {stream : Stream S.recorded} (found : usage.calls[taker]? = some (.close (.waiting stage)))
    (move : CloseMove T taker stage usage.stream step stream) :
    Teardown taker taken ⟨stream, usage.calls.set taker (.close (.ofStep step))⟩ := by
  have inside := (List.getElem?_eq_some_iff.mp found).1
  have moves : Moves T usage taker _ := .closes found rfl move
  have used := torn.used.after_move moves
  have borrows := torn.borrows stage found
  obtain ⟨entries, grown, made⟩ := move.adds
  have traffic : (⟨stream, usage.calls.set taker (.close (.ofStep step))⟩ : Usage S).traffic =
      usage.traffic ++ entries := grown
  have standing : Standing taker taken (.waiting stage) (usage.own taker) := by
    obtain ⟨phase, there, standing⟩ := torn.stands
    cases there.symm.trans found
    exact standing
  have becomes {phase : Phase (CloseStage S.recorded) CloseOutcome}
      (is : (usage.calls.set taker (.close (.ofStep step)))[taker]? = some (.close phase)) :
      .ofStep step = phase := by
    rw [List.getElem?_set_self inside] at is
    cases is
    rfl
  refine ⟨used, torn.settled.after_move moves, torn.traced.after_move moves, ?_, ?_, ?_, ?_, ?_, ?_⟩
  · intro entry member shuts
    rw [traffic] at member
    rcases List.mem_append.mp member with old | new
    · exact torn.closers entry old shuts
    · exact (made entry new).1
  · intro other phase different there
    rw [List.getElem?_set_ne (Ne.symm different)] at there
    exact torn.strangers other phase different there
  · obtain ⟨more, same, stands⟩ := move.standing_after standing borrows
    rw [List.append_cancel_left (same.symm.trans grown)] at stands
    refine ⟨_, List.getElem?_set_self inside, ?_⟩
    rw [own_grown traffic fun entry member => (made entry member).1]
    exact stands
  · intro later waits
    exact move.still_borrower borrows (becomes waits)
  · intro later waits
    have goes := becomes waits
    rcases move.had_turn_at_marked standing goes with ⟨before, rfl⟩ | marked
    · exact used.settled_when_grown (torn.finished before found) traffic
    · exact torn.settled_when_left found used (by rw [goes]; rfl) marked
  · intro before after split
    -- The shutting down begins with the first poll of the connection's own close.
    by_cases shutting : ∃ later, stage = .closing later
    · obtain ⟨later, rfl⟩ := shutting
      obtain ⟨reply, polled⟩ := move.traffic_of_closing
      rcases split_append (polled.symm.trans split) with ⟨mid, early⟩ | ⟨front, there, late⟩
      · exact torn.orderly before mid early
      · rw [there, Traffic.ofPoll_shuts late, List.append_nil]
        exact torn.finished later found
    · obtain ⟨more, polled, others⟩ := move.adds_no_close fun later same => shutting ⟨later, same⟩
      rcases split_append (polled.symm.trans split) with ⟨mid, early⟩ | ⟨front, -, late⟩
      · exact torn.orderly before mid early
      · have shuts := (others _ (late ▸ List.mem_append_right front (.head after))).2
        simp [Traffic.request] at shuts

theorem after_giving_up {stage : CloseStage S.recorded} {stream : Stream S.recorded}
    (found : usage.calls[taker]? = some (.close (.waiting stage)))
    (drop : CloseDrop T taker stage usage.stream stream) :
    Teardown taker taken ⟨stream, usage.calls.set taker (.close (.dropped (some stage)))⟩ := by
  have inside := (List.getElem?_eq_some_iff.mp found).1
  have drops : Drops T usage taker _ := .closes found drop
  have dropped : (usage.calls.set taker (.close (.dropped (some stage))))[taker]? =
      some (.close (.dropped (some stage))) := List.getElem?_set_self inside
  obtain ⟨entries, grown, cancelled⟩ := drop.adds_cancelled
  have traffic : (⟨stream, usage.calls.set taker (.close (.dropped (some stage)))⟩ :
      Usage S).traffic = usage.traffic ++ entries := grown
  have mine (entry : Traffic) (member : entry ∈ entries) : entry.caller = taker := by
    obtain ⟨request, rfl⟩ := cancelled entry member
    rfl
  have unbegun : entries.countP Traffic.shutsDown = 0 := by
    apply List.countP_eq_zero.mpr
    intro entry member
    obtain ⟨request, rfl⟩ := cancelled entry member
    exact Bool.false_ne_true
  refine ⟨torn.used.after_drop drops, torn.settled.after_drop drops, torn.traced.after_drop drops,
    ?_, ?_, ?_, ?_, ?_, ?_⟩
  · intro entry member shuts
    rw [traffic] at member
    rcases List.mem_append.mp member with old | new
    · exact torn.closers entry old shuts
    · exact mine entry new
  · intro other phase different there
    rw [List.getElem?_set_ne (Ne.symm different)] at there
    exact torn.strangers other phase different there
  · obtain ⟨phase, -, standing⟩ := torn.stands
    refine ⟨_, dropped, .dropped ?_⟩
    rw [own_grown traffic mine, List.countP_append, unbegun]
    exact standing.shuts_down_once
  · intro later waits
    cases dropped.symm.trans waits
  · intro later waits
    cases dropped.symm.trans waits
  · intro before after split
    rcases split_append (traffic.symm.trans split) with ⟨mid, early⟩ | ⟨front, -, late⟩
    · exact torn.orderly before mid early
    · obtain ⟨request, same⟩ := cancelled _ (late ▸ List.mem_append_right front (.head after))
      cases same

theorem strangers_set {ticket : Ticket} {become : Call S.recorded}
    (bystands : ∀ phase, become = .close phase → Bystands phase) (other : Ticket)
    (phase : Phase (CloseStage S.recorded) CloseOutcome) (different : other ≠ taker)
    (there : (usage.calls.set ticket become)[other]? = some (.close phase)) : Bystands phase := by
  rcases set_cases there with ⟨-, same⟩ | ⟨-, kept⟩
  · exact bystands phase same.symm
  · exact torn.strangers other phase different kept

theorem after_move {ticket : Ticket} {after : Usage S} (moves : Moves T usage ticket after) :
    Teardown taker taken after := by
  obtain ⟨standingPhase, there, standing⟩ := torn.stands
  have used := torn.used.after_move moves
  have settled := torn.settled.after_move moves
  have traced := torn.traced.after_move moves
  by_cases mover : ticket = taker
  · subst mover
    cases moves with
    | rests => exact torn
    | reads found next move => cases there.symm.trans found
    | writes found next move => cases there.symm.trans found
    | closes found next move =>
      rename_i phase stage step stream
      cases there.symm.trans found
      cases standingPhase with
      | fresh => cases standing
      | waiting later =>
        cases next
        exact torn.after_stretch found move
      | answered outcome => cases next
      | dropped stage => cases next
  · have same := moves.calls_other (Ne.symm mover)
    cases moves with
    | rests => exact torn
    | reads found next move =>
      exact torn.after_other_call mover used settled traced same move.lends move.adds rfl
        (torn.strangers_set nofun)
    | writes found next move =>
      exact torn.after_other_call mover used settled traced same move.lends move.adds rfl
        (torn.strangers_set nofun)
    | closes found next move =>
      rename_i phase stage step stream
      have bystander := torn.strangers ticket phase mover found
      cases bystander with
      | fresh =>
        cases next
        obtain ⟨rfl, world⟩ :=
          move.answers_without_io torn.stream_closed (torn.settled.slots torn.stream_closed).2
          (torn.traced.not_borrower (show usage.calls[ticket]? = some (.begin .close) from found))
        have nothing : usage.stream.Adds ticket (fun _ => false) stream :=
          .of_same_traffic (congrArg Recorded.traffic world)
        refine torn.after_other_call mover used settled traced same move.lends nothing rfl
          (torn.strangers_set ?_)
        intro phase is
        cases is
        exact .spared
      | forgotten => cases next
      | spared => cases next

theorem after_drop {ticket : Ticket} {after : Usage S} (drops : Drops T usage ticket after) :
    Teardown taker taken after := by
  obtain ⟨standingPhase, there, standing⟩ := torn.stands
  have used := torn.used.after_drop drops
  have settled := torn.settled.after_drop drops
  have traced := torn.traced.after_drop drops
  by_cases mover : ticket = taker
  · subst mover
    cases drops with
    | rests => exact torn
    | forgets demand found =>
      cases demand with
      | close =>
        cases there.symm.trans found
        cases standing
      | read room => cases there.symm.trans found
      | write data => cases there.symm.trans found
    | reads found drop => cases there.symm.trans found
    | writes found drop => cases there.symm.trans found
    | closes found drop => exact torn.after_giving_up found drop
  · have stays (become : Call S.recorded) :
        (usage.calls.set ticket become)[taker]? = usage.calls[taker]? :=
      List.getElem?_set_ne mover
    cases drops with
    | rests => exact torn
    | forgets demand found =>
      have nothing : usage.stream.Adds ticket (fun _ => false) usage.stream := .of_same_traffic rfl
      refine torn.after_other_call mover used settled traced (stays _) (.of_same rfl) nothing rfl
        (torn.strangers_set ?_)
      intro phase is
      cases demand <;> cases is
      exact .forgotten
    | reads found drop =>
      exact torn.after_other_call mover used settled traced (stays _) drop.lends drop.adds rfl
        (torn.strangers_set nofun)
    | writes found drop =>
      exact torn.after_other_call mover used settled traced (stays _) drop.lends drop.adds rfl
        (torn.strangers_set nofun)
    | closes found drop => cases torn.strangers ticket _ mover found

theorem after_begin (demand : Demand) : Teardown taker taken (usage.step T (.begin demand)) := by
  obtain ⟨phase, there, -⟩ := torn.stands
  have inside := (List.getElem?_eq_some_iff.mp there).1
  have nothing : usage.stream.Adds usage.calls.length (fun _ => false)
      (usage.step T (.begin demand)).stream := .of_same_traffic rfl
  refine torn.after_other_call (Nat.ne_of_gt inside) (torn.used.after_begin demand)
    (torn.settled.after_begin demand) (torn.traced.after_begin demand)
    (List.getElem?_append_left inside) (.of_same rfl) nothing rfl ?_
  intro other phase different found
  rcases push_cases found with ⟨-, same⟩ | ⟨-, kept⟩
  · cases demand <;> cases same
    exact .fresh
  · exact torn.strangers other phase different kept

theorem after_change (become : S.World → S.World) :
    Teardown taker taken (usage.step T (.change become)) :=
  { used := ⟨torn.used.sound.after_change become, torn.used.uses, torn.used.unmarked⟩
    settled := ⟨torn.settled.sound.after_change become, torn.settled.taken, torn.settled.slots⟩
    traced := ⟨torn.traced.borrowers, torn.traced.callers, torn.traced.closers⟩
    closers := torn.closers
    strangers := torn.strangers
    stands := torn.stands
    borrows := torn.borrows
    finished := torn.finished
    orderly := torn.orderly }

theorem after_run (actions : List (Action S.World)) : Teardown taker taken (usage.run T actions) :=
  moves_keep (Teardown taker taken) (fun _ demand torn => torn.after_begin demand)
    (fun moves torn => torn.after_move moves) (fun drops torn => torn.after_drop drops)
    (fun _ become torn => torn.after_change become) torn.used.sound torn actions

/-- Every other close answers at its first poll, which leaves the stream and the connection
alone. -/
theorem poll_bystander {ticket : Ticket} (found : usage.calls[ticket]? = some (.close .fresh)) :
    usage.step T (.poll ticket) =
      { usage with calls := usage.calls.set ticket (.close (.answered (.ok ()))) } := by
  have unowned : usage.stream.state.lease.owned = false := by
    simpa [Stream.State.isClosed] using torn.stream_closed
  have absent : ticket ∉ usage.stream.state.lease.borrowers :=
    torn.traced.not_borrower (show usage.calls[ticket]? = some (.begin .close) from found)
  obtain ⟨inbound, outbound⟩ := torn.settled.slots torn.stream_closed
  have same := Close.take_again ticket usage.stream unowned inbound outbound
  have first : Close.advance T.recorded ticket .start usage.stream =
      (usage.stream, .ready (.ok ())) := by
    rw [Close.advance, Close.start, outbound]
    dsimp only
    rw [same, Close.shutDown, if_neg absent]
  have polled : (Stream.close T.recorded).poll ticket none usage.stream =
      (usage.stream, .ready (.ok ())) := by
    simp only [Stream.close, Close.limit, Option.getD_none, Step.run, first]
  simp [step, onCall, found, Call.poll, Phase.poll, polled, Phase.ofProgress]

end Teardown

theorem onCall_shuts {usage : Usage S} {ticket : Ticket}
    {act : Stream S.recorded × Call S.recorded → Stream S.recorded × Call S.recorded}
    (standing : usage.calls.any Call.shuts = false)
    (shuts : (usage.onCall act ticket).calls.any Call.shuts = true) :
    ∃ call, usage.calls[ticket]? = some call ∧ call.shuts = false ∧
      (act (usage.stream, call)).2.shuts = true := by
  cases found : usage.calls[ticket]? with
  | none => simp [onCall, found, standing] at shuts
  | some call =>
    have idle := shuts_false_of_standing standing found
    refine ⟨call, rfl, idle, ?_⟩
    cases becomes : (act (usage.stream, call)).2.shuts with
    | true => rfl
    | false =>
      simp only [onCall, found] at shuts
      rw [any_same found _ (becomes.trans idle.symm), standing] at shuts
      exact shuts

theorem poll_shuts {call : Call S.recorded} {ticket : Ticket} {stream : Stream S.recorded}
    (idle : call.shuts = false)
    (shuts : (Call.poll T.recorded ticket (stream, call)).2.shuts = true) :
    call = .close .fresh := by
  rcases call with ⟨room, phase⟩ | ⟨data, phase⟩ | (_ | stage | outcome | (_ | stage))
  · cases shuts
  · cases shuts
  · rfl
  · cases idle
  · cases idle
  · cases shuts
  · cases idle

theorem drop_shuts_same (call : Call S.recorded) (ticket : Ticket) (stream : Stream S.recorded) :
    (Call.drop T.recorded ticket (stream, call)).2.shuts = call.shuts := by
  rcases call with ⟨room, phase⟩ | ⟨data, phase⟩ | (_ | stage | outcome | (_ | stage)) <;> rfl

theorem step_shuts {usage : Usage S} {action : Action S.World}
    (standing : usage.calls.any Call.shuts = false)
    (shuts : (usage.step T action).calls.any Call.shuts = true) :
    ∃ ticket, action = .poll ticket ∧ usage.calls[ticket]? = some (.close .fresh) := by
  cases action with
  | begin demand =>
    have fresh : (Call.begin demand : Call S.recorded).shuts = false := by cases demand <;> rfl
    simp [step, standing, fresh] at shuts
  | poll ticket =>
    obtain ⟨call, found, idle, polled⟩ := onCall_shuts standing shuts
    exact ⟨ticket, rfl, poll_shuts idle polled ▸ found⟩
  | drop ticket =>
    obtain ⟨call, found, idle, dropped⟩ := onCall_shuts standing shuts
    rw [drop_shuts_same, idle] at dropped
    cases dropped
  | change become => simp [step, standing] at shuts

theorem first_close (T : Transport S) (usage : Usage S) (actions : List (Action S.World))
    (standing : usage.calls.any Call.shuts = false) :
    (usage.run T actions).calls.any Call.shuts = false ∨
      ∃ before ticket after, actions = before ++ .poll ticket :: after ∧
        (usage.run T before).calls.any Call.shuts = false ∧
        (usage.run T before).calls[ticket]? = some (.close .fresh) := by
  induction actions generalizing usage with
  | nil => exact .inl standing
  | cons action rest ih =>
    cases next : (usage.step T action).calls.any Call.shuts with
    | false =>
      rcases ih _ next with never | ⟨before, ticket, after, split, still, found⟩
      · exact .inl never
      · exact .inr ⟨action :: before, ticket, after, by rw [split]; rfl, still, found⟩
    | true =>
      obtain ⟨ticket, rfl, found⟩ := step_shuts standing next
      exact .inr ⟨[], ticket, rest, rfl, standing, found⟩

theorem bystands_of_standing {usage : Usage S} (standing : usage.calls.any Call.shuts = false)
    {other : Ticket} {phase : Phase (CloseStage S.recorded) CloseOutcome}
    (there : usage.calls[other]? = some (.close phase)) : Bystands phase := by
  have idle := shuts_false_of_standing standing there
  rcases phase with _ | stage | outcome | (_ | stage)
  · exact .fresh
  · cases idle
  · cases idle
  · exact .forgotten
  · cases idle

/-- The first stretch of a close that finds the stream standing takes the connection. It goes on to
shut that down at once only where there is no message to finish. -/
theorem starts_teardown {usage : Usage S} {taker : Ticket}
    {step : Step (CloseStage S.recorded) CloseOutcome} {stream : Stream S.recorded}
    (owned : usage.stream.state.lease.owned = true)
    (move : CloseMove T taker .start usage.stream step stream) :
    stream.world.traffic = usage.traffic ∧
      Standing taker usage.stream.state.outbound
        (.ofStep step : Phase (CloseStage S.recorded) CloseOutcome) [] ∧
      taker ∈ stream.borrowers ∧
      ∀ stage, (.ofStep step : Phase (CloseStage S.recorded) CloseOutcome) =
        .waiting (.closing stage) → usage.stream.state.outbound = none := by
  have lent : taker ∈ (Close.take taker usage.stream).borrowers := by
    simp [Stream.borrowers, owned, Lease.surrender, Lease.borrow]
  cases move with
  | takes current =>
    refine ⟨rfl, .queued current, lent, ?_⟩
    intro stage goes
    cases goes
  | takesIdle vacant shuts =>
    cases shuts with
    | owner taken => exact ⟨rfl, .ready (.inl rfl), lent, fun _ _ => vacant⟩
    | other absent => exact absurd lent absent

theorem taken_first {usage : Usage S} {taker : Ticket}
    {step : Step (CloseStage S.recorded) CloseOutcome} {stream : Stream S.recorded}
    (used : usage.Used) (settled : usage.Settled) (traced : usage.Traced)
    (found : usage.calls[taker]? = some (.close .fresh))
    (standing : usage.calls.any Call.shuts = false)
    (move : CloseMove T taker .start usage.stream step stream) :
    Teardown taker usage.stream.state.outbound
      ⟨stream, usage.calls.set taker (.close (.ofStep step))⟩ := by
  have inside := (List.getElem?_eq_some_iff.mp found).1
  have moves : Moves T usage taker _ := .closes found rfl move
  have becomes {phase : Phase (CloseStage S.recorded) CloseOutcome}
      (is : (usage.calls.set taker (.close (.ofStep step)))[taker]? = some (.close phase)) :
      .ofStep step = phase := by
    rw [List.getElem?_set_self inside] at is
    cases is
    rfl
  have owned : usage.stream.state.lease.owned = true := by
    simpa [Stream.State.isClosed, standing] using settled.taken
  obtain ⟨same, stands, borrows, late⟩ := starts_teardown owned move
  -- No close has been polled before, so nothing is recorded of shutting the connection down.
  have unshut := traced.no_close_recorded standing
  have traffic : (⟨stream, usage.calls.set taker (.close (.ofStep step))⟩ : Usage S).traffic =
      usage.traffic ++ [] := same.trans (List.append_nil _).symm
  refine ⟨used.after_move moves, settled.after_move moves, traced.after_move moves, ?_, ?_, ?_, ?_,
    ?_, ?_⟩
  · intro entry member shuts
    rw [traffic, List.append_nil] at member
    exact absurd shuts (unshut entry member)
  · intro other phase different there
    rw [List.getElem?_set_ne (Ne.symm different)] at there
    exact bystands_of_standing standing there
  · refine ⟨_, List.getElem?_set_self inside, ?_⟩
    have fresh : usage.calls[taker]? = some (.begin .close) := found
    rw [own_grown traffic (List.forall_mem_nil _), traced.own_fresh fresh]
    exact stands
  · intro stage waits
    exact borrows
  · intro stage waits number current
    rw [late stage (becomes waits)] at current
    cases current
  · intro before after split
    rw [traffic, List.append_nil] at split
    refine absurd rfl (unshut (.begun taker .close) ?_)
    exact split ▸ List.mem_append_right before (.head after)

theorem taken_polled {usage : Usage S} {taker : Ticket} (used : usage.Used)
    (settled : usage.Settled) (traced : usage.Traced)
    (found : usage.calls[taker]? = some (.close .fresh))
    (standing : usage.calls.any Call.shuts = false) :
    Teardown taker usage.stream.state.outbound (usage.step T (.poll taker)) := by
  have same := poll_stretches T taker usage
  generalize usage.strides T taker = count at same
  cases count with
  | zero =>
    -- A call that has been polled is not where it was before its first poll.
    have inside := (List.getElem?_eq_some_iff.mp found).1
    have stays : (usage.step T (.poll taker)).calls[taker]? = some (.close .fresh) := by
      rw [same]
      exact found
    simp only [step, onCall, found, List.getElem?_set_self inside, Call.poll, Phase.poll] at stays
    generalize (Stream.close T.recorded).poll taker none usage.stream = polled at stays
    rcases polled with ⟨stream, later | outcome⟩ <;> cases stays
  | succ count =>
    have first : usage.stretch T taker =
        ⟨(Close.advance T.recorded taker .start usage.stream).1, usage.calls.set taker
          (.close (.ofStep (Close.advance T.recorded taker .start usage.stream).2))⟩ := by
      simp only [stretch, onCall, found]
      rfl
    have torn : Teardown taker usage.stream.state.outbound (usage.stretch T taker) := by
      rw [first]
      exact taken_first used settled traced found standing
        (Close.advance_moves T taker .start usage.stream used.sound.enumerated (by rintro _ _ ⟨⟩))
    rw [same, Function.iterate_succ_apply]
    clear same
    induction count with
    | zero => exact torn
    | succ count ih =>
      rw [Function.iterate_succ_apply']
      exact ih.after_move (ih.used.sound.stretch_moves taker)

/-- What a run shows of a close that was the first to be polled, at its first poll in the state
`earlier`, where `after` is what was done later. It takes the connection. Every other close answers
well at its first poll without a call on the connection or a message, so none waits or fails. The
connection is shut down once at most, by the close that took it, after the message it took has been
finished; and whoever else fails does so by a call of its own that is not the shutting down. -/
structure ClosedBy (T : Transport S) (earlier : Usage S) (taker : Ticket)
    (after : List (Action S.World)) : Prop where
  takes : earlier.calls[taker]? = some (.close .fresh) ∧
    earlier.calls.any Call.shuts = false ∧ earlier.stream.state.isClosed = false ∧
    (earlier.step T (.poll taker)).stream.state.isClosed = true
  spares : ∀ between other later, after = between ++ .poll other :: later →
    let met := (earlier.step T (.poll taker)).run T between
    met.calls[other]? = some (.close .fresh) → met.step T (.poll other) =
      { met with calls := met.calls.set other (.close (.answered (.ok ()))) }
  strangers : ∀ other phase, other ≠ taker →
    ((earlier.step T (.poll taker)).run T after).calls[other]? = some (.close phase) →
    Bystands phase
  once : ((earlier.step T (.poll taker)).run T after).traffic.countP Traffic.shutsDown ≤ 1
  closers : ∀ entry ∈ ((earlier.step T (.poll taker)).run T after).traffic,
    entry.request = .close → entry.caller = taker
  answers : ∀ outcome, ((earlier.step T (.poll taker)).run T after).calls[taker]? =
      some (.close (.answered outcome)) →
    TornDown taker earlier.stream.state.outbound
      (((earlier.step T (.poll taker)).run T after).own taker) outcome
  ordered : ∀ before rest, ((earlier.step T (.poll taker)).run T after).traffic =
      before ++ .begun taker .close :: rest →
    ∀ number, earlier.stream.state.outbound = some number →
      before.any (Traffic.finishes number) = true ∧ Traffic.underWay number before = []
  blamed : ∀ caller call source, caller ≠ taker →
    ((earlier.step T (.poll taker)).run T after).calls[caller]? = some call →
    call.cause? = some source →
    ∃ entry ∈ ((earlier.step T (.poll taker)).run T after).traffic,
      entry.caller = caller ∧ entry.failure? = some source ∧ entry.request ≠ .close

theorem ClosedBy.of_first {earlier : Usage S} {taker : Ticket} (used : earlier.Used)
    (settled : earlier.Settled) (traced : earlier.Traced) (blamed : earlier.Blamed)
    (found : earlier.calls[taker]? = some (.close .fresh))
    (standing : earlier.calls.any Call.shuts = false) (after : List (Action S.World)) :
    ClosedBy T earlier taker after := by
  have first : Teardown taker earlier.stream.state.outbound (earlier.step T (.poll taker)) :=
    taken_polled used settled traced found standing
  have torn := first.after_run (T := T) after
  have told : ((earlier.step T (.poll taker)).run T after).Blamed :=
    blamed.after_run used.sound (.poll taker :: after)
  constructor
  case takes => exact ⟨found, standing, settled.taken.trans standing, first.stream_closed⟩
  case spares =>
    intro between other later split met unpolled
    exact (first.after_run between).poll_bystander unpolled
  case strangers => exact torn.strangers
  case once =>
    obtain ⟨phase, -, stands⟩ := torn.stands
    have counted := stands.shuts_down_once
    rw [own, List.countP_filter] at counted
    refine Nat.le_trans (Nat.le_of_eq (List.countP_congr ?_)) counted
    intro entry member
    have mine : entry.shutsDown = true → entry.caller = taker := by
      intro shuts
      refine torn.closers entry member ?_
      rcases entry with ⟨caller, request⟩ | _ | _
      · cases request <;> first | rfl | cases shuts
      · cases shuts
      · cases shuts
    simpa using mine
  case closers => exact torn.closers
  case answers =>
    intro outcome answered
    obtain ⟨phase, there, stands⟩ := torn.stands
    cases there.symm.trans answered
    cases stands with
    | answered torn => exact torn
  case ordered =>
    intro before rest split number current
    have finished := torn.orderly before rest split number current
    have counted := Use.follow_finishes finished
    have busy := Use.follow_underWay finished
    refine ⟨?_, busy⟩
    apply List.any_eq_true.mpr
    refine List.countP_pos_iff.mp ?_
    simp only [Use.isFinished, Bool.toNat_false, Bool.toNat_true, Nat.zero_add] at counted
    exact counted ▸ Nat.one_pos
  case blamed =>
    intro caller call source different there fails
    obtain ⟨entry, member, mine, same⟩ := told caller call source there fails
    refine ⟨entry, member, mine, same, ?_⟩
    intro shuts
    exact different (mine.symm.trans (torn.closers entry member shuts))

/-- Teardown happens once. In every run of any calls, given up or not, over any connection: either
no close has been polled, and then the stream stands and nothing has been done about shutting the
connection down; or one close has been polled before all others, and it alone takes the connection
and shuts it down, as `ClosedBy` says. -/
theorem torn_down_once (T : Transport S) (config : Configuration) (world : S.World)
    (actions : List (Action S.World)) :
    let usage := (start config world).run T actions
    (usage.calls.any Call.shuts = false ∧ usage.stream.state.isClosed = false ∧
      ∀ entry ∈ usage.traffic, entry.request ≠ .close) ∨
    ∃ before taker after, actions = before ++ .poll taker :: after ∧
      ClosedBy T ((start config world).run T before) taker after := by
  intro usage
  have sound : (start config world).Sound := start_sound config world
  have kept (before : List (Action S.World)) := (start_used config world).after_run (T := T) before
  have settled (before : List (Action S.World)) :=
    (start_settled config world).after_run (T := T) before
  have traced (before : List (Action S.World)) :=
    (start_traced config world).after_run (T := T) sound before
  rcases first_close T (start config world) actions rfl with
    never | ⟨before, taker, after, split, standing, found⟩
  · left
    exact ⟨never, (settled actions).taken.trans never, (traced actions).no_close_recorded never⟩
  · right
    exact ⟨before, taker, after, split, .of_first (kept before) (settled before) (traced before)
      ((start_blamed config world).after_run sound before) found standing after⟩

end Usage

end MessageStream
