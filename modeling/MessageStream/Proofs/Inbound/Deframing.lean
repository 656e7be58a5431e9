import MessageStream.Proofs.Inbound.Promptness
import MessageStream.Proofs.Usage.Record

/-!
Reads made one after the other. None is begun before the last has been answered and none is given
up; messages may be written meanwhile. Then the reads are those of the de-framer over what the
openings found and the readers played, and none of them waits but for the connection.
-/
namespace MessageStream

variable {S : Signature} {T : Transport S}

theorem filterMap_set_same {Item Part : Type} (part : Item → Option Part) {items : List Item}
    {place : Nat} {item become : Item} (found : items[place]? = some item)
    (same : part become = part item) :
    (items.set place become).filterMap part = items.filterMap part := by
  induction items generalizing place with
  | nil => rfl
  | cons first rest ih =>
    cases place with
    | zero =>
      cases found
      simp only [List.set_cons_zero, List.filterMap_cons, same]
    | succ place =>
      have found : rest[place]? = some item := by simpa using found
      simp [List.filterMap_cons, ih found]

theorem filterMap_set_last {Item Part : Type} (part : Item → Option Part) {items : List Item}
    {place : Nat} {item become : Item} {value : Part} (found : items[place]? = some item)
    (unset : part item = none) (now : part become = some value)
    (last : ∀ other later, items[other]? = some later → place < other → part later = none) :
    (items.set place become).filterMap part = items.filterMap part ++ [value] := by
  induction items generalizing place with
  | nil => cases found
  | cons first rest ih =>
    cases place with
    | zero =>
      cases found
      have silent : rest.filterMap part = [] := by
        apply List.filterMap_eq_nil_iff.mpr
        intro later member
        obtain ⟨other, there⟩ := List.mem_iff_getElem?.mp member
        exact last (other + 1) later (by simpa using there) (Nat.succ_pos other)
      simp [unset, now, silent]
    | succ place =>
      have found : rest[place]? = some item := by simpa using found
      have later := ih found fun other later there behind =>
        last (other + 1) later (by simpa using there) (Nat.succ_lt_succ behind)
      cases head : part first <;> simp [head, later]

theorem set_elsewhere {Item : Type} {items : List Item} {place other : Nat} {become item : Item}
    (there : (items.set place become)[other]? = some item) (different : item ≠ become) :
    items[other]? = some item := by
  rcases set_cases there with ⟨-, same⟩ | ⟨-, kept⟩
  · exact absurd same different
  · exact kept

namespace Call

def rests : Call S → Bool
  | read _ (.answered _) => true
  | read _ _ => false
  | _ => true

def answer? : Call S → Option (Nat × ReadOutcome)
  | read room (.answered outcome) => some (room, outcome)
  | _ => none

end Call

section Writes

variable {ticket : Ticket} {stream after : Stream S.recorded} {rest : S.Reader → Bytes}

theorem Stream.Hears.of_sends (adds : stream.Adds ticket Request.sends after)
    (readers : after.state.readers = stream.state.readers)
    (inbound : after.state.inbound = stream.state.inbound) : stream.Hears rest after id := by
  obtain ⟨entries, grown, made⟩ := adds
  have silent {Item : Type} (count : Traffic → List Item)
      (sent : ∀ entry : Traffic, entry.request.sends = true → count entry = []) :
      after.world.traffic.flatMap count = stream.world.traffic.flatMap count := by
    have none : entries.flatMap count = [] :=
      List.flatMap_eq_nil_iff.mpr fun entry member => sent entry (made entry member).2
    rw [grown, List.flatMap_append, none, List.append_nil]
  refine .nothing (silent _ ?_) ?_ ?_ (by rw [readers]) inbound
  · rintro (⟨_, request⟩ | ⟨_, request, reply⟩ | ⟨_, request⟩) sent <;>
      cases request <;> first | rfl | cases sent
  · funext number
    apply silent
    rintro (⟨_, request⟩ | ⟨_, request, reply⟩ | ⟨_, request⟩) sent <;>
      cases request <;> first | rfl | cases sent
  · funext number
    simp only [Stream.held, readers]

end Writes

namespace Usage

/-- Reads are made one after the other: none is begun before all earlier ones have been answered,
and none is given up. Writes are made in any way, and the stream is not closed. -/
def allows (usage : Usage S) : Action S.World → Bool
  | .begin (.read _) => usage.calls.all Call.rests
  | .begin (.write _) => true
  | .begin .close => false
  | .poll _ => true
  | .drop ticket => usage.calls[ticket]?.all Call.rests
  | .change _ => true

def consecutive (T : Transport S) : Usage S → List (Action S.World) → Bool
  | _, [] => true
  | usage, action :: later =>
    usage.allows action && consecutive T (usage.step T action) later

theorem consecutive_append (T : Transport S) (usage : Usage S)
    (before after : List (Action S.World))
    (consecutive : usage.consecutive T (before ++ after) = true) :
    usage.consecutive T before = true ∧ (usage.run T before).consecutive T after = true := by
  induction before generalizing usage with
  | nil => exact ⟨rfl, consecutive⟩
  | cons action later ih =>
    obtain ⟨allowed, following⟩ := Bool.and_eq_true_iff.mp consecutive
    obtain ⟨first, second⟩ := ih (usage.step T action) following
    exact ⟨Bool.and_eq_true_iff.mpr ⟨allowed, first⟩, second⟩

/-- Every read that waits waits for the connection. -/
def Prompt (usage : Usage S) : Prop :=
  ∀ (ticket : Ticket) (room : Nat) (stage : ReadStage S.recorded),
    usage.calls[ticket]? = some (.read room (.waiting stage)) → stage.awaits = true

def answers (usage : Usage S) : List (Nat × ReadOutcome) := usage.calls.filterMap Call.answer?

def copied (usage : Usage S) : Bytes := usage.answers.flatMap fun answer => answer.2.data

/-- Of all there was to read, the reads answered have left what the given is due of. -/
def Explains (usage : Usage S) (due : Backlog → Backlog → Prop) : Prop :=
  ∀ future, usage.stream.Continues future → ∃ left,
    (usage.stream.told future).reads (usage.answers.map Prod.fst) =
      some (usage.answers.map Prod.snd, left) ∧ due left future

structure Busy (usage : Usage S) (ticket : Ticket) (room : Nat) (stage : ReadStage S.recorded) :
    Prop where
  found : ∃ phase, usage.calls[ticket]? = some (.read room phase) ∧
    phase.next? .start = some stage
  others : ∀ (other : Ticket) (call : Call S.recorded), usage.calls[other]? = some call →
    other ≠ ticket → call.rests = true ∧ (ticket < other → call.answer? = none)
  roomy : stage.Roomy room
  finds : stage.Finds usage.stream.state.inbound
  explains : usage.Explains fun left future : Backlog =>
    left.read room = future.resume room stage.copied

structure Rested (usage : Usage S) : Prop where
  rests : ∀ (ticket : Ticket) (call : Call S.recorded), usage.calls[ticket]? = some call →
    call.rests = true
  explains : usage.Explains Eq

/-- A stream on which reads are made one after the other. -/
structure Deframed (rest : S.Reader → Bytes) (usage : Usage S) : Prop where
  sound : usage.Sound
  standing : usage.stream.state.isClosed = false
  inOrder : usage.stream.InOrder rest
  unshut : ∀ (ticket : Ticket) (phase : Phase (CloseStage S.recorded) CloseOutcome),
    usage.calls[ticket]? ≠ some (.close phase)
  reads : usage.Rested ∨ ∃ ticket room stage, usage.Busy ticket room stage

namespace Explains

variable {rest : S.Reader → Bytes} {usage later : Usage S} {due : Backlog → Backlog → Prop}
  {earlier : Backlog → Backlog} (explains : usage.Explains due)
  (inOrder : usage.stream.InOrder rest) (hears : usage.stream.Hears rest later.stream earlier)
include explains inOrder hears

theorem after_hearing {next : Backlog → Backlog → Prop}
    (answers : later.answers = usage.answers)
    (goes : ∀ left future, later.stream.Continues future → due left (earlier future) →
      next left future) : later.Explains next := by
  intro future continues
  obtain ⟨before, same⟩ := hears.told_unchanged inOrder future continues
  obtain ⟨left, read, isDue⟩ := explains (earlier future) before
  refine ⟨left, ?_, goes left future continues isDue⟩
  rw [← same, answers]
  exact read

theorem after_answer {room : Nat} {outcome : ReadOutcome}
    (answers : later.answers = usage.answers ++ [(room, outcome)])
    (goes : ∀ left future, later.stream.Continues future → due left (earlier future) →
      left.read room = some (outcome, future)) : later.Explains Eq := by
  intro future continues
  obtain ⟨before, same⟩ := hears.told_unchanged inOrder future continues
  obtain ⟨left, read, isDue⟩ := explains (earlier future) before
  refine ⟨future, ?_, rfl⟩
  rw [← same, answers, List.map_append, List.map_append]
  exact Backlog.reads_push read (goes left future continues isDue)

end Explains

namespace Busy

variable {usage : Usage S} {ticket : Ticket} {room : Nat} {stage : ReadStage S.recorded}

theorem call_unanswered (busy : usage.Busy ticket room stage) {call : Call S.recorded}
    (found : usage.calls[ticket]? = some call) : call.rests = false ∧ call.answer? = none := by
  obtain ⟨phase, there, next⟩ := busy.found
  cases there.symm.trans found
  cases phase <;> cases next <;> exact ⟨rfl, rfl⟩

theorem busy_unique (busy : usage.Busy ticket room stage) {other : Ticket} {space : Nat}
    {phase : Phase (ReadStage S.recorded) ReadOutcome} {later : ReadStage S.recorded}
    (found : usage.calls[other]? = some (.read space phase))
    (next : phase.next? .start = some later) : other = ticket ∧ space = room ∧ later = stage := by
  by_cases same : other = ticket
  · subst same
    obtain ⟨phase, there, goes⟩ := busy.found
    cases there.symm.trans found
    cases goes.symm.trans next
    exact ⟨rfl, rfl, rfl⟩
  · have still := (busy.others other _ found same).1
    cases phase <;> cases next <;> cases still

end Busy

theorem Busy.read_alone {usage : Usage S} {ticket : Ticket} {room : Nat}
    {stage : ReadStage S.recorded}
    (busy : usage.Busy ticket room stage) (sound : usage.Sound)
    (standing : usage.stream.state.isClosed = false) :
    Read.Alone room ticket stage usage.stream := by
  have places : usage.reader = Function.update (fun _ => none) ticket stage.place := by
    funext other
    by_cases same : other = ticket
    · subst same
      obtain ⟨phase, found, next⟩ := busy.found
      simp only [reader, found, Option.bind_some, Call.reader, Function.update_self]
      exact Phase.place_next ReadStage.place .start rfl next
    · rw [Function.update_of_ne same]
      cases found : usage.calls[other]? with
      | none => simp [reader, found]
      | some call =>
        have still := (busy.others other call found same).1
        rcases call with ⟨space, _ | later | outcome | stage⟩ | _ | _
        · cases still
        · cases still
        · simp [reader, found, Call.reader, Phase.place]
        · cases still
        · simp [reader, found, Call.reader]
        · simp [reader, found, Call.reader]
  exact ⟨sound.enumerated, standing, places ▸ sound.readers, busy.roomy, busy.finds⟩

theorem Rested.next_ne_stage {usage : Usage S} (rested : usage.Rested) {ticket : Ticket}
    {room : Nat}
    {phase : Phase (ReadStage S.recorded) ReadOutcome} {stage : ReadStage S.recorded}
    (found : usage.calls[ticket]? = some (.read room phase)) :
    phase.next? .start ≠ some stage := by
  intro next
  have still := rested.rests ticket _ found
  cases phase <;> cases next <;> cases still

namespace Deframed

variable {rest : S.Reader → Bytes} {usage : Usage S} (deframed : usage.Deframed rest)
include deframed

theorem busy_of_next {ticket : Ticket} {room : Nat}
    {phase : Phase (ReadStage S.recorded) ReadOutcome}
    {stage : ReadStage S.recorded} (found : usage.calls[ticket]? = some (.read room phase))
    (next : phase.next? .start = some stage) : usage.Busy ticket room stage := by
  rcases deframed.reads with rested | ⟨other, space, later, busy⟩
  · exact absurd next (rested.next_ne_stage found)
  · obtain ⟨rfl, rfl, rfl⟩ := busy.busy_unique found next
    exact busy

theorem after_other_call {place : Ticket} {call become : Call S.recorded}
    {after : Stream S.recorded}
    (found : usage.calls[place]? = some call) (rests : call.rests = true)
    (unread : call.answer? = none) (restful : become.rests = true)
    (unheard : become.answer? = none) (unshut : ∀ phase, become ≠ .close phase)
    (sound : (⟨after, usage.calls.set place become⟩ : Usage S).Sound)
    (owned : after.state.lease.owned = usage.stream.state.lease.owned)
    (inbound : after.state.inbound = usage.stream.state.inbound)
    (hears : usage.stream.Hears rest after id) :
    Deframed rest ⟨after, usage.calls.set place become⟩ := by
  have answers : answers ⟨after, usage.calls.set place become⟩ = usage.answers :=
    filterMap_set_same Call.answer? found (unheard.trans unread.symm)
  have each (holds : Ticket → Call S.recorded → Prop) (now : holds place become)
      (before : ∀ other call, usage.calls[other]? = some call → holds other call)
      (other : Ticket) (call : Call S.recorded)
      (there : (usage.calls.set place become)[other]? = some call) : holds other call := by
    rcases set_cases there with ⟨rfl, rfl⟩ | ⟨-, kept⟩
    · exact now
    · exact before other call kept
  refine ⟨sound, ?_, hears.stays_in_order deframed.inOrder, ?_, ?_⟩
  · simpa [Stream.State.isClosed, owned] using deframed.standing
  · intro ticket phase there
    exact each (fun _ call => ∀ phase, call ≠ .close phase) unshut
      (fun other call there phase same => deframed.unshut other phase (same ▸ there))
      ticket _ there phase rfl
  · rcases deframed.reads with rested | ⟨ticket, room, stage, busy⟩
    · exact .inl ⟨each (fun _ call => call.rests = true) restful rested.rests,
        rested.explains.after_hearing deframed.inOrder hears answers fun _ _ _ same => same⟩
    · right
      have other : ticket ≠ place := by
        rintro rfl
        cases rests.symm.trans (busy.call_unanswered found).1
      obtain ⟨phase, there, next⟩ := busy.found
      refine ⟨ticket, room, stage, ⟨phase, ?_, next⟩, ?_, busy.roomy, ?_, ?_⟩
      · exact (List.getElem?_set_ne (Ne.symm other)).trans there
      · exact each (fun other call => other ≠ ticket →
          call.rests = true ∧ (ticket < other → call.answer? = none))
          (fun _ => ⟨restful, fun _ => unheard⟩) busy.others
      · show stage.Finds after.state.inbound
        rw [inbound]
        exact busy.finds
      · exact busy.explains.after_hearing deframed.inOrder hears answers fun _ _ _ same => same

theorem after_read {ticket : Ticket} {room : Nat}
    {phase : Phase (ReadStage S.recorded) ReadOutcome}
    {stage : ReadStage S.recorded} {step : Step (ReadStage S.recorded) ReadOutcome}
    {after : Stream S.recorded} (deals : T.Deals rest)
    (found : usage.calls[ticket]? = some (.read room phase))
    (next : phase.next? .start = some stage)
    (move : ReadMove T room ticket stage usage.stream step after) :
    Deframed rest ⟨after, usage.calls.set ticket (.read room (.ofStep step))⟩ ∧
      usage.stream.contents rest <+: after.contents rest := by
  have inside := (List.getElem?_eq_some_iff.mp found).1
  have busy := deframed.busy_of_next found next
  have unanswered := (busy.call_unanswered found).2
  obtain ⟨earlier, hears, due⟩ := move.resume_eq_due deals deframed.standing busy.roomy busy.finds
  have others (other : Ticket) (call : Call S.recorded)
      (there : (usage.calls.set ticket (.read room (.ofStep step)))[other]? = some call)
      (different : other ≠ ticket) :
      call.rests = true ∧ (ticket < other → call.answer? = none) :=
    busy.others other call ((List.getElem?_set_ne (Ne.symm different)).symm.trans there) different
  -- A stretch that is not the last leaves the read due of what it was due of before.
  have goesOn (later : ReadStage S.recorded)
      (goes : (Phase.ofStep step).next? .start = some later)
      (same : ∀ future, step.due room future = future.resume room later.copied) :
      Busy ⟨after, usage.calls.set ticket (.read room (.ofStep step))⟩ ticket room later := by
    refine ⟨⟨_, List.getElem?_set_self inside, goes⟩, others, move.roomy busy.roomy later goes,
      move.finds busy.finds later goes, ?_⟩
    apply busy.explains.after_hearing deframed.inOrder hears
    · refine filterMap_set_same Call.answer? found (Eq.trans ?_ unanswered.symm)
      cases step <;> cases goes <;> rfl
    · intro left future continues isDue
      rw [isDue, due future continues, same]
  refine ⟨⟨deframed.sound.after_move (.reads found next move), ?_,
    hears.stays_in_order deframed.inOrder, ?_,
    ?_⟩, hears.contents_grow deframed.inOrder⟩
  · simpa [Stream.State.isClosed, move.owned_same] using deframed.standing
  · exact fun other phase there => deframed.unshut other phase (set_elsewhere there (by rintro ⟨⟩))
  · cases step with
    | waiting later => exact .inr ⟨ticket, room, later, goesOn later rfl fun _ => rfl⟩
    | onward later => exact .inr ⟨ticket, room, later, goesOn later rfl fun _ => rfl⟩
    | ready outcome =>
      have answers : answers ⟨after, usage.calls.set ticket (.read room (.answered outcome))⟩ =
          usage.answers ++ [(room, outcome)] :=
        filterMap_set_last Call.answer? found unanswered rfl fun other later there behind =>
          (busy.others other later there (Nat.ne_of_gt behind)).2 behind
      refine .inl ⟨?_, busy.explains.after_answer deframed.inOrder hears answers ?_⟩
      · intro other call there
        rcases set_cases there with ⟨-, rfl⟩ | ⟨different, -⟩
        · rfl
        · exact (others other call there different).1
      · intro left future continues isDue
        rw [isDue, due future continues]
        rfl

theorem after_move {ticket : Ticket} {after : Usage S} (deals : T.Deals rest)
    (moves : Moves T usage ticket after) :
    after.Deframed rest ∧ usage.stream.contents rest <+: after.stream.contents rest := by
  have sound := deframed.sound.after_move moves
  cases moves with
  | rests => exact ⟨deframed, List.prefix_rfl⟩
  | reads found next move => exact deframed.after_read deals found next move
  | writes found next move =>
    have hears : usage.stream.Hears rest _ id :=
      .of_sends move.adds move.readers_same move.inbound_same
    exact ⟨deframed.after_other_call found rfl rfl rfl rfl nofun sound move.owned_same
      move.inbound_same hears,
      hears.contents_grow deframed.inOrder⟩
  | closes found next move => exact absurd found (deframed.unshut ticket _)

theorem after_drop {ticket : Ticket} {after : Usage S} (drops : Drops T usage ticket after)
    (allowed : usage.allows (.drop ticket) = true) :
    after.Deframed rest ∧ usage.stream.contents rest <+: after.stream.contents rest := by
  have sound := deframed.sound.after_drop drops
  have rests (call : Call S.recorded) (found : usage.calls[ticket]? = some call) :
      call.rests = true := by
    simpa [allows, found] using allowed
  cases drops with
  | rests => exact ⟨deframed, List.prefix_rfl⟩
  | forgets demand found =>
    cases demand with
    | read room => cases rests _ found
    | close => exact absurd found (deframed.unshut ticket _)
    | write data =>
      have hears : usage.stream.Hears rest usage.stream id := .nothing rfl rfl rfl rfl rfl
      exact ⟨deframed.after_other_call found rfl rfl rfl rfl nofun sound rfl rfl hears,
        List.prefix_rfl⟩
  | reads found drop => cases rests _ found
  | writes found drop =>
    have hears : usage.stream.Hears rest _ id :=
      .of_sends drop.adds drop.readers_same drop.inbound_same
    exact ⟨deframed.after_other_call found rfl rfl rfl rfl nofun sound drop.owned_same
      drop.inbound_same hears,
      hears.contents_grow deframed.inOrder⟩
  | closes found drop => exact absurd found (deframed.unshut ticket _)

theorem after_change (become : S.World → S.World) : (usage.step T (.change become)).Deframed rest :=
  ⟨deframed.sound.after_change become, deframed.standing,
    ⟨deframed.inOrder.drained, deframed.inOrder.latest, deframed.inOrder.known,
      deframed.inOrder.unplayed⟩,
    deframed.unshut,
    deframed.reads.imp (fun rested => ⟨rested.rests, rested.explains⟩)
      fun ⟨ticket, room, stage, busy⟩ => ⟨ticket, room, stage, busy.found, busy.others, busy.roomy,
        busy.finds, busy.explains⟩⟩

theorem after_begin {demand : Demand} (allowed : usage.allows (.begin demand) = true) :
    (usage.step T (.begin demand)).Deframed rest := by
  have answers : (usage.step T (.begin demand)).answers = usage.answers := by
    have silent : (Call.begin demand : Call S.recorded).answer? = none := by cases demand <;> rfl
    simp [answers, step, silent]
  -- What held of every call, and holds of the new one, holds of every call.
  have each (holds : Ticket → Call S.recorded → Prop)
      (now : holds usage.calls.length (.begin demand))
      (before : ∀ other call, usage.calls[other]? = some call → holds other call)
      (other : Ticket) (call : Call S.recorded)
      (there : (usage.step T (.begin demand)).calls[other]? = some call) : holds other call := by
    rcases push_cases there with ⟨rfl, rfl⟩ | ⟨-, kept⟩
    · exact now
    · exact before other call kept
  have hears : usage.stream.Hears rest (usage.step T (.begin demand)).stream id :=
    .nothing rfl rfl rfl rfl rfl
  have unshut (restful : ∀ phase, (Call.begin demand : Call S.recorded) ≠ .close phase)
      (ticket : Ticket) (phase : Phase (CloseStage S.recorded) CloseOutcome) :
      (usage.step T (.begin demand)).calls[ticket]? ≠ some (.close phase) := fun there =>
    each (fun _ call => ∀ phase, call ≠ .close phase) restful
      (fun other call found phase same => deframed.unshut other phase (same ▸ found))
      ticket _ there phase rfl
  cases demand with
  | close => cases allowed
  | write data =>
    refine ⟨deframed.sound.after_begin _, deframed.standing, hears.stays_in_order deframed.inOrder,
      unshut (by rintro _ ⟨⟩), ?_⟩
    rcases deframed.reads with rested | ⟨ticket, room, stage, busy⟩
    · exact .inl ⟨each (fun _ call => call.rests = true) rfl rested.rests,
        rested.explains.after_hearing deframed.inOrder hears answers fun _ _ _ same => same⟩
    · obtain ⟨phase, there, next⟩ := busy.found
      refine .inr ⟨ticket, room, stage, ⟨phase, ?_, next⟩, ?_, busy.roomy, busy.finds, ?_⟩
      · exact (List.getElem?_append_left (List.getElem?_eq_some_iff.mp there).1).trans there
      · exact each (fun other call => other ≠ ticket →
          call.rests = true ∧ (ticket < other → call.answer? = none))
          (fun _ => ⟨rfl, fun _ => rfl⟩) busy.others
      · exact busy.explains.after_hearing deframed.inOrder hears answers fun _ _ _ same => same
  | read room =>
    have settled (ticket : Ticket) (call : Call S.recorded)
        (found : usage.calls[ticket]? = some call) : call.rests = true :=
      List.all_eq_true.mp allowed call (List.mem_of_getElem? found)
    -- A read is begun only when no other is under way, so nothing is due of one.
    have explains : usage.Explains Eq := by
      rcases deframed.reads with rested | ⟨ticket, space, stage, busy⟩
      · exact rested.explains
      · obtain ⟨phase, found, -⟩ := busy.found
        cases (busy.call_unanswered found).1.symm.trans (settled ticket _ found)
    refine ⟨deframed.sound.after_begin _, deframed.standing, hears.stays_in_order deframed.inOrder,
      unshut (by rintro _ ⟨⟩), .inr ⟨usage.calls.length, room, .start, ⟨.fresh, ?_, rfl⟩, ?_,
        trivial, trivial, ?_⟩⟩
    · simp [step, Call.begin]
    · intro other call there different
      refine ⟨settled other call ((push_elsewhere _ _ different).symm.trans there), ?_⟩
      intro beyond
      have outside : (usage.calls ++ [Call.begin (.read room)]).length ≤ other := by
        rw [List.length_append]
        exact beyond
      cases (List.getElem?_eq_none outside).symm.trans there
    · refine explains.after_hearing deframed.inOrder hears answers fun left future _ same => ?_
      subst same
      rfl

theorem after_step {action : Action S.World} (deals : T.Deals rest)
    (allowed : usage.allows action = true) :
    (usage.step T action).Deframed rest ∧
      usage.stream.contents rest <+: (usage.step T action).stream.contents rest := by
  cases action with
  | begin demand => exact ⟨deframed.after_begin allowed, List.prefix_rfl⟩
  | drop ticket =>
    exact deframed.after_drop (deframed.sound.step_drops ticket) allowed
  | change become => exact ⟨deframed.after_change become, List.prefix_rfl⟩
  | poll ticket =>
    refine poll_keeps T (fun later => later.Deframed rest ∧
      usage.stream.contents rest <+: later.stream.contents rest) ?_ usage ticket
      ⟨deframed, List.prefix_rfl⟩
    rintro later caller ⟨kept, grown⟩
    have moves : Moves T later caller (later.stretch T caller) := kept.sound.stretch_moves caller
    obtain ⟨next, more⟩ := kept.after_move deals moves
    exact ⟨next, grown.trans more⟩

end Deframed

theorem run_deframed {rest : S.Reader → Bytes} (deals : T.Deals rest) {usage : Usage S}
    (deframed : usage.Deframed rest) (actions : List (Action S.World))
    (consecutive : usage.consecutive T actions = true) :
    (usage.run T actions).Deframed rest ∧
      usage.stream.contents rest <+: (usage.run T actions).stream.contents rest := by
  induction actions generalizing usage with
  | nil => exact ⟨deframed, List.prefix_rfl⟩
  | cons action later ih =>
    obtain ⟨allowed, following⟩ := Bool.and_eq_true_iff.mp consecutive
    obtain ⟨next, grown⟩ := deframed.after_step deals allowed
    obtain ⟨last, more⟩ := ih next following
    exact ⟨last, grown.trans more⟩

theorem start_deframed (rest : S.Reader → Bytes) (config : Configuration) (world : S.World) :
    (start config world).Deframed rest :=
  ⟨start_sound config world, rfl, ⟨nofun, nofun, nofun, fun _ _ => rfl⟩,
    (fun _ _ found => nomatch found),
    .inl ⟨(fun _ _ found => nomatch found), fun future continues => ⟨future, by
      obtain ⟨current, ahead⟩ := future
      cases continues rfl
      rfl, rfl⟩⟩⟩

namespace Deframed

variable {rest : S.Reader → Bytes} {usage : Usage S} (deframed : usage.Deframed rest)
include deframed

theorem poll_prompt (metered : T.Metered) (prompt : usage.Prompt) (ticket : Ticket) :
    (usage.step T (.poll ticket)).Prompt := by
  intro other room stage there
  unfold Usage.step onCall at there
  cases found : usage.calls[ticket]? with
  | none =>
    simp only [found] at there
    exact prompt other room stage there
  | some call =>
    simp only [found] at there
    rcases set_cases there with ⟨rfl, polled⟩ | ⟨-, kept⟩
    · -- Only a read that was under way before the poll can wait after it.
      have waits {space : Nat} {phase : Phase (ReadStage S.recorded) ReadOutcome}
          (begun : Option (ReadStage S.recorded))
          (found : usage.calls[other]? = some (.read space phase))
          (next : phase.next? .start = some (begun.getD .start))
          (polled : .read room (.waiting stage) = Call.read space
            (.ofProgress ((Stream.read T.recorded space).poll other begun usage.stream).2)) :
          stage.awaits = true := by
        have alone := (deframed.busy_of_next found next).read_alone deframed.sound deframed.standing
        have prompts := Read.poll_prompt metered space other begun usage.stream alone
        revert polled prompts
        cases ((Stream.read T.recorded space).poll other begun usage.stream).2 with
        | waiting later =>
          rintro ⟨⟩ prompts
          exact prompts
        | ready outcome => nofun
      rcases call with ⟨space, _ | early | _ | _⟩ | ⟨data, phase⟩ | phase
      · exact waits none found rfl polled
      · exact waits (some early) found rfl polled
      · cases polled
      · cases polled
      · cases polled
      · cases polled
    · exact prompt other room stage kept

theorem step_prompt (metered : T.Metered) (prompt : usage.Prompt) (action : Action S.World) :
    (usage.step T action).Prompt := by
  cases action with
  | poll ticket => exact deframed.poll_prompt metered prompt ticket
  | change become => exact prompt
  | begin demand =>
    intro other room stage there
    rcases push_cases there with ⟨-, new⟩ | ⟨-, kept⟩
    · cases demand <;> cases new
    · exact prompt other room stage kept
  | drop ticket =>
    intro other room stage there
    have drops : Drops T usage ticket (usage.step T (.drop ticket)) :=
      deframed.sound.step_drops ticket
    generalize usage.step T (.drop ticket) = after at drops there
    -- A call that has been given up waits no more.
    cases drops with
    | rests => exact prompt other room stage there
    | forgets demand found =>
      refine prompt other room stage (set_elsewhere there ?_)
      cases demand <;> exact nofun
    | reads found drop => exact prompt other room stage (set_elsewhere there nofun)
    | writes found drop => exact prompt other room stage (set_elsewhere there nofun)
    | closes found drop => exact prompt other room stage (set_elsewhere there nofun)

theorem copied_front :
    let whole := ((usage.stream.contents rest).filterMap Except.toOption).flatten
    usage.copied <+: whole ∧
      ((∃ source, usage.stream.openings.getLast? = some (.error source)) →
        usage.copied = whole) := by
  intro whole
  have data (left : Backlog) (future : Backlog)
      (read : (usage.stream.told future).reads (usage.answers.map Prod.fst) =
        some (usage.answers.map Prod.snd, left)) :
      usage.copied ++ left.bytes = (usage.stream.told future).bytes := by
    have kept := Backlog.reads_bytes read
    rwa [List.flatMap_map] at kept
  have all : (usage.stream.told (usage.stream.unread rest)).bytes = whole := by
    rw [deframed.inOrder.told_unread, Backlog.bytes_ahead, Stream.offered_bytes]
  have continues := usage.stream.unread_continues rest
  constructor
  · have front (due : Backlog → Backlog → Prop) (explains : usage.Explains due) :
        usage.copied <+: whole := by
      obtain ⟨left, read, -⟩ := explains _ continues
      exact ⟨left.bytes, (data left _ read).trans all⟩
    rcases deframed.reads with rested | ⟨ticket, room, stage, busy⟩
    · exact front _ rested.explains
    · exact front _ busy.explains
  · rintro ⟨source, refused⟩
    have vacant : usage.stream.state.inbound = none := by
      cases current : usage.stream.state.inbound with
      | none => rfl
      | some number => cases (deframed.inOrder.latest number current).symm.trans refused
    have nothing : usage.stream.unread rest = {} := by simp [Stream.unread, vacant]
    have spent (left : Backlog) (empty : left.bytes = [])
        (read : (usage.stream.told (usage.stream.unread rest)).reads
          (usage.answers.map Prod.fst) = some (usage.answers.map Prod.snd, left)) :
        usage.copied = whole := by
      have kept := data left _ read
      rw [empty, List.append_nil] at kept
      exact kept.trans all
    rcases deframed.reads with rested | ⟨ticket, room, stage, busy⟩
    · obtain ⟨left, read, same⟩ := rested.explains _ continues
      rw [same, nothing] at read
      exact spent {} rfl (nothing ▸ read)
    · obtain ⟨left, read, due⟩ := busy.explains _ continues
      -- The read under way has found nothing yet, for no message is current.
      have fresh : stage.copied = [] := by
        have finds := busy.finds
        cases stage with
        | draining number copied reading => cases vacant.symm.trans finds
        | _ => rfl
      rw [fresh, Backlog.resume_fresh, nothing] at due
      exact spent left (Backlog.read_nothing due) read

end Deframed

theorem run_prompt {rest : S.Reader → Bytes} (deals : T.Deals rest) (metered : T.Metered)
    {usage : Usage S} (deframed : usage.Deframed rest) (prompt : usage.Prompt)
    (actions : List (Action S.World)) (consecutive : usage.consecutive T actions = true) :
    (usage.run T actions).Prompt := by
  induction actions generalizing usage with
  | nil => exact prompt
  | cons action later ih =>
    obtain ⟨allowed, following⟩ := Bool.and_eq_true_iff.mp consecutive
    exact ih (deframed.after_step deals allowed).1 (deframed.step_prompt metered prompt action)
      following

def Unfailing (usage : Usage S) : Prop :=
  ∀ entry ∈ usage.stream.world.traffic, entry.falters = false

theorem Unfailing.contents_eq_offered {usage : Usage S} (unfailing : usage.Unfailing)
    (rest : S.Reader → Bytes) :
    (usage.stream.contents rest).map (Except.map Tape.ofBytes) = usage.stream.offered rest := by
  have plain (number : Nat) (source : Failure) : .error source ∉ usage.stream.played number := by
    intro member
    obtain ⟨entry, recorded, failed⟩ := List.mem_flatMap.mp member
    rcases entry with _ | ⟨caller, _ | _ | ⟨message, space⟩ | _ | _ | _, reply⟩ | _ <;>
      simp only [Traffic.played, List.not_mem_nil] at failed
    split at failed
    · cases reply with
      | failed cause => cases unfailing _ recorded
      | yielded data => simp [Reply.tape, Tape.ofBytes] at failed
      | _ => cases failed
    · cases failed
  have same (found : Except Failure Nat) :
      (found.map (usage.stream.content rest)).map Tape.ofBytes = found.map fun number =>
        usage.stream.played number ++ Tape.ofBytes ((usage.stream.held rest number).getD []) := by
    cases found with
    | error source => rfl
    | ok number => simp [Except.map, Stream.content, Tape.ofBytes_bytes (plain number)]
  simp [Stream.contents, Stream.offered, same]

/-- Reads made one after the other are those of the de-framer. Over any connection, whose openings
and readers fail as often as they like and whose readers yield their messages in pieces of any
length: the answers of all reads are those of the de-framer over what the openings have found, each
message with its failures where its reader failed; what the openings have found stays what it was;
the bytes returned are together the front of all messages, and all of them once the last opening
has failed; if no reader has failed, the answers are those of the de-framer over the bare
messages, however they were cut into pieces; and a read that is polled is answered unless the
connection keeps it waiting. -/
theorem reads_deframe (T : Transport S) (rest : S.Reader → Bytes) (deals : T.Deals rest)
    (config : Configuration) (world : S.World) (actions : List (Action S.World))
    (consecutive : (start config world).consecutive T actions = true) :
    let usage := (start config world).run T actions
    let rooms := usage.answers.map Prod.fst
    let outcomes := usage.answers.map Prod.snd
    let whole := ((usage.stream.contents rest).filterMap Except.toOption).flatten
    (∃ left, Backlog.reads rooms { ahead := usage.stream.offered rest } = some (outcomes, left)) ∧
    (usage.stream.offered rest).map (Except.map Tape.bytes) = usage.stream.contents rest ∧
    (∀ before after, actions = before ++ after →
      ((start config world).run T before).stream.contents rest <+: usage.stream.contents rest) ∧
    (usage.copied <+: whole ∧
      ((∃ source, usage.stream.openings.getLast? = some (.error source)) →
        usage.copied = whole)) ∧
    (usage.Unfailing → ∃ left, Backlog.reads rooms
      { ahead := (usage.stream.contents rest).map (Except.map Tape.ofBytes) } =
        some (outcomes, left)) ∧
    (T.Metered → usage.Prompt) := by
  intro usage rooms outcomes whole
  have deframed : usage.Deframed rest :=
    (run_deframed deals (start_deframed rest config world) actions consecutive).1
  have reads : ∃ left, Backlog.reads rooms { ahead := usage.stream.offered rest } =
      some (outcomes, left) := by
    have continues := usage.stream.unread_continues rest
    rw [← deframed.inOrder.told_unread]
    rcases deframed.reads with rested | ⟨ticket, room, stage, busy⟩
    · obtain ⟨left, read, -⟩ := rested.explains _ continues
      exact ⟨left, read⟩
    · obtain ⟨left, read, -⟩ := busy.explains _ continues
      exact ⟨left, read⟩
  refine ⟨reads, usage.stream.offered_bytes rest, ?_, deframed.copied_front, ?_, ?_⟩
  · rintro before after rfl
    obtain ⟨first, second⟩ := consecutive_append T _ before after consecutive
    have early := (run_deframed deals (start_deframed rest config world) before first).1
    have grown := (run_deframed deals early after second).2
    rwa [← run_append] at grown
  · intro unfailing
    rw [unfailing.contents_eq_offered rest]
    exact reads
  · intro metered
    exact run_prompt deals metered (start_deframed rest config world) nofun actions consecutive

end Usage

theorem Scripted.transport_deals (setup : Setup) (yields : setup.readChunk ≠ some 0) :
    (transport setup).Deals id where
  toDrains := transport_drains setup yields
  fits polled := by
    cases polled
    rw [List.length_take]
    exact Nat.le_trans (Nat.min_le_left _ _) (Nat.le_trans (bounded_le _ _) (Nat.min_le_left _ _))
  fails polled := by cases polled

theorem Scripted.handOutAt_inbound {gate : Option Nat} {item : Option Inbound} {ticket : Ticket}
    {world inner : World} {payload : Bytes}
    (handed : handOutAt gate item ticket world = (inner, .ready (.ok payload))) :
    inner.inbound = world.inbound ∧ item ≠ none := by
  have passed : (pass gate ticket world).1.inbound = world.inbound := by
    cases gate <;> rfl
  unfold handOutAt at handed
  split at handed
  · rename_i after through
    rw [through] at passed
    rcases item with _ | _ | content <;> cases handed
    exact ⟨passed, nofun⟩
  · cases handed

theorem Scripted.transport_metered (setup : Setup) : (transport setup).Metered where
  opens polled := by
    rename_i ticket world inner reader
    simp only [transport, nextReader] at polled
    split at polled
    · cases polled
    · obtain ⟨kept, found⟩ := handOutAt_inbound polled
      show inner.inbound.length < world.inbound.length
      rw [kept]
      cases waiting : world.inbound with
      | nil => exact absurd (by rw [waiting]; rfl) found
      | cons first rest => exact Nat.lt_succ_self _
  resumes polled := by
    obtain ⟨kept, -⟩ := handOutAt_inbound polled
    exact Nat.le_of_eq (congrArg List.length kept)
  reads polled := by
    cases polled
    exact Nat.le_refl _

namespace Usage

/-- A read without room, a message in two pieces, an empty message passed over, a failure in place
of a message, and the end. A write is made meanwhile. -/
theorem reads_deframe_scripted :
    let setup : Scripted.Setup := { readChunk := some 2 }
    let world : Scripted.World :=
      { inbound := [.ok [97, 98, 99], .ok [], .error .connectionReset, .ok [100]] }
    let actions : List (Action Scripted.World) := [.begin (.read 0), .poll 0, .begin (.read 2),
      .begin (.write [1]), .poll 1, .poll 2, .begin (.read 5), .poll 3, .begin (.read 5), .poll 4,
      .begin (.read 5), .poll 5, .begin (.read 5), .poll 6]
    let usage := (start {} world : Usage Scripted.signature).run (Scripted.transport setup) actions
    let reset : Failure := .withText .connectionReset "scripted inbound failure"
    let exhausted : Failure := .withText .connectionAborted "inbound script exhausted"
    (Scripted.transport setup).Deals id ∧ (Scripted.transport setup).Metered ∧
      (start {} world).consecutive (Scripted.transport setup) actions = true ∧ usage.Unfailing ∧
      (∃ left, Backlog.reads [0, 2, 5, 5, 5, 5] { ahead := [.ok (.ofBytes [97, 98, 99]), .ok [],
        .error reset, .ok (.ofBytes [100]), .error exhausted] } = some ([.filled [],
          .filled [97, 98], .filled [99], .broken [] reset, .filled [100], .broken [] exhausted],
            left)) ∧
      usage.copied = [97, 98, 99, 100] ∧ usage.Prompt := by
  intro setup world actions usage reset exhausted
  have deals := Scripted.transport_deals setup nofun
  have metered := Scripted.transport_metered setup
  have consecutive : (start {} world).consecutive (Scripted.transport setup) actions = true := by
    decide +kernel
  have unfailing : usage.Unfailing := by
    unfold Unfailing
    decide +kernel
  have rooms : usage.answers.map Prod.fst = [0, 2, 5, 5, 5, 5] := by decide +kernel
  have outcomes : usage.answers.map Prod.snd = [.filled [], .filled [97, 98], .filled [99],
      .broken [] reset, .filled [100], .broken [] exhausted] := by
    decide +kernel
  have contents : usage.stream.contents id =
      [.ok [97, 98, 99], .ok [], .error reset, .ok [100], .error exhausted] := by
    decide +kernel
  have ended : usage.stream.openings.getLast? = some (.error exhausted) := by decide +kernel
  obtain ⟨-, -, -, ⟨-, all⟩, plain, prompt⟩ := reads_deframe (Scripted.transport setup) id deals {}
    world actions consecutive
  have bare := plain unfailing
  have copied := all ⟨exhausted, ended⟩
  rw [contents] at bare copied
  rw [rooms, outcomes] at bare
  exact ⟨deals, metered, consecutive, unfailing, bare, copied, prompt metered⟩

end Usage

end MessageStream
