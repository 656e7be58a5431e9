import MessageStream.Proofs.Usage.Stretch

/-!
Operations that keep to their own part of a world. Such an operation answers by what it finds in its
own part, and changes nothing in the other. So the steps of its calls can be taken out of a run, and
whoever sees the other part alone does not notice.
-/
namespace MessageStream

section Parts

variable {World Part Stage Answer : Type}

/-- An act that depends on a part of the world: where two worlds agree in the part, it answers the
same and the worlds agree in the part again. -/
def Tracks (part : World → Part) (act : World → World × Answer) : Prop :=
  ∀ ⦃left right⦄, part left = part right →
    (act left).2 = (act right).2 ∧ part (act left).1 = part (act right).1

/-- An act that leaves a part of the world alone. -/
def Spares (part : World → Part) (act : World → World × Answer) : Prop :=
  ∀ world, part (act world).1 = part world

theorem Tracks.of_masked {mask : World → World} {act : World → World × Answer}
    (commutes : ∀ world, act (mask world) = (act world).map mask id) : Tracks mask act := by
  intro left right same
  have left_act := commutes left
  rw [same, commutes right] at left_act
  exact ⟨(congrArg Prod.snd left_act).symm, (congrArg Prod.fst left_act).symm⟩

theorem Tracks.same_answer {part : World → Part} {act : World → World × Answer}
    (tracks : Tracks part act) {left right : World} (same : part left = part right) :
    ∃ answer leftAfter rightAfter, act left = (leftAfter, answer) ∧
      act right = (rightAfter, answer) ∧ part leftAfter = part rightAfter := by
  obtain ⟨answers, agree⟩ := tracks same
  exact ⟨(act left).2, (act left).1, (act right).1, rfl, Prod.ext rfl answers.symm, agree⟩

namespace Step

variable {part : World → Part} {advance : Stage → World → World × Step Stage Answer}

theorem run_tracks (tracks : ∀ stage, Tracks part (advance stage)) (limit : Nat) (stage : Stage) :
    Tracks part (run advance limit stage) := by
  intro left right same
  induction limit generalizing stage left right with
  | zero => exact ⟨rfl, same⟩
  | succ limit ih =>
    obtain ⟨result, leftAfter, rightAfter, one, other, agree⟩ := (tracks stage).same_answer same
    simp only [run, one, other]
    cases result with
    | waiting later => exact ⟨rfl, agree⟩
    | onward later => exact ih later agree
    | ready answer => exact ⟨rfl, agree⟩

theorem run_spares (spares : ∀ stage, Spares part (advance stage)) (limit : Nat) (stage : Stage) :
    Spares part (run advance limit stage) :=
  run_same part (fun world stage => spares stage world) limit stage

end Step

end Parts

section Operations

variable {World Own Other Demand Stage Answer : Type}

/-- An operation that depends on its own part of the world and leaves the other part alone. -/
structure Operation.Confined (own : World → Own) (other : World → Other)
    (operation : Operation World Stage Answer) : Prop where
  poll : ∀ ticket stage, Tracks own (operation.poll ticket stage)
  pollSpares : ∀ ticket stage, Spares other (operation.poll ticket stage)
  cancel : ∀ ticket stage ⦃left right⦄, own left = own right →
    own (operation.cancel ticket stage left) = own (operation.cancel ticket stage right)
  cancelSpares : ∀ ticket stage world,
    other (operation.cancel ticket stage world) = other world

namespace Operation.Confined

variable {Large LargeOwn LargeOther : Type} {own : World → Own} {other : World → Other}
  {largeOwn : Large → LargeOwn} {largeOther : Large → LargeOther}
  {operation : Operation World Stage Answer} {replace : Large → World → Large}

/-- A confined operation on something in a larger world is confined there as well, where its own
part is found and put back in the own part of the larger world, and the other part in the other. -/
theorem within {part : Large → World} (confined : operation.Confined own other)
    (finds : ∀ ⦃left right⦄, largeOwn left = largeOwn right → own (part left) = own (part right))
    (puts : ∀ ⦃left right⦄, largeOwn left = largeOwn right → ∀ ⦃first second⦄,
      own first = own second → largeOwn (replace left first) = largeOwn (replace right second))
    (leaves : ∀ large ⦃world⦄, other world = other (part large) →
      largeOther (replace large world) = largeOther large) :
    (operation.within part replace).Confined largeOwn largeOther where
  poll ticket stage left right same := by
    obtain ⟨answers, agree⟩ := confined.poll ticket stage (finds same)
    exact ⟨answers, puts same agree⟩
  pollSpares ticket stage large := leaves large (confined.pollSpares ticket stage (part large))
  cancel ticket stage left right same := puts same (confined.cancel ticket stage (finds same))
  cancelSpares ticket stage large := leaves large (confined.cancelSpares ticket stage (part large))

theorem withinOption {part : Large → Option World} (confined : operation.Confined own other)
    (finds : ∀ ⦃left right⦄, largeOwn left = largeOwn right →
      (part left).map own = (part right).map own)
    (puts : ∀ ⦃left right⦄, largeOwn left = largeOwn right → ∀ ⦃first second⦄,
      own first = own second → largeOwn (replace left first) = largeOwn (replace right second))
    (leaves : ∀ large ⦃before⦄, part large = some before → ∀ ⦃world⦄, other world = other before →
      largeOther (replace large world) = largeOther large) :
    (operation.withinOption part replace).Confined largeOwn largeOther where
  poll ticket stage left right same := by
    have found := finds same
    unfold Operation.withinOption
    cases one : part left <;> cases another : part right <;> rw [one, another] at found <;>
      dsimp only
    · rw [one, another]
      exact ⟨rfl, same⟩
    · cases found
    · cases found
    · obtain ⟨answers, agree⟩ := confined.poll ticket stage (Option.some.inj found)
      rw [one, another]
      exact ⟨congrArg (Progress.map some) answers, puts same agree⟩
  pollSpares ticket stage large := by
    unfold Operation.withinOption
    dsimp only
    split
    · rfl
    · rename_i world found
      exact leaves large found (confined.pollSpares ticket stage world)
  cancel ticket stage left right same := by
    have found := finds same
    unfold Operation.withinOption
    cases one : part left <;> cases another : part right <;> rw [one, another] at found <;>
      dsimp only
    · rw [one, another]
      exact same
    · cases found
    · cases found
    · rw [one, another]
      exact puts same (confined.cancel ticket stage (Option.some.inj found))
  cancelSpares ticket stage large := by
    unfold Operation.withinOption
    dsimp only
    split
    · rfl
    · rename_i world found
      exact leaves large found (confined.cancelSpares ticket stage world)

end Operation.Confined

abbrev Calls (Demand Stage Answer : Type) := List (Demand × Phase Stage Answer)

inductive Act (Demand : Type) where
  | begin (demand : Demand)
  | poll (number : Nat)
  | drop (number : Nat)
  deriving DecidableEq, Repr

namespace Act

def onCall (act : Demand → World × Phase Stage Answer → World × Phase Stage Answer) (number : Nat)
    (world : World) (calls : Calls Demand Stage Answer) : World × Calls Demand Stage Answer :=
  match calls[number]? with
  | none => (world, calls)
  | some (demand, phase) =>
    let acted := act demand (world, phase)
    (acted.1, calls.set number (demand, acted.2))

def perform (operation : Demand → Operation World Stage Answer) (ticket : Nat → Ticket)
    (act : Act Demand) (calls : Calls Demand Stage Answer) (world : World) :
    World × Calls Demand Stage Answer :=
  match act with
  | .begin demand => (world, calls ++ [(demand, .fresh)])
  | .poll number =>
    onCall (fun demand => Phase.poll (operation demand) (ticket number)) number world calls
  | .drop number =>
    onCall (fun demand => Phase.drop (operation demand) (ticket number)) number world calls

end Act

namespace Operation.Confined

variable {own : World → Own} {other : World → Other}

section Phases

variable {operation : Operation World Stage Answer} (confined : operation.Confined own other)
  (ticket : Ticket) (phase : Phase Stage Answer)
include confined

theorem phase_poll : Tracks own fun world => Phase.poll operation ticket (world, phase) := by
  intro left right same
  cases phase with
  | fresh =>
    obtain ⟨answers, agree⟩ := confined.poll ticket none same
    exact ⟨congrArg Phase.ofProgress answers, agree⟩
  | waiting stage =>
    obtain ⟨answers, agree⟩ := confined.poll ticket (some stage) same
    exact ⟨congrArg Phase.ofProgress answers, agree⟩
  | answered answer => exact ⟨rfl, same⟩
  | dropped stage => exact ⟨rfl, same⟩

theorem phase_poll_spares :
    Spares other fun world => Phase.poll operation ticket (world, phase) := by
  intro world
  cases phase with
  | fresh => exact confined.pollSpares ticket none world
  | waiting stage => exact confined.pollSpares ticket (some stage) world
  | answered answer => rfl
  | dropped stage => rfl

theorem phase_drop : Tracks own fun world => Phase.drop operation ticket (world, phase) := by
  intro left right same
  cases phase with
  | fresh => exact ⟨rfl, same⟩
  | waiting stage => exact ⟨rfl, confined.cancel ticket stage same⟩
  | answered answer => exact ⟨rfl, same⟩
  | dropped stage => exact ⟨rfl, same⟩

theorem phase_drop_spares :
    Spares other fun world => Phase.drop operation ticket (world, phase) := by
  intro world
  cases phase with
  | fresh => rfl
  | waiting stage => exact confined.cancelSpares ticket stage world
  | answered answer => rfl
  | dropped stage => rfl

end Phases

end Operation.Confined

namespace Act

variable {own : World → Own} {other : World → Other}
  {act : Demand → World × Phase Stage Answer → World × Phase Stage Answer}

theorem onCall_tracks (tracks : ∀ demand phase, Tracks own fun world => act demand (world, phase))
    (number : Nat) (calls : Calls Demand Stage Answer) :
    Tracks own fun world => onCall act number world calls := by
  intro left right same
  unfold onCall
  split
  · exact ⟨rfl, same⟩
  · rename_i demand phase found
    -- Whoever acts has the same place on both sides, and so the same phase.
    obtain ⟨answers, agree⟩ := tracks demand phase same
    exact ⟨congrArg (fun phase => calls.set number (demand, phase)) answers, agree⟩

theorem onCall_spares (spares : ∀ demand phase, Spares other fun world => act demand (world, phase))
    (number : Nat) (calls : Calls Demand Stage Answer) :
    Spares other fun world => onCall act number world calls := by
  intro world
  unfold onCall
  split
  · rfl
  · exact spares _ _ world

variable {operation : Demand → Operation World Stage Answer} {ticket : Nat → Ticket}
  (confined : ∀ demand, (operation demand).Confined own other)
include confined

theorem perform_tracks (act : Act Demand) (calls : Calls Demand Stage Answer) :
    Tracks own (act.perform operation ticket calls) := by
  cases act with
  | begin demand => exact fun _ _ same => ⟨rfl, same⟩
  | poll number =>
    exact onCall_tracks (fun demand => (confined demand).phase_poll (ticket number)) number calls
  | drop number =>
    exact onCall_tracks (fun demand => (confined demand).phase_drop (ticket number)) number calls

theorem perform_spares (act : Act Demand) (calls : Calls Demand Stage Answer) :
    Spares other (act.perform operation ticket calls) := by
  cases act with
  | begin demand => exact fun _ => rfl
  | poll number =>
    exact onCall_spares (fun demand => (confined demand).phase_poll_spares (ticket number)) number
      calls
  | drop number =>
    exact onCall_spares (fun demand => (confined demand).phase_drop_spares (ticket number)) number
      calls

end Act

end Operations

section Runs

variable {State Action Half View : Type}

/-- What is seen of a run after each of its steps that count. -/
def seen (step : State → Action → State) (view : State → View) (counts : Action → Bool) :
    State → List Action → List View
  | _, [] => []
  | state, action :: rest =>
    let after := step state action
    if counts action then view after :: seen step view counts after rest
    else seen step view counts after rest

def seenThroughout (step : State → Action → State) (view : State → View) :
    State → List Action → List View :=
  seen step view fun _ => true

/-- Where steps that count depend on one half of the state, which the others leave alone, taking the
others out of a run changes nothing that can be seen of this half. -/
theorem seen_filter {step : State → Action → State} {half : State → Half} {view : State → View}
    {counts : Action → Bool}
    (tracks : ∀ action, counts action = true → ∀ ⦃left right⦄, half left = half right →
      half (step left action) = half (step right action))
    (spares : ∀ action, counts action = false → ∀ state, half (step state action) = half state)
    (shows : ∀ ⦃left right⦄, half left = half right → view left = view right)
    (actions : List Action) {left right : State} (same : half left = half right) :
    seen step view counts left actions =
      seenThroughout step view right (actions.filter counts) := by
  unfold seenThroughout
  -- Both runs make the steps that count, and the first alone makes the others. After each step they
  -- agree in the half.
  induction actions generalizing left right with
  | nil => rfl
  | cons action rest ih =>
    cases kept : counts action with
    | true =>
      have agree := tracks action kept same
      rw [List.filter_cons_of_pos kept]
      simp only [seen, kept, if_true]
      rw [shows agree, ih agree]
    | false =>
      rw [List.filter_cons_of_neg (by simp [kept])]
      simp only [seen, kept, Bool.false_eq_true, if_false]
      exact ih ((spares action kept left).trans same)

end Runs

end MessageStream
