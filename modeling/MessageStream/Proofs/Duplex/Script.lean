import MessageStream.Proofs.Duplex.Calls
import MessageStream.Transport.Scripted

/-!
The two parts of a scripted connection. Inbound calls find their script, their gate and their count
of messages there, and outbound calls find everything else. Where inbound messages wait at a gate of
their own, neither touches the part of the other.
-/
namespace MessageStream

namespace Gates

variable {seen : Nat → Bool} {number : Nat}

/-- Some of the gates, as if nothing had happened at the others. -/
def restrict (seen : Nat → Bool) (gates : Gates) : Gates :=
  fun number => if seen number then gates number else {}

theorem restrict_seen (gates : Gates) (here : seen number = true) :
    gates.restrict seen number = gates number := by
  simp [restrict, here]

theorem restrict_set (gates : Gates) (gate : Gate) (here : seen number = true) :
    (gates.set number gate).restrict seen = (gates.restrict seen).set number gate := by
  funext other
  by_cases same : other = number
  · subst same
    simp [restrict, here]
  · simp [restrict, same]

theorem restrict_set_unseen (gates : Gates) (gate : Gate) (elsewhere : seen number = false) :
    (gates.set number gate).restrict seen = gates.restrict seen := by
  funext other
  by_cases same : other = number
  · subst same
    simp [restrict, elsewhere]
  · simp [restrict, same]

end Gates

namespace Scripted

variable (setup : Setup) (gate : Option Nat) (ticket : Ticket) (world : World)

def World.inward : World where
  inbound := world.inbound
  closed := world.closed
  gates := world.gates.restrict fun number => setup.readerGate == some number
  readersOpened := world.readersOpened

def World.outward : World where
  inbound := []
  closed := world.closed
  gates := world.gates.restrict fun number => setup.readerGate != some number
  sent := world.sent
  writersOpened := world.writersOpened
  finishes := world.finishes

/-- The gate of inbound messages is no gate of outbound ones. -/
structure Setup.Apart (setup : Setup) : Prop where
  opening : ∀ number, setup.writerGate = some number → setup.readerGate ≠ some number
  writing : ∀ number, setup.writeGate = some number → setup.readerGate ≠ some number

section Masks

variable {setup world} {number : Nat} (become : Gate)

theorem inward_set (here : setup.readerGate = some number) :
    World.inward setup { world with gates := world.gates.set number become } =
      { world.inward setup with gates := (world.inward setup).gates.set number become } := by
  simp [World.inward, Gates.restrict_set, here]

theorem inward_set_other (elsewhere : setup.readerGate ≠ some number) :
    World.inward setup { world with gates := world.gates.set number become } =
      world.inward setup := by
  simp [World.inward, Gates.restrict_set_unseen, elsewhere]

theorem outward_set (elsewhere : setup.readerGate ≠ some number) :
    World.outward setup { world with gates := world.gates.set number become } =
      { world.outward setup with gates := (world.outward setup).gates.set number become } := by
  simp [World.outward, Gates.restrict_set, elsewhere]

theorem outward_set_reader (here : setup.readerGate = some number) :
    World.outward setup { world with gates := world.gates.set number become } =
      world.outward setup := by
  simp [World.outward, Gates.restrict_set_unseen, here]

theorem inward_gate (here : setup.readerGate = some number) :
    (world.inward setup).gates number = world.gates number := by
  simp [World.inward, Gates.restrict_seen, here]

theorem outward_gate (elsewhere : setup.readerGate ≠ some number) :
    (world.outward setup).gates number = world.gates number := by
  simp [World.outward, Gates.restrict_seen, elsewhere]

end Masks

section Notifications

variable {setup} {left right : World} (number : Nat)

theorem notify_inward (same : left.inward setup = right.inward setup) :
    World.inward setup { left with gates := left.gates.notify number } =
      World.inward setup { right with gates := right.gates.notify number } := by
  unfold Gates.notify
  by_cases here : setup.readerGate = some number
  · have gate : left.gates number = right.gates number :=
      (inward_gate here).symm.trans
        ((congrArg (fun world => world.gates number) same).trans (inward_gate here))
    rw [inward_set _ here, inward_set _ here, same, gate]
  · rw [inward_set_other _ here, inward_set_other _ here, same]

theorem notify_outward (same : left.outward setup = right.outward setup) :
    World.outward setup { left with gates := left.gates.notify number } =
      World.outward setup { right with gates := right.gates.notify number } := by
  unfold Gates.notify
  by_cases here : setup.readerGate = some number
  · rw [outward_set_reader _ here, outward_set_reader _ here, same]
  · have gate : left.gates number = right.gates number :=
      (outward_gate here).symm.trans
        ((congrArg (fun world => world.gates number) same).trans (outward_gate here))
    rw [outward_set _ here, outward_set _ here, same, gate]

end Notifications

theorem pass_inward : pass setup.readerGate ticket (world.inward setup) =
    (pass setup.readerGate ticket world).map (World.inward setup) id := by
  unfold pass
  split
  · rfl
  · rename_i number here
    simp only [Gates.pass, inward_gate here, Prod.map, inward_set _ here, id]

theorem leave_inward : leave setup.readerGate ticket (world.inward setup) =
    (leave setup.readerGate ticket world).inward setup := by
  unfold leave
  split
  · rfl
  · rename_i number here
    simp only [Gates.leave, inward_gate here, inward_set _ here]

theorem pass_outward_reader :
    (pass setup.readerGate ticket world).1.outward setup = world.outward setup := by
  unfold pass
  split
  · rfl
  · rename_i number here
    exact outward_set_reader _ here

theorem leave_outward_reader :
    (leave setup.readerGate ticket world).outward setup = world.outward setup := by
  unfold leave
  split
  · rfl
  · rename_i number here
    exact outward_set_reader _ here

section Elsewhere

variable {setup gate} (elsewhere : ∀ number, gate = some number → setup.readerGate ≠ some number)
include elsewhere

theorem pass_outward : pass gate ticket (world.outward setup) =
    (pass gate ticket world).map (World.outward setup) id := by
  unfold pass
  split
  · rfl
  · rename_i number
    have apart := elsewhere number rfl
    simp only [Gates.pass, outward_gate apart, Prod.map, outward_set _ apart, id]

theorem leave_outward : leave gate ticket (world.outward setup) =
    (leave gate ticket world).outward setup := by
  unfold leave
  split
  · rfl
  · rename_i number
    have apart := elsewhere number rfl
    simp only [Gates.leave, outward_gate apart, outward_set _ apart]

theorem pass_inward_other : (pass gate ticket world).1.inward setup = world.inward setup := by
  unfold pass
  split
  · rfl
  · exact inward_set_other _ (elsewhere _ rfl)

theorem leave_inward_other : (leave gate ticket world).inward setup = world.inward setup := by
  unfold leave
  split
  · rfl
  · exact inward_set_other _ (elsewhere _ rfl)

end Elsewhere

theorem handOutAt_inward (item : Option Inbound) :
    handOutAt setup.readerGate item ticket (world.inward setup) =
      (handOutAt setup.readerGate item ticket world).map (World.inward setup) id := by
  unfold handOutAt
  rw [pass_inward]
  rcases pass setup.readerGate ticket world with ⟨after, _ | _⟩
  · rfl
  · rcases item with _ | _ | _ <;> rfl

theorem handOutAt_outward (item : Option Inbound) :
    (handOutAt setup.readerGate item ticket world).1.outward setup = world.outward setup := by
  have passed := pass_outward_reader setup ticket world
  unfold handOutAt
  rcases result : pass setup.readerGate ticket world with ⟨after, _ | _⟩ <;> rw [result] at passed
  · exact passed
  · rcases item with _ | _ | _ <;> exact passed

theorem nextReader_confined :
    (nextReader setup).Confined (World.inward setup) (World.outward setup) where
  poll ticket stage := by
    apply Tracks.of_masked
    intro world
    cases stage with
    | some item => exact handOutAt_inward setup ticket world item
    | none =>
      -- The item is taken from the list before the gate is reached.
      simp only [nextReader]
      have closed : (world.inward setup).closed = world.closed := rfl
      rw [closed]
      split
      · rfl
      · exact handOutAt_inward setup ticket { world with inbound := world.inbound.tail } _
  pollSpares ticket stage world := by
    cases stage with
    | some item => exact handOutAt_outward setup ticket world item
    | none =>
      simp only [nextReader]
      split
      · rfl
      · exact handOutAt_outward setup ticket { world with inbound := world.inbound.tail } _
  cancel ticket stage left right same := by
    have masked := congrArg (leave setup.readerGate ticket) same
    rwa [leave_inward, leave_inward] at masked
  cancelSpares ticket stage world := leave_outward_reader setup ticket world

theorem read_confined (room : Nat) : (read setup room).Confined
    (Prod.map id (World.inward setup)) fun whole => whole.2.outward setup where
  poll _ _ := Tracks.of_masked fun _ => rfl
  pollSpares _ _ _ := rfl
  cancel _ stage := nomatch stage
  cancelSpares _ stage := nomatch stage

variable {setup} (apart : setup.Apart)

section Writes
include apart

theorem nextWriter_confined (kind : MessageKind) :
    (nextWriter setup kind).Confined (World.outward setup) (World.inward setup) where
  poll ticket stage := by
    have atGate (world : World) : writerAt setup kind ticket (world.outward setup) =
        (writerAt setup kind ticket world).map (World.outward setup) id := by
      unfold writerAt
      rw [pass_outward ticket world apart.opening]
      rcases pass setup.writerGate ticket world with ⟨after, _ | _⟩ <;> rfl
    apply Tracks.of_masked
    intro world
    cases stage with
    | some _ => exact atGate world
    | none =>
      simp only [nextWriter]
      have closed : (world.outward setup).closed = world.closed := rfl
      rw [closed]
      split
      · rfl
      · split
        · rfl
        · exact atGate { world with writersOpened := world.writersOpened + 1 }
  pollSpares ticket stage world := by
    have atGate (world : World) :
        (writerAt setup kind ticket world).1.inward setup = world.inward setup := by
      have passed := pass_inward_other ticket world apart.opening
      unfold writerAt
      rcases result : pass setup.writerGate ticket world with ⟨after, _ | _⟩ <;>
        rw [result] at passed <;> exact passed
    cases stage with
    | some _ => exact atGate world
    | none =>
      simp only [nextWriter]
      split
      · rfl
      · split
        · rfl
        · exact atGate { world with writersOpened := world.writersOpened + 1 }
  cancel ticket stage left right same := by
    have masked := congrArg (leave setup.writerGate ticket) same
    rwa [leave_outward ticket _ apart.opening, leave_outward ticket _ apart.opening] at masked
  cancelSpares ticket stage world := leave_inward_other ticket world apart.opening

theorem write_confined (data : Bytes) : (write setup data).Confined
    (Prod.map id (World.outward setup)) fun whole => whole.2.inward setup where
  poll ticket stage := by
    apply Tracks.of_masked
    rintro ⟨writer, world⟩
    simp only [write, Prod.map_apply, id]
    rw [pass_outward ticket world apart.writing]
    rcases pass setup.writeGate ticket world with ⟨after, _ | _⟩ <;> rfl
  pollSpares ticket stage := by
    rintro ⟨writer, world⟩
    have passed := pass_inward_other ticket world apart.writing
    simp only [write]
    rcases result : pass setup.writeGate ticket world with ⟨after, _ | _⟩ <;>
      rw [result] at passed <;> exact passed
  cancel ticket stage := by
    rintro ⟨writer, left⟩ ⟨_, right⟩ same
    have masked := congrArg (Prod.map id (leave setup.writeGate ticket)) same
    simp only [Prod.map_apply, leave_outward ticket _ apart.writing] at masked
    exact masked
  cancelSpares ticket stage whole := leave_inward_other ticket whole.2 apart.writing

omit apart in
theorem finish_confined : (finish setup).Confined
    (Prod.map id (World.outward setup)) fun whole => whole.2.inward setup where
  poll ticket stage := by
    apply Tracks.of_masked
    rintro ⟨writer, world⟩
    simp only [finish, Operation.instant, finishNow, Prod.map_apply, id]
    split
    · rfl
    · split <;> rfl
  pollSpares ticket stage := by
    rintro ⟨writer, world⟩
    simp only [finish, Operation.instant, finishNow]
    split
    · rfl
    · split <;> rfl
  cancel _ stage := nomatch stage
  cancelSpares _ stage := nomatch stage

/-- A scripted connection whose inbound messages have a gate of their own divides. -/
theorem transport_divides :
    (transport setup).Divides (World.inward setup) (World.outward setup) where
  nextReader := nextReader_confined setup
  read := read_confined setup
  supply _ _ same := congrArg (fun world => world.inbound.length) same
  nextWriter := nextWriter_confined apart
  write := write_confined apart
  finish := finish_confined
  dropWriter _ _ _ same := same
  dropWriterSpares _ _ := rfl
  dropInward _ := rfl
  dropOutward _ := rfl

end Writes

end Scripted

end MessageStream
