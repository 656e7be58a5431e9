import Mathlib.Data.List.Forall2
import MessageStream.Proofs.Pair.Exchange

/-!
What a pair conveys, and when it ends. Every step at one end takes messages off the front of its own
inbox or puts some at the back of the other, as the record of the step says. And the senders into an
inbox are counted right: they are the open connection opposite and its unfinished writers.
-/
namespace MessageStream

@[simp] theorem Operation.now_instant {World Answer : Type} (run : World → World × Answer)
    (world : World) : (instant run).now world = run world := rfl

namespace Pair

theorem Side.same_or_other (side other : Side) : other = side ∨ other = side.other := by
  cases side <;> cases other <;> simp [Side.other]

def Receipt.Shows : Receipt → Message → Prop
  | .message whole, taken => whole = taken
  | .reader payload, taken => payload = taken.payload

theorem Wanted.receipt_shows (wanted : Wanted) (taken : Message) :
    (wanted.receipt taken).Shows taken := by
  cases wanted <;> rfl

def Deed.conveys (side : Side) : Deed → Option Message
  | .sent author message (.ok _) => if author.other = side then some message else none
  | _ => none

def Deed.brings (side : Side) : Deed → Option Receipt
  | .received taker (.ok receipt) => if taker = side then some receipt else none
  | _ => none

def deposited (message : Message) : Except Failure Unit → List Message
  | .ok _ => [message]
  | .error _ => []

namespace World

variable {side : Side} {before middle after : World} {first second third fourth : List Message}

/-- A step at one end: it takes messages off the front of the inbox there, unless the end has been
given up, and puts some at the back of the inbox opposite. -/
structure Passes (side : Side) (before after : World) (taken posted : List Message) : Prop where
  owned : (after.endpoint side).alive = true → (before.endpoint side).alive = true
  takes : (after.endpoint side).alive = true →
    (before.endpoint side).inbox = taken ++ (after.endpoint side).inbox
  opposite : (after.endpoint side.other).alive = (before.endpoint side.other).alive
  puts : (after.endpoint side.other).alive = true →
    (after.endpoint side.other).inbox = (before.endpoint side.other).inbox ++ posted

namespace Passes

theorem of_nothing (side : Side) (world : World) : Passes side world world [] [] :=
  ⟨id, fun _ => rfl, rfl, fun _ => (List.append_nil _).symm⟩

theorem trans (one : Passes side before middle first second)
    (two : Passes side middle after third fourth) :
    Passes side before after (first ++ third) (second ++ fourth) := by
  refine ⟨fun alive => one.owned (two.owned alive), fun alive => ?_,
    two.opposite.trans one.opposite, fun alive => ?_⟩
  · rw [one.takes (two.owned alive), two.takes alive, List.append_assoc]
  · rw [two.puts alive, one.puts (two.opposite ▸ alive), List.append_assoc]

theorem of_own_end (side : Side) (world : World) (change : Endpoint → Endpoint)
    (taken : List Message)
    (owned : (change (world.endpoint side)).alive = true → (world.endpoint side).alive = true)
    (takes : (change (world.endpoint side)).alive = true →
      (world.endpoint side).inbox = taken ++ (change (world.endpoint side)).inbox) :
    Passes side world (world.change side change) taken [] := by
  refine ⟨?_, ?_, ?_, ?_⟩
  · rwa [endpoint_change_same]
  · rwa [endpoint_change_same]
  · rw [endpoint_change_other]
  · intro _
    rw [endpoint_change_other, List.append_nil]

theorem of_other_end (side : Side) (world : World) (change : Endpoint → Endpoint)
    (posted : List Message)
    (opposite : (change (world.endpoint side.other)).alive = (world.endpoint side.other).alive)
    (puts : (change (world.endpoint side.other)).inbox =
      (world.endpoint side.other).inbox ++ posted) :
    Passes side world (world.change side.other change) [] posted := by
  refine ⟨?_, ?_, ?_, ?_⟩
  · rw [endpoint_change_from_other]
    exact id
  · intro _
    rw [endpoint_change_from_other]
    rfl
  · rwa [endpoint_change_same]
  · intro _
    rwa [endpoint_change_same]

end Passes

theorem put_passes (side : Side) (message : Message) (world : World) :
    Passes side world (put side message world).1 []
      (deposited message (put side message world).2) := by
  unfold put
  split
  · exact .of_other_end side world (fun peer => { peer with inbox := peer.inbox ++ [message] })
      [message]
      rfl rfl
  · exact .of_nothing side world

theorem dropSender_passes (side : Side) (world : World) :
    Passes side world (dropSender side world) [] [] :=
  .of_other_end side world _ _ rfl (List.append_nil _).symm

theorem send_passes (side : Side) (message : Message) (world : World) :
    Passes side world (send side message world).1 []
      (deposited message (send side message world).2) := by
  unfold send
  split
  · exact .of_nothing side world
  · exact put_passes side message world

theorem dropWriter_passes (writer : Writer) (world : World) :
    Passes writer.side world (dropWriter writer world) [] [] := by
  unfold dropWriter
  split
  · exact .of_nothing _ world
  · exact dropSender_passes writer.side world

theorem close_passes (side : Side) (world : World) :
    Passes side world ((close side).now world).1 [] [] := by
  rw [close, Operation.now_instant]
  split
  · exact .of_nothing side world
  · exact (Passes.of_own_end side world _ [] id fun _ => rfl).trans (dropSender_passes side _)

theorem drop_passes (side : Side) (world : World) :
    Passes side world (drop side world) [] [] := by
  have gone : Passes side world
      (world.change side fun endpoint => { endpoint with alive := false, inbox := [] }) [] [] :=
    .of_own_end side world _ [] nofun nofun
  unfold drop
  dsimp only
  split
  · exact gone
  · exact gone.trans (dropSender_passes side _)

theorem nextWriter_passes (side : Side) (kind : MessageKind) (world : World) :
    Passes side world ((nextWriter side kind).now world).1 [] [] := by
  rw [nextWriter, Operation.now_instant]
  split
  · exact .of_nothing side world
  · exact .of_other_end side world (fun peer => { peer with senders := peer.senders + 1 }) [] rfl
      (List.append_nil _).symm

structure Steady (before after : World) : Prop where
  alive : ∀ side, (after.endpoint side).alive = (before.endpoint side).alive
  closed : ∀ side, (after.endpoint side).closed = (before.endpoint side).closed

theorem Steady.refl (world : World) : Steady world world := ⟨fun _ => rfl, fun _ => rfl⟩

theorem Steady.trans (one : Steady before middle) (two : Steady middle after) :
    Steady before after :=
  ⟨fun side => (two.alive side).trans (one.alive side),
    fun side => (two.closed side).trans (one.closed side)⟩

theorem Steady.of_change (world : World) (side : Side) (change : Endpoint → Endpoint)
    (alive : ∀ endpoint, (change endpoint).alive = endpoint.alive)
    (closed : ∀ endpoint, (change endpoint).closed = endpoint.closed) :
    Steady world (world.change side change) := by
  constructor
  · intro other
    rcases side.same_or_other other with rfl | rfl
    · rw [endpoint_change_same, alive]
    · rw [endpoint_change_other]
  · intro other
    rcases side.same_or_other other with rfl | rfl
    · rw [endpoint_change_same, closed]
    · rw [endpoint_change_other]

theorem put_steady (side : Side) (message : Message) (world : World) :
    Steady world (put side message world).1 := by
  unfold put
  split
  · exact .of_change world side.other (fun peer => { peer with inbox := peer.inbox ++ [message] })
      (fun _ => rfl) fun _ => rfl
  · exact .refl world

theorem dropSender_steady (side : Side) (world : World) : Steady world (dropSender side world) :=
  .of_change world _ _ (fun _ => rfl) fun _ => rfl

@[simp] theorem put_senders (side : Side) (message : Message) (world : World) (other : Side) :
    ((put side message world).1.endpoint other).senders = (world.endpoint other).senders := by
  unfold put
  split
  · rcases side.same_or_other other with rfl | rfl <;> simp
  · rfl

theorem dropSender_senders (side other : Side) (world : World) :
    ((dropSender side world).endpoint other.other).senders =
      (world.endpoint other.other).senders - if side = other then 1 else 0 := by
  unfold dropSender
  rcases side.same_or_other other with rfl | rfl
  · simp
  · simp [side.other_ne.symm]

end World

def withdrawn : Progress Unit (Except Failure Message) → List Message
  | .ready (.ok message) => [message]
  | _ => []

theorem Turn.turn_passes {side : Side} {world after : World}
    {progress : Progress Unit (Except Failure Message)}
    (turn : Turn side world after progress) :
    world.Passes side after (withdrawn progress) [] := by
  cases turn with
  | takes line arrived => exact .of_own_end side world _ _ id fun _ => arrived
  | _ => exact .of_own_end side world _ _ id fun _ => rfl

theorem Turn.turn_steady {side : Side} {world after : World}
    {progress : Progress Unit (Except Failure Message)} (turn : Turn side world after progress) :
    world.Steady after := by
  cases turn <;> exact .of_change _ _ _ (fun _ => rfl) fun _ => rfl

theorem Turn.senders_same {side : Side} {world after : World}
    {progress : Progress Unit (Except Failure Message)} (turn : Turn side world after progress)
    (other : Side) : (after.endpoint other).senders = (world.endpoint other).senders := by
  cases turn <;> rcases side.same_or_other other with rfl | rfl <;> simp

theorem Wanted.poll_turns (wanted : Wanted) (messageFirst : Bool) (side : Side) (number : Nat)
    (world : World) {phase : Phase Unit (Except Failure Receipt)} (under : phase.isOver = false) :
    ∃ after progress, Turn side world after progress ∧
      Phase.poll (wanted.receive messageFirst side) number (world, phase) =
        (after, .ofProgress (progress.map fun result => result.map wanted.receipt)) := by
  cases phase with
  | fresh => exact ⟨_, _, receiveRacing_turns messageFirst side number none world, rfl⟩
  | waiting stage =>
    exact ⟨_, _, receiveRacing_turns messageFirst side number (some stage) world, rfl⟩
  | answered answer => cases under
  | dropped stage => cases under

/-- The writer is that of the draft, and until it is finished it holds what has been written. -/
structure Draft.Holds (draft : Draft) (writer : Writer) : Prop where
  side : writer.side = draft.side
  kind : writer.kind = draft.kind
  payload : writer.finished = false → writer.payload = draft.payload

namespace Exchange

variable {exchange after : Exchange}

def sentTo (exchange : Exchange) (side : Side) : List Message :=
  exchange.record.filterMap (Deed.conveys side)

def receivedAt (exchange : Exchange) (side : Side) : List Receipt :=
  exchange.record.filterMap (Deed.brings side)

/-- What has been received at an end and what is in its inbox is what has been sent to it. -/
def Conveys (exchange : Exchange) : Prop :=
  ∀ side, exchange.owned side = true →
    ∃ taken, List.Forall₂ Receipt.Shows (exchange.receivedAt side) taken ∧
      taken ++ (exchange.world.endpoint side).inbox = exchange.sentTo side

theorem Conveys.after_pass (conveys : exchange.Conveys) {side : Side}
    {taken posted : List Message}
    {deeds : List Deed} (passes : exchange.world.Passes side after.world taken posted)
    (grown : after.record = exchange.record ++ deeds)
    (brings : List.Forall₂ Receipt.Shows (deeds.filterMap (Deed.brings side)) taken)
    (elsewhere : deeds.filterMap (Deed.brings side.other) = [])
    (puts : deeds.filterMap (Deed.conveys side.other) = posted)
    (nothing : deeds.filterMap (Deed.conveys side) = []) : after.Conveys := by
  intro other owned
  rcases side.same_or_other other with rfl | rfl
  · obtain ⟨before, shown, all⟩ := conveys other (passes.owned owned)
    refine ⟨before ++ taken, ?_, ?_⟩
    · rw [receivedAt, grown, List.filterMap_append]
      exact List.rel_append shown brings
    · rw [sentTo, grown, List.filterMap_append, nothing, List.append_nil, List.append_assoc,
        ← passes.takes owned]
      exact all
  · obtain ⟨before, shown, all⟩ := conveys side.other (passes.opposite.symm.trans owned)
    refine ⟨before, ?_, ?_⟩
    · rw [receivedAt, grown, List.filterMap_append, elsewhere, List.append_nil]
      exact shown
    · rw [sentTo, grown, List.filterMap_append, puts, passes.puts owned, ← List.append_assoc]
      exact congrArg (· ++ posted) all

/-- Who can send into the inbox opposite to an end. -/
def holders (exchange : Exchange) (side : Side) : Nat :=
  (if exchange.owned side && !(exchange.world.endpoint side).closed then 1 else 0) +
    exchange.drafts.countP fun draft => draft.side == side && draft.unfinished

/-- What is right of a pair in use, however it has been used. -/
structure Fair (exchange : Exchange) : Prop where
  conveys : exchange.Conveys
  senders : ∀ side, (exchange.world.endpoint side.other).senders = exchange.holders side
  drafts : ∀ draft ∈ exchange.drafts, ∀ writer, draft.writer = some writer → draft.Holds writer
  closed : ∀ side, (exchange.world.endpoint side).closed = true ↔
    .closed side (.ok ()) ∈ exchange.record
  gone : ∀ side, exchange.owned side = false ↔ .gone side ∈ exchange.record

def share (side : Side) (draft : Draft) : Nat :=
  if draft.side == side && draft.unfinished then 1 else 0

theorem countP_set {drafts : List Draft} {number : Nat} {draft : Draft}
    (found : drafts[number]? = some draft) (become : Draft) (side : Side) :
    ((drafts.set number become).countP fun draft => draft.side == side && draft.unfinished) +
        share side draft =
      (drafts.countP fun draft => draft.side == side && draft.unfinished) + share side become := by
  obtain ⟨inside, here⟩ := List.getElem?_eq_some_iff.mp found
  have counted : share side draft ≤
      drafts.countP fun draft => draft.side == side && draft.unfinished := by
    unfold share
    split
    · rename_i holds
      exact List.countP_pos_iff.mpr ⟨draft, List.mem_of_getElem? found, holds⟩
    · exact Nat.zero_le _
  rw [List.countP_set inside, here]
  exact (Nat.add_right_comm _ _ _).trans
    (congrArg (· + share side become) (Nat.sub_add_cancel counted))

theorem Fair.of_steady {deeds : List Deed} (fair : exchange.Fair)
    (steady : exchange.world.Steady after.world) (grown : after.record = exchange.record ++ deeds)
    (unclosed : ∀ side, .closed side (.ok ()) ∉ deeds) (ungone : ∀ side, .gone side ∉ deeds)
    (conveys : after.Conveys)
    (senders : ∀ side, (after.world.endpoint side.other).senders = after.holders side)
    (drafts : ∀ draft ∈ after.drafts, ∀ writer, draft.writer = some writer →
      draft.Holds writer) : after.Fair := by
  refine ⟨conveys, senders, drafts, ?_, ?_⟩
  · intro side
    rw [steady.closed, fair.closed, grown, List.mem_append, or_iff_left (unclosed side)]
  · intro side
    rw [owned, steady.alive, grown, List.mem_append, or_iff_left (ungone side)]
    exact fair.gone side

theorem Fair.of_same_drafts {deeds : List Deed} (fair : exchange.Fair)
    (steady : exchange.world.Steady after.world) (grown : after.record = exchange.record ++ deeds)
    (unclosed : ∀ side, .closed side (.ok ()) ∉ deeds) (ungone : ∀ side, .gone side ∉ deeds)
    (conveys : after.Conveys) (drafts : after.drafts = exchange.drafts)
    (senders : ∀ side, (after.world.endpoint side).senders =
      (exchange.world.endpoint side).senders) : after.Fair := by
  refine fair.of_steady steady grown unclosed ungone conveys ?_ (drafts ▸ fair.drafts)
  intro side
  rw [senders, fair.senders, holders, holders, owned, owned, steady.alive, steady.closed, drafts]

theorem Fair.after_send (fair : exchange.Fair) (side : Side) (message : Message) :
    (exchange.send side message).Fair := by
  have passes := World.send_passes side message exchange.world
  have steady : exchange.world.Steady (Pair.send side message exchange.world).1 := by
    unfold Pair.send
    split
    · exact .refl _
    · exact World.put_steady side message exchange.world
  have senders (other : Side) :
      ((Pair.send side message exchange.world).1.endpoint other).senders =
        (exchange.world.endpoint other).senders := by
    unfold Pair.send
    split
    · rfl
    · simp
  refine fair.of_same_drafts steady rfl (by simp) (by simp) ?_ rfl senders
  refine fair.conveys.after_pass passes rfl .nil rfl ?_ ?_
  · cases (Pair.send side message exchange.world).2 <;> simp [Deed.conveys, deposited]
  · cases (Pair.send side message exchange.world).2 <;> simp [Deed.conveys, side.other_ne]

theorem Fair.after_openWriter (fair : exchange.Fair) (side : Side) (kind : MessageKind) :
    (exchange.openWriter side kind).Fair := by
  have passes := World.nextWriter_passes side kind exchange.world
  unfold openWriter
  simp only [transport]
  rw [nextWriter, Operation.now_instant] at passes ⊢
  by_cases closed : (exchange.world.endpoint side).closed = true
  · simp only [closed, ↓reduceIte] at passes ⊢
    refine fair.of_same_drafts (.refl _) rfl (by simp) (by simp) ?_ rfl fun _ => rfl
    exact fair.conveys.after_pass passes rfl .nil rfl rfl rfl
  · simp only [closed, Bool.false_eq_true, ↓reduceIte] at passes ⊢
    have steady := World.Steady.of_change exchange.world side.other
      (fun peer => { peer with senders := peer.senders + 1 }) (fun _ => rfl) fun _ => rfl
    refine fair.of_steady steady rfl (by simp) (by simp) ?_ ?_ ?_
    · exact fair.conveys.after_pass passes rfl .nil rfl rfl rfl
    · -- One more writer is unfinished, and there is one more sender.
      intro other
      have before := fair.senders other
      unfold holders owned at before ⊢
      rw [note, steady.alive, steady.closed, List.countP_append]
      rcases side.same_or_other other with rfl | rfl
      · simp [before, Draft.unfinished, Nat.add_assoc]
      · simpa [Draft.unfinished, side.other_ne.symm] using before
    · intro draft member writer there
      rcases List.mem_append.mp member with old | new
      · exact fair.drafts draft old writer there
      · cases List.mem_singleton.mp new
        cases there
        exact ⟨rfl, rfl, fun _ => rfl⟩

theorem Fair.after_draft_change {deeds : List Deed} {number : Nat} {draft become : Draft}
    (fair : exchange.Fair) (found : exchange.drafts[number]? = some draft)
    (steady : exchange.world.Steady after.world) (grown : after.record = exchange.record ++ deeds)
    (unclosed : ∀ side, .closed side (.ok ()) ∉ deeds) (ungone : ∀ side, .gone side ∉ deeds)
    (conveys : after.Conveys) (drafts : after.drafts = exchange.drafts.set number become)
    (senders : ∀ side, (after.world.endpoint side.other).senders + share side draft =
      (exchange.world.endpoint side.other).senders + share side become)
    (holds : ∀ writer, become.writer = some writer → become.Holds writer) : after.Fair := by
  refine fair.of_steady steady grown unclosed ungone conveys ?_ ?_
  · intro side
    have counted := countP_set found become side
    have before := fair.senders side
    have now := senders side
    unfold holders owned at before ⊢
    rw [drafts, steady.alive, steady.closed]
    omega
  · rw [drafts]
    intro other member
    rcases List.mem_or_eq_of_mem_set member with old | rfl
    · exact fair.drafts other old
    · exact holds

theorem Fair.after_onWriter (fair : exchange.Fair) (number : Nat)
    {act : Draft → Writer → Exchange → Draft × Exchange}
    (acts : ∀ draft writer, exchange.drafts[number]? = some draft → draft.writer = some writer →
      draft.Holds writer →
      let acted := act draft writer exchange
      Fair { acted.2 with drafts := acted.2.drafts.set number acted.1 }) :
    (exchange.onWriter number act).Fair := by
  unfold Exchange.onWriter
  split
  · rename_i draft found
    split
    · rename_i writer there
      exact acts draft writer found there
        (fair.drafts draft (List.mem_of_getElem? found) writer there)
    · exact fair
  · exact fair

theorem Fair.after_write (fair : exchange.Fair) (number : Nat) (data : Bytes) :
    (exchange.onWriter number (write data)).Fair := by
  refine fair.after_onWriter number fun draft writer found there holds => ?_
  have written : ((transport draft.side).write data).now (writer, exchange.world) =
      (((writeNow data writer).1, exchange.world), (writeNow data writer).2) := rfl
  unfold write
  rw [written]
  refine fair.after_draft_change found (.refl _) (List.append_nil _).symm nofun nofun ?_ rfl ?_ ?_
  · exact fair.conveys.after_pass (.of_nothing draft.side _) (List.append_nil _).symm .nil
      rfl rfl rfl
  · -- Whether or not it takes the bytes, the writer stays as finished as it was.
    intro side
    unfold writeNow share Draft.unfinished
    rw [there]
    split <;> simp_all
  · rintro _ ⟨⟩
    obtain ⟨side, kind, payload⟩ := holds
    unfold writeNow
    split
    · rename_i finished
      exact ⟨side, kind, fun unfinished => absurd (finished.symm.trans unfinished) nofun⟩
    · rename_i unfinished
      refine ⟨side, kind, fun _ => ?_⟩
      have same := payload (Bool.eq_false_iff.mpr unfinished)
      simp [same]

theorem Fair.share_le_senders (fair : exchange.Fair) {number : Nat} {draft : Draft}
    (found : exchange.drafts[number]? = some draft) (side : Side) :
    share side draft ≤ (exchange.world.endpoint side.other).senders := by
  rw [fair.senders side, holders]
  refine Nat.le_trans ?_ (Nat.le_add_left _ _)
  unfold share
  split
  · rename_i holds
    exact List.countP_pos_iff.mpr ⟨draft, List.mem_of_getElem? found, holds⟩
  · exact Nat.zero_le _

theorem share_unfinished {draft : Draft} {writer : Writer} (there : draft.writer = some writer)
    (unfinished : writer.finished = false) (side : Side) :
    share side draft = if draft.side = side then 1 else 0 := by
  simp [share, Draft.unfinished, there, unfinished]

/-- The first finish of a writer sends what has been written to it. -/
theorem finish_sends {draft : Draft} {writer : Writer} (holds : draft.Holds writer)
    (unfinished : writer.finished = false) (exchange : Exchange) :
    let message : Message := ⟨draft.kind, draft.payload⟩
    let put := put draft.side message exchange.world
    finish draft writer exchange =
      ({ draft with writer := some { writer with finished := true, payload := [] } },
        note { exchange with world := dropSender draft.side put.1 }
          (.sent draft.side message put.2)) := by
  have finished : (transport draft.side).finish.now (writer, exchange.world) =
      finishNow writer exchange.world := rfl
  unfold finish
  rw [finished]
  simp [finishNow, unfinished, holds.side, holds.kind, holds.payload unfinished]

theorem finish_again {draft : Draft} {writer : Writer} (there : draft.writer = some writer)
    (past : writer.finished = true) (exchange : Exchange) :
    finish draft writer exchange = (draft, note exchange
      (.sent draft.side ⟨draft.kind, draft.payload⟩ (.error alreadyFinal))) := by
  have finished : (transport draft.side).finish.now (writer, exchange.world) =
      finishNow writer exchange.world := rfl
  unfold finish
  rw [finished]
  simp [finishNow, past, ← there]

theorem Fair.after_finish (fair : exchange.Fair) (number : Nat) :
    (exchange.onWriter number finish).Fair := by
  refine fair.after_onWriter number fun draft writer found there holds => ?_
  by_cases past : writer.finished = true
  · rw [finish_again there past]
    refine fair.after_draft_change found (.refl _) rfl (by simp) (by simp) ?_ rfl (fun _ => rfl) ?_
    · exact fair.conveys.after_pass (.of_nothing draft.side _) rfl .nil rfl rfl rfl
    · exact fun other same => fair.drafts draft (List.mem_of_getElem? found) other same
  · have unfinished := Bool.eq_false_iff.mpr past
    rw [finish_sends holds unfinished]
    have steady := (World.put_steady draft.side ⟨draft.kind, draft.payload⟩ exchange.world).trans
      (World.dropSender_steady draft.side _)
    have passes := (World.put_passes draft.side ⟨draft.kind, draft.payload⟩ exchange.world).trans
      (World.dropSender_passes draft.side _)
    refine fair.after_draft_change found steady rfl (by simp) (by simp) ?_ rfl ?_ ?_
    · refine fair.conveys.after_pass passes rfl .nil rfl ?_ ?_
      · cases (put draft.side ⟨draft.kind, draft.payload⟩ exchange.world).2 <;>
          simp [Deed.conveys, deposited]
      · cases (put draft.side ⟨draft.kind, draft.payload⟩ exchange.world).2 <;>
          simp [Deed.conveys, Side.other_ne]
    · intro side
      have counted := fair.share_le_senders found side
      have gone : share side { draft with
          writer := some { writer with finished := true, payload := [] } } = 0 := by
        simp [share, Draft.unfinished]
      rw [share_unfinished there unfinished] at counted ⊢
      rw [gone, note, World.dropSender_senders, World.put_senders]
      omega
    · rintro _ ⟨⟩
      exact ⟨holds.side, holds.kind, nofun⟩

theorem Fair.after_dropWriter (fair : exchange.Fair) (number : Nat) :
    (exchange.onWriter number dropWriter).Fair := by
  refine fair.after_onWriter number fun draft writer found there holds => ?_
  have passes := World.dropWriter_passes writer exchange.world
  rw [holds.side] at passes
  refine fair.after_draft_change found ?_ (List.append_nil _).symm nofun nofun ?_ rfl ?_ nofun
  · show exchange.world.Steady (Pair.dropWriter writer exchange.world)
    unfold Pair.dropWriter
    split
    · exact .refl _
    · exact World.dropSender_steady _ _
  · exact fair.conveys.after_pass passes (List.append_nil _).symm .nil rfl rfl rfl
  · intro side
    have gone : share side { draft with writer := none } = 0 := by
      simp [share, Draft.unfinished]
    show ((Pair.dropWriter writer exchange.world).endpoint side.other).senders +
      share side draft = _ + share side { draft with writer := none }
    rw [gone]
    unfold Pair.dropWriter
    by_cases past : writer.finished = true
    · simp [past, share, Draft.unfinished, there]
    · have counted := fair.share_le_senders found side
      rw [share_unfinished there (Bool.eq_false_iff.mpr past)] at counted ⊢
      rw [if_neg past, World.dropSender_senders, holds.side]
      omega

theorem Fair.with_receptions (fair : exchange.Fair) (receptions : List Reception) :
    Fair { exchange with receptions } :=
  ⟨fair.conveys, fair.senders, fair.drafts, fair.closed, fair.gone⟩

theorem Fair.after_turn (fair : exchange.Fair) {side : Side} {world : World}
    {progress : Progress Unit (Except Failure Message)}
    (turn : Turn side exchange.world world progress) (wanted : Wanted)
    (receptions : List Reception) :
    Fair { exchange with
      world
      receptions
      record := exchange.record ++
        ((Phase.ofProgress (progress.map fun result => result.map wanted.receipt)).answer?.map
          (Deed.received side)).toList } := by
  refine fair.of_same_drafts turn.turn_steady rfl ?_ ?_
    (fair.conveys.after_pass turn.turn_passes rfl ?_ ?_ ?_ ?_) rfl
    turn.senders_same
  all_goals rcases progress with waits | failure | message <;>
    simp [Progress.map, Except.map, Phase.ofProgress, Phase.answer?, Deed.brings, Deed.conveys,
      withdrawn, wanted.receipt_shows, side.other_ne.symm]

theorem Fair.after_poll (fair : exchange.Fair) (number : Nat) (messageFirst : Bool) :
    (exchange.poll number messageFirst).Fair := by
  unfold Exchange.poll
  split
  · rename_i reception found
    split
    · exact fair
    · rename_i under
      obtain ⟨after, progress, turn, same⟩ := reception.wanted.poll_turns messageFirst
        reception.side number exchange.world (Bool.eq_false_iff.mpr under)
      rw [same]
      exact fair.after_turn turn reception.wanted _
  · exact fair

theorem Fair.after_cancel (fair : exchange.Fair) (number : Nat) :
    (exchange.cancel number).Fair := by
  unfold Exchange.cancel
  split
  · rename_i reception found
    obtain ⟨side, wanted, _ | stage | answer | stage⟩ := reception
    · exact fair.with_receptions _
    · have line : Turn side exchange.world
          ((Pair.receive side).cancel number stage exchange.world) (.waiting ()) := by
        show Turn side exchange.world (exchange.world.change side fun endpoint =>
          { endpoint with line := endpoint.line.leave number }) _
        rw [exchange.world.change_own_line side fun line => line.leave number]
        exact .waits _
      have left := fair.after_turn line wanted (exchange.receptions.set number
        { side, wanted, phase := .dropped (some stage) })
      simp only [Progress.map, Phase.ofProgress, Phase.answer?, Option.map_none,
        Option.toList_none, List.append_nil] at left
      exact left
    · exact fair.with_receptions _
    · exact fair.with_receptions _
  · exact fair

theorem Fair.senders_after_surrender (fair : exchange.Fair) {side : Side}
    (change : Endpoint → Endpoint)
    (live : (exchange.owned side && !(exchange.world.endpoint side).closed) = true)
    (same : ∀ endpoint, (change endpoint).senders = endpoint.senders)
    (surrendered : ∀ endpoint, ((change endpoint).alive && !(change endpoint).closed) = false)
    (other : Side) :
    let world := dropSender side (exchange.world.change side change)
    (world.endpoint other.other).senders = holders { exchange with world } other := by
  intro world
  have steady := World.dropSender_steady side (exchange.world.change side change)
  have before := fair.senders other
  unfold holders owned at *
  rw [steady.alive, steady.closed, World.dropSender_senders]
  rcases side.same_or_other other with rfl | rfl
  · rw [if_pos live] at before
    simp [before, surrendered]
  · simpa [same, side.other_ne.symm] using before

theorem Fair.after_close (fair : exchange.Fair) {side : Side} (owned : exchange.owned side = true) :
    (exchange.close side).Fair := by
  have passes := World.close_passes side exchange.world
  have conveys : (exchange.close side).Conveys :=
    fair.conveys.after_pass passes rfl .nil rfl rfl rfl
  by_cases closed : (exchange.world.endpoint side).closed = true
  · -- It had been closed before.
    have again : exchange.close side = note exchange (.closed side (.error notConnected)) := by
      simp [Exchange.close, transport, Pair.close, closed]
    rw [again] at conveys ⊢
    exact fair.of_same_drafts (.refl _) rfl (by simp) (by simp) conveys rfl fun _ => rfl
  · let world := dropSender side
      (exchange.world.change side fun endpoint => { endpoint with closed := true })
    have first : exchange.close side = note { exchange with world } (.closed side (.ok ())) := by
      simp [Exchange.close, transport, Pair.close, closed, world]
    have live : (exchange.owned side && !(exchange.world.endpoint side).closed) = true := by
      simp [owned, closed]
    rw [first] at conveys ⊢
    have senders :=
      fair.senders_after_surrender (fun endpoint => { endpoint with closed := true }) live
      (fun _ => rfl) fun _ => Bool.and_false _
    refine ⟨conveys, senders, fair.drafts, ?_, ?_⟩
    · intro other
      have before := fair.closed other
      rw [note, List.mem_append, ← before, (World.dropSender_steady _ _).closed]
      rcases side.same_or_other other with rfl | rfl <;> simp [Side.other_ne]
    · intro other
      have before := fair.gone other
      unfold Exchange.owned at before ⊢
      rw [note, List.mem_append, ← before, (World.dropSender_steady _ _).alive]
      rcases side.same_or_other other with rfl | rfl <;> simp

theorem Fair.after_drop (fair : exchange.Fair) {side : Side} (owned : exchange.owned side = true) :
    (note { exchange with world := (transport side).drop exchange.world } (.gone side)).Fair := by
  have passes := World.drop_passes side exchange.world
  have conveys : (note { exchange with world := (transport side).drop exchange.world }
      (.gone side)).Conveys := fair.conveys.after_pass passes rfl .nil rfl rfl rfl
  let left := exchange.world.change side fun endpoint =>
    { endpoint with alive := false, inbox := [] }
  have dropped : (transport side).drop exchange.world =
      if (exchange.world.endpoint side).closed then left else dropSender side left := rfl
  have flags (other : Side) :
      (((transport side).drop exchange.world).endpoint other).alive =
          (left.endpoint other).alive ∧
        (((transport side).drop exchange.world).endpoint other).closed =
          (left.endpoint other).closed := by
    rw [dropped]
    split
    · exact ⟨rfl, rfl⟩
    · have steady := World.dropSender_steady side left
      exact ⟨steady.alive other, steady.closed other⟩
  refine ⟨conveys, ?_, fair.drafts, ?_, ?_⟩
  · intro other
    by_cases closed : (exchange.world.endpoint side).closed = true
    · -- It is no sender any more.
      have before := fair.senders other
      unfold holders Exchange.owned at before ⊢
      rw [note, dropped, if_pos closed]
      rcases side.same_or_other other with rfl | rfl
      · simpa [left, closed] using before
      · simpa [left] using before
    · have live : (exchange.owned side && !(exchange.world.endpoint side).closed) = true := by
        simp [owned, closed]
      rw [note, dropped, if_neg closed]
      exact fair.senders_after_surrender
        (fun endpoint => { endpoint with alive := false, inbox := [] }) live
        (fun _ => rfl) (fun _ => rfl) other
  · intro other
    have before := fair.closed other
    rw [note, List.mem_append, ← before, (flags other).2]
    rcases side.same_or_other other with rfl | rfl <;> simp [left]
  · intro other
    have before := fair.gone other
    unfold Exchange.owned at before ⊢
    rw [note, List.mem_append, ← before, (flags other).1]
    rcases side.same_or_other other with rfl | rfl <;> simp [left, Side.other_ne]

theorem start_fair : Fair {} := by
  refine ⟨fun side _ => ⟨[], .nil, ?_⟩, fun side => ?_, nofun, fun side => ?_, fun side => ?_⟩ <;>
    cases side <;> decide

theorem Fair.if_allowed (fair : exchange.Fair) {allowed : Prop} [Decidable allowed]
    (acts : allowed → after.Fair) : (if allowed then after else exchange).Fair := by
  split
  · rename_i fits
    exact acts fits
  · exact fair

theorem Fair.after_step (fair : exchange.Fair) (action : Action) : (exchange.step action).Fair := by
  cases action with
  | send side message => exact fair.if_allowed fun _ => fair.after_send side message
  | openWriter side kind => exact fair.if_allowed fun _ => fair.after_openWriter side kind
  | write number data => exact fair.after_write number data
  | finish number => exact fair.after_finish number
  | dropWriter number => exact fair.after_dropWriter number
  | receive side wanted => exact fair.if_allowed fun _ => fair.with_receptions _
  | poll number messageFirst => exact fair.after_poll number messageFirst
  | cancel number => exact fair.after_cancel number
  | close side => exact fair.if_allowed fair.after_close
  | drop side =>
    exact fair.if_allowed fun owned => fair.after_drop (Bool.and_eq_true_iff.mp owned).1

theorem run_fair (actions : List Action) : (run {} actions).Fair := by
  suffices kept : ∀ exchange : Exchange, exchange.Fair → (exchange.run actions).Fair from
    kept {} start_fair
  induction actions with
  | nil => exact fun _ fair => fair
  | cons action later ih => exact fun _ fair => ih _ (fair.after_step action)

/-- Nothing can come any more at an end: its inbox is empty, the other end has been closed or given
up, and no writer of that is unfinished. -/
structure Spent (exchange : Exchange) (side : Side) : Prop where
  empty : (exchange.world.endpoint side).inbox = []
  left : .closed side.other (.ok ()) ∈ exchange.record ∨ .gone side.other ∈ exchange.record
  unwritten : ∀ draft ∈ exchange.drafts, draft.side = side.other → draft.unfinished = false

/-- Whatever is asked of an end fails, and leaves the pair as it is. -/
structure Refuses (exchange : Exchange) (side : Side) : Prop where
  sends : ∀ message, exchange.step (.send side message) =
    exchange.note (.sent side message (.error notConnected))
  opens : ∀ kind, exchange.step (.openWriter side kind) =
    exchange.note (.opened side kind (.error notConnected))
  closes : exchange.step (.close side) = exchange.note (.closed side (.error notConnected))
  receives : ∀ number wanted messageFirst,
    exchange.receptions[number]? = some ⟨side, wanted, .fresh⟩ →
      exchange.step (.poll number messageFirst) =
        note { exchange with
          receptions := exchange.receptions.set number
            ⟨side, wanted, .answered (.error notConnected)⟩ }
          (.received side (.error notConnected))

theorem Fair.spent_of_empty (fair : exchange.Fair) {side : Side}
    (empty : (exchange.world.endpoint side).inbox = [])
    (alone : (exchange.world.endpoint side).senders = 0) : exchange.Spent side := by
  have counted := fair.senders side.other
  rw [Side.other_other, alone, holders] at counted
  obtain ⟨left, unwritten⟩ := Nat.add_eq_zero_iff.mp counted.symm
  refine ⟨empty, ?_, ?_⟩
  · rw [← fair.closed, ← fair.gone]
    cases alive : exchange.owned side.other with
    | false => exact .inr rfl
    | true =>
      left
      simpa [alive] using left
  · intro draft member own
    have none := List.countP_eq_zero.mp unwritten draft member
    simpa [own] using none

theorem Fair.closed_refuses (fair : exchange.Fair) {side : Side}
    (closed : .closed side (.ok ()) ∈ exchange.record) (there : .gone side ∉ exchange.record) :
    exchange.Refuses side := by
  have shut := (fair.closed side).mpr closed
  have owned : exchange.owned side = true := by
    by_contra gone
    exact there ((fair.gone side).mp (Bool.eq_false_iff.mpr gone))
  refine ⟨?_, ?_, ?_, ?_⟩
  · intro message
    simp [Exchange.step, owned, Exchange.send, Pair.send, shut]
  · intro kind
    simp [Exchange.step, owned, openWriter, transport, nextWriter, shut]
  · simp [Exchange.step, owned, Exchange.close, transport, Pair.close, shut]
  · intro number wanted messageFirst found
    simp [Exchange.step, Exchange.poll, found, Phase.isOver, Phase.poll, Wanted.receive,
      Operation.map, receiveRacing, shut, Progress.map, Except.map, Phase.ofProgress,
      Phase.answer?, note]

/-- An end that has not been closed is told of the end of all messages only when nothing can come
any more. -/
theorem Fair.spent_of_end (fair : exchange.Fair) {number : Nat} {messageFirst : Bool} {side : Side}
    {failure : Failure}
    (told : (exchange.step (.poll number messageFirst)).record =
      exchange.record ++ [.received side (.error failure)])
    (unexpected : failure.kind = .unexpectedEof)
    (unclosed : .closed side (.ok ()) ∉ exchange.record) : exchange.Spent side := by
  have silent : exchange.record ≠ exchange.record ++ [.received side (.error failure)] :=
    fun same => nomatch List.self_eq_append_right.mp same
  have polled : (exchange.poll number messageFirst).record =
      exchange.record ++ [.received side (.error failure)] := told
  unfold Exchange.poll at polled
  split at polled
  · rename_i reception found
    split at polled
    · exact absurd polled silent
    · rename_i under
      obtain ⟨after, progress, turn, same⟩ := reception.wanted.poll_turns messageFirst
        reception.side number exchange.world (Bool.eq_false_iff.mpr under)
      rw [same] at polled
      have news := List.append_cancel_left polled
      cases turn with
      | refuses line closed =>
        cases news
        cases unexpected
      | waits line => cases news
      | takes line arrived => cases news
      | ends line empty alone =>
        cases news
        exact fair.spent_of_empty empty alone
  · exact absurd polled silent

/-- A pair delivers exactly once and in order. However its two ends are used: at an end that has not
been given up, the messages received, whole or through readers, followed by those in its inbox are
those that have been sent to it or finished, in that order; an end that has not been closed is told
that its peer is gone only when its inbox is empty, the peer has been closed or given up and no
writer of it is unfinished; and an end that has been closed refuses every message, writer, receive
and close asked of it later, and loses nothing by that. -/
theorem delivers_exactly_once (actions : List Action) :
    let exchange := run {} actions
    (∀ side, .gone side ∉ exchange.record →
      ∃ taken, List.Forall₂ Receipt.Shows (exchange.receivedAt side) taken ∧
        taken ++ (exchange.world.endpoint side).inbox = exchange.sentTo side) ∧
    (∀ number messageFirst side failure,
      (exchange.step (.poll number messageFirst)).record =
        exchange.record ++ [.received side (.error failure)] →
      failure.kind = .unexpectedEof → .closed side (.ok ()) ∉ exchange.record →
      exchange.Spent side) ∧
    ∀ side, .closed side (.ok ()) ∈ exchange.record → .gone side ∉ exchange.record →
      exchange.Refuses side := by
  intro exchange
  have fair : exchange.Fair := run_fair actions
  refine ⟨?_, ?_, ?_⟩
  · intro side there
    apply fair.conveys
    by_contra gone
    exact there ((fair.gone side).mp (Bool.eq_false_iff.mpr gone))
  · intro number messageFirst side failure told unexpected unclosed
    exact fair.spent_of_end told unexpected unclosed
  · intro side closed there
    exact fair.closed_refuses closed there

/-- A writer outlives the close of its end. A receive at the other end waits for its message and is
told of the end only after that. -/
example :
    (run {} [.openWriter .left .text, .close .left, .receive .right .message, .poll 0 true,
      .write 0 [1, 2], .finish 0, .poll 0 true, .receive .right .reader, .poll 1 true]).record =
      [.opened .left .text (.ok ()), .closed .left (.ok ()),
        .sent .left ⟨.text, [1, 2]⟩ (.ok ()), .received .right (.ok (.message ⟨.text, [1, 2]⟩)),
        .received .right (.error (peerClosed .unexpectedEof))] := by
  decide +kernel

end Exchange

end Pair

end MessageStream
