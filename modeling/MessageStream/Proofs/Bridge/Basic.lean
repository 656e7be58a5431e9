import MessageStream.Bridge
import MessageStream.Proofs.Usage.Basic
import MessageStream.Proofs.Usage.Turns

/-!
A bridge in use. It is polled in any order and with any buffers, and between two polls the world of
its stream may change in any way. A record is kept of the calls the bridge makes on its stream and
of what each poll answers. Every poll for a new call brings a ticket of its own.
-/
namespace MessageStream

inductive Outcome where
  | read (outcome : ReadOutcome)
  | write (outcome : WriteOutcome)
  | close (outcome : CloseOutcome)

namespace Bridge

inductive Request where
  | read (room : Nat)
  | write (data : Bytes)
  | flush
  | shutdown
  deriving DecidableEq, Repr

inductive Answer where
  | pending
  | bytes (data : Bytes)
  | count (number : Nat)
  | done
  | failed (failure : Failure)
  deriving DecidableEq, Repr

def Answer.of {Value : Type} (answer : Value → Answer) : Polled Value → Answer
  | none => pending
  | some (.ok value) => answer value
  | some (.error failure) => failed failure

/-- What a bridge does, for all to see: a call on its stream, from its beginning to its end, or the
answer to a poll. -/
inductive Deed where
  | begun (ticket : Ticket) (demand : Demand)
  | ended (ticket : Ticket) (outcome : Outcome)
  | answered (request : Request) (answer : Answer)

def Deed.reads : Deed → Bool
  | begun _ (.read _) => true
  | ended _ (.read _) => true
  | answered (.read _) _ => true
  | _ => false

def Deed.ofPoll (ticket : Ticket) (demand : Demand) (resumed : Bool) (outcome : Option Outcome) :
    List Deed :=
  (if resumed then [] else [.begun ticket demand]) ++ (outcome.map (.ended ticket)).toList

end Bridge

namespace StreamCalls

variable {World Reading Writing Closing : Type}

def noted {Stage Value : Type} (demand : Demand) (outcome : Value → Outcome)
    (operation : Operation World Stage Value) :
    Operation (World × List Bridge.Deed) Stage Value where
  poll ticket stage whole :=
    let polled := operation.poll ticket stage whole.1
    let deeds := Bridge.Deed.ofPoll ticket demand stage.isSome (polled.2.answer?.map outcome)
    ((polled.1, whole.2 ++ deeds), polled.2)
  cancel ticket stage whole := (operation.cancel ticket stage whole.1, whole.2)

def recorded (calls : StreamCalls World Reading Writing Closing) :
    StreamCalls (World × List Bridge.Deed) Reading Writing Closing where
  read room := noted (.read room) .read (calls.read room)
  write data := noted (.write data) .write (calls.write data)
  close := noted .close .close calls.close

end StreamCalls

/-- A bridge, the world of its stream, and the record of what it has done. -/
structure Bridged (World Reading Writing Closing : Type) where
  bridge : Bridge Reading Writing Closing := {}
  world : World
  record : List Bridge.Deed := []
  next : Ticket := 0

namespace Bridged

variable {World Reading Writing Closing : Type}

inductive Action (World : Type) where
  | poll (request : Bridge.Request)
  | change (become : World → World)

def poll (calls : StreamCalls World Reading Writing Closing)
    (bridged : Bridged World Reading Writing Closing) :
    Bridge.Request → (Bridge Reading Writing Closing × World × List Bridge.Deed) × Bridge.Answer
  | .read room =>
    (bridged.bridge.pollRead calls.recorded bridged.next room (bridged.world, bridged.record)).map
      id (.of .bytes)
  | .write data =>
    (bridged.bridge.pollWrite calls.recorded bridged.next data
      (bridged.world, bridged.record)).map id (.of .count)
  | .flush =>
    (bridged.bridge.pollFlush calls.recorded (bridged.world, bridged.record)).map id
      (.of fun () => .done)
  | .shutdown =>
    (bridged.bridge.pollShutdown calls.recorded bridged.next
      (bridged.world, bridged.record)).map id (.of fun () => .done)

def step (calls : StreamCalls World Reading Writing Closing)
    (bridged : Bridged World Reading Writing Closing) :
    Action World → Bridged World Reading Writing Closing
  | .poll request =>
    let polled := bridged.poll calls request
    { bridge := polled.1.1
      world := polled.1.2.1
      record := polled.1.2.2 ++ [.answered request polled.2]
      next := bridged.next + 1 }
  | .change become => { bridged with world := become bridged.world }

def run (calls : StreamCalls World Reading Writing Closing)
    (bridged : Bridged World Reading Writing Closing) (actions : List (Action World)) :
    Bridged World Reading Writing Closing :=
  actions.foldl (step calls) bridged

theorem run_keeps (calls : StreamCalls World Reading Writing Closing)
    (holds : Bridged World Reading Writing Closing → Prop)
    (keeps : ∀ bridged action, holds bridged → holds (bridged.step calls action))
    (bridged : Bridged World Reading Writing Closing) (actions : List (Action World))
    (before : holds bridged) : holds (bridged.run calls actions) := by
  induction actions generalizing bridged with
  | nil => exact before
  | cons action later ih => exact ih _ (keeps bridged action before)

end Bridged

namespace StreamCalls

variable {World Stage Value : Type} {demand : Demand} {outcome : Value → Outcome}
  {operation : Operation World Stage Value} {ticket : Ticket} {stage : Option Stage}
  {world : World} {record : List Bridge.Deed}

theorem noted_poll :
    (noted demand outcome operation).poll ticket stage (world, record) =
      (((operation.poll ticket stage world).1,
        record ++ Bridge.Deed.ofPoll ticket demand stage.isSome
          ((operation.poll ticket stage world).2.answer?.map outcome)),
      (operation.poll ticket stage world).2) := rfl

theorem noted_adds {later : World} {grown : List Bridge.Deed} {progress : Progress Stage Value}
    (polled : (noted demand outcome operation).poll ticket stage (world, record) =
      ((later, grown), progress)) :
    grown = record ++ Bridge.Deed.ofPoll ticket demand stage.isSome
      (progress.answer?.map outcome) := by
  rw [noted_poll, Prod.mk.injEq, Prod.mk.injEq] at polled
  obtain ⟨⟨-, rfl⟩, rfl⟩ := polled
  rfl

theorem noted_does {later : World} {grown : List Bridge.Deed} {progress : Progress Stage Value}
    (polled : (noted demand outcome operation).poll ticket stage (world, record) =
      ((later, grown), progress)) : operation.poll ticket stage world = (later, progress) := by
  rw [noted_poll, Prod.mk.injEq, Prod.mk.injEq] at polled
  exact Prod.ext polled.1.1 polled.2

end StreamCalls

namespace Bridge

/-- The deeds on the record are moves of a machine from where it starts, and they leave it here. -/
inductive Leaves {State : Type} (Move : State → Deed → State → Prop) (start : State) :
    List Deed → State → Prop where
  | nothing : Leaves Move start [] start
  | move {record : List Deed} {state later : State} {deed : Deed}
      (before : Leaves Move start record state) (moved : Move state deed later) :
      Leaves Move start (record ++ [deed]) later

/-- Every deed of the record was a move when it was done. -/
theorem Leaves.at_deed {State : Type} {Move : State → Deed → State → Prop} {start state : State}
    {record before after : List Deed} {deed : Deed} (leaves : Leaves Move start record state)
    (split : record = before ++ deed :: after) :
    ∃ was become, Leaves Move start before was ∧ Move was deed become := by
  induction leaves generalizing after with
  | nothing => simp at split
  | move earlier moved ih =>
    rcases split_snoc split with ⟨rest, there, -⟩ | ⟨rfl, rfl, -⟩
    · exact ih there
    · exact ⟨_, _, earlier, moved⟩

end Bridge

end MessageStream
