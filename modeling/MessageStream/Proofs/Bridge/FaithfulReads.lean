import MessageStream.Proofs.Bridge.ReadSide
import MessageStream.Proofs.Usage.Turns

/-!
The reading side of a bridge against a plainer machine, which holds the bytes not handed over, the
failure behind them and the ticket of the read under way. It begins a read only when it holds
nothing, and every deed of a bridge is a move of it. So what its callers have been handed, followed
by what it still keeps, is what its reads have brought, whatever buffers it was polled with; and
every failure of a read is reported once, behind all bytes and before the next read.
-/
namespace MessageStream

namespace Bridge

/-- What the reads of a bridge have come to, and what its callers have had of it. -/
structure Account where
  begun : List Ticket := []
  ended : List Ticket := []
  brought : Bytes := []
  handed : Bytes := []
  failed : List Failure := []
  reported : List Failure := []

namespace Account

def enter (account : Account) : Deed → Account
  | .begun ticket (.read _) => { account with begun := account.begun ++ [ticket] }
  | .ended ticket (.read outcome) =>
    { account with
      ended := account.ended ++ [ticket]
      brought := account.brought ++ outcome.data
      failed := account.failed ++ outcome.failure?.toList }
  | .answered (.read _) (.bytes data) => { account with handed := account.handed ++ data }
  | .answered (.read _) (.failed failure) =>
    { account with reported := account.reported ++ [failure] }
  | _ => account

def of (record : List Deed) : Account := record.foldl enter {}

theorem of_snoc (record : List Deed) (deed : Deed) :
    of (record ++ [deed]) = (of record).enter deed := List.foldl_concat ..

theorem enter_aside (account : Account) {deed : Deed} (aside : deed.reads = false) :
    account.enter deed = account := by
  unfold Deed.reads at aside
  unfold enter
  split at aside <;> simp_all

end Account

/-- The callers have had everything that came before a deed which has to wait for that. Bytes go
out as far as there is room, whatever is kept. -/
def Deed.InTurn (deed : Deed) (before : Account) : Prop :=
  match deed with
  | begun _ (.read _) => before.handed = before.brought ∧ before.reported = before.failed
  | answered (.read _) (.failed failure) =>
    before.handed = before.brought ∧ before.reported ++ [failure] = before.failed
  | answered (.read room) (.bytes data) => data.length ≤ room
  | _ => True

structure View where
  kept : Bytes := []
  failure : Option Failure := none
  reading : Option Ticket := none

def view {Reading Writing Closing : Type} (bridge : Bridge Reading Writing Closing) : View where
  kept := bridge.kept
  failure := bridge.readFailure
  reading := bridge.reading.map InFlight.ticket

namespace View

/-- What the plainer machine can do, and in which state. -/
inductive Move : View → Deed → View → Prop where
  | begins {ticket : Ticket} {room : Nat} :
    Move {} (.begun ticket (.read room)) { reading := some ticket }
  | ends {ticket : Ticket} {outcome : ReadOutcome} :
    Move { reading := some ticket } (.ended ticket (.read outcome))
      { kept := outcome.data, failure := outcome.failure? }
  | hands {room : Nat} {data kept : Bytes} {failure : Option Failure} {reading : Option Ticket}
      (fits : data.length ≤ room) :
    Move ⟨data ++ kept, failure, reading⟩ (.answered (.read room) (.bytes data))
      ⟨kept, failure, reading⟩
  | reports {room : Nat} {failure : Failure} {reading : Option Ticket} :
    Move ⟨[], some failure, reading⟩ (.answered (.read room) (.failed failure)) ⟨[], none, reading⟩
  | waits {view : View} {room : Nat} : Move view (.answered (.read room) .pending) view
  | aside {view : View} {deed : Deed} (aside : deed.reads = false) : Move view deed view

abbrev Left : List Deed → View → Prop := Leaves Move {}

structure Balances (account : Account) (view : View) : Prop where
  reads : account.begun = account.ended ++ view.reading.toList
  bytes : account.handed ++ view.kept = account.brought
  failures : account.reported ++ view.failure.toList = account.failed

theorem Balances.after_move {account : Account} {view later : View} {deed : Deed}
    (balances : Balances account view) (moved : Move view deed later) :
    Balances (account.enter deed) later := by
  obtain ⟨reads, bytes, failures⟩ := balances
  cases moved with
  | begins => exact ⟨by simpa [Account.enter] using reads, bytes, failures⟩
  | ends =>
    rw [List.append_nil] at bytes
    simp only [Option.toList_none, List.append_nil] at failures
    refine ⟨?_, ?_, ?_⟩
    · simpa [Account.enter] using reads
    · exact congrArg (· ++ _) bytes
    · exact congrArg (· ++ _) failures
  | hands => exact ⟨reads, (List.append_assoc ..).trans bytes, failures⟩
  | reports => exact ⟨reads, bytes, (List.append_nil _).trans failures⟩
  | waits => exact ⟨reads, bytes, failures⟩
  | aside aside =>
    rw [account.enter_aside aside]
    exact ⟨reads, bytes, failures⟩

theorem Balances.move_in_turn {account : Account} {view later : View} {deed : Deed}
    (balances : Balances account view) (moved : Move view deed later) : deed.InTurn account := by
  obtain ⟨reads, bytes, failures⟩ := balances
  cases moved with
  | begins =>
    exact ⟨(List.append_nil _).symm.trans bytes, (List.append_nil _).symm.trans failures⟩
  | ends => trivial
  | hands fits => exact fits
  | reports => exact ⟨(List.append_nil _).symm.trans bytes, failures⟩
  | waits => trivial
  | aside aside =>
    unfold Deed.reads at aside
    unfold Deed.InTurn
    split at aside <;> simp_all

namespace Left

theorem to_balances {record : List Deed} {view : View} (left : Left record view) :
    Balances (.of record) view := by
  induction left with
  | nothing => exact ⟨rfl, rfl, rfl⟩
  | move before moved ih =>
    rw [Account.of_snoc]
    exact ih.after_move moved

theorem deed_in_turn {record before after : List Deed} {view : View} {deed : Deed}
    (left : Left record view) (split : record = before ++ deed :: after) :
    deed.InTurn (.of before) := by
  obtain ⟨was, become, earlier, moved⟩ := left.at_deed split
  exact (to_balances earlier).move_in_turn moved

theorem append_asides {record deeds : List Deed} {view : View} (left : Left record view)
    (aside : ∀ deed ∈ deeds, deed.reads = false) : Left (record ++ deeds) view := by
  induction deeds generalizing record with
  | nil => rwa [List.append_nil]
  | cons deed later ih =>
    rw [List.append_cons]
    exact ih (left.move (.aside (aside deed (.head _)))) fun other member =>
      aside other (.tail _ member)

end Left

end View

variable {World Reading Writing Closing : Type} {calls : StreamCalls World Reading Writing Closing}
  {bridge after : Bridge Reading Writing Closing} {record grown : List Deed}

def Resumes (bridge : Bridge Reading Writing Closing) : Prop :=
  ∀ call, bridge.reading = some call → call.stage.isSome = true

open View (Left Move)

theorem view_spent (spent : bridge.kept = []) (clean : bridge.readFailure = none) :
    bridge.view = { reading := bridge.reading.map InFlight.ticket } := by
  rw [view, spent, clean]

/-- Once it has been polled, the read that a poll goes on with stands in the record as begun. -/
theorem left_underway (left : Left record bridge.view) (resumes : bridge.Resumes)
    (spent : bridge.kept = []) (clean : bridge.readFailure = none) {ticket : Ticket} {room : Nat}
    {call : InFlight Nat Reading} (asks : call = bridge.reading.getD { ticket, request := room }) :
    Left (record ++ if call.stage.isSome then [] else [.begun call.ticket (.read call.request)])
      { reading := some call.ticket } := by
  rw [view_spent spent clean] at left
  cases under : bridge.reading with
  | none =>
    rw [under] at left asks
    subst asks
    exact left.move .begins
  | some going =>
    rw [under] at left asks
    subst asks
    rw [if_pos (resumes call under), List.append_nil]
    exact left

theorem left_readDone {outcome : ReadOutcome} {ticket : Ticket} {room : Nat}
    (spent : bridge.kept = []) (clean : bridge.readFailure = none)
    (underway : Left record { reading := some ticket }) :
    Left (record ++ [.ended ticket (.read outcome)] ++
        [.answered (.read room) (.of .bytes (bridge.readDone outcome room).2)])
      (bridge.readDone outcome room).1.view := by
  have ended := underway.move (@Move.ends ticket outcome)
  have idle : (bridge.readDone outcome room).1.view = ⟨(bridge.readDone outcome room).1.kept,
      (bridge.readDone outcome room).1.readFailure, none⟩ := by
    rw [view, bridge.readDone_reading]
    rfl
  rw [idle]
  rcases bridge.readDone_cases outcome room spent clean with
    ⟨handed, answer, all, fits, failure⟩ | ⟨failure, answer, empty, nothing, clear, failed⟩
  · rw [all] at ended
    rw [answer, failure]
    exact ended.move (.hands fits)
  · rw [empty, failed] at ended
    rw [answer, nothing, clear]
    exact ended.move .reports

theorem ReadPoll.left {ticket : Ticket} {room : Nat} {world later : World}
    {polled : Polled Bytes}
    (polls : ReadPoll calls.recorded ticket room bridge (world, record) after (later, grown) polled)
    (left : Left record bridge.view) (resumes : bridge.Resumes) :
    Left (grown ++ [.answered (.read room) (.of .bytes polled)]) after.view ∧ after.Resumes := by
  cases polls with
  | surplus taken =>
    obtain ⟨all, fits, same⟩ := takeLeftover_some taken
    rw [view, all] at left
    rw [same]
    exact ⟨left.move (.hands fits), resumes⟩
  | @reports failure spent stored =>
    rw [view, spent, stored] at left
    have reported : Left _ _ := left.move (@Move.reports room failure _)
    rw [← spent] at reported
    exact ⟨reported, resumes⟩
  | idles spent clean roomless =>
    exact ⟨left.move (@Move.hands room [] bridge.kept _ _ (Nat.zero_le room)), resumes⟩
  | @waits call _ stage spent clean roomy asks polled =>
    have underway := left_underway left resumes spent clean asks
    have same : ({ bridge with reading := some { call with stage := some stage } } :
        Bridge Reading Writing Closing).view = { reading := some call.ticket } :=
      view_spent spent clean
    rw [StreamCalls.noted_adds polled, same]
    refine ⟨?_, ?_⟩
    · simpa [Deed.ofPoll, Progress.answer?, Answer.of] using underway.move .waits
    · rintro _ ⟨⟩
      rfl
  | @ends call _ outcome spent clean roomy asks polled =>
    have underway := left_underway left resumes spent clean asks
    rw [StreamCalls.noted_adds polled]
    refine ⟨?_, fun call under => ?_⟩
    · simpa [Deed.ofPoll, Progress.answer?] using left_readDone spent clean underway
    · rw [bridge.readDone_reading] at under
      cases under

theorem Aside.left {before last : Bridge Reading Writing Closing × World × List Deed}
    (aside : Aside before last) (left : Left before.2.2 before.1.view)
    (resumes : before.1.Resumes) : Left last.2.2 last.1.view ∧ last.1.Resumes := by
  obtain ⟨deeds, added, none⟩ := aside.record
  have same : last.1.view = before.1.view := by
    rw [view, view, kept, kept, aside.leftover, aside.position, aside.readFailure, aside.reading]
  rw [added, same, Resumes, aside.reading]
  exact ⟨left.append_asides none, resumes⟩

end Bridge

namespace Bridged

variable {World Reading Writing Closing : Type}

structure Faithful (bridged : Bridged World Reading Writing Closing) : Prop where
  left : Bridge.View.Left bridged.record bridged.bridge.view
  resumes : bridged.bridge.Resumes

theorem Faithful.after_step {calls : StreamCalls World Reading Writing Closing}
    {bridged : Bridged World Reading Writing Closing} (faithful : Faithful bridged)
    (action : Action World) : Faithful (bridged.step calls action) := by
  obtain ⟨left, resumes⟩ := faithful
  cases action with
  | change become => exact ⟨left, resumes⟩
  | poll request =>
    cases request with
    | read room =>
      obtain ⟨left, resumes⟩ := (bridged.bridge.pollRead_polls calls.recorded bridged.next room
        (bridged.world, bridged.record)).left left resumes
      exact ⟨left, resumes⟩
    | write data =>
      obtain ⟨left, resumes⟩ := (bridged.bridge.pollWrite_aside calls
        (bridged.world, bridged.record) bridged.next data).left left resumes
      exact ⟨left.move (.aside rfl), resumes⟩
    | flush =>
      obtain ⟨left, resumes⟩ := (bridged.bridge.pollFlush_aside calls
        (bridged.world, bridged.record)).left left resumes
      exact ⟨left.move (.aside rfl), resumes⟩
    | shutdown =>
      obtain ⟨left, resumes⟩ := (bridged.bridge.pollShutdown_aside calls
        (bridged.world, bridged.record) bridged.next).left left resumes
      exact ⟨left.move (.aside rfl), resumes⟩

theorem Faithful.after_run (calls : StreamCalls World Reading Writing Closing) (world : World)
    (actions : List (Action World)) : Faithful (Bridged.run calls { world } actions) :=
  run_keeps calls Faithful (fun _ action faithful => faithful.after_step action) _ _
    ⟨.nothing, nofun⟩

/-- A bridge is a faithful view of its reads, in whatever order it is polled, with whatever room,
whatever its reads come to and whatever becomes of the world meanwhile. The bytes handed over,
followed by those kept, are the bytes brought by the reads that have ended. Each failure of one is
reported once, unless it is the one still kept: after all bytes and before another read is begun. -/
theorem reads_faithful (calls : StreamCalls World Reading Writing Closing) (world : World)
    (actions : List (Action World)) :
    let bridged := Bridged.run calls { world } actions
    let account := Bridge.Account.of bridged.record
    account.handed ++ bridged.bridge.leftover.drop bridged.bridge.position = account.brought ∧
      account.reported ++ bridged.bridge.readFailure.toList = account.failed ∧
      account.begun =
        account.ended ++ (bridged.bridge.reading.map InFlight.ticket).toList ∧
      ∀ before deed after, bridged.record = before ++ deed :: after → deed.InTurn (.of before) := by
  intro bridged account
  have left := (Faithful.after_run calls world actions).left
  obtain ⟨reads, bytes, failures⟩ := left.to_balances
  exact ⟨bytes, failures, reads, fun before deed after => left.deed_in_turn⟩

/-- A read begun for eight bytes brings five and fails. It is polled again for two, for none and
for eight, and the failure is reported before another read is begun. -/
example :
    let source : Failure := .withText .connectionReset "reset"
    let breaks : Operation Unit Unit ReadOutcome :=
      { poll := fun _ stage world =>
          (world, if stage.isSome then .ready (.broken [1, 2, 3, 4, 5] source) else .waiting ())
        cancel := fun _ _ world => world }
    let rests (Value : Type) : Operation Unit Unit Value :=
      { poll := fun _ _ world => (world, .waiting ()), cancel := fun _ _ world => world }
    let calls : StreamCalls Unit Unit Unit Unit :=
      { read := fun _ => breaks, write := fun _ => rests _, close := rests _ }
    let polls : List (Action Unit) := [8, 2, 0, 8, 8].map fun room => .poll (.read room)
    let account := Bridge.Account.of (Bridged.run calls { world := () } polls).record
    account.handed = [1, 2, 3, 4, 5] ∧ account.reported = [source] ∧ account.begun = [0] := by
  decide +kernel

end Bridged

end MessageStream
