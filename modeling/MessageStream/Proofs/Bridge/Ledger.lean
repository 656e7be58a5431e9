import MessageStream.Proofs.Bridge.FaithfulWrites

/-!
Bridges over a stream that keeps a ledger: what has been accepted from each of its calls, by ticket.
A write that ends has had as many of its bytes accepted as it reports to have moved, and a bridge
polls a write only under the ticket it began it with. So whatever a bridge is polled for, the ledger
and its record agree on every write of it that has ended.
-/
namespace MessageStream

variable {World Reading Writing Closing : Type}

/-- A ledger of what has been accepted from each call of a stream. Reads and closes leave it alone,
and a write changes its own entry only. A write stands at a stage with what it has had accepted. -/
structure StreamCalls.Ledger (calls : StreamCalls World Reading Writing Closing) where
  accepted : World → Ticket → Bytes
  stands : Bytes → Option Writing → Bytes → Prop
  starts (data : Bytes) : stands data none []
  read (room : Nat) (ticket : Ticket) (stage : Option Reading) (world : World) :
    accepted ((calls.read room).poll ticket stage world).1 = accepted world
  close (ticket : Ticket) (stage : Option Closing) (world : World) :
    accepted (calls.close.poll ticket stage world).1 = accepted world
  other (data : Bytes) (ticket : Ticket) (stage : Option Writing) (world : World)
    (caller : Ticket) (different : caller ≠ ticket) :
    accepted ((calls.write data).poll ticket stage world).1 caller = accepted world caller
  waits {data : Bytes} {ticket : Ticket} {stage : Option Writing} {world after : World}
    {later : Writing} (standing : stands data stage (accepted world ticket))
    (polled : (calls.write data).poll ticket stage world = (after, .waiting later)) :
    stands data (some later) (accepted after ticket)
  ends {data : Bytes} {ticket : Ticket} {stage : Option Writing} {world after : World}
    {outcome : WriteOutcome} (standing : stands data stage (accepted world ticket))
    (polled : (calls.write data).poll ticket stage world = (after, .ready outcome)) :
    outcome.moved ≤ data.length ∧ accepted after ticket = data.take outcome.moved

theorem StreamCalls.noted_inner {Stage Value : Type} {demand : Demand} {outcome : Value → Outcome}
    {operation : Operation World Stage Value} {ticket : Ticket} {stage : Option Stage}
    {world later : World} {record grown : List Bridge.Deed} {progress : Progress Stage Value}
    (polled : (noted demand outcome operation).poll ticket stage (world, record) =
      ((later, grown), progress)) :
    operation.poll ticket stage world = (later, progress) := by
  rw [noted_poll, Prod.mk.injEq, Prod.mk.injEq] at polled
  obtain ⟨⟨rfl, -⟩, rfl⟩ := polled
  rfl

namespace Bridge

open Duty (Left)

variable {calls : StreamCalls World Reading Writing Closing} {ledger : calls.Ledger}
  {bridge after : Bridge Reading Writing Closing} {writing : Option (InFlight Bytes Writing)}
  {world later : World} {record grown : List Deed} {first bound : Ticket}

/-- The ledger agrees with the record on the writes of a bridge, which have tickets between these
two. -/
structure Accounted (ledger : calls.Ledger) (first : Ticket)
    (writing : Option (InFlight Bytes Writing)) (world : World) (record : List Deed)
    (bound : Ticket) : Prop where
  low : first ≤ bound
  since : ∀ ticket data, .begun ticket (.write data) ∈ record → first ≤ ticket
  ahead : ∀ ticket, bound ≤ ticket → ledger.accepted world ticket = []
  under : ∀ call, writing = some call → first ≤ call.ticket ∧
    ledger.stands call.request call.stage (ledger.accepted world call.ticket)
  past : ∀ ticket data outcome, .begun ticket (.write data) ∈ record →
    .ended ticket (.write outcome) ∈ record →
    outcome.moved ≤ data.length ∧ ledger.accepted world ticket = data.take outcome.moved

namespace Accounted

variable (accounted : Accounted ledger first writing world record bound)
include accounted

theorem mono {higher : Ticket} (below : bound ≤ higher) :
    Accounted ledger first writing world record higher :=
  { accounted with
    low := Nat.le_trans accounted.low below
    ahead := fun ticket beyond => accounted.ahead ticket (Nat.le_trans below beyond) }

theorem of_same_accepted (same : ∀ ticket, first ≤ ticket →
      ledger.accepted later ticket = ledger.accepted world ticket) :
    Accounted ledger first writing later record bound := by
  obtain ⟨low, since, ahead, under, past⟩ := accounted
  refine ⟨low, since, ?_, ?_, ?_⟩
  · intro ticket beyond
    rw [same ticket (Nat.le_trans low beyond)]
    exact ahead ticket beyond
  · intro call going
    rw [same call.ticket (under call going).1]
    exact under call going
  · intro ticket data outcome begun ended
    rw [same ticket (since ticket data begun)]
    exact past ticket data outcome begun ended

theorem append_silent {deeds : List Deed}
    (silent : ∀ deed ∈ deeds, deed.begins = none ∧ deed.ends = none) :
    Accounted ledger first writing world (record ++ deeds) bound := by
  have begun {ticket : Ticket} {data : Bytes}
      (member : .begun ticket (.write data) ∈ record ++ deeds) :
      .begun ticket (.write data) ∈ record := by
    rcases List.mem_append.mp member with old | new
    · exact old
    · cases (silent _ new).1
  have ended {ticket : Ticket} {outcome : WriteOutcome}
      (member : .ended ticket (.write outcome) ∈ record ++ deeds) :
      .ended ticket (.write outcome) ∈ record := by
    rcases List.mem_append.mp member with old | new
    · exact old
    · cases (silent _ new).2
  exact ⟨accounted.low, fun ticket data member => accounted.since ticket data (begun member),
    accounted.ahead, accounted.under, fun ticket data outcome here there =>
      accounted.past ticket data outcome (begun here) (ended there)⟩

end Accounted

theorem Accounted.after_begin (accounted : Accounted ledger first none world record bound)
    (unended : bound ∉ (Tally.of record).ended) (data : Bytes) :
    Accounted ledger first (some { ticket := bound, request := data }) world
      (record ++ [.begun bound (.write data)]) (bound + 1) := by
  obtain ⟨low, since, ahead, -, past⟩ := accounted
  refine ⟨Nat.le_succ_of_le low, ?_, ?_, ?_, ?_⟩
  · intro ticket other member
    rcases List.mem_append.mp member with old | new
    · exact since ticket other old
    · cases List.mem_singleton.mp new
      exact low
  · exact fun ticket beyond => ahead ticket (Nat.le_of_succ_le beyond)
  · rintro _ ⟨⟩
    refine ⟨low, ?_⟩
    rw [ahead bound (Nat.le_refl _)]
    exact ledger.starts data
  · intro ticket other outcome begun ended
    have there : .ended ticket (.write outcome) ∈ record := by simpa using ended
    rcases List.mem_append.mp begun with old | new
    · exact past ticket other outcome old there
    · cases List.mem_singleton.mp new
      exact absurd (Tally.mem_ended there) unended

section Polls

variable {call : InFlight Bytes Writing}
  (accounted : Accounted ledger first (some call) world record bound)
  {ended : Option (Bytes × WriteOutcome)} {next : Ticket}
  (left : Left record ⟨some (call.ticket, call.request), none, ended, next⟩) (small : next ≤ bound)
include accounted left small

theorem Accounted.others_unchanged
    (other : ∀ caller, caller ≠ call.ticket →
      ledger.accepted later caller = ledger.accepted world caller) :
    (∀ ticket, bound ≤ ticket → ledger.accepted later ticket = []) ∧
      ∀ ticket data outcome, .begun ticket (.write data) ∈ record →
        .ended ticket (.write outcome) ∈ record →
        outcome.moved ≤ data.length ∧ ledger.accepted later ticket = data.take outcome.moved := by
  have below : call.ticket < next :=
    left.to_balances.older call.ticket (Tally.mem_begun (left.begun_of_underway rfl))
  constructor
  · intro ticket beyond
    have newer : call.ticket < ticket := Nat.lt_of_lt_of_le below (Nat.le_trans small beyond)
    rw [other ticket (Nat.ne_of_gt newer)]
    exact accounted.ahead ticket beyond
  · intro ticket data outcome begun past
    rw [other ticket ?_]
    · exact accounted.past ticket data outcome begun past
    · rintro rfl
      exact left.underway_not_ended rfl (Tally.mem_ended past)

theorem Accounted.while_waiting {stage : Writing}
    (polled : (calls.write call.request).poll call.ticket call.stage world =
      (later, .waiting stage)) :
    Accounted ledger first (some { call with stage := some stage }) later record bound := by
  obtain ⟨early, standing⟩ := accounted.under call rfl
  have other (caller : Ticket) (different : caller ≠ call.ticket) :
      ledger.accepted later caller = ledger.accepted world caller := by
    have same := ledger.other call.request call.ticket call.stage world caller different
    rwa [polled] at same
  obtain ⟨ahead, past⟩ := accounted.others_unchanged left small other
  refine ⟨accounted.low, accounted.since, ahead, ?_, past⟩
  rintro _ ⟨⟩
  exact ⟨early, ledger.waits standing polled⟩

theorem Accounted.after_end {outcome : WriteOutcome}
    (polled : (calls.write call.request).poll call.ticket call.stage world =
      (later, .ready outcome)) :
    Accounted ledger first none later (record ++ [.ended call.ticket (.write outcome)]) bound := by
  obtain ⟨early, standing⟩ := accounted.under call rfl
  have other (caller : Ticket) (different : caller ≠ call.ticket) :
      ledger.accepted later caller = ledger.accepted world caller := by
    have same := ledger.other call.request call.ticket call.stage world caller different
    rwa [polled] at same
  obtain ⟨ahead, past⟩ := accounted.others_unchanged left small other
  refine ⟨accounted.low, ?_, ahead, nofun, ?_⟩
  · intro ticket data member
    exact accounted.since ticket data (by simpa using member)
  · intro ticket data last begun ended
    have there : .begun ticket (.write data) ∈ record := by simpa using begun
    rcases List.mem_append.mp ended with old | new
    · exact past ticket data last there old
    · -- It is the write just ended, and it was begun with these bytes.
      cases List.mem_singleton.mp new
      cases left.begun_once there (left.begun_of_underway rfl)
      exact ledger.ends standing polled

end Polls

theorem Settles.accounted {free : Bool}
    (settles : Settles calls.recorded bridge (world, record) after (later, grown) free)
    (tended : Tended bridge record bound)
    (accounted : Accounted ledger first bridge.writing world record bound) :
    Accounted ledger first after.writing later grown bound := by
  cases settles with
  | idles idle => exact accounted
  | waits under polled =>
    have same : grown = record := by
      simpa [Progress.answer?] using tended.record_after_poll under polled
    obtain ⟨ended, next, small, left⟩ := tended.left_of_writing under
    rw [under] at accounted
    rw [same]
    exact accounted.while_waiting left small (StreamCalls.noted_inner polled)
  | @ends call _ outcome under polled =>
    have added : grown = record ++ [.ended call.ticket (.write outcome)] :=
      tended.record_after_poll under polled
    obtain ⟨ended, next, small, left⟩ := tended.left_of_writing under
    rw [under] at accounted
    rw [added]
    exact accounted.after_end left small (StreamCalls.noted_inner polled)

theorem MakesWay.accounted {data : Bytes}
    (way : MakesWay calls.recorded data bridge (world, record) after (later, grown))
    (tended : Tended bridge record bound)
    (accounted : Accounted ledger first bridge.writing world record bound) :
    Accounted ledger first after.writing later grown bound := by
  cases way with
  | same own => exact accounted
  | settles other settled => exact settled.accounted tended accounted

theorem Accounted.of_asked {ticket : Ticket}
    (accounted : Accounted ledger first bridge.writing world record ticket)
    (tended : Tended bridge record ticket) {data : Bytes} {call : InFlight Bytes Writing}
    (asks : call = bridge.writing.getD { ticket, request := data }) :
    Accounted ledger first (some call) world
      (record ++ if call.stage.isSome then [] else [.begun call.ticket (.write call.request)])
      (ticket + 1) := by
  cases under : bridge.writing with
  | none =>
    rw [under] at asks accounted
    subst asks
    exact accounted.after_begin tended.bound_not_ended data
  | some going =>
    rw [under] at asks accounted
    subst asks
    rw [if_pos (tended.order.resumes call under), List.append_nil]
    exact accounted.mono (Nat.le_succ ticket)

theorem answered_silent (request : Request) (answer : Answer) :
    ∀ deed ∈ [Deed.answered request answer], deed.begins = none ∧ deed.ends = none := by
  intro deed member
  rw [List.mem_singleton.mp member]
  exact ⟨rfl, rfl⟩

theorem WritePoll.accounted {ticket : Ticket} {data : Bytes} {polled : Polled Nat}
    (polls : WritePoll calls.recorded ticket data bridge (world, record) after (later, grown)
      polled) (tended : Tended bridge record ticket)
    (accounted : Accounted ledger first bridge.writing world record ticket) :
    Accounted ledger first after.writing later grown (ticket + 1) := by
  cases polls with
  | blocked other settled => exact (settled.accounted tended accounted).mono (Nat.le_succ _)
  | reports way idle kept => exact (way.accounted tended accounted).mono (Nat.le_succ _)
  | @waits free middle _ call stage way clean asks polled =>
    obtain ⟨world, between⟩ := middle
    obtain ⟨ended, next, small, left⟩ := (way.tended tended).asked_begun clean asks
    have begun := (way.accounted tended accounted).of_asked (way.tended tended) asks
    rw [StreamCalls.noted_adds polled]
    simpa [Deed.ofPoll, Progress.answer?] using
      begun.while_waiting left small (StreamCalls.noted_inner polled)
  | @ends free middle _ call outcome way clean asks polled =>
    obtain ⟨world, between⟩ := middle
    obtain ⟨ended, next, small, left⟩ := (way.tended tended).asked_begun clean asks
    have begun := (way.accounted tended accounted).of_asked (way.tended tended) asks
    rw [StreamCalls.noted_adds polled]
    simpa [Deed.ofPoll, Progress.answer?] using
      begun.after_end left small (StreamCalls.noted_inner polled)

theorem FlushPoll.accounted {polled : Polled Unit}
    (polls : FlushPoll calls.recorded bridge (world, record) after (later, grown) polled)
    (tended : Tended bridge record bound)
    (accounted : Accounted ledger first bridge.writing world record bound) :
    Accounted ledger first after.writing later grown bound := by
  cases polls with
  | blocked settled => exact settled.accounted tended accounted
  | reports settled kept => exact settled.accounted tended accounted
  | flushes settled clean => exact settled.accounted tended accounted

theorem aside_silent {deeds : List Deed} (aside : ∀ deed ∈ deeds, deed.writes = false) :
    ∀ deed ∈ deeds, deed.begins = none ∧ deed.ends = none := by
  intro deed member
  obtain ⟨begins, ends, -⟩ := Deed.aside_tally (aside deed member)
  exact ⟨begins, ends⟩

theorem Accounted.after_close_poll
    (accounted : Accounted ledger first writing world record bound)
    {call : InFlight Unit Closing} {progress : Progress Closing CloseOutcome}
    (polled : calls.recorded.close.poll call.ticket call.stage (world, record) =
      ((later, grown), progress)) : Accounted ledger first writing later grown bound := by
  have same := ledger.close call.ticket call.stage world
  rw [StreamCalls.noted_inner polled] at same
  rw [StreamCalls.noted_adds polled]
  refine (accounted.of_same_accepted fun ticket _ => congrFun same ticket).append_silent
    (aside_silent ?_)
  exact Deed.ofPoll_aside nofun (by cases progress <;> nofun)

theorem ShutdownPoll.accounted {polled : Polled Unit}
    (polls : ShutdownPoll calls.recorded bridge (world, record) after (later, grown) polled)
    (tended : Tended bridge record bound)
    (accounted : Accounted ledger first bridge.writing world record bound) :
    Accounted ledger first after.writing later grown bound := by
  cases polls with
  | blocked settled => exact settled.accounted tended accounted
  | @waits free middle _ call stage settled polled =>
    obtain ⟨world, between⟩ := middle
    exact (settled.accounted tended accounted).after_close_poll polled
  | @closes free middle _ call outcome settled polled =>
    obtain ⟨world, between⟩ := middle
    exact (settled.accounted tended accounted).after_close_poll polled

theorem ReadPoll.accounted {ticket : Ticket} {room : Nat} {polled : Polled Bytes}
    (polls : ReadPoll calls.recorded ticket room bridge (world, record) after (later, grown) polled)
    (accounted : Accounted ledger first bridge.writing world record bound) :
    Accounted ledger first after.writing later grown bound := by
  rw [polls.apart.writing]
  have reading {call : InFlight Nat Reading} {progress : Progress Reading ReadOutcome}
      (polled : (calls.recorded.read call.request).poll call.ticket call.stage (world, record) =
        ((later, grown), progress)) :
      Accounted ledger first bridge.writing later grown bound := by
    have same := ledger.read call.request call.ticket call.stage world
    rw [StreamCalls.noted_inner polled] at same
    rw [StreamCalls.noted_adds polled]
    refine (accounted.of_same_accepted fun ticket _ => congrFun same ticket).append_silent
      (aside_silent ?_)
    exact Deed.ofPoll_aside nofun (by cases progress <;> nofun)
  cases polls with
  | waits spent clean roomy asks polled => exact reading polled
  | ends spent clean roomy asks polled => exact reading polled
  | _ => exact accounted

def Deed.asked : Deed → Option Request
  | answered request _ => some request
  | _ => none

/-- Writes follow each other, and each count told is that of the write which has just ended: it was
begun with the bytes the poll is for, and has had so many of them accepted. -/
structure OwnCounts (record : List Deed) (accepted : Ticket → Bytes) : Prop where
  single : ∀ before ticket data after, record = before ++ .begun ticket (.write data) :: after →
    (Tally.of before).begun = (Tally.of before).ended
  once : ∀ ticket before outcome after front other rest,
    record = before ++ .ended ticket (.write outcome) :: after →
    record = front ++ .ended ticket (.write other) :: rest → before = front
  told : ∀ before request count after,
    record = before ++ .answered request (.count count) :: after →
    ∃ data earlier ticket outcome, request = .write data ∧
      before = earlier ++ [.ended ticket (.write outcome)] ∧
      .begun ticket (.write data) ∈ earlier ∧ outcome.moved = count ∧
      count ≤ data.length ∧ accepted ticket = data.take count
  untold : ∀ before ticket data outcome after,
    record = before ++ .ended ticket (.write outcome) :: after →
    .begun ticket (.write data) ∈ before → after.findSome? Deed.asked ≠ some (.write data) →
    ∀ request count rest, after ≠ .answered request (.count count) :: rest

theorem Accounted.ownCounts (accounted : Accounted ledger first writing world record bound)
    {duty : Duty} (left : Left record duty) : OwnCounts record (ledger.accepted world) := by
  have told (before : List Deed) (request : Request) (count : Nat) (after : List Deed)
      (split : record = before ++ .answered request (.count count) :: after) :
      ∃ data earlier ticket outcome, request = .write data ∧
        before = earlier ++ [.ended ticket (.write outcome)] ∧
        .begun ticket (.write data) ∈ earlier ∧ outcome.moved = count ∧
        count ≤ data.length ∧ ledger.accepted world ticket = data.take count := by
    obtain ⟨was, become, (early : Left before was), moved⟩ := left.at_deed split
    generalize answer : Answer.count count = told at moved
    cases moved with
    | @counts data outcome _ _ _ counted =>
      cases answer
      obtain ⟨earlier, ticket, rfl, begun⟩ := early.just_ended rfl
      obtain ⟨fits, accepted⟩ := accounted.past ticket data outcome (by simp [split, begun])
        (by simp [split])
      have same := (WriteOutcome.told_ok counted).1
      rw [same] at fits accepted
      exact ⟨data, earlier, ticket, outcome, rfl, rfl, begun, same, fits, accepted⟩
    | @shuts _ _ _ result => cases result <;> cases answer
    | aside aside =>
      rw [← answer] at aside
      cases request <;> cases aside
    | _ => cases answer
  refine ⟨?_, fun _ _ _ _ _ _ _ here there => left.ended_once here there, told, ?_⟩
  · intro before ticket data after split
    obtain ⟨was, become, (earlier : Left before was), moved⟩ := left.at_deed split
    have writes := earlier.to_balances.writes
    cases moved with
    | begins fresh => simpa using writes
    | aside aside => cases aside
  · rintro before ticket data outcome _ split begun elsewhere request count rest rfl
    obtain ⟨given, earlier, other, last, rfl, place, early, -⟩ := told
      (before ++ [.ended ticket (.write outcome)]) request count rest (by simp [split])
    -- The answer right behind the end would be one to a poll for the write's own bytes.
    obtain ⟨rfl, same⟩ := List.append_inj' place rfl
    cases same
    have here : .begun ticket (.write data) ∈ record := by simp [split, begun]
    have there : .begun ticket (.write given) ∈ record := by simp [split, early]
    cases left.begun_once here there
    exact elsewhere rfl

end Bridge

namespace Bridged

open Bridge (Tended Accounted)

structure Sound {calls : StreamCalls World Reading Writing Closing} (ledger : calls.Ledger)
    (first : Ticket) (bridged : Bridged World Reading Writing Closing) : Prop where
  tended : Tended bridged.bridge bridged.record bridged.next
  accounted : Accounted ledger first bridged.bridge.writing bridged.world bridged.record
    bridged.next

/-- What others do to the world is nothing to the calls with tickets from the first on. -/
def Action.Leaves (accepted : World → Ticket → Bytes) (first : Ticket) : Action World → Prop
  | .poll _ => True
  | .change become => ∀ world ticket, first ≤ ticket →
    accepted (become world) ticket = accepted world ticket

theorem Sound.after_step {calls : StreamCalls World Reading Writing Closing} {ledger : calls.Ledger}
    {first : Ticket} {bridged : Bridged World Reading Writing Closing}
    (sound : Sound ledger first bridged) {action : Action World}
    (leaves : action.Leaves ledger.accepted first) :
    Sound ledger first (bridged.step calls action) := by
  refine ⟨tended_step sound.tended action, ?_⟩
  obtain ⟨tended, accounted⟩ := sound
  cases action with
  | change become => exact accounted.of_same_accepted (leaves bridged.world)
  | poll request =>
    cases request with
    | read room =>
      exact (((bridged.bridge.pollRead_polls calls.recorded bridged.next room
        (bridged.world, bridged.record)).accounted accounted).append_silent
          (Bridge.answered_silent _ _)).mono (Nat.le_succ _)
    | write data =>
      exact ((Bridge.pollWrite_polls calls.recorded bridged.next data tended.order
        (bridged.world, bridged.record)).accounted tended accounted).append_silent
          (Bridge.answered_silent _ _)
    | flush =>
      exact (((Bridge.pollFlush_polls calls.recorded tended.order
        (bridged.world, bridged.record)).accounted tended accounted).append_silent
          (Bridge.answered_silent _ _)).mono (Nat.le_succ _)
    | shutdown =>
      exact (((Bridge.pollShutdown_polls calls.recorded bridged.next tended.order
        (bridged.world, bridged.record)).accounted tended accounted).append_silent
          (Bridge.answered_silent _ _)).mono (Nat.le_succ _)

theorem run_sound {calls : StreamCalls World Reading Writing Closing} (ledger : calls.Ledger)
    (world : World) (first : Ticket)
    (unused : ∀ ticket, first ≤ ticket → ledger.accepted world ticket = [])
    (actions : List (Action World))
    (leaves : ∀ action ∈ actions, action.Leaves ledger.accepted first) :
    Sound ledger first (Bridged.run calls { world, next := first } actions) := by
  have start : Sound ledger first
      ({ world, next := first } : Bridged World Reading Writing Closing) :=
    ⟨start_tended first, ⟨Nat.le_refl _, nofun, unused, nofun, nofun⟩⟩
  generalize ({ world, next := first } : Bridged World Reading Writing Closing) = bridged at start ⊢
  induction actions generalizing bridged with
  | nil => exact start
  | cons action later ih =>
    apply ih
    · exact fun other member => leaves other (.tail _ member)
    · exact start.after_step (leaves action (.head _))

end Bridged

end MessageStream
