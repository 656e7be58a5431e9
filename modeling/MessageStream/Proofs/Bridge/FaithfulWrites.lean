import MessageStream.Proofs.Bridge.WriteSide
import MessageStream.Proofs.Usage.Turns
import MessageStream.Transport.Scripted

/-!
The writing side of a bridge against a plainer machine, which holds the write under way, the failure
still to be reported and the write that has just ended. It begins a write only when it holds neither
of the first two, and every deed of a bridge is a move of it. So writes follow each other, a count
is told only of the write of the same bytes that has just ended, and each failure of one is reported
once, unless it is the one still held.

A shutdown waits for the write under way but reports no failure held, so it can succeed where a
flush would not.
-/
namespace MessageStream

theorem split_once {Item Name : Type} {name : Item → Option Name} {items : List Item}
    (distinct : (items.filterMap name).Nodup) {before after front rest : List Item}
    {one other : Item} {named : Name} (first : items = before ++ one :: after)
    (second : items = front ++ other :: rest) (here : name one = some named)
    (there : name other = some named) : before = front := by
  -- Were one place before the other, the name would stand twice.
  have twice {start middle last : List Item} {early late : Item}
      (both : items = start ++ early :: (middle ++ late :: last)) (has : name early = some named)
      (too : name late = some named) : False := by
    rw [both, List.filterMap_append, List.filterMap_cons_some has, List.filterMap_append,
      List.filterMap_cons_some too] at distinct
    have apart := (List.nodup_cons.mp (List.nodup_append.mp distinct).2.1).1
    exact apart (List.mem_append_right _ (.head _))
  rcases List.append_eq_append_iff.mp (first.symm.trans second) with
    ⟨_ | ⟨head, middle⟩, whole, same⟩ | ⟨_ | ⟨head, middle⟩, whole, same⟩
  · exact (List.append_nil _).symm.trans whole.symm
  · cases same
    exact (twice first here there).elim
  · exact whole.trans (List.append_nil _)
  · cases same
    exact (twice second there here).elim

namespace Bridge

def Request.reports : Request → Bool
  | write _ => true
  | flush => true
  | _ => false

namespace Deed

def writes : Deed → Bool
  | begun _ (.write _) => true
  | ended _ (.write _) => true
  | answered (.read _) (.count _) => true
  | answered (.read _) _ => false
  | answered _ _ => true
  | _ => false

def begins : Deed → Option Ticket
  | begun ticket (.write _) => some ticket
  | _ => none

def ends : Deed → Option Ticket
  | ended ticket (.write _) => some ticket
  | _ => none

def fails : Deed → Option Failure
  | ended _ (.write outcome) => outcome.failure?
  | _ => none

def reports : Deed → Option Failure
  | answered request (.failed failure) => if request.reports then some failure else none
  | _ => none

theorem aside_tally {deed : Deed} (aside : deed.writes = false) :
    deed.begins = none ∧ deed.ends = none ∧ deed.fails = none ∧ deed.reports = none := by
  rcases deed with ⟨_, _ | _ | _⟩ | ⟨_, _ | _ | _⟩ | ⟨_ | _ | _ | _, _ | _ | _ | _ | _⟩ <;>
    first | exact ⟨rfl, rfl, rfl, rfl⟩ | cases aside

theorem ofPoll_aside {ticket : Ticket} {demand : Demand} {resumed : Bool}
    {outcome : Option Outcome} (other : ∀ data, demand ≠ .write data)
    (unwritten : ∀ write, outcome ≠ some (.write write)) :
    ∀ deed ∈ ofPoll ticket demand resumed outcome, deed.writes = false := by
  intro deed member
  rcases List.mem_append.mp member with begun | ended
  · cases resumed with
    | true => simp at begun
    | false =>
      rw [if_neg Bool.false_ne_true, List.mem_singleton] at begun
      subst begun
      cases demand with
      | write data => exact absurd rfl (other data)
      | _ => rfl
  · obtain ⟨come, rfl, rfl⟩ := Option.map_eq_some_iff.mp (Option.mem_toList.mp ended)
    cases come with
    | write write => exact absurd rfl (unwritten write)
    | _ => rfl

end Deed

/-- What the writes of a bridge have come to: those begun and those that have ended, the failures
these have ended with and those reported. -/
structure Tally where
  begun : List Ticket
  ended : List Ticket
  failed : List Failure
  reported : List Failure

def Tally.of (record : List Deed) : Tally where
  begun := record.filterMap Deed.begins
  ended := record.filterMap Deed.ends
  failed := record.filterMap Deed.fails
  reported := record.filterMap Deed.reports

theorem Tally.of_snoc (record : List Deed) (deed : Deed) :
    Tally.of (record ++ [deed]) =
      { begun := (Tally.of record).begun ++ deed.begins.toList
        ended := (Tally.of record).ended ++ deed.ends.toList
        failed := (Tally.of record).failed ++ deed.fails.toList
        reported := (Tally.of record).reported ++ deed.reports.toList } := by
  have single {Item : Type} (part : Deed → Option Item) :
      [deed].filterMap part = (part deed).toList := by
    cases found : part deed <;> simp [found]
  simp only [of, List.filterMap_append, single]

theorem Tally.of_quiet (record : List Deed) {deed : Deed} (begins : deed.begins = none)
    (ends : deed.ends = none) (fails : deed.fails = none) (reports : deed.reports = none) :
    Tally.of (record ++ [deed]) = Tally.of record := by
  simp [of_snoc, begins, ends, fails, reports]

theorem Tally.mem_begun {record : List Deed} {ticket : Ticket} {data : Bytes}
    (member : .begun ticket (.write data) ∈ record) : ticket ∈ (of record).begun :=
  List.mem_filterMap.mpr ⟨_, member, rfl⟩

theorem Tally.mem_ended {record : List Deed} {ticket : Ticket} {outcome : WriteOutcome}
    (member : .ended ticket (.write outcome) ∈ record) : ticket ∈ (of record).ended :=
  List.mem_filterMap.mpr ⟨_, member, rfl⟩

/-- What is left of the writes of a bridge: the one under way, the failure held, the one that has
ended with the last deed, and the first ticket for new ones. -/
structure Duty where
  writing : Option (Ticket × Bytes) := none
  failure : Option Failure := none
  ended : Option (Bytes × WriteOutcome) := none
  next : Ticket := 0

namespace Duty

/-- What the plainer machine can do, and in which state. -/
inductive Move : Duty → Deed → Duty → Prop where
  | begins {ticket : Ticket} {data : Bytes} {ended : Option (Bytes × WriteOutcome)}
      {next : Ticket} (fresh : next ≤ ticket) :
    Move ⟨none, none, ended, next⟩ (.begun ticket (.write data))
      ⟨some (ticket, data), none, none, ticket + 1⟩
  | ends {ticket next : Ticket} {data : Bytes} {outcome : WriteOutcome}
      {ended : Option (Bytes × WriteOutcome)} :
    Move ⟨some (ticket, data), none, ended, next⟩ (.ended ticket (.write outcome))
      ⟨none, outcome.failure?, some (data, outcome), next⟩
  | counts {data : Bytes} {outcome : WriteOutcome} {count : Nat} {failure : Option Failure}
      {next : Ticket} (told : outcome.told = .ok count) :
    Move ⟨none, failure, some (data, outcome), next⟩ (.answered (.write data) (.count count))
      ⟨none, failure, none, next⟩
  | reports {request : Request} {failure : Failure} {ended : Option (Bytes × WriteOutcome)}
      {next : Ticket} (asked : request.reports = true) :
    Move ⟨none, some failure, ended, next⟩ (.answered request (.failed failure))
      ⟨none, none, none, next⟩
  | flushes {ended : Option (Bytes × WriteOutcome)} {next : Ticket} :
    Move ⟨none, none, ended, next⟩ (.answered .flush .done) ⟨none, none, none, next⟩
  | shuts {failure : Option Failure} {ended : Option (Bytes × WriteOutcome)} {next : Ticket}
      {result : Except Failure Unit} :
    Move ⟨none, failure, ended, next⟩
      (.answered .shutdown (.of (fun () => .done) (some result))) ⟨none, failure, none, next⟩
  | waits {duty : Duty} {request : Request} :
    Move duty (.answered request .pending) { duty with ended := none }
  | aside {duty : Duty} {deed : Deed} (aside : deed.writes = false) :
    Move duty deed { duty with ended := none }

abbrev Left : List Deed → Duty → Prop := Leaves Move {}

structure Balances (tally : Tally) (duty : Duty) : Prop where
  writes : tally.begun = tally.ended ++ (duty.writing.map Prod.fst).toList
  failures : tally.reported ++ duty.failure.toList = tally.failed
  once : tally.begun.Nodup
  older : ∀ ticket ∈ tally.begun, ticket < duty.next

theorem Balances.after_move {record : List Deed} {duty later : Duty} {deed : Deed}
    (balances : Balances (.of record) duty) (moved : Move duty deed later) :
    Balances (.of (record ++ [deed])) later := by
  obtain ⟨writes, failures, once, older⟩ := balances
  cases moved with
  | @begins ticket data ended next fresh =>
    rw [Tally.of_snoc]
    refine ⟨?_, ?_, ?_, ?_⟩
    · simpa [Deed.begins, Deed.ends] using writes
    · simpa [Deed.reports, Deed.fails] using failures
    · -- Its ticket is newer than all before.
      have absent : ticket ∉ (Tally.of record).begun := by
        intro member
        exact Nat.lt_irrefl _ (Nat.lt_of_lt_of_le (older ticket member) fresh)
      simpa [Deed.begins] using once.concat absent
    · intro other member
      rcases List.mem_append.mp member with old | new
      · exact Nat.lt_succ_of_lt (Nat.lt_of_lt_of_le (older other old) fresh)
      · cases Option.mem_toList.mp new
        exact Nat.lt_succ_self _
  | ends =>
    rw [Tally.of_snoc]
    refine ⟨?_, ?_, ?_, ?_⟩
    · simpa [Deed.begins, Deed.ends] using writes
    · simpa [Deed.reports, Deed.fails] using failures
    · simpa [Deed.begins] using once
    · simpa [Deed.begins] using older
  | @reports request failure ended next asked =>
    rw [Tally.of_snoc]
    refine ⟨?_, ?_, ?_, ?_⟩
    · simpa [Deed.begins, Deed.ends] using writes
    · simpa [Deed.reports, Deed.fails, asked] using failures
    · simpa [Deed.begins] using once
    · simpa [Deed.begins] using older
  | counts told =>
    rw [Tally.of_quiet record rfl rfl rfl rfl]
    exact ⟨writes, failures, once, older⟩
  | flushes =>
    rw [Tally.of_quiet record rfl rfl rfl rfl]
    exact ⟨writes, failures, once, older⟩
  | @shuts failure ended next result =>
    rw [Tally.of_quiet record rfl rfl rfl (by cases result <;> rfl)]
    exact ⟨writes, failures, once, older⟩
  | waits =>
    rw [Tally.of_quiet record rfl rfl rfl rfl]
    exact ⟨writes, failures, once, older⟩
  | aside aside =>
    obtain ⟨begins, ends, fails, reports⟩ := Deed.aside_tally aside
    rw [Tally.of_quiet record begins ends fails reports]
    exact ⟨writes, failures, once, older⟩

namespace Left

variable {record : List Deed} {duty : Duty}

theorem to_balances (left : Left record duty) : Balances (.of record) duty := by
  induction left with
  | nothing => exact ⟨rfl, rfl, List.nodup_nil, List.forall_mem_nil _⟩
  | move before moved ih => exact ih.after_move moved

theorem begun_of_underway {ticket : Ticket} {data : Bytes} (left : Left record duty)
    (under : duty.writing = some (ticket, data)) : .begun ticket (.write data) ∈ record := by
  induction left with
  | nothing => cases under
  | move earlier moved ih =>
    cases moved with
    | begins fresh =>
      cases under
      simp
    | waits => exact List.mem_append_left _ (ih under)
    | aside aside => exact List.mem_append_left _ (ih under)
    | _ => cases under

theorem just_ended {data : Bytes} {outcome : WriteOutcome} (left : Left record duty)
    (ended : duty.ended = some (data, outcome)) :
    ∃ earlier ticket, record = earlier ++ [.ended ticket (.write outcome)] ∧
      .begun ticket (.write data) ∈ earlier := by
  cases left with
  | nothing => cases ended
  | move earlier moved =>
    cases moved with
    | ends =>
      cases ended
      exact ⟨_, _, rfl, begun_of_underway earlier rfl⟩
    | _ => cases ended

theorem underway_not_ended {ticket : Ticket} {data : Bytes} (left : Left record duty)
    (under : duty.writing = some (ticket, data)) : ticket ∉ (Tally.of record).ended := by
  obtain ⟨writes, -, once, -⟩ := left.to_balances
  rw [writes, under] at once
  exact fun member => (List.nodup_append.mp once).2.2 ticket member ticket (.head _) rfl

theorem begun_once {ticket : Ticket} {data other : Bytes} (left : Left record duty)
    (first : .begun ticket (.write data) ∈ record)
    (second : .begun ticket (.write other) ∈ record) : data = other := by
  obtain ⟨before, after, split⟩ := List.append_of_mem first
  obtain ⟨front, rest, also⟩ := List.append_of_mem second
  have same := split_once left.to_balances.once split also rfl rfl
  rw [split, same, List.append_cancel_left_eq] at also
  cases also
  rfl

theorem ended_once {ticket : Ticket} {outcome other : WriteOutcome}
    {before after front rest : List Deed} (left : Left record duty)
    (first : record = before ++ .ended ticket (.write outcome) :: after)
    (second : record = front ++ .ended ticket (.write other) :: rest) : before = front := by
  obtain ⟨writes, -, once, -⟩ := left.to_balances
  rw [writes] at once
  exact split_once (List.nodup_append.mp once).1 first second rfl rfl

theorem append_asides {deeds : List Deed} (left : Left record duty)
    (aside : ∀ deed ∈ deeds, deed.writes = false) :
    ∃ ended, Left (record ++ deeds) { duty with ended } := by
  induction deeds generalizing record duty with
  | nil =>
    rw [List.append_nil]
    exact ⟨duty.ended, left⟩
  | cons deed later ih =>
    rw [List.append_cons]
    have passed : Left (record ++ [deed]) { duty with ended := none } :=
      left.move (.aside (aside deed (.head _)))
    have rest := ih passed fun other member => aside other (.tail _ member)
    exact rest

end Left

end Duty

variable {World Reading Writing Closing : Type} {calls : StreamCalls World Reading Writing Closing}
  {bridge after : Bridge Reading Writing Closing} {world later : World}
  {record grown : List Deed} {bound : Ticket}

open Duty (Left Move)

def duty (bridge : Bridge Reading Writing Closing) (ended : Option (Bytes × WriteOutcome))
    (next : Ticket) : Duty where
  writing := bridge.writing.map fun call => (call.ticket, call.request)
  failure := bridge.writeFailure
  ended
  next

/-- The record is one of moves, and they leave what the writing side holds. New writes may have
tickets from the bound on. -/
structure Tended (bridge : Bridge Reading Writing Closing) (record : List Deed) (bound : Ticket) :
    Prop where
  order : bridge.InOrder
  left : ∃ ended next, next ≤ bound ∧ Left record (bridge.duty ended next)

theorem Tended.mono {higher : Ticket} (tended : Tended bridge record bound)
    (below : bound ≤ higher) : Tended bridge record higher := by
  obtain ⟨order, ended, next, small, left⟩ := tended
  exact ⟨order, ended, next, Nat.le_trans small below, left⟩

theorem Tended.to_balances (tended : Tended bridge record bound) :
    ∃ next, next ≤ bound ∧ Duty.Balances (.of record) (bridge.duty none next) := by
  obtain ⟨-, ended, next, small, left⟩ := tended
  obtain ⟨writes, failures, once, older⟩ := left.to_balances
  exact ⟨next, small, writes, failures, once, older⟩

theorem Tended.bound_not_ended (tended : Tended bridge record bound) : bound ∉
    (Tally.of record).ended := by
  obtain ⟨next, small, writes, -, -, older⟩ := tended.to_balances
  intro member
  have begun : bound ∈ (Tally.of record).begun := by
    rw [writes]
    exact List.mem_append_left _ member
  exact Nat.lt_irrefl _ (Nat.lt_of_lt_of_le (older bound begun) small)

theorem Tended.after_answer {deed : Deed} (tended : Tended bridge record bound)
    (order : after.InOrder)
    (moved : ∀ ended next, Move (bridge.duty ended next) deed (after.duty none next)) :
    Tended after (record ++ [deed]) bound := by
  obtain ⟨-, ended, next, small, left⟩ := tended
  exact ⟨order, none, next, small, left.move (moved ended next)⟩

theorem Tended.append_asides {deeds : List Deed} (tended : Tended bridge record bound)
    (apart : Apart bridge after) (aside : ∀ deed ∈ deeds, deed.writes = false) :
    Tended after (record ++ deeds) bound := by
  obtain ⟨order, ended, next, small, left⟩ := tended
  obtain ⟨last, grown⟩ := left.append_asides aside
  refine ⟨apart.inOrder order, last, next, small, ?_⟩
  rwa [duty, apart.writing, apart.writeFailure]

theorem Tended.record_after_poll (tended : Tended bridge record bound)
    {call : InFlight Bytes Writing}
    (under : bridge.writing = some call) {progress : Progress Writing WriteOutcome}
    (polled : (calls.recorded.write call.request).poll call.ticket call.stage (world, record) =
      ((later, grown), progress)) :
    grown = record ++ (progress.answer?.map fun outcome =>
      Deed.ended call.ticket (.write outcome)).toList := by
  have added := StreamCalls.noted_adds polled
  rw [added, Deed.ofPoll, if_pos (tended.order.resumes call under), List.nil_append]
  cases progress <;> rfl

theorem Tended.left_of_writing (tended : Tended bridge record bound) {call : InFlight Bytes Writing}
    (under : bridge.writing = some call) :
    ∃ ended next, next ≤ bound ∧
      Left record ⟨some (call.ticket, call.request), none, ended, next⟩ := by
  have clean := tended.order.clean call under
  obtain ⟨-, ended, next, small, left⟩ := tended
  rw [duty, under, clean] at left
  exact ⟨ended, next, small, left⟩

theorem Settles.tended {free : Bool}
    (settles : Settles calls.recorded bridge (world, record) after (later, grown) free)
    (tended : Tended bridge record bound) : Tended after grown bound := by
  have order := settles.inOrder tended.order
  cases settles with
  | idles idle => exact tended
  | waits under polled =>
    have same : grown = record := by
      simpa [Progress.answer?] using tended.record_after_poll under polled
    have clean := tended.order.clean _ under
    obtain ⟨ended, next, small, left⟩ := tended.left_of_writing under
    refine ⟨order, ended, next, small, ?_⟩
    rw [same, duty, clean]
    exact left
  | @ends call _ outcome under polled =>
    have added : grown = record ++ [.ended call.ticket (.write outcome)] :=
      tended.record_after_poll under polled
    obtain ⟨ended, next, small, left⟩ := tended.left_of_writing under
    rw [added]
    exact ⟨order, _, next, small, left.move .ends⟩

theorem MakesWay.tended {data : Bytes}
    (way : MakesWay calls.recorded data bridge (world, record) after (later, grown))
    (tended : Tended bridge record bound) : Tended after grown bound := by
  cases way with
  | same own => exact tended
  | settles other settled => exact settled.tended tended

theorem Tended.asked_begun {ticket : Ticket} (tended : Tended bridge record ticket)
    (clean : bridge.writeFailure = none) {data : Bytes} {call : InFlight Bytes Writing}
    (asks : call = bridge.writing.getD { ticket, request := data }) :
    ∃ ended next, next ≤ ticket + 1 ∧
      Left (record ++ if call.stage.isSome then [] else [.begun call.ticket (.write call.request)])
        ⟨some (call.ticket, call.request), none, ended, next⟩ := by
  obtain ⟨order, ended, next, small, left⟩ := tended
  cases under : bridge.writing with
  | none =>
    rw [under] at asks
    subst asks
    rw [duty, under, clean] at left
    exact ⟨none, ticket + 1, Nat.le_refl _, left.move (.begins small)⟩
  | some going =>
    rw [under] at asks
    subst asks
    rw [duty, under, clean] at left
    rw [if_pos (order.resumes call under), List.append_nil]
    exact ⟨ended, next, Nat.le_succ_of_le small, left⟩

theorem WritePoll.tended {ticket : Ticket} {data : Bytes} {polled : Polled Nat}
    (polls : WritePoll calls.recorded ticket data bridge (world, record) after (later, grown)
      polled) (tended : Tended bridge record ticket) :
    Tended after (grown ++ [.answered (.write data) (.of .count polled)]) (ticket + 1) := by
  have order := polls.inOrder tended.order
  cases polls with
  | blocked other settled =>
    exact ((settled.tended tended).after_answer order fun _ _ => .waits).mono (Nat.le_succ _)
  | @reports free _ failure way idle kept =>
    refine ((way.tended tended).after_answer order fun ended next => ?_).mono (Nat.le_succ _)
    rw [duty, duty, idle, kept]
    exact .reports rfl
  | @waits free middle _ call stage way clean asks polled =>
    obtain ⟨world, between⟩ := middle
    obtain ⟨ended, next, small, left⟩ := (way.tended tended).asked_begun clean asks
    have added := StreamCalls.noted_adds polled
    rw [added]
    refine ⟨order, none, next, small, ?_⟩
    rw [duty, clean]
    simpa [Deed.ofPoll, Progress.answer?, Answer.of] using left.move .waits
  | @ends free middle _ call outcome way clean asks polled =>
    obtain ⟨world, between⟩ := middle
    obtain ⟨ended, next, small, left⟩ := (way.tended tended).asked_begun clean asks
    have past := left.move (@Move.ends _ _ _ outcome _)
    have own := way.request_of_asked asks
    have added := StreamCalls.noted_adds polled
    have whole : grown =
        between ++ (if call.stage.isSome then [] else [.begun call.ticket (.write call.request)]) ++
          [.ended call.ticket (.write outcome)] := by
      rw [added, Deed.ofPoll, List.append_assoc]
      rfl
    rw [whole]
    rw [own] at past ⊢
    refine ⟨order, none, next, small, ?_⟩
    -- It ends and is told of in one poll.
    cases told : outcome.told with
    | ok count =>
      rw [duty, (WriteOutcome.told_ok told).2]
      exact past.move (.counts told)
    | error failure =>
      obtain ⟨failed, behind⟩ := WriteOutcome.told_error told
      rw [failed] at past
      rw [duty, behind]
      exact past.move (.reports (by rfl))

theorem WritePoll.begun_unchanged {ticket : Ticket} {data : Bytes} {polled : Polled Nat}
    (polls : WritePoll calls.recorded ticket data bridge (world, record) after (later, grown)
      polled) (tended : Tended bridge record bound) {call : InFlight Bytes Writing}
    (under : bridge.writing = some call) (same : call.request = data) :
    (Tally.of grown).begun = (Tally.of record).begun := by
  cases polls with
  | blocked other settled => exact absurd same (other call under)
  | reports way idle kept =>
    obtain ⟨rfl, rest⟩ := way.unchanged_of_same under same
    rw [idle] at under
    cases under
  | @waits free middle _ asked stage way clean asks polled =>
    obtain ⟨rfl, rfl⟩ := way.unchanged_of_same under same
    rw [under] at asks
    subst asks
    rw [tended.record_after_poll under polled]
    simp [Progress.answer?]
  | @ends free middle _ asked outcome way clean asks polled =>
    obtain ⟨rfl, rfl⟩ := way.unchanged_of_same under same
    rw [under] at asks
    subst asks
    rw [tended.record_after_poll under polled]
    simp [Progress.answer?, Tally.of_snoc, Deed.begins]

theorem FlushPoll.tended {polled : Polled Unit}
    (polls : FlushPoll calls.recorded bridge (world, record) after (later, grown) polled)
    (tended : Tended bridge record bound) :
    Tended after (grown ++ [.answered .flush (.of (fun () => .done) polled)]) bound := by
  have order := polls.inOrder tended.order
  cases polls with
  | blocked settled => exact (settled.tended tended).after_answer order fun _ _ => .waits
  | reports settled kept =>
    refine (settled.tended tended).after_answer order fun ended next => ?_
    rw [duty, duty, settled.idle_of_free, kept]
    exact .reports (by rfl)
  | flushes settled clean =>
    refine (settled.tended tended).after_answer order fun ended next => ?_
    rw [duty, duty, settled.idle_of_free, clean]
    exact .flushes

theorem ShutdownPoll.tended {polled : Polled Unit}
    (polls : ShutdownPoll calls.recorded bridge (world, record) after (later, grown) polled)
    (tended : Tended bridge record bound) :
    Tended after (grown ++ [.answered .shutdown (.of (fun () => .done) polled)]) bound := by
  have order := polls.inOrder tended.order
  cases polls with
  | blocked settled => exact (settled.tended tended).after_answer order fun _ _ => .waits
  | @waits free middle _ call stage settled polled =>
    obtain ⟨world, between⟩ := middle
    have aside : ∀ deed ∈ Deed.ofPoll call.ticket .close call.stage.isSome none,
        deed.writes = false := Deed.ofPoll_aside nofun nofun
    have closing : Tended { free with closing := some { call with stage := some stage } } _ bound :=
      (settled.tended tended).append_asides ⟨rfl, rfl, rfl⟩ aside
    rw [StreamCalls.noted_adds polled]
    exact closing.after_answer order fun _ _ => .waits
  | @closes free middle _ call outcome settled polled =>
    obtain ⟨world, between⟩ := middle
    have aside : ∀ deed ∈ Deed.ofPoll call.ticket .close call.stage.isSome
        (some (.close outcome)), deed.writes = false := Deed.ofPoll_aside nofun nofun
    have closing : Tended { free with closing := none } _ bound :=
      (settled.tended tended).append_asides ⟨rfl, rfl, rfl⟩ aside
    rw [StreamCalls.noted_adds polled]
    refine closing.after_answer order fun ended next => ?_
    rw [duty, duty, settled.idle_of_free]
    exact .shuts

theorem ReadPoll.tended {ticket : Ticket} {room : Nat} {polled : Polled Bytes}
    (polls : ReadPoll calls.recorded ticket room bridge (world, record) after (later, grown) polled)
    (tended : Tended bridge record bound) :
    Tended after (grown ++ [.answered (.read room) (.of .bytes polled)]) bound := by
  have apart := polls.apart
  have aside : ∃ deeds, grown = record ++ deeds ∧ ∀ deed ∈ deeds, deed.writes = false := by
    cases polls with
    | waits spent clean roomy asks polled =>
      exact ⟨_, StreamCalls.noted_adds polled, Deed.ofPoll_aside nofun nofun⟩
    | ends spent clean roomy asks polled =>
      exact ⟨_, StreamCalls.noted_adds polled, Deed.ofPoll_aside nofun nofun⟩
    | _ => exact ⟨[], (List.append_nil _).symm, List.forall_mem_nil _⟩
  obtain ⟨deeds, rfl, aside⟩ := aside
  have noted := tended.append_asides apart aside
  refine noted.after_answer (apart.inOrder tended.order) fun ended next => ?_
  rw [duty, duty, apart.writing, apart.writeFailure]
  exact Move.aside (by rcases polled with _ | _ | _ <;> rfl)

end Bridge

namespace Bridged

variable {World Reading Writing Closing : Type}

open Bridge (Tended)

theorem tended_step {calls : StreamCalls World Reading Writing Closing}
    {bridged : Bridged World Reading Writing Closing}
    (tended : Tended bridged.bridge bridged.record bridged.next) (action : Action World) :
    Tended (bridged.step calls action).bridge (bridged.step calls action).record
      (bridged.step calls action).next := by
  cases action with
  | change become => exact tended
  | poll request =>
    cases request with
    | read room =>
      exact ((bridged.bridge.pollRead_polls calls.recorded bridged.next room
        (bridged.world, bridged.record)).tended tended).mono (Nat.le_succ _)
    | write data =>
      exact (Bridge.pollWrite_polls calls.recorded bridged.next data tended.order
        (bridged.world, bridged.record)).tended tended
    | flush =>
      exact ((Bridge.pollFlush_polls calls.recorded tended.order
        (bridged.world, bridged.record)).tended tended).mono (Nat.le_succ _)
    | shutdown =>
      exact ((Bridge.pollShutdown_polls calls.recorded bridged.next tended.order
        (bridged.world, bridged.record)).tended tended).mono (Nat.le_succ _)

theorem start_tended (first : Ticket) :
    Tended ({} : Bridge Reading Writing Closing) [] first :=
  ⟨⟨rfl, nofun, nofun⟩, none, 0, Nat.zero_le _, .nothing⟩

theorem run_tended (calls : StreamCalls World Reading Writing Closing) (world : World)
    (first : Ticket) (actions : List (Action World)) :
    let bridged := Bridged.run calls { world, next := first } actions
    Tended bridged.bridge bridged.record bridged.next :=
  run_keeps calls (fun bridged => Tended bridged.bridge bridged.record bridged.next)
    (fun _ action tended => tended_step tended action) _ _ (start_tended first)

theorem held_until_reported {calls : StreamCalls World Reading Writing Closing}
    {bridged : Bridged World Reading Writing Closing} (order : bridged.bridge.InOrder)
    {failure : Failure} (held : bridged.bridge.writeFailure = some failure)
    (action : Action World) :
    (bridged.step calls action).bridge.writeFailure = some failure ∨
      ∃ request, request.reports = true ∧ action = .poll request ∧
        (bridged.step calls action).bridge.writeFailure = none ∧
        (bridged.step calls action).record =
          bridged.record ++ [.answered request (.failed failure)] := by
  cases action with
  | change become => exact .inl held
  | poll request =>
    cases request with
    | read room =>
      have polls := bridged.bridge.pollRead_polls calls.recorded bridged.next room
        (bridged.world, bridged.record)
      exact .inl (polls.apart.writeFailure.trans held)
    | write data =>
      obtain ⟨clear, same, answer⟩ := (Bridge.pollWrite_polls calls.recorded bridged.next data
        order (bridged.world, bridged.record)).reports_held order held
      refine .inr ⟨.write data, rfl, rfl, clear, ?_⟩
      simp only [step, poll, Prod.map, id, same, answer, Bridge.Answer.of]
    | flush =>
      obtain ⟨clear, same, answer⟩ := (Bridge.pollFlush_polls calls.recorded order
        (bridged.world, bridged.record)).reports_held order held
      refine .inr ⟨.flush, rfl, rfl, clear, ?_⟩
      simp only [step, poll, Prod.map, id, same, answer, Bridge.Answer.of]
    | shutdown =>
      exact .inl ((Bridge.pollShutdown_polls calls.recorded bridged.next order
        (bridged.world, bridged.record)).goes_on_holding order held)

/-- Failures of writes surface exactly once. However a bridge is polled, whatever its writes come to
and whatever becomes of the world meanwhile: the failures reported, followed by the one still held,
are those its writes have ended with, in their order; a write is begun only when every failure
before it has been reported; and a failure held stays held until a poll for a write or a flush
reports it. -/
theorem write_failures_surface_once (calls : StreamCalls World Reading Writing Closing)
    (world : World) (actions : List (Action World)) :
    let bridged := Bridged.run calls { world } actions
    let tally := Bridge.Tally.of bridged.record
    tally.reported ++ bridged.bridge.writeFailure.toList = tally.failed ∧
      (∀ before ticket data after,
        bridged.record = before ++ .begun ticket (.write data) :: after →
        (Bridge.Tally.of before).reported = (Bridge.Tally.of before).failed) ∧
      ∀ failure action, bridged.bridge.writeFailure = some failure →
        (bridged.step calls action).bridge.writeFailure = some failure ∨
          ∃ request, request.reports = true ∧ action = .poll request ∧
            (bridged.step calls action).bridge.writeFailure = none ∧
            (bridged.step calls action).record =
              bridged.record ++ [.answered request (.failed failure)] := by
  intro bridged tally
  have tended := run_tended calls world 0 actions
  obtain ⟨order, ended, next, small, left⟩ := tended
  refine ⟨left.to_balances.failures, ?_, ?_⟩
  · intro before ticket data after split
    obtain ⟨was, become, earlier, moved⟩ := left.at_deed split
    have failures := (Bridge.Duty.Left.to_balances earlier).failures
    -- The one move that begins a write is made with no failure held.
    cases moved with
    | begins fresh => simpa using failures
    | aside aside => cases aside
  · intro failure action held
    exact held_until_reported order held action

/-- A write of six bytes takes three and fails. The failure is held back by the count and by a
shutdown, and the next two flushes report it and nothing. -/
example :
    let calls := Stream.calls (Scripted.transport { writeLimit := some 3 })
    let polls : List (Action (Stream Scripted.signature)) :=
      [.poll (.write [1, 2, 3, 4, 5, 6]), .poll .shutdown, .poll .flush, .poll .flush]
    let bridged := Bridged.run calls
      { world := { state := .new {}, world := { inbound := [] } } } polls
    (Bridge.Tally.of bridged.record).reported = [.bare .writeZero] ∧
      bridged.bridge.writeFailure = none := by
  decide +kernel

theorem of_done {polled : Polled Unit} (done : Bridge.Answer.of (fun () => .done) polled = .done) :
    polled = some (.ok ()) := by
  rcases polled with _ | failure | nothing
  · cases done
  · cases done
  · rfl

/-- A flush of a bridge without a write in flight reports the failure held, or succeeds where none
is. -/
theorem flush_answers (calls : StreamCalls World Reading Writing Closing)
    {bridged : Bridged World Reading Writing Closing} (order : bridged.bridge.InOrder)
    (idle : bridged.bridge.writing = none) :
    (bridged.poll calls .flush).2 =
      match bridged.bridge.writeFailure with
      | none => .done
      | some failure => .failed failure := by
  have polls := Bridge.pollFlush_polls calls.recorded order (bridged.world, bridged.record)
  cases held : bridged.bridge.writeFailure with
  | none => simp only [poll, Prod.map, polls.succeeds_of_clean idle held, Bridge.Answer.of]
  | some failure =>
    simp only [poll, Prod.map, (polls.reports_held order held).2.2, Bridge.Answer.of]

/-- A shutdown that succeeds leaves every write ended, and every failure of one reported except the
one it may leave held. So it has flushed exactly where none is held; where one is, a flush in its
place still reports that. -/
theorem shutdown_leaves_held_failure (calls : StreamCalls World Reading Writing Closing)
    (world : World) (actions : List (Action World))
    (done : ((Bridged.run calls { world } actions).poll calls .shutdown).2 = .done) :
    let bridged := (Bridged.run calls { world } actions).step calls (.poll .shutdown)
    let tally := Bridge.Tally.of bridged.record
    bridged.bridge.writing = none ∧ tally.begun = tally.ended ∧
      tally.reported ++ bridged.bridge.writeFailure.toList = tally.failed ∧
      (tally.reported = tally.failed ↔ (bridged.poll calls .flush).2 = .done) ∧
      ∀ failure, bridged.bridge.writeFailure = some failure →
        (bridged.poll calls .flush).2 = .failed failure := by
  intro bridged tally
  have before := run_tended calls world 0 actions
  have tended : Tended bridged.bridge bridged.record bridged.next := tended_step before _
  have idle : bridged.bridge.writing = none := by
    have polls := Bridge.pollShutdown_polls calls.recorded
      (Bridged.run calls { world } actions).next before.order
      ((Bridged.run calls { world } actions).world, (Bridged.run calls { world } actions).record)
    exact polls.idle_of_done (of_done done)
  obtain ⟨next, -, writes, failures, -, -⟩ := tended.to_balances
  have flush := flush_answers calls tended.order idle
  refine ⟨idle, ?_, failures, ?_, ?_⟩
  · simpa [Bridge.duty, idle] using writes
  · have owed : tally.reported ++ bridged.bridge.writeFailure.toList = tally.failed := failures
    rw [flush]
    cases held : bridged.bridge.writeFailure with
    | none =>
      rw [held] at owed
      simpa using owed
    | some failure =>
      rw [held] at owed
      simp [← owed]
  · intro failure held
    rw [flush, held]

/-- With every failure reported a shutdown has flushed: a partial write, the flush that reports its
failure, and the shutdown. -/
theorem shutdown_leaves_held_failure_flushed :
    let calls := Stream.calls (Scripted.transport { writeLimit := some 3 })
    let world : Stream Scripted.signature :=
      { state := .new {}, world := { inbound := [] } }
    let polls := [.poll (.write [97, 98, 99, 100, 101, 102]), .poll .flush]
    ((Bridged.run calls { world } polls).poll calls .shutdown).2 = .done ∧
      (((Bridged.run calls { world } polls).step calls (.poll .shutdown)).poll calls .flush).2 =
        .done := by
  intro calls world polls
  have done : ((Bridged.run calls { world } polls).poll calls .shutdown).2 = .done := by
    decide +kernel
  obtain ⟨-, -, -, flushed, -⟩ := shutdown_leaves_held_failure calls world polls done
  exact ⟨done, flushed.mp (by decide +kernel)⟩

/-- With a failure held it has not: a partial write, and the shutdown right behind it. -/
theorem shutdown_done_unreported :
    let calls := Stream.calls (Scripted.transport { writeLimit := some 3 })
    let world : Stream Scripted.signature :=
      { state := .new {}, world := { inbound := [] } }
    let bridged := Bridged.run calls { world } [.poll (.write [97, 98, 99, 100, 101, 102])]
    let shut := bridged.step calls (.poll .shutdown)
    (bridged.poll calls .shutdown).2 = .done ∧
      (Bridge.Tally.of shut.record).failed = [.bare .writeZero] ∧
      (Bridge.Tally.of shut.record).reported = [] ∧
      (shut.poll calls .flush).2 = .failed (.bare .writeZero) := by
  decide +kernel

end Bridged

end MessageStream
