import MessageStream.Proofs.Outbound.Outbox

/-!
The outbound side of a stream in use: its calls, the lines of its messages, which messages have been
finished, and what the connection has been given. A message not yet finished has a write first in
its line that will finish it, so whoever comes after finds it finished, and a message is finished by
one call only.
-/
namespace MessageStream

structure Work where
  number : Nat
  payload : Bytes
  tried : Bool

def WriteOutcome.payload (data : Bytes) : WriteOutcome → Bytes
  | .ok _ => data
  | .error .closed => []
  | .error (.transport count _) => data.take count

variable {S : Signature}

namespace WriteStage

def work (data : Bytes) : WriteStage S → Option Work
  | .start => none
  | .opening _ => none
  | .discarding number stage => some ⟨number, [], stage.isSome⟩
  | .queued number => some ⟨number, [], false⟩
  | .filling number written _ => some ⟨number, data.take written, false⟩
  | .finishing number written _ stage => some ⟨number, data.take written, stage.isSome⟩

/-- A write past its first look is not one to be skipped, and it counts the bytes it has moved
rightly: all of them, unless it is still filling or has failed. -/
def Fair (config : Configuration) (data : Bytes) : WriteStage S → Prop
  | .start => True
  | .filling _ written _ => config.skips data = false ∧ written < data.length
  | .finishing _ written failure _ =>
    config.skips data = false ∧ written ≤ data.length ∧ (failure = none → written = data.length)
  | _ => config.skips data = false

theorem work_place {data : Bytes} {stage : WriteStage S} {work : Work}
    (atWork : stage.work data = some work) : ∃ turn, stage.place = some (work.number, turn) := by
  cases stage <;> cases atWork <;> exact ⟨_, rfl⟩

end WriteStage

structure Post (S : Signature) where
  calls : List (Call S)
  lines : Nat → Line
  finished : List Bool
  outbox : Outbox

def Usage.post (usage : Usage S) : Post S.recorded where
  calls := usage.calls
  lines := lineOf usage.stream.state.writers
  finished := usage.stream.finished
  outbox := usage.stream.outbox

namespace Post

def writer (post : Post S) (ticket : Ticket) : Place := post.calls[ticket]?.bind Call.writer

/-- A message stands as the write at it takes it to stand: it has the bytes the write put into it
and has not been sent. -/
structure Holds (config : Configuration) (post : Post S) (work : Work) : Prop where
  tried : post.finished[work.number]? = some work.tried
  draft : post.outbox.drafts[work.number]? = some ⟨config.messageKind, work.payload⟩
  unsent : work.number ∉ post.outbox.sent.map Sent.number

theorem Holds.of_same_outbox {config : Configuration} {post other : Post S} {work : Work}
    (holds : post.Holds config work) (finished : other.finished = post.finished)
    (outbox : other.outbox = post.outbox) : other.Holds config work :=
  ⟨finished ▸ holds.tried, outbox ▸ holds.draft, outbox ▸ holds.unsent⟩

/-- What the stage or the answer of a call means for the messages. A close finds the message it took
finished. -/
def Means (config : Configuration) (post : Post S) (ticket : Ticket) : Call S → Prop
  | .write data (.waiting stage) =>
    stage.Fair config data ∧ ∀ number work, stage.place = some (number, true) →
      stage.work data = some work → post.Holds config work
  | .write data (.answered (.ok count)) =>
    config.skips data = false → count = data.length ∧ ∃ entry ∈ post.outbox.sent,
      entry.caller = ticket
  | .close (.waiting (.finishing number stage)) =>
    stage = none ∧ post.finished[number]? = some true
  | _ => True

theorem Means.of_same_outbox {config : Configuration} {post other : Post S} {ticket : Ticket}
    {call : Call S} (means : post.Means config ticket call)
    (finished : other.finished = post.finished) (outbox : other.outbox = post.outbox) :
    other.Means config ticket call := by
  cases call with
  | read room phase => trivial
  | write data phase =>
    cases phase with
    | waiting stage =>
      exact ⟨means.1, fun number work placed working =>
        (means.2 number work placed working).of_same_outbox finished outbox⟩
    | answered outcome =>
      cases outcome with
      | error source => trivial
      | ok count =>
        intro sent
        obtain ⟨whole, entry, member, caller⟩ := means sent
        exact ⟨whole, entry, outbox ▸ member, caller⟩
    | _ => trivial
  | close phase =>
    cases phase with
    | waiting stage =>
      cases stage with
      | finishing number stage => exact ⟨means.1, finished ▸ means.2⟩
      | _ => trivial
    | _ => trivial

structure Tends (config : Configuration) (post : Post S) (number : Nat) (ticket : Ticket)
    (call : Call S) : Prop where
  admitted : (post.lines number).admits ticket = true
  works : ∃ data stage work, call = .write data (.waiting stage) ∧ stage.work data = some work ∧
    work.number = number ∧ post.Holds config work

def Tells (config : Configuration) (post : Post S) (entry : Sent) : Prop :=
  ∃ data outcome, post.calls[entry.caller]? = some (.write data (.answered outcome)) ∧
    config.skips data = false ∧ entry.number < post.finished.length ∧
    entry.message = ⟨config.messageKind, WriteOutcome.payload data outcome⟩

structure Tidy (config : Configuration) (post : Post S) : Prop where
  means : ∀ (ticket : Ticket) (call : Call S), post.calls[ticket]? = some call →
    post.Means config ticket call
  tended : ∀ number, post.finished[number]? = some false →
    ∃ ticket call, post.calls[ticket]? = some call ∧ post.Tends config number ticket call
  told : ∀ entry ∈ post.outbox.sent, post.Tells config entry
  drafted : post.outbox.drafts.length = post.finished.length
  numbers : (post.outbox.sent.map Sent.number).Nodup
  callers : (post.outbox.sent.map Sent.caller).Nodup

theorem Tidy.after_begin {config : Configuration} {post : Post S} (tidy : post.Tidy config)
    (demand : Demand) :
    Tidy config { post with calls := post.calls ++ [.begin demand] } := by
  have before {other : Ticket} {call : Call S} (found : post.calls[other]? = some call) :
      (post.calls ++ [.begin demand])[other]? = some call := by
    rw [List.getElem?_append_left (List.getElem?_eq_some_iff.mp found).1]
    exact found
  refine ⟨?_, ?_, ?_, tidy.drafted, tidy.numbers, tidy.callers⟩
  · intro other call found
    by_cases new : other = post.calls.length
    · subst new
      have same : call = .begin demand := by simpa using found.symm
      subst same
      cases demand <;> trivial
    · have means := tidy.means other call ((push_elsewhere _ _ new).symm.trans found)
      exact means.of_same_outbox rfl rfl
  · intro number unfinished
    obtain ⟨other, call, found, admitted, data, stage, work, shape, working, here, holds⟩ :=
      tidy.tended number unfinished
    exact ⟨other, call, before found, admitted, data, stage, work, shape, working, here,
      holds.of_same_outbox rfl rfl⟩
  · intro entry member
    obtain ⟨data, outcome, found, rest⟩ := tidy.told entry member
    exact ⟨data, outcome, before found, rest⟩

/-- One call does something about one message and about no other. -/
structure Handles (post : Post S) (ticket : Ticket) (number : Nat) (call become : Call S)
    (entry : Option Sent) (after : Post S) : Prop where
  found : post.calls[ticket]? = some call
  calls : after.calls = post.calls.set ticket become
  lines : ∀ message other, other ≠ ticket → (post.lines message).admits other = true →
    (after.lines message).admits other = true
  away : ∀ message turn, call.writer = some (message, turn) → message = number
  alone : ∀ other, other ≠ ticket → post.writer other ≠ some (number, true)
  finished : ∀ message, message ≠ number → after.finished[message]? = post.finished[message]?
  drafts : ∀ message, message ≠ number →
    after.outbox.drafts[message]? = post.outbox.drafts[message]?
  drafted : after.outbox.drafts.length = after.finished.length
  grows : post.finished.length ≤ after.finished.length
  sent : after.outbox.sent = post.outbox.sent ++ entry.toList
  sender : ∀ sent, entry = some sent → sent.caller = ticket ∧ sent.number = number

namespace Handles

variable {config : Configuration} {post after : Post S} {ticket : Ticket} {number : Nat}
  {call become : Call S} {entry : Option Sent}
  (handles : Handles post ticket number call become entry after)
include handles

theorem ticket_lt : ticket < post.calls.length :=
  (List.getElem?_eq_some_iff.mp handles.found).1

theorem found_other {other : Ticket} (different : other ≠ ticket) :
    after.calls[other]? = post.calls[other]? := by
  rw [handles.calls, List.getElem?_set_ne (Ne.symm different)]

theorem found_self : after.calls[ticket]? = some become := by
  rw [handles.calls, List.getElem?_set_self handles.ticket_lt]

theorem holds_elsewhere {work : Work} (elsewhere : work.number ≠ number)
    (holds : post.Holds config work) : after.Holds config work := by
  constructor
  · rw [handles.finished _ elsewhere]
    exact holds.tried
  · rw [handles.drafts _ elsewhere]
    exact holds.draft
  · rw [handles.sent, List.map_append, List.mem_append]
    rintro (old | new)
    · exact holds.unsent old
    · obtain ⟨sent, member, same⟩ := List.mem_map.mp new
      have here := (handles.sender sent (Option.mem_toList.mp member)).2
      exact elsewhere (same.symm.trans here)

theorem means_other {other : Ticket} {standing : Call S} (different : other ≠ ticket)
    (there : post.calls[other]? = some standing) (means : post.Means config other standing) :
    after.Means config other standing := by
  have placed : post.writer other = standing.writer := by simp [writer, there]
  have apart := handles.alone other different
  rw [placed] at apart
  cases standing with
  | read room phase => trivial
  | write data phase =>
    cases phase with
    | waiting stage =>
      refine ⟨means.1, ?_⟩
      intro message work turn atWork
      obtain ⟨otherTurn, same⟩ := WriteStage.work_place atWork
      have here : message = work.number := by
        rw [turn] at same
        cases same
        rfl
      refine handles.holds_elsewhere ?_ (means.2 message work turn atWork)
      rintro rfl
      exact apart (here ▸ turn)
    | answered outcome =>
      cases outcome with
      | error source => trivial
      | ok count =>
        intro sent
        obtain ⟨whole, entry, member, caller⟩ := means sent
        exact ⟨whole, entry, handles.sent ▸ List.mem_append_left _ member, caller⟩
    | _ => trivial
  | close phase =>
    cases phase with
    | waiting stage =>
      cases stage with
      | finishing message stage =>
        refine ⟨means.1, ?_⟩
        rw [handles.finished message]
        · exact means.2
        · rintro rfl
          exact apart rfl
      | _ => trivial
    | _ => trivial

theorem tends_other {message : Nat} {other : Ticket} {standing : Call S}
    (different : other ≠ ticket) (elsewhere : message ≠ number)
    (tends : post.Tends config message other standing) :
    after.Tends config message other standing := by
  obtain ⟨admitted, data, stage, work, shape, atWork, here, holds⟩ := tends
  refine ⟨handles.lines message other different admitted, data, stage, work, shape, atWork, here,
    ?_⟩
  exact handles.holds_elsewhere (here ▸ elsewhere) holds

/-- A call that does its part about one message leaves the outbound side tidy. -/
theorem tidy_after (tidy : post.Tidy config) (means : after.Means config ticket become)
    (tends : after.finished[number]? = some false → after.Tends config number ticket become)
    (unanswered : ∀ data outcome, call ≠ .write data (.answered outcome))
    (unsent : entry.isSome → number ∉ post.outbox.sent.map Sent.number)
    (tells : ∀ sent, entry = some sent → after.Tells config sent) : after.Tidy config := by
  -- Whoever has sent has returned, so the call that moves has sent nothing yet.
  have unheard : ticket ∉ post.outbox.sent.map Sent.caller := by
    intro member
    obtain ⟨sent, there, rfl⟩ := List.mem_map.mp member
    obtain ⟨data, outcome, answered, -⟩ := tidy.told sent there
    rw [handles.found] at answered
    exact unanswered data outcome (Option.some.inj answered)
  constructor
  · intro other standing there
    by_cases same : other = ticket
    · subst same
      rw [handles.found_self] at there
      cases there
      exact means
    · rw [handles.found_other same] at there
      exact handles.means_other same there (tidy.means other standing there)
  · intro message unfinished
    by_cases here : message = number
    · subst here
      exact ⟨ticket, become, handles.found_self, tends unfinished⟩
    · rw [handles.finished message here] at unfinished
      obtain ⟨other, standing, there, tended⟩ := tidy.tended message unfinished
      by_cases same : other = ticket
      · subst same
        -- The call was at this message, and it is away from all but its own.
        obtain ⟨-, data, stage, work, rfl, atWork, rfl, -⟩ := tended
        obtain ⟨turn, placed⟩ := WriteStage.work_place atWork
        rw [handles.found] at there
        cases there
        exact absurd (handles.away work.number turn placed) here
      · exact ⟨other, standing, (handles.found_other same).trans there,
          handles.tends_other same here tended⟩
  · intro sent member
    rw [handles.sent] at member
    rcases List.mem_append.mp member with old | new
    · obtain ⟨data, outcome, answered, kept, inside, message⟩ := tidy.told sent old
      have other : sent.caller ≠ ticket := by
        intro same
        exact unheard (same ▸ List.mem_map_of_mem old)
      exact ⟨data, outcome, (handles.found_other other).trans answered, kept,
        Nat.lt_of_lt_of_le inside handles.grows, message⟩
    · exact tells sent (Option.mem_toList.mp new)
  · exact handles.drafted
  · rw [handles.sent]
    cases entry with
    | none => simpa using tidy.numbers
    | some sent =>
      have fresh := unsent rfl
      rw [← (handles.sender sent rfl).2] at fresh
      simpa using tidy.numbers.concat fresh
  · rw [handles.sent]
    cases entry with
    | none => simpa using tidy.callers
    | some sent =>
      rw [← (handles.sender sent rfl).1] at unheard
      simpa using tidy.callers.concat unheard

end Handles

theorem Handles.tidy_unsent {config : Configuration} {post after : Post S} {ticket : Ticket}
    {number : Nat} {call become : Call S}
    (handles : Handles post ticket number call become none after) (tidy : post.Tidy config)
    (means : after.Means config ticket become)
    (tends : after.finished[number]? = some false → after.Tends config number ticket become)
    (unanswered : ∀ data outcome, call ≠ .write data (.answered outcome)) : after.Tidy config :=
  handles.tidy_after tidy means tends unanswered nofun nofun

end Post

end MessageStream
