import Mathlib.Tactic.ByContra
import MessageStream.Proofs.Usage.Effect

/-!
The use of an outbound message, read off the record of its connection. At any moment nobody is at
the message, or one call writes to it, or one call finishes it, or its finish has been begun and is
over. A record that shows anything else has no such reading.
-/
namespace MessageStream

def Request.writer? : Request → Option Nat
  | .write writer _ => some writer
  | .finish writer => some writer
  | _ => none

def Traffic.finishes (writer : Nat) : Traffic → Bool
  | .begun _ (.finish number) => number == writer
  | _ => false

def Traffic.writes (writer : Nat) : Traffic → Bool
  | .begun _ (.write number _) => number == writer
  | _ => false

def Traffic.occupy (writer : Nat) (busy : List (Ticket × Request)) :
    Traffic → List (Ticket × Request)
  | .begun caller request =>
    if request.writer? = some writer then busy ++ [(caller, request)] else busy
  | .ended caller request _ | .cancelled caller request =>
    if request.writer? = some writer then busy.erase (caller, request) else busy

/-- The writes and finishes of a message that have been begun in a record and have neither ended nor
been cancelled, and whose they are. -/
def Traffic.underWay (writer : Nat) (traffic : List Traffic) : List (Ticket × Request) :=
  traffic.foldl (occupy writer) []

/-- How an outbound message is in use. One whose finish is over is finished, whatever came of it. -/
inductive Use where
  | idle
  | writing (caller : Ticket) (data : Bytes)
  | finishing (caller : Ticket)
  | finished
  deriving DecidableEq, Repr

namespace Use

def pending (writer : Nat) : Use → Option (Ticket × Request)
  | writing caller data => some (caller, .write writer data)
  | finishing caller => some (caller, .finish writer)
  | _ => none

def isFinished : Use → Bool
  | finishing _ => true
  | finished => true
  | _ => false

def taken (caller : Ticket) : Request → Use
  | .write _ data => writing caller data
  | _ => finishing caller

def left : Use → Use
  | writing _ _ => idle
  | finishing _ => finished
  | use => use

/-- The use of a message after one more entry of the record. There is none where a call is begun on
a message that is not idle, or where one comes to an end that was not under way. -/
def next (writer : Nat) (use : Use) : Traffic → Option Use
  | .begun caller request =>
    if request.writer? = some writer then
      if use = idle then some (taken caller request) else none
    else some use
  | .ended caller request _ | .cancelled caller request =>
    if request.writer? = some writer then
      if use.pending writer = some (caller, request) then some use.left else none
    else some use

def follow (writer : Nat) (use : Use) (traffic : List Traffic) : Option Use :=
  traffic.foldlM (next writer) use

variable {writer : Nat}

theorem follow_cons (use : Use) (entry : Traffic) (rest : List Traffic) :
    use.follow writer (entry :: rest) = (use.next writer entry).bind (follow writer · rest) :=
  List.foldlM_cons

theorem follow_append (use : Use) (before after : List Traffic) :
    use.follow writer (before ++ after) =
      (use.follow writer before).bind (follow writer · after) :=
  List.foldlM_append

theorem follow_elsewhere (use : Use) (entries : List Traffic)
    (elsewhere : ∀ entry ∈ entries, entry.request.writer? ≠ some writer) :
    use.follow writer entries = some use := by
  induction entries with
  | nil => rfl
  | cons entry rest ih =>
    have away := elsewhere entry (.head _)
    have same : use.next writer entry = some use := by
      cases entry <;> simp_all [next, Traffic.request]
    rw [follow_cons, same]
    exact ih fun later member => elsewhere later (.tail _ member)

theorem taken_pending (caller : Ticket) {request : Request} (on : request.writer? = some writer) :
    (taken caller request).pending writer = some (caller, request) := by
  cases request <;> simp_all [Request.writer?, taken, pending]

theorem taken_isFinished (caller : Ticket) {request : Request}
    (on : request.writer? = some writer) :
    (taken caller request).isFinished = (request == .finish writer) := by
  cases request <;> simp_all [Request.writer?, taken, isFinished]

theorem left_pending (use : Use) : use.left.pending writer = none := by
  cases use <;> rfl

theorem left_isFinished (use : Use) : use.left.isFinished = use.isFinished := by
  cases use <;> rfl

theorem pending_isFinished {use : Use} {caller : Ticket} {request : Request}
    (busy : use.pending writer = some (caller, request)) :
    use.isFinished = (request == .finish writer) := by
  cases use <;> cases busy <;> simp [isFinished]

theorem idle_of (writer : Nat) {use : Use} (unfinished : use.isFinished = false)
    (free : ∀ caller request, use.pending writer ≠ some (caller, request)) : use = idle := by
  cases use with
  | idle => rfl
  | writing caller data => exact absurd rfl (free caller _)
  | finishing caller => cases unfinished
  | finished => cases unfinished

theorem over_of (writer : Nat) {use : Use} (done : use.isFinished = true)
    (free : ∀ caller request, use.pending writer ≠ some (caller, request)) : use = finished := by
  cases use with
  | idle => cases done
  | writing caller data => cases done
  | finishing caller => exact absurd rfl (free caller _)
  | finished => rfl

/-- One poll of a call on the message: begun, it needs the message idle; resumed, it must be under
way. -/
theorem follow_poll (use : Use) (caller : Ticket) {request : Request}
    (on : request.writer? = some writer) (resumed : Bool) (reply : Option Reply)
    (admitted : if resumed then use.pending writer = some (caller, request) else use = idle) :
    ∃ later, use.follow writer (Traffic.ofPoll caller request resumed reply) = some later ∧
      later.pending writer = (if reply.isSome then none else some (caller, request)) ∧
      later.isFinished = (request == .finish writer) := by
  -- The call is under way once its beginning has been read, whether that is in this poll or not.
  obtain ⟨under, begun, busy⟩ : ∃ under : Use,
      use.follow writer (if resumed then [] else [.begun caller request]) = some under ∧
      under.pending writer = some (caller, request) := by
    cases resumed with
    | true => exact ⟨use, rfl, admitted⟩
    | false =>
      have free : use = idle := admitted
      refine ⟨taken caller request, ?_, taken_pending caller on⟩
      simp [follow, next, on, free]
  have done := pending_isFinished busy
  rw [Traffic.ofPoll, follow_append, begun]
  cases reply with
  | none => exact ⟨under, rfl, busy, done⟩
  | some reply =>
    refine ⟨under.left, ?_, left_pending under, (left_isFinished under).trans done⟩
    simp [follow, next, on, busy]

theorem follow_cancelled (use : Use) (caller : Ticket) {request : Request}
    (on : request.writer? = some writer) (busy : use.pending writer = some (caller, request)) :
    use.follow writer [.cancelled caller request] = some use.left := by
  simp [follow, next, on, busy]

/-- Everything that one entry can say of a message. -/
theorem next_cases {use later : Use} {entry : Traffic}
    (goes : use.next writer entry = some later) :
    (entry.request.writer? ≠ some writer ∧ later = use) ∨
    (∃ caller request, entry = .begun caller request ∧ request.writer? = some writer ∧
      use = idle ∧ later = taken caller request) ∨
    (∃ caller request, ((∃ reply, entry = .ended caller request reply) ∨
        entry = .cancelled caller request) ∧ request.writer? = some writer ∧
      use.pending writer = some (caller, request) ∧ later = use.left) := by
  by_cases on : entry.request.writer? = some writer
  · right
    cases entry with
    | begun caller request =>
      replace on : request.writer? = some writer := on
      obtain ⟨free, same⟩ : use = idle ∧ taken caller request = later := by
        simpa [next, on] using goes
      exact .inl ⟨caller, request, rfl, on, free, same.symm⟩
    | ended caller request reply =>
      replace on : request.writer? = some writer := on
      obtain ⟨busy, same⟩ : use.pending writer = some (caller, request) ∧ use.left = later := by
        simpa [next, on] using goes
      exact .inr ⟨caller, request, .inl ⟨reply, rfl⟩, on, busy, same.symm⟩
    | cancelled caller request =>
      replace on : request.writer? = some writer := on
      obtain ⟨busy, same⟩ : use.pending writer = some (caller, request) ∧ use.left = later := by
        simpa [next, on] using goes
      exact .inr ⟨caller, request, .inr rfl, on, busy, same.symm⟩
  · left
    refine ⟨on, ?_⟩
    cases entry <;> simp_all [next, Traffic.request]

theorem begins_on {entry : Traffic}
    (begins : entry.finishes writer = true ∨ entry.writes writer = true) :
    entry.request.writer? = some writer ∧ ∃ caller request, entry = .begun caller request := by
  cases entry with
  | begun caller request =>
    cases request <;>
      simp_all [Traffic.finishes, Traffic.writes, Traffic.request, Request.writer?]
  | ended caller request reply => simp [Traffic.finishes, Traffic.writes] at begins
  | cancelled caller request => simp [Traffic.finishes, Traffic.writes] at begins

theorem next_begins {use later : Use} {entry : Traffic}
    (goes : use.next writer entry = some later)
    (begins : entry.finishes writer = true ∨ entry.writes writer = true) : use = idle := by
  obtain ⟨on, caller, request, rfl⟩ := begins_on begins
  rcases next_cases goes with ⟨away, -⟩ | ⟨_, _, -, -, free, -⟩ | ⟨_, _, ended, -⟩
  · exact absurd on away
  · exact free
  · rcases ended with ⟨reply, ended⟩ | ended <;> cases ended

theorem next_isFinished {use later : Use} {entry : Traffic}
    (goes : use.next writer entry = some later) :
    later.isFinished = (use.isFinished || entry.finishes writer) := by
  rcases next_cases goes with ⟨away, rfl⟩ | ⟨caller, request, rfl, on, rfl, rfl⟩ |
    ⟨caller, request, ended, -, -, rfl⟩
  · have unbegun : entry.finishes writer = false := by
      by_contra begins
      exact away (begins_on (.inl (by simpa using begins))).1
    rw [unbegun, Bool.or_false]
  · rw [taken_isFinished caller on]
    cases request <;> simp_all [Request.writer?, Traffic.finishes, isFinished]
  · rw [left_isFinished]
    rcases ended with ⟨reply, rfl⟩ | rfl <;> simp [Traffic.finishes]

theorem next_underWay {use later : Use} {entry : Traffic}
    (goes : use.next writer entry = some later) :
    Traffic.occupy writer (use.pending writer).toList entry = (later.pending writer).toList := by
  rcases next_cases goes with ⟨away, rfl⟩ | ⟨caller, request, rfl, on, rfl, rfl⟩ |
    ⟨caller, request, ended, on, busy, rfl⟩
  · cases entry <;> simp_all [Traffic.occupy, Traffic.request]
  · rw [taken_pending caller on]
    simp [Traffic.occupy, on, pending]
  · rw [busy, left_pending]
    rcases ended with ⟨reply, rfl⟩ | rfl <;> simp [Traffic.occupy, on]

theorem follow_over {later : Use} {traffic : List Traffic}
    (read : finished.follow writer traffic = some later) : later = finished := by
  induction traffic with
  | nil =>
    cases read
    rfl
  | cons first rest ih =>
    rw [follow_cons] at read
    obtain ⟨middle, goes, read⟩ := Option.bind_eq_some_iff.mp read
    have stays : middle = finished := by
      rcases next_cases goes with ⟨-, same⟩ | ⟨_, _, -, -, free, -⟩ | ⟨_, _, -, -, busy, -⟩
      · exact same
      · cases free
      · cases busy
    exact ih (stays ▸ read)

theorem follow_finished {use later : Use} {traffic : List Traffic}
    (read : use.follow writer traffic = some later) (done : use.isFinished = true) :
    ∀ entry ∈ traffic, entry.finishes writer = false ∧ entry.writes writer = false := by
  induction traffic generalizing use with
  | nil => exact List.forall_mem_nil _
  | cons first rest ih =>
    rw [follow_cons] at read
    obtain ⟨middle, goes, read⟩ := Option.bind_eq_some_iff.mp read
    have unbegun : ¬(first.finishes writer = true ∨ first.writes writer = true) := by
      intro begins
      rw [next_begins goes begins] at done
      cases done
    intro entry member
    cases member with
    | head => simpa using unbegun
    | tail _ member =>
      refine ih read ?_ entry member
      rw [next_isFinished goes, done, Bool.true_or]

theorem follow_finishes {use later : Use} {traffic : List Traffic}
    (read : use.follow writer traffic = some later) :
    use.isFinished.toNat + traffic.countP (Traffic.finishes writer) = later.isFinished.toNat := by
  induction traffic generalizing use with
  | nil =>
    cases read
    rfl
  | cons first rest ih =>
    rw [follow_cons] at read
    obtain ⟨middle, goes, read⟩ := Option.bind_eq_some_iff.mp read
    have later := ih read
    rw [next_isFinished goes] at later
    rw [List.countP_cons, ← later]
    cases begins : first.finishes writer with
    | false => simp
    | true =>
      rw [next_begins goes (.inl begins)]
      simp [isFinished, Nat.add_comm]

theorem follow_underWay {use later : Use} {traffic : List Traffic}
    (read : use.follow writer traffic = some later) :
    traffic.foldl (Traffic.occupy writer) (use.pending writer).toList =
      (later.pending writer).toList := by
  induction traffic generalizing use with
  | nil =>
    cases read
    rfl
  | cons first rest ih =>
    rw [follow_cons] at read
    obtain ⟨middle, goes, read⟩ := Option.bind_eq_some_iff.mp read
    rw [List.foldl_cons, next_underWay goes]
    exact ih read

/-- What a record that can be read says of a message: its finish is begun at most once, after which
no write is begun, and there is never more than one call on it under way. -/
theorem follow_proper {later : Use} {traffic : List Traffic}
    (read : idle.follow writer traffic = some later) :
    traffic.countP (Traffic.finishes writer) ≤ 1 ∧
    ∀ before after, traffic = before ++ after →
      (before.any (Traffic.finishes writer) = true →
        ∀ entry ∈ after, entry.writes writer = false) ∧
      (Traffic.underWay writer before).length ≤ 1 := by
  constructor
  · have once := follow_finishes read
    have atMost := later.isFinished.toNat_le
    simp only [isFinished, Bool.toNat_false, Nat.zero_add] at once
    exact once ▸ atMost
  · rintro before after rfl
    rw [follow_append] at read
    obtain ⟨middle, early, late⟩ := Option.bind_eq_some_iff.mp read
    constructor
    · intro begun entry member
      have done : middle.isFinished = true := by
        have counted := follow_finishes early
        have positive := List.countP_pos_iff.mpr (List.any_eq_true.mp begun)
        cases same : middle.isFinished with
        | true => rfl
        | false =>
          rw [same] at counted
          simp only [isFinished, Bool.toNat_false] at counted
          omega
      exact (follow_finished late done entry member).2
    · have under : Traffic.underWay writer before = (middle.pending writer).toList :=
        follow_underWay early
      rw [under]
      cases middle.pending writer <;> simp

end Use

end MessageStream
