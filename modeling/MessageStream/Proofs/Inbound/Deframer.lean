import MessageStream.Stream.Read

/-!
The de-framer: what reads make of a succession of messages. A message is a tape of bytes, with a
failure wherever its reader fails. A read passes over whatever has ended and copies from the first
message that has not, until its room is used up, the message ends or a failure comes; the next read
goes on where this one stopped. No byte is lost and none is made up: what has been read and what is
left are together what there was.
-/
namespace MessageStream

/-- What a reader does up to the end of its message: one byte or failure after the other. -/
abbrev Tape := List (Except Failure UInt8)

namespace Tape

def ofBytes (bytes : Bytes) : Tape := bytes.map .ok

def bytes (tape : Tape) : Bytes := tape.filterMap Except.toOption

/-- Copies from the front of a tape, after what has been copied already, until the room is used up,
the tape ends or a failure comes. -/
def fill : Nat → Bytes → Tape → ReadOutcome × Tape
  | 0, copied, tape => (.filled copied, tape)
  | _ + 1, copied, [] => (.filled copied, [])
  | room + 1, copied, .ok byte :: tape => fill room (copied ++ [byte]) tape
  | _ + 1, copied, .error source :: tape => (.broken copied source, tape)

@[simp] theorem bytes_nil : bytes [] = [] := rfl

@[simp] theorem bytes_ok (byte : UInt8) (tape : Tape) :
    bytes (.ok byte :: tape) = byte :: bytes tape := rfl

@[simp] theorem bytes_error (source : Failure) (tape : Tape) :
    bytes (.error source :: tape) = bytes tape := rfl

@[simp] theorem bytes_append (first second : Tape) :
    bytes (first ++ second) = bytes first ++ bytes second := List.filterMap_append

@[simp] theorem bytes_ofBytes (data : Bytes) : bytes (ofBytes data) = data := by
  induction data with
  | nil => rfl
  | cons byte rest ih => exact congrArg (byte :: ·) ih

@[simp] theorem ofBytes_append (first second : Bytes) :
    ofBytes (first ++ second) = ofBytes first ++ ofBytes second := List.map_append

theorem ofBytes_bytes {tape : Tape} (unfailing : ∀ source, .error source ∉ tape) :
    ofBytes (bytes tape) = tape := by
  induction tape with
  | nil => rfl
  | cons entry rest ih =>
    have next := ih fun source member => unfailing source (.tail _ member)
    cases entry with
    | error source => exact absurd (.head _) (unfailing source)
    | ok byte => exact congrArg (.ok byte :: ·) next

theorem fill_bytes (room : Nat) (copied : Bytes) (tape : Tape) :
    (fill room copied tape).1.data ++ bytes (fill room copied tape).2 = copied ++ bytes tape := by
  induction room, copied, tape using fill.induct with
  | case1 copied tape => rfl
  | case2 room copied => rfl
  | case3 room copied byte tape ih => simpa [fill] using ih
  | case4 room copied source tape => rfl

theorem fill_play (room : Nat) (copied data : Bytes) (tape : Tape) (fits : data.length ≤ room) :
    fill room copied (ofBytes data ++ tape) =
      fill (room - data.length) (copied ++ data) tape := by
  induction data generalizing room copied with
  | nil => simp [ofBytes]
  | cons byte rest ih =>
    cases room with
    | zero => simp at fits
    | succ room =>
      have next := ih room (copied ++ [byte]) (Nat.le_of_succ_le_succ fits)
      simpa [ofBytes, fill] using next

end Tape

/-- What a connection has still to give: the rest of the current message, and what the openings to
come will find. -/
structure Backlog where
  current : Tape := []
  ahead : List (Except Failure Tape) := []

namespace Backlog

def bytes (backlog : Backlog) : Bytes :=
  Tape.bytes backlog.current ++ (backlog.ahead.filterMap Except.toOption).flatMap Tape.bytes

theorem bytes_ahead (ahead : List (Except Failure Tape)) :
    bytes { ahead } = ((ahead.map (Except.map Tape.bytes)).filterMap Except.toOption).flatten := by
  induction ahead with
  | nil => rfl
  | cons found rest ih =>
    cases found with
    | error source => exact ih
    | ok tape => exact congrArg (Tape.bytes tape ++ ·) ih

/-- A read with room. There is no answer where nothing is left to read from. -/
def draw (room : Nat) : Tape → List (Except Failure Tape) → Option (ReadOutcome × Backlog)
  | [], [] => none
  | [], .error source :: ahead => some (.broken [] source, { ahead })
  | [], .ok tape :: ahead => draw room tape ahead
  | entry :: tape, ahead =>
    some ((Tape.fill room [] (entry :: tape)).map id fun current => { current, ahead })

def read (room : Nat) (backlog : Backlog) : Option (ReadOutcome × Backlog) :=
  if room = 0 then some (.filled [], backlog) else draw room backlog.current backlog.ahead

def reads : List Nat → Backlog → Option (List ReadOutcome × Backlog)
  | [], backlog => some ([], backlog)
  | room :: rooms, backlog => do
    let (outcome, backlog) ← backlog.read room
    let (outcomes, backlog) ← reads rooms backlog
    return (outcome :: outcomes, backlog)

def resume (room : Nat) (copied : Bytes) (backlog : Backlog) : Option (ReadOutcome × Backlog) :=
  if copied = [] then backlog.read room
  else some ((Tape.fill (room - copied.length) copied backlog.current).map id fun current =>
    { backlog with current })

theorem draw_bytes {room : Nat} {current : Tape} {ahead : List (Except Failure Tape)}
    {outcome : ReadOutcome} {left : Backlog}
    (drawn : draw room current ahead = some (outcome, left)) :
    outcome.data ++ left.bytes = bytes { current, ahead } := by
  induction current, ahead using draw.induct with
  | case1 => cases drawn
  | case2 source ahead =>
    cases drawn
    rfl
  | case3 tape ahead ih =>
    have rest := ih drawn
    simpa [bytes, Except.toOption] using rest
  | case4 entry tape ahead =>
    rw [draw] at drawn
    cases drawn
    have kept := Tape.fill_bytes room [] (entry :: tape)
    simp only [bytes, id_eq, ← List.append_assoc, kept]
    rfl

theorem read_bytes {room : Nat} {backlog left : Backlog} {outcome : ReadOutcome}
    (answered : backlog.read room = some (outcome, left)) :
    outcome.data ++ left.bytes = backlog.bytes := by
  unfold read at answered
  split at answered
  · cases answered
    rfl
  · exact draw_bytes answered

/-- What successive reads return and what they leave are what there was. -/
theorem reads_bytes {rooms : List Nat} {backlog left : Backlog} {outcomes : List ReadOutcome}
    (answered : backlog.reads rooms = some (outcomes, left)) :
    outcomes.flatMap ReadOutcome.data ++ left.bytes = backlog.bytes := by
  induction rooms generalizing backlog outcomes with
  | nil =>
    cases answered
    rfl
  | cons room rooms ih =>
    simp only [reads, Option.bind_eq_bind, Option.bind_eq_some_iff] at answered
    obtain ⟨⟨outcome, middle⟩, first, ⟨later, last⟩, others, same⟩ := answered
    cases same
    rw [List.flatMap_cons, List.append_assoc, ih others, read_bytes first]

theorem read_none {room : Nat} {backlog : Backlog} (unanswered : backlog.read room = none) :
    backlog.bytes = [] := by
  obtain ⟨current, ahead⟩ := backlog
  unfold read at unanswered
  split at unanswered
  · cases unanswered
  · induction current, ahead using draw.induct with
    | case1 => rfl
    | case2 source ahead => cases unanswered
    | case3 tape ahead ih =>
      have rest := ih unanswered
      simpa [bytes, Except.toOption] using rest
    | case4 entry tape ahead =>
      rw [draw] at unanswered
      cases unanswered

theorem read_nothing {room : Nat} {backlog : Backlog}
    (same : backlog.read room = read room {}) : backlog.bytes = [] := by
  cases answered : read room {} with
  | none => exact read_none (same.trans answered)
  | some result => exact (read_bytes (same.trans answered)).symm.trans (read_bytes answered)

theorem reads_push {rooms : List Nat} {room : Nat} {backlog middle left : Backlog}
    {outcomes : List ReadOutcome} {outcome : ReadOutcome}
    (answered : backlog.reads rooms = some (outcomes, middle))
    (next : middle.read room = some (outcome, left)) :
    backlog.reads (rooms ++ [room]) = some (outcomes ++ [outcome], left) := by
  induction rooms generalizing backlog outcomes with
  | nil =>
    cases answered
    simp [reads, next]
  | cons first rooms ih =>
    simp only [reads, Option.bind_eq_bind, Option.bind_eq_some_iff] at answered
    obtain ⟨⟨early, between⟩, begun, ⟨later, last⟩, others, same⟩ := answered
    cases same
    simp [reads, begun, ih others]

theorem read_onward {room : Nat} (roomy : 0 < room) (tape : Tape)
    (ahead : List (Except Failure Tape)) :
    read room { ahead := .ok tape :: ahead } = read room { current := tape, ahead } := by
  simp [read, Nat.ne_of_gt roomy, draw]

theorem read_refused {room : Nat} (roomy : 0 < room) (source : Failure)
    (ahead : List (Except Failure Tape)) :
    read room { ahead := .error source :: ahead } = some (.broken [] source, { ahead }) := by
  simp [read, Nat.ne_of_gt roomy, draw]

theorem read_begun {room : Nat} (roomy : 0 < room) (tape : Tape) (begun : tape ≠ [])
    (ahead : List (Except Failure Tape)) :
    read room { current := tape, ahead } =
      some ((Tape.fill room [] tape).map id fun current => { current, ahead }) := by
  cases tape with
  | nil => exact absurd rfl begun
  | cons entry tape => simp [read, Nat.ne_of_gt roomy, draw]

section Resume

variable {room : Nat} {copied : Bytes} (current : Tape) (ahead : List (Except Failure Tape))

theorem resume_fresh (room : Nat) (backlog : Backlog) :
    backlog.resume room [] = backlog.read room := rfl

theorem resume_play {data : Bytes} (gained : data ≠ [])
    (fits : copied.length + data.length ≤ room) :
    resume room copied { current := Tape.ofBytes data ++ current, ahead } =
      resume room (copied ++ data) { current, ahead } := by
  have some : 0 < data.length := List.length_pos_iff.mpr gained
  by_cases fresh : copied = []
  · subst fresh
    have begun : Tape.ofBytes data ++ current ≠ [] := by simp [Tape.ofBytes, gained]
    have within : data.length ≤ room := by simpa using fits
    have roomy : 0 < room := by omega
    rw [resume_fresh, read_begun roomy _ begun, Tape.fill_play _ _ _ _ within]
    simp [resume, gained]
  · simp only [resume, fresh, ↓reduceIte, List.append_eq_nil_iff, gained, and_self,
      Tape.fill_play _ _ _ _ (Nat.le_sub_of_add_le' fits), List.length_append, Nat.sub_sub]

theorem resume_fails (short : copied.length < room) (source : Failure) :
    resume room copied { current := .error source :: current, ahead } =
      some (.broken copied source, { current, ahead }) := by
  obtain ⟨spare, same⟩ := Nat.exists_eq_succ_of_ne_zero (Nat.sub_ne_zero_of_lt short)
  by_cases fresh : copied = []
  · subst fresh
    have whole : room = spare.succ := by simpa using same
    simp [resume, read, draw, Tape.fill, whole]
  · simp [resume, fresh, same, Tape.fill]

theorem resume_full (gained : copied ≠ []) (full : room ≤ copied.length) :
    resume room copied { current, ahead } = some (.filled copied, { current, ahead }) := by
  simp [resume, gained, Nat.sub_eq_zero_of_le full, Tape.fill]

theorem resume_ends (gained : copied ≠ []) :
    resume room copied { ahead } = some (.filled copied, { ahead }) := by
  unfold resume
  rw [if_neg gained]
  cases room - copied.length <;> rfl

end Resume

end Backlog

end MessageStream
