import MessageStream.Proofs.Outbound.FinishedOnce
import MessageStream.Proofs.Outbound.Shares

/-!
What one call does about the bytes of outbound messages: it opens a message, adds a share to the one
at which it has the turn, or finishes that one. A call that is given up does none of these, so the
shares of a write stay where they are when it goes, in a message that is finished or still open.
-/
namespace MessageStream

variable {S : Signature} {T : Transport S}

namespace Stream

variable {stream after : Stream S.recorded}

/-- What a message has accepted, and from whom. -/
def sharesIn (stream : Stream S.recorded) (number : Nat) : List Share :=
  stream.shares.filter (·.number = number)

def bytesIn (stream : Stream S.recorded) (number : Nat) : Bytes :=
  (stream.sharesIn number).flatMap Share.bytes

/-- The bytes that a message has accepted from others than this call. -/
def leftIn (stream : Stream S.recorded) (number : Nat) (ticket : Ticket) : Bytes :=
  ((stream.sharesIn number).filter (·.caller ≠ ticket)).flatMap Share.bytes

theorem mem_sharesIn {share : Share} {number : Nat} :
    share ∈ stream.sharesIn number ↔ share ∈ stream.shares ∧ share.number = number := by
  simp [sharesIn]

@[simp] theorem heard_shares (stream : Stream S.recorded) (inner : S.World)
    (entries : List Traffic) :
    (stream.heard inner entries).shares = stream.shares ++ entries.flatMap Traffic.shares := by
  simp [shares]

@[simp] theorem putWriter_shares (stream : Stream S.recorded) (number : Nat) (content : S.Writer)
    (finished : Bool) : (stream.putWriter number content finished).shares = stream.shares := rfl

theorem sharesIn_same (same : after.shares = stream.shares) (number : Nat) :
    after.sharesIn number = stream.sharesIn number := by
  rw [sharesIn, sharesIn, same]

theorem sharesIn_push {share : Share} (grown : after.shares = stream.shares ++ [share])
    (number : Nat) : after.sharesIn number =
      stream.sharesIn number ++ if share.number = number then [share] else [] := by
  rw [sharesIn, grown, List.filter_append, sharesIn]
  by_cases here : share.number = number <;> simp [here]

theorem bytesIn_same {number : Nat} (same : after.sharesIn number = stream.sharesIn number) :
    after.bytesIn number = stream.bytesIn number :=
  congrArg (List.flatMap Share.bytes) same

theorem leftIn_same {number : Nat} (same : after.sharesIn number = stream.sharesIn number)
    (ticket : Ticket) : after.leftIn number ticket = stream.leftIn number ticket := by
  rw [leftIn, leftIn, same]

theorem bytesIn_push {share : Share} (grown : after.shares = stream.shares ++ [share])
    (number : Nat) : after.bytesIn number =
      stream.bytesIn number ++ if share.number = number then share.bytes else [] := by
  rw [bytesIn, sharesIn_push grown, List.flatMap_append, bytesIn]
  by_cases here : share.number = number <;> simp [here]

theorem leftIn_own {share : Share} (grown : after.shares = stream.shares ++ [share])
    (number : Nat) : after.leftIn number share.caller = stream.leftIn number share.caller := by
  rw [leftIn, sharesIn_push grown, List.filter_append, leftIn]
  by_cases here : share.number = number <;> simp [here]

theorem leftIn_all {ticket : Ticket} (absent : ∀ share ∈ stream.shares, share.caller ≠ ticket)
    (number : Nat) : stream.leftIn number ticket = stream.bytesIn number := by
  have others : (stream.sharesIn number).filter (·.caller ≠ ticket) = stream.sharesIn number := by
    apply List.filter_eq_self.mpr
    intro share member
    exact decide_eq_true (absent share (List.mem_of_mem_filter member))
  rw [leftIn, others, bytesIn]

theorem Adds.shares_same {ticket : Ticket} {makes : Request → Bool}
    (adds : stream.Adds ticket makes after)
    (aside : ∀ number data, makes (.write number data) = false) :
    after.shares = stream.shares := by
  obtain ⟨entries, grown, made⟩ := adds
  have silent : entries.flatMap Traffic.shares = [] := by
    apply List.flatMap_eq_nil_iff.mpr
    intro entry member
    obtain ⟨-, makes⟩ := made entry member
    cases entry with
    | ended caller request reply =>
      cases request with
      | write number data => cases makes.symm.trans (aside number data)
      | _ => rfl
    | _ => rfl
  rw [Stream.shares, grown, List.flatMap_append, silent, List.append_nil, Stream.shares]

end Stream

/-- What one stretch of a call, or giving it up, does about the bytes of outbound messages. -/
inductive Deals (ticket : Ticket) (place : Place) (stream after : Stream S.recorded) : Prop where
  | rests (shares : after.shares = stream.shares) (outbox : after.outbox = stream.outbox)
      (finished : after.finished = stream.finished)
  | opens (shares : after.shares = stream.shares)
      (outbox : after.outbox = stream.outbox.begin stream.state.config.messageKind)
      (finished : after.finished = stream.finished ++ [false])
  | fills {number : Nat} {bytes : Bytes} (turn : place = some (number, true))
      (unfinished : stream.finished[number]? = some false)
      (shares : after.shares = stream.shares ++ [⟨ticket, number, bytes⟩])
      (outbox : after.outbox = stream.outbox.fill number bytes)
      (finished : after.finished = stream.finished)
  | finishes {number : Nat} (turn : place = some (number, true))
      (shares : after.shares = stream.shares)
      (outbox : after.outbox = stream.outbox ∨ after.outbox = stream.outbox.send ticket number)
      (marked : after.finished[number]? = some true)
      (others : ∀ other, other ≠ number → after.finished[other]? = stream.finished[other]?)
      (length : after.finished.length = stream.finished.length)

namespace Deals

variable {ticket : Ticket} {place : Place} {stream after later : Stream S.recorded}

theorem then_same (deals : Deals ticket place stream after)
    (traffic : later.world.traffic = after.world.traffic)
    (same : later.finished = after.finished) : Deals ticket place stream later := by
  have kept := Stream.shares_same traffic
  have sent := Stream.outbox_same traffic
  cases deals with
  | rests shares outbox finished =>
    exact .rests (kept.trans shares) (sent.trans outbox) (same.trans finished)
  | opens shares outbox finished =>
    exact .opens (kept.trans shares) (sent.trans outbox) (same.trans finished)
  | fills turn unfinished shares outbox finished =>
    exact .fills turn unfinished (kept.trans shares) (sent.trans outbox) (same.trans finished)
  | finishes turn shares outbox marked others length =>
    rw [← sent] at outbox
    rw [← same] at marked others length
    exact .finishes turn (kept.trans shares) outbox marked others length

theorem of_quiet (traffic : after.world.traffic = stream.world.traffic)
    (finished : after.finished = stream.finished) : Deals ticket place stream after :=
  .rests (Stream.shares_same traffic) (Stream.outbox_same traffic) finished

theorem stays_finished (deals : Deals ticket place stream after) {number : Nat}
    (finished : stream.finished[number]? = some true) : after.finished[number]? = some true := by
  cases deals with
  | rests shares outbox same => rwa [same]
  | opens shares outbox same =>
    rw [same, List.getElem?_append_left (List.getElem?_eq_some_iff.mp finished).1]
    exact finished
  | fills turn unfinished shares outbox same => rwa [same]
  | @finishes there turn shares outbox marked others length =>
    by_cases here : number = there
    · exact here ▸ marked
    · exact (others number here).trans finished

theorem sharesIn_apart (deals : Deals ticket place stream after) {number : Nat}
    (elsewhere : place ≠ some (number, true) ∨ stream.finished[number]? = some true) :
    after.sharesIn number = stream.sharesIn number := by
  cases deals with
  | rests shares outbox finished => exact Stream.sharesIn_same shares number
  | opens shares outbox finished => exact Stream.sharesIn_same shares number
  | finishes turn shares outbox marked others length => exact Stream.sharesIn_same shares number
  | @fills there bytes turn unfinished shares outbox finished =>
    have other : there ≠ number := by
      rintro rfl
      rcases elsewhere with away | settled
      · exact away turn
      · cases unfinished.symm.trans settled
    rw [Stream.sharesIn_push shares, if_neg other, List.append_nil]

theorem sent_other (deals : Deals ticket place stream after) {other : Ticket}
    (different : other ≠ ticket) :
    after.outbox.sent.filter (·.caller = other) =
      stream.outbox.sent.filter (·.caller = other) := by
  have send (number : Nat) : (stream.outbox.send ticket number).sent.filter (·.caller = other) =
      stream.outbox.sent.filter (·.caller = other) := by
    rw [Outbox.send, List.filter_append]
    cases stream.outbox.drafts[number]? <;> simp [Ne.symm different]
  cases deals with
  | rests shares outbox finished => rw [outbox]
  | opens shares outbox finished => rw [outbox, Outbox.begin]
  | fills turn unfinished shares outbox finished => rw [outbox, Outbox.fill]
  | @finishes number turn shares outbox marked others length =>
    rcases outbox with same | sent
    · rw [same]
    · rw [sent, send number]

theorem mem_shares (deals : Deals ticket place stream after) {share : Share}
    (member : share ∈ after.shares) : share ∈ stream.shares ∨
      share.caller = ticket ∧ place = some (share.number, true) := by
  cases deals with
  | rests shares outbox finished => exact .inl (shares ▸ member)
  | opens shares outbox finished => exact .inl (shares ▸ member)
  | finishes turn shares outbox marked others length => exact .inl (shares ▸ member)
  | fills turn unfinished shares outbox finished =>
    rw [shares] at member
    rcases List.mem_append.mp member with old | new
    · exact .inl old
    · cases List.mem_singleton.mp new
      exact .inr ⟨rfl, turn⟩

/-- Away from its turn a call adds no share and sends nothing. -/
theorem nothing_new (deals : Deals ticket place stream after)
    (away : ∀ number, place ≠ some (number, true)) :
    after.shares = stream.shares ∧ after.outbox.sent = stream.outbox.sent := by
  cases deals with
  | rests shares outbox finished => exact ⟨shares, by rw [outbox]⟩
  | opens shares outbox finished => exact ⟨shares, by rw [outbox, Outbox.begin]⟩
  | fills turn unfinished shares outbox finished => exact absurd turn (away _)
  | finishes turn shares outbox marked others length => exact absurd turn (away _)

theorem finished_other (deals : Deals ticket place stream after) {number : Nat}
    (away : place ≠ some (number, true)) (inside : number < stream.finished.length) :
    after.finished[number]? = stream.finished[number]? := by
  cases deals with
  | rests shares outbox finished => rw [finished]
  | opens shares outbox finished => rw [finished, List.getElem?_append_left inside]
  | fills turn unfinished shares outbox finished => rw [finished]
  | finishes turn shares outbox marked others length =>
    apply others
    rintro rfl
    exact away turn

theorem sender_old_or_own (deals : Deals ticket place stream after) {entry : Sent}
    (member : entry ∈ after.outbox.sent) :
    entry ∈ stream.outbox.sent ∨ entry.caller = ticket := by
  cases deals with
  | rests shares outbox finished => exact .inl (outbox ▸ member)
  | opens shares outbox finished =>
    rw [outbox] at member
    exact .inl member
  | fills turn unfinished shares outbox finished =>
    rw [outbox] at member
    exact .inl member
  | @finishes number turn shares outbox marked others length =>
    rcases outbox with same | sent
    · exact .inl (same ▸ member)
    · rw [sent] at member
      rcases List.mem_append.mp member with old | new
      · exact .inl old
      · obtain ⟨message, -, rfl⟩ := Option.map_eq_some_iff.mp (Option.mem_toList.mp new)
        exact .inr rfl

end Deals

/-- Every message opened holds the shares it has accepted, and nothing else. -/
structure Stream.Counted (kind : MessageKind) (stream : Stream S.recorded) : Prop where
  opened : stream.outbox.drafts.length = stream.finished.length
  drafts : ∀ (number : Nat) (draft : Message), stream.outbox.drafts[number]? = some draft →
    draft = ⟨kind, stream.bytesIn number⟩
  inside : ∀ share ∈ stream.shares, share.number < stream.finished.length

theorem Stream.Counted.draft_eq {kind : MessageKind} {stream : Stream S.recorded}
    (counted : stream.Counted kind) {number : Nat} {finished : Bool}
    (found : stream.finished[number]? = some finished) :
    stream.outbox.drafts[number]? = some ⟨kind, stream.bytesIn number⟩ := by
  have inside : number < stream.outbox.drafts.length := by
    rw [counted.opened]
    exact (List.getElem?_eq_some_iff.mp found).1
  have there := List.getElem?_eq_getElem inside
  rw [there, ← counted.drafts number _ there]

theorem Stream.Counted.bytesIn_new {kind : MessageKind} {stream : Stream S.recorded}
    (counted : stream.Counted kind) : stream.bytesIn stream.finished.length = [] := by
  have none : stream.sharesIn stream.finished.length = [] := by
    apply List.filter_eq_nil_iff.mpr
    intro share member
    have inside := counted.inside share member
    simpa using Nat.ne_of_lt inside
  rw [bytesIn, none, List.flatMap_nil]

theorem Deals.still_counted {ticket : Ticket} {place : Place} {stream after : Stream S.recorded}
    {kind : MessageKind} (deals : Deals ticket place stream after)
    (configured : stream.state.config.messageKind = kind) (counted : stream.Counted kind) :
    after.Counted kind := by
  obtain ⟨opened, drafts, inside⟩ := counted
  cases deals with
  | rests shares outbox finished =>
    refine ⟨?_, ?_, ?_⟩
    · rw [outbox, finished]
      exact opened
    · intro number draft there
      rw [outbox] at there
      rw [Stream.bytesIn_same (Stream.sharesIn_same shares number)]
      exact drafts number draft there
    · rw [shares, finished]
      exact inside
  | opens shares outbox finished =>
    refine ⟨?_, ?_, ?_⟩
    · simp [outbox, Outbox.begin, finished, opened]
    · intro number draft there
      rw [Stream.bytesIn_same (Stream.sharesIn_same shares number)]
      rw [outbox, Outbox.begin] at there
      -- Nobody has a share in a message before it is opened.
      by_cases new : number = stream.outbox.drafts.length
      · subst new
        have fresh := Stream.Counted.bytesIn_new ⟨opened, drafts, inside⟩
        rw [opened, fresh, ← configured]
        simpa using there.symm
      · exact drafts number draft ((push_elsewhere _ _ new).symm.trans there)
    · intro share member
      rw [shares] at member
      rw [finished, List.length_append]
      exact Nat.lt_add_right _ (inside share member)
  | @fills number bytes turn unfinished shares outbox finished =>
    refine ⟨?_, ?_, ?_⟩
    · simp [outbox, Outbox.fill, finished, opened]
    · intro other draft there
      rw [Stream.bytesIn_push shares]
      rw [outbox, Outbox.fill, List.getElem?_modify] at there
      obtain ⟨before, found, rfl⟩ := Option.map_eq_some_iff.mp there
      rw [drafts other before found]
      by_cases here : number = other <;> simp [here]
    · intro share member
      rw [finished]
      rw [shares] at member
      rcases List.mem_append.mp member with old | new
      · exact inside share old
      · cases List.mem_singleton.mp new
        exact (List.getElem?_eq_some_iff.mp unfinished).1
  | @finishes number turn shares outbox marked others length =>
    have same : after.outbox.drafts = stream.outbox.drafts := by
      rcases outbox with same | sent
      · rw [same]
      · rw [sent, Outbox.send]
    refine ⟨?_, ?_, ?_⟩
    · rw [same, length]
      exact opened
    · intro other draft there
      rw [same] at there
      rw [Stream.bytesIn_same (Stream.sharesIn_same shares other)]
      exact drafts other draft there
    · rw [shares, length]
      exact inside

section Moves

variable {ticket : Ticket} {place : Place} {stream after : Stream S.recorded}

theorem ReadMove.deals {room : Nat} {stage : ReadStage S.recorded}
    {step : Step (ReadStage S.recorded) ReadOutcome}
    (move : ReadMove T room ticket stage stream step after) : Deals ticket place stream after :=
  .rests (move.adds.shares_same fun _ _ => rfl) move.outbox_same
    (by rw [Stream.finished, move.writers_same, Stream.finished])

theorem BreakOff.deals {number : Nat} {request : Option Request}
    (breaks : BreakOff ticket number stream request after) : Deals ticket place stream after := by
  cases breaks with
  | idle => exact .of_quiet rfl rfl
  | busy found =>
    refine .rests ?_ ?_ (stream.putWriter_unfinished found _)
    · simp [Traffic.shares]
    · simp [Outbox.hear]

theorem ReadDrop.deals {stage : ReadStage S.recorded}
    (drop : ReadDrop T ticket stage stream after) : Deals ticket place stream after := by
  refine .rests (drop.adds.shares_same fun _ _ => rfl) ?_
    (by rw [Stream.finished, drop.writers_same, Stream.finished])
  cases drop with
  | starts => rfl
  | asks => simp [Outbox.hear]
  | leaves stands => rfl
  | breaksOff stands => simp [Outbox.hear]

theorem FinishComes.shares_same {number : Nat} {resumed : Bool}
    {progress : Progress S.Finishing (Except Failure Unit)}
    (comes : FinishComes T ticket number resumed stream progress after) :
    after.shares = stream.shares := by
  have adds : stream.Adds ticket Request.shuts after := comes.adds rfl
  exact adds.shares_same fun _ _ => rfl

theorem FinishComes.outbox_of_waiting {number : Nat} {resumed : Bool} {later : S.Finishing}
    (comes : FinishComes T ticket number resumed stream (.waiting later) after) :
    after.outbox = stream.outbox := by
  rcases comes.settled_or_polled with ⟨-, ready, -⟩ | ⟨-, -, -, -, outbox⟩
  · cases ready
  · exact outbox

theorem FinishComes.deals {number : Nat} {resumed : Bool}
    {progress : Progress S.Finishing (Except Failure Unit)}
    (comes : FinishComes T ticket number resumed stream progress after) :
    Deals ticket (some (number, true)) stream after := by
  rcases comes.settled_or_polled with ⟨rfl, -⟩ | ⟨-, marked, others, length, outbox⟩
  · exact .of_quiet rfl rfl
  · refine .finishes rfl comes.shares_same ?_ marked others length
    rw [outbox]
    split
    · exact .inr rfl
    · exact .inl rfl

theorem FinishComes.finished_after {number : Nat} {resumed : Bool}
    {progress : Progress S.Finishing (Except Failure Unit)}
    (comes : FinishComes T ticket number resumed stream progress after) :
    after.finished[number]? = some true := by
  rcases comes.settled_or_polled with ⟨rfl, -, -, settled⟩ | ⟨-, marked, -⟩
  · exact settled
  · exact marked

theorem WriterComes.deals {resumed : Bool} {step : Step (WriteStage S.recorded) WriteOutcome}
    (comes : WriterComes T ticket resumed stream step after) :
    Deals ticket place stream after := by
  have adds : stream.Adds ticket (·.writer?.isNone) after := comes.adds fun _ => rfl
  have shares := adds.shares_same fun _ _ => rfl
  cases comes with
  | waits => exact .rests shares (by simp [Outbox.hear_poll]) rfl
  | fails => exact .rests shares (by simp [Outbox.hear_poll, Outbox.hear]) rfl
  | late closed => exact .opens shares (by simp [Outbox.hear_poll, Outbox.hear]) (by simp)
  | opens standing => exact .opens shares (by simp [Outbox.hear_poll, Outbox.hear]) (by simp)

theorem Stream.polled_shares (stream : Stream S.recorded) (ticket : Ticket) (number : Nat)
    (rest : Bytes) (resumed : Bool) (reply : Option Reply) (content : S.Writer) (finished : Bool)
    (inner : S.World) :
    ((stream.putWriter number content finished).heard inner
      (Traffic.ofPoll ticket (.write number rest) resumed reply)).shares =
      stream.shares ++ reply.elim [] fun reply =>
        Traffic.shares (.ended ticket (.write number rest) reply) :=
  Stream.shares_poll rfl

theorem Deals.of_filling {number : Nat} {rest : Bytes} {resumed : Bool} {reply : Option Reply}
    {cursor : Cursor (Outbound (Numbered S.Writer))} {content : S.Writer} {inner : S.World}
    (found : stream.state.writers[number]? = some cursor)
    (unfinished : stream.finished[number]? = some false)
    (polled : after = (stream.putWriter number content cursor.content.finished).heard inner
      (Traffic.ofPoll ticket (.write number rest) resumed reply)) :
    Deals ticket (some (number, true)) stream after := by
  subst polled
  have finished := stream.putWriter_unfinished found content
  have shares := stream.polled_shares ticket number rest resumed reply content
    cursor.content.finished inner
  have outbox := Stream.heard_outbox (stream.putWriter number content cursor.content.finished)
    inner (Traffic.ofPoll ticket (.write number rest) resumed reply)
  rw [Outbox.hear_poll, Stream.putWriter_outbox] at outbox
  cases reply with
  | none => exact .rests (shares.trans (List.append_nil _)) outbox finished
  | some reply =>
    cases reply with
    | accepted count => exact .fills rfl unfinished shares outbox finished
    | _ => exact .rests (shares.trans (List.append_nil _)) outbox finished

theorem Deals.of_borrow (deals : Deals ticket place (stream.borrow ticket) after) :
    Deals ticket place stream after := by
  cases deals with
  | rests shares outbox finished => exact .rests shares outbox finished
  | opens shares outbox finished => exact .opens shares outbox finished
  | fills turn unfinished shares outbox finished =>
    exact .fills turn unfinished shares outbox finished
  | finishes turn shares outbox marked others length =>
    exact .finishes turn shares outbox marked others length

theorem WriteMove.deals {data : Bytes} {stage : WriteStage S.recorded}
    {step : Step (WriteStage S.recorded) WriteOutcome}
    (move : WriteMove T data ticket stage stream step after)
    (unfinished : ∀ number written later, stage = .filling number written later →
      stream.finished[number]? = some false) : Deals ticket stage.place stream after := by
  cases move with
  | refused closed => exact .of_quiet rfl rfl
  | skips standing skipped => exact .of_quiet rfl rfl
  | joins standing sent current => exact .of_quiet rfl (Stream.joinWriter_finished _ _ _)
  | asks standing sent vacant comes => exact comes.deals.of_borrow
  | hears comes => exact comes.deals
  | discardPends comes => exact comes.deals
  | discards comes => exact comes.deals.then_same (by simp) (by simp)
  | queues blocked => exact .of_quiet rfl rfl
  | retires turn found finished => exact .of_quiet (by simp) (by simp)
  | enters turn found unfinished => exact .of_quiet rfl rfl
  | pends found => exact .of_filling found (unfinished _ _ _ rfl) rfl
  | breaks found => exact .of_filling found (unfinished _ _ _ rfl) rfl
  | takes found polled gained => exact .of_filling found (unfinished _ _ _ rfl) rfl
  | stalls found => exact .of_filling found (unfinished _ _ _ rfl) rfl
  | finishPends comes => exact comes.deals
  | failed comes => exact comes.deals.then_same (by simp) (by simp)
  | finishFails comes => exact comes.deals.then_same (by simp) (by simp)
  | delivers comes => exact comes.deals.then_same (by simp) (by simp)

theorem WriteMove.turn_or_finished {data : Bytes} {stage : WriteStage S.recorded}
    {step : Step (WriteStage S.recorded) WriteOutcome}
    (move : WriteMove T data ticket stage stream step after) {number : Nat}
    (turn : stage.place = some (number, true)) :
    step.place WriteStage.place = some (number, true) ∨ after.finished[number]? = some true := by
  cases move with
  | discardPends comes => exact .inl turn
  | discards comes =>
    cases turn
    exact .inr (by simpa using comes.finished_after)
  | pends found => exact .inl turn
  | breaks found => exact .inl turn
  | takes found polled gained =>
    cases turn
    exact .inl (Write.fillOrFinish_place _ _ _)
  | stalls found => exact .inl turn
  | finishPends comes => exact .inl turn
  | failed comes =>
    cases turn
    exact .inr (by simpa using comes.finished_after)
  | finishFails comes =>
    cases turn
    exact .inr (by simpa using comes.finished_after)
  | delivers comes =>
    cases turn
    exact .inr (by simpa using comes.finished_after)
  | _ => cases turn

theorem WriteDrop.deals {data : Bytes} {stage : WriteStage S.recorded}
    (drop : WriteDrop T data ticket stage stream after) : Deals ticket place stream after := by
  cases drop with
  | starts => exact .of_quiet rfl rfl
  | asks =>
    refine .rests ?_ ?_ rfl
    · apply (Stream.shares_same (Stream.giveBack_traffic T _ ticket)).trans
      simp [Traffic.shares]
    · simp [Outbox.hear]
  | leaves stands breaks => exact breaks.deals.then_same (by simp) (by simp)
  | discards breaks => exact breaks.deals.then_same (by simp) (by simp)

theorem CloseMove.deals {stage : CloseStage S.recorded}
    {step : Step (CloseStage S.recorded) CloseOutcome}
    (move : CloseMove T ticket stage stream step after) :
    Deals ticket stage.place stream after := by
  have shares := move.adds.shares_same fun _ _ => rfl
  cases move with
  | takes current => exact .of_quiet rfl (Stream.joinWriter_finished _ _ _)
  | takesIdle vacant shuts => exact .of_quiet rfl rfl
  | queues blocked => exact .of_quiet rfl rfl
  | enters turn => exact .of_quiet rfl rfl
  | finishPends comes => exact comes.deals
  | finishFails comes => exact comes.deals.then_same (by simp) (by simp)
  | finishes comes shuts => exact comes.deals.then_same (by simp) (by simp)
  | pends => exact .rests shares (by simp [Outbox.hear_shuts]) rfl
  | fails => exact .rests shares (by simp [Outbox.hear_shuts]) rfl
  | closes => exact .rests shares (by simp [Outbox.hear_shuts]) rfl

theorem CloseDrop.deals {stage : CloseStage S.recorded}
    (drop : CloseDrop T ticket stage stream after) : Deals ticket place stream after := by
  have shares := drop.adds.shares_same fun _ _ => rfl
  cases drop with
  | starts => exact .of_quiet rfl rfl
  | leaves stands breaks => exact breaks.deals.then_same (by simp) (by simp)
  | rests => exact .of_quiet (by simp) rfl
  | shuts => exact .rests shares (by simp [Outbox.hear]) rfl

theorem BreakOff.config_same {number : Nat} {request : Option Request}
    (breaks : BreakOff ticket number stream request after) :
    after.state.config = stream.state.config := by
  cases breaks <;> rfl

theorem ReadDrop.config_same {stage : ReadStage S.recorded}
    (drop : ReadDrop T ticket stage stream after) :
    after.state.config = stream.state.config := by
  cases drop <;> rfl

theorem WriteDrop.config_same {data : Bytes} {stage : WriteStage S.recorded}
    (drop : WriteDrop T data ticket stage stream after) :
    after.state.config = stream.state.config := by
  cases drop with
  | leaves stands breaks => exact breaks.config_same
  | discards breaks => exact breaks.config_same
  | _ => rfl

theorem CloseDrop.config_same {stage : CloseStage S.recorded}
    (drop : CloseDrop T ticket stage stream after) :
    after.state.config = stream.state.config := by
  cases drop with
  | leaves stands breaks =>
    unfold Close.letGo
    split <;> exact breaks.config_same
  | _ => rfl

end Moves

end MessageStream
