import MessageStream.Proofs.Bridge.ReadSide
import MessageStream.Proofs.Usage.Stretch
import MessageStream.Transport.Scripted

/-!
No false end. To a byte-oriented caller a read that succeeds with no bytes is the end of the stream,
and a stream of messages has no such end. Its reads come upon no bytes at the end of every message,
in an empty one, and in one that another read has drained; its bridges, where the bytes kept from an
earlier read run out. However a stream is shared, by calls and through bridges, a caller with room
for a byte is never told so: the answer is bytes, a wait or a failure.
-/
namespace MessageStream

variable {S : Signature}

/-- With room for a byte, the read has not succeeded with none. -/
def ReadOutcome.Fills (outcome : ReadOutcome) (room : Nat) : Prop :=
  room ≠ 0 → outcome.result ≠ .ok 0

theorem ReadOutcome.filled_fills {data : Bytes} (moved : data ≠ []) (room : Nat) :
    (filled data).Fills room := by
  intro roomy none
  exact moved (List.length_eq_zero_iff.mp (Except.ok.inj none))

theorem ReadOutcome.Fills.data_ne_nil {outcome : ReadOutcome} {room : Nat}
    (fills : outcome.Fills room)
    (roomy : room ≠ 0)
    (moved : ∀ error, outcome.result = .error error → 0 < error.transferred) :
    outcome.data ≠ [] := by
  intro empty
  cases outcome with
  | filled data => exact fills roomy (congrArg (Except.ok ∘ List.length) empty)
  | closed => exact absurd (moved _ rfl) (Nat.lt_irrefl 0)
  | broken data source =>
    have counted : 0 < data.length := moved _ rfl
    exact absurd empty (List.ne_nil_of_length_pos counted)

namespace Read

variable (T : Transport S) (room : Nat) (ticket : Ticket) (stream : Stream S)

def Fills (room : Nat) (polled : Stream S × Step (ReadStage S) ReadOutcome) : Prop :=
  Step.Meets (fun _ _ => True) (fun outcome _ => outcome.Fills room) polled.2 polled.1

theorem ask_fills (stage : Option S.ReaderOpening) : Fills room (ask T ticket stage stream) := by
  unfold ask
  split
  · trivial
  · exact nofun
  · unfold opened
    split
    · exact nofun
    · trivial

theorem start_fills : Fills room (start T room ticket stream) := by
  unfold start
  split
  · exact nofun
  · split
    · rename_i roomless
      exact fun roomy => absurd roomless roomy
    · split
      · trivial
      · exact ask_fills T room ticket (stream.borrow ticket) none

theorem exhausted_fills (number : Nat) (copied : Bytes) :
    Fills room (exhausted number copied stream) := by
  cases copied with
  | nil => trivial
  | cons byte later => exact ReadOutcome.filled_fills (List.cons_ne_nil byte later) room

theorem yielded_fills (number : Nat) (copied bytes : Bytes) :
    Fills room (yielded room number copied bytes ticket stream) := by
  unfold yielded
  split
  · trivial
  · dsimp only
    split
    · exact exhausted_fills room _ number copied
    · rename_i some
      have moved : bytes ≠ [] := fun empty => some (List.isEmpty_iff.mpr empty)
      exact ReadOutcome.filled_fills (List.append_ne_nil_of_right_ne_nil copied moved) room

theorem advance_fills (stage : ReadStage S) : Fills room (advance T room ticket stage stream) := by
  cases stage with
  | start => exact start_fills T room ticket stream
  | opening stage => exact ask_fills T room ticket stream (some stage)
  | queued number =>
    simp only [advance]
    split <;> trivial
  | draining number copied stage =>
    simp only [advance]
    split
    · trivial
    · exact nofun
    · exact yielded_fills room ticket _ number copied _
    · exact yielded_fills room ticket _ number copied []

end Read

def StreamCalls.Fills {World Reading Writing Closing : Type}
    (calls : StreamCalls World Reading Writing Closing) : Prop :=
  ∀ room ticket stage world later outcome,
    (calls.read room).poll ticket stage world = (later, .ready outcome) → outcome.Fills room

theorem Stream.calls_fill (T : Transport S) : (Stream.calls T).Fills := by
  intro room ticket stage stream later outcome polled
  have meets := Step.run_meets (fun stage stream _ => Read.advance_fills T room ticket stream stage)
    (Read.limit T room stream) (stage.getD .start) stream trivial
  change Step.run _ _ _ _ = _ at polled
  rwa [polled] at meets

namespace Bridge

variable {World Reading Writing Closing : Type} {calls : StreamCalls World Reading Writing Closing}
  {bridge after : Bridge Reading Writing Closing} {record grown : List Deed}

theorem takeLeftover_fills {room : Nat} {handed : Bytes}
    (taken : bridge.takeLeftover room = (after, some handed)) (roomy : room ≠ 0) :
    handed ≠ [] := by
  unfold takeLeftover at taken
  split at taken
  · cases taken
  rename_i more
  have count : ((bridge.leftover.drop bridge.position).take
      (min (bridge.leftover.length - bridge.position) room)).length ≠ 0 := by
    rw [List.length_take, List.length_drop]
    omega
  dsimp only at taken
  split at taken <;> cases taken <;> exact fun empty => count (congrArg List.length empty)

theorem deliver_fills (bridge : Bridge Reading Writing Closing) {data : Bytes} {room : Nat}
    (some : data ≠ []) (roomy : room ≠ 0) : (bridge.deliver data room).2 ≠ [] := by
  have delivered : (bridge.deliver data room).2 = data.take (min data.length room) := by
    unfold deliver
    dsimp only
    split <;> rfl
  have long := List.length_pos_iff.mpr some
  rw [delivered, ← List.length_pos_iff, List.length_take]
  omega

theorem readDone_fills (bridge : Bridge Reading Writing Closing) {outcome : ReadOutcome}
    {asked room : Nat} (fills : outcome.Fills asked) (begun : asked ≠ 0) (roomy : room ≠ 0)
    {data : Bytes} (answer : (bridge.readDone outcome room).2 = some (.ok data)) : data ≠ [] := by
  unfold readDone at answer
  dsimp only at answer
  split at answer
  · rename_i count result
    have some := fills.data_ne_nil begun fun error failed => by simp [result] at failed
    cases answer
    exact deliver_fills _ some roomy
  · rename_i error result
    split at answer
    · rename_i moved
      have some := fills.data_ne_nil begun fun other failed =>
        Except.error.inj (result.symm.trans failed) ▸ moved
      cases answer
      exact deliver_fills _ some roomy
    · cases answer

def Deed.Fills : Deed → Prop
  | answered (.read room) (.bytes data) => room ≠ 0 → data ≠ []
  | _ => True

theorem Deed.ofPoll_fills (ticket : Ticket) (demand : Demand) (resumed : Bool)
    (outcome : Option Outcome) : ∀ deed ∈ ofPoll ticket demand resumed outcome, deed.Fills := by
  intro deed member
  rcases List.mem_append.mp member with begun | ended
  · cases resumed with
    | true => cases begun
    | false =>
      rw [List.mem_singleton.mp begun]
      trivial
  · cases outcome with
    | none => cases ended
    | some outcome =>
      rw [List.mem_singleton.mp ended]
      trivial

theorem Deed.fills_aside {deed : Deed} (aside : deed.reads = false) : deed.Fills := by
  unfold Fills
  split
  · cases aside
  · trivial

/-- The read under way was begun with room, and every answer told so far fills its buffer. -/
structure Honest (bridge : Bridge Reading Writing Closing) (record : List Deed) : Prop where
  asks : ∀ call, bridge.reading = some call → call.request ≠ 0
  tells : ∀ deed ∈ record, deed.Fills

theorem Honest.request_ne_zero (honest : Honest bridge record) {ticket : Ticket} {room : Nat}
    {call : InFlight Nat Reading} (roomy : room ≠ 0)
    (asks : call = bridge.reading.getD { ticket, request := room }) : call.request ≠ 0 := by
  subst asks
  cases under : bridge.reading with
  | none => exact roomy
  | some call => exact honest.asks call under

theorem Honest.adds (honest : Honest bridge record) {deeds : List Deed}
    (asks : ∀ call, after.reading = some call → call.request ≠ 0)
    (fills : ∀ deed ∈ deeds, deed.Fills) : Honest after (record ++ deeds) := by
  refine ⟨asks, ?_⟩
  intro deed member
  exact (List.mem_append.mp member).elim (honest.tells deed) (fills deed)

theorem Honest.after_call_poll (honest : Honest bridge record) {Stage Value : Type}
    {demand : Demand}
    {outcome : Value → Outcome} {operation : Operation World Stage Value} {ticket : Ticket}
    {stage : Option Stage} {world later : World} {progress : Progress Stage Value}
    (polled : (StreamCalls.noted demand outcome operation).poll ticket stage (world, record) =
      ((later, grown), progress)) : Honest bridge grown := by
  rw [StreamCalls.noted_adds polled]
  exact honest.adds honest.asks (Deed.ofPoll_fills _ _ _ _)

theorem Aside.honest {before last : Bridge Reading Writing Closing × World × List Deed}
    (aside : Aside before last) (honest : Honest before.1 before.2.2) :
    Honest last.1 last.2.2 := by
  obtain ⟨deeds, added, none⟩ := aside.record
  rw [added]
  apply honest.adds
  · rw [aside.reading]
    exact honest.asks
  · intro deed member
    exact Deed.fills_aside (none deed member)

theorem Honest.after_answer (honest : Honest bridge record) {request : Request} {answer : Answer}
    (asks : ∀ call, after.reading = some call → call.request ≠ 0)
    (fills : (Deed.answered request answer).Fills) :
    Honest after (record ++ [.answered request answer]) := by
  apply honest.adds asks
  intro deed member
  rwa [List.mem_singleton.mp member]

theorem ReadPoll.honest {ticket : Ticket} {room : Nat} {world later : World}
    {polled : Polled Bytes} (fills : calls.Fills)
    (polls : ReadPoll calls.recorded ticket room bridge (world, record) after (later, grown) polled)
    (honest : Honest bridge record) :
    Honest after (grown ++ [.answered (.read room) (.of .bytes polled)]) := by
  cases polls with
  | surplus taken =>
    obtain ⟨-, -, same⟩ := takeLeftover_some taken
    rw [same]
    exact honest.after_answer honest.asks fun roomy => takeLeftover_fills taken roomy
  | reports spent stored => exact honest.after_answer honest.asks trivial
  | idles spent clean roomless =>
    exact honest.after_answer honest.asks fun roomy => absurd roomless roomy
  | waits spent clean roomy asks polled =>
    have begun := honest.request_ne_zero roomy asks
    apply (honest.after_call_poll polled).after_answer
    · rintro _ ⟨⟩
      exact begun
    · trivial
  | @ends call _ outcome spent clean roomy asks polled =>
    have begun := honest.request_ne_zero roomy asks
    have filled : outcome.Fills call.request := by
      rw [StreamCalls.recorded, StreamCalls.noted_poll, Prod.mk.injEq] at polled
      exact fills _ _ _ _ _ _ (Prod.ext rfl polled.2)
    apply (honest.after_call_poll polled).after_answer
    · intro next under
      rw [bridge.readDone_reading] at under
      cases under
    · rcases answer : (bridge.readDone outcome room).2 with _ | failure | data
      · trivial
      · trivial
      · exact fun _ => readDone_fills bridge filled begun roomy answer

end Bridge

theorem Bridged.polled_honest {World Reading Writing Closing : Type}
    {calls : StreamCalls World Reading Writing Closing} (fills : calls.Fills)
    (bridged : Bridged World Reading Writing Closing)
    (honest : bridged.bridge.Honest bridged.record) (request : Bridge.Request) :
    let polled := bridged.step calls (.poll request)
    polled.bridge.Honest polled.record := by
  obtain ⟨bridge, world, record, next⟩ := bridged
  cases request with
  | read room =>
    exact (bridge.pollRead_polls calls.recorded next room (world, record)).honest fills honest
  | write data =>
    have aside := (bridge.pollWrite_aside calls (world, record) next data).honest honest
    exact aside.after_answer aside.asks trivial
  | flush =>
    have aside := (bridge.pollFlush_aside calls (world, record)).honest honest
    exact aside.after_answer aside.asks trivial
  | shutdown =>
    have aside := (bridge.pollShutdown_aside calls (world, record) next).honest honest
    exact aside.after_answer aside.asks trivial

def Call.Fills : Call S → Prop
  | read room (.answered outcome) => outcome.Fills room
  | _ => True

theorem Call.begin_fills (demand : Demand) : (begin demand : Call S).Fills := by
  cases demand <;> trivial

theorem Call.poll_fills (T : Transport S) (ticket : Ticket) (stream : Stream S) {call : Call S}
    (fills : call.Fills) : (poll T ticket (stream, call)).2.Fills := by
  have polled (room : Nat) (stage : Option (ReadStage S)) :
      (read room (.ofProgress ((Stream.read T room).poll ticket stage stream).2)).Fills := by
    rcases result : (Stream.read T room).poll ticket stage stream with ⟨later, waits | outcome⟩
    · trivial
    · exact Stream.calls_fill T room ticket stage stream later outcome result
  cases call with
  | read room phase =>
    cases phase with
    | fresh => exact polled room none
    | waiting stage => exact polled room (some stage)
    | answered outcome => exact fills
    | dropped stage => trivial
  | write data phase => trivial
  | close phase => trivial

theorem Call.drop_fills (T : Transport S) (ticket : Ticket) (stream : Stream S) {call : Call S}
    (fills : call.Fills) : (drop T ticket (stream, call)).2.Fills := by
  cases call with
  | read room phase =>
    cases phase with
    | answered outcome => exact fills
    | _ => trivial
  | write data phase => trivial
  | close phase => trivial

/-- A bridge over a stream, with what it has done; no bridge where it has been given up. -/
structure Spanned (S : Signature) where
  bridge : Option (Bridge (ReadStage S) (WriteStage S) (CloseStage S)) := some {}
  record : List Bridge.Deed := []

structure Spanned.Honest (spanned : Spanned S) : Prop where
  tells : ∀ deed ∈ spanned.record, deed.Fills
  asks : ∀ bridge, spanned.bridge = some bridge →
    ∀ call, bridge.reading = some call → call.request ≠ 0

theorem Spanned.new_honest : ({} : Spanned S).Honest := by
  refine ⟨List.forall_mem_nil _, ?_⟩
  rintro _ ⟨⟩
  exact nofun

/-- A stream that any number of callers share, by calls of their own and through bridges. -/
structure Shared (S : Signature) where
  stream : Stream S
  calls : List (Ticket × Call S) := []
  bridges : List (Spanned S) := []
  next : Ticket := 0

namespace Shared

inductive Action (S : Signature) where
  | begin (demand : Demand)
  | poll (number : Nat)
  | drop (number : Nat)
  | span
  | ask (number : Nat) (request : Bridge.Request)
  | dismiss (number : Nat)
  | change (become : S.World → S.World)

def onCall (act : Ticket → Stream S × Call S → Stream S × Call S) (number : Nat)
    (shared : Shared S) : Shared S :=
  match shared.calls[number]? with
  | none => shared
  | some (ticket, call) =>
    let acted := act ticket (shared.stream, call)
    { shared with stream := acted.1, calls := shared.calls.set number (ticket, acted.2) }

def ask (T : Transport S) (number : Nat) (request : Bridge.Request) (shared : Shared S) :
    Shared S :=
  match shared.bridges[number]? with
  | some ⟨some bridge, record⟩ =>
    let bridged : Bridged (Stream S) (ReadStage S) (WriteStage S) (CloseStage S) :=
      { bridge, world := shared.stream, record, next := shared.next }
    let polled := bridged.step (Stream.calls T) (.poll request)
    { shared with
      stream := polled.world
      bridges := shared.bridges.set number ⟨some polled.bridge, polled.record⟩
      next := polled.next }
  | _ => shared

def dismiss (T : Transport S) (number : Nat) (shared : Shared S) : Shared S :=
  match shared.bridges[number]? with
  | some ⟨some bridge, record⟩ =>
    { shared with
      stream := bridge.dismiss (Stream.calls T) shared.stream
      bridges := shared.bridges.set number ⟨none, record⟩ }
  | _ => shared

def step (T : Transport S) (shared : Shared S) : Action S → Shared S
  | .begin demand =>
    { shared with calls := shared.calls ++ [(shared.next, .begin demand)], next := shared.next + 1 }
  | .poll number => shared.onCall (Call.poll T) number
  | .drop number => shared.onCall (Call.drop T) number
  | .span => { shared with bridges := shared.bridges ++ [{}] }
  | .ask number request => shared.ask T number request
  | .dismiss number => shared.dismiss T number
  | .change become =>
    { shared with stream := { shared.stream with world := become shared.stream.world } }

def run (T : Transport S) (shared : Shared S) (actions : List (Action S)) : Shared S :=
  actions.foldl (step T) shared

structure Honest (shared : Shared S) : Prop where
  calls : ∀ entry ∈ shared.calls, entry.2.Fills
  bridges : ∀ spanned ∈ shared.bridges, spanned.Honest

namespace Honest

variable {T : Transport S} {shared : Shared S} (honest : shared.Honest)
include honest

theorem after_call {act : Ticket → Stream S × Call S → Stream S × Call S}
    (keeps : ∀ ticket stream call, call.Fills → (act ticket (stream, call)).2.Fills)
    (number : Nat) : (shared.onCall act number).Honest := by
  unfold onCall
  split
  · exact honest
  · rename_i ticket call found
    have before := honest.calls _ (List.mem_of_getElem? found)
    refine ⟨?_, honest.bridges⟩
    intro entry member
    rcases List.mem_or_eq_of_mem_set member with old | rfl
    · exact honest.calls entry old
    · exact keeps ticket shared.stream call before

theorem bridges_honest {number : Nat} {spanned : Spanned S} (become : spanned.Honest) :
    ∀ other ∈ shared.bridges.set number spanned, other.Honest := by
  intro other member
  rcases List.mem_or_eq_of_mem_set member with old | rfl
  · exact honest.bridges other old
  · exact become

theorem after_poll (number : Nat) (request : Bridge.Request) :
    (shared.ask T number request).Honest := by
  unfold ask
  split
  · rename_i bridge record found
    obtain ⟨tells, asks⟩ := honest.bridges _ (List.mem_of_getElem? found)
    obtain ⟨still, told⟩ := Bridged.polled_honest (Stream.calls_fill T)
      ⟨bridge, shared.stream, record, shared.next⟩ ⟨asks bridge rfl, tells⟩ request
    refine ⟨honest.calls, honest.bridges_honest ⟨told, ?_⟩⟩
    rintro _ ⟨⟩
    exact still
  · exact honest

theorem after_dismissal (number : Nat) : (shared.dismiss T number).Honest := by
  unfold dismiss
  split
  · rename_i bridge record found
    have tells : ∀ deed ∈ record, deed.Fills :=
      (honest.bridges _ (List.mem_of_getElem? found)).tells
    refine ⟨honest.calls, honest.bridges_honest ⟨tells, ?_⟩⟩
    rintro _ ⟨⟩
  · exact honest

theorem after_step (action : Action S) : (shared.step T action).Honest := by
  cases action with
  | begin demand =>
    refine ⟨?_, honest.bridges⟩
    exact List.forall_mem_append.mpr
      ⟨honest.calls, List.forall_mem_singleton.mpr (Call.begin_fills demand)⟩
  | poll number =>
    exact honest.after_call (fun ticket stream _ => Call.poll_fills T ticket stream) number
  | drop number =>
    exact honest.after_call (fun ticket stream _ => Call.drop_fills T ticket stream) number
  | span =>
    refine ⟨honest.calls, ?_⟩
    exact List.forall_mem_append.mpr
      ⟨honest.bridges, List.forall_mem_singleton.mpr Spanned.new_honest⟩
  | ask number request => exact honest.after_poll number request
  | dismiss number => exact honest.after_dismissal number
  | change become => exact ⟨honest.calls, honest.bridges⟩

theorem after_run (actions : List (Action S)) : (shared.run T actions).Honest := by
  induction actions generalizing shared with
  | nil => exact honest
  | cons action later ih => exact ih (honest.after_step action)

end Honest

/-- Nobody takes a message's end for the end of the stream. However calls and bridges share a
stream, and whatever its connection does meanwhile: no read with room for a byte ends in success
with none, and no bridge polled with room for a byte answers that it has put none there. -/
theorem no_false_end (T : Transport S) (stream : Stream S) (actions : List (Action S)) :
    let shared := run T { stream } actions
    (∀ ticket room outcome, (ticket, .read room (.answered outcome)) ∈ shared.calls →
      room ≠ 0 → outcome.result ≠ .ok 0) ∧
    ∀ spanned ∈ shared.bridges, ∀ room data,
      .answered (.read room) (.bytes data) ∈ spanned.record → room ≠ 0 → data ≠ [] := by
  intro shared
  have start : Honest { stream } := ⟨List.forall_mem_nil _, List.forall_mem_nil _⟩
  have honest : shared.Honest := start.after_run actions
  constructor
  · intro ticket room outcome member
    exact honest.calls _ member
  · intro spanned place room data member
    exact (honest.bridges spanned place).tells _ member

/-- A read passes over an empty message and takes a byte of the next. A bridge then comes upon the
rest of it, and upon its end. -/
theorem no_false_end_empty_message :
    let shared := run (S := Scripted.signature) (Scripted.transport {})
      { stream := { state := .new {}, world := { inbound := [.ok [], .ok [97, 98]] } } }
      [.begin (.read 1), .poll 0, .span, .ask 0 (.read 2)]
    (0, .read 1 (.answered (.filled [97]))) ∈ shared.calls ∧
      (ReadOutcome.filled [97]).result ≠ .ok 0 ∧
      ∃ spanned ∈ shared.bridges, .answered (.read 2) (.bytes [98]) ∈ spanned.record ∧
        [98] ≠ ([] : Bytes) := by
  intro shared
  have read : shared.calls[0]? = some (0, .read 1 (.answered (.filled [97]))) := rfl
  have told : shared.bridges.map Spanned.record = [[.begun 1 (.read 2),
      .ended 1 (.read (.filled [98])), .answered (.read 2) (.bytes [98])]] := rfl
  obtain ⟨reads, polls⟩ := no_false_end (Scripted.transport {})
    { state := .new {}, world := { inbound := [.ok [], .ok [97, 98]] } }
    [.begin (.read 1), .poll 0, .span, .ask 0 (.read 2)]
  have called := List.mem_of_getElem? read
  obtain ⟨spanned, place, record⟩ := List.mem_map.mp (told ▸ List.mem_singleton_self _)
  have answered : .answered (.read 2) (.bytes [98]) ∈ spanned.record := by
    rw [record]
    exact .tail _ (.tail _ (.head _))
  exact ⟨called, reads _ _ _ called (by decide), spanned, place, answered,
    polls spanned place _ _ answered (by decide)⟩

end Shared

end MessageStream
