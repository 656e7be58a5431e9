import MessageStream.Proofs.Bridge.Coherence
import MessageStream.Transport.Scripted

/-!
Strict bridges. A strict bridge does what a bridge does, but breaks off where bytes would be copied
that are not there or find no room, where the failure of a settled write would come upon another one
kept, and where a poll for a write would find none in flight. As long as no read brings more bytes
than the buffer it was begun with holds, it never breaks off.
-/
namespace MessageStream

variable {World Reading Writing Closing : Type}

/-- Bytes copied from a place on into a buffer with so much room. They have to be there, and to
fit. -/
def copy? (source : Bytes) (start count room : Nat) : Option Bytes :=
  if start + count ≤ source.length ∧ count ≤ room then some ((source.drop start).take count)
  else none

theorem copy?_eq {source : Bytes} {start count room : Nat} (there : start + count ≤ source.length)
    (fits : count ≤ room) : copy? source start count room = some ((source.drop start).take count) :=
  if_pos ⟨there, fits⟩

/-- The buffer of a read begun with so much room: its bytes, and the zeros behind them. -/
def ReadOutcome.chunk (outcome : ReadOutcome) (asked : Nat) : Bytes :=
  (outcome.data ++ List.replicate asked 0).take asked

theorem ReadOutcome.chunk_length (outcome : ReadOutcome) (asked : Nat) :
    (outcome.chunk asked).length = asked := by
  rw [chunk, List.length_take, List.length_append, List.length_replicate]
  omega

theorem ReadOutcome.chunk_take {outcome : ReadOutcome} {asked count : Nat}
    (fits : outcome.data.length ≤ asked) (counted : count ≤ outcome.data.length) :
    (outcome.chunk asked).take count = outcome.data.take count := by
  rw [chunk, List.take_take, Nat.min_eq_left (Nat.le_trans counted fits),
    List.take_append_of_le_length counted]

namespace Bridge

def takeLeftover? (bridge : Bridge Reading Writing Closing) (room : Nat) :
    Option (Bridge Reading Writing Closing × Option Bytes) :=
  if bridge.leftover.length ≤ bridge.position then some (bridge, none)
  else
    let count := min (bridge.leftover.length - bridge.position) room
    (copy? bridge.leftover bridge.position count room).map fun handed =>
      let position := bridge.position + count
      if position = bridge.leftover.length then
        ({ bridge with leftover := [], position := 0 }, some handed)
      else ({ bridge with position }, some handed)

/-- Hands over what a read has brought in its buffer: so many bytes, from the front on. -/
def deliver? (bridge : Bridge Reading Writing Closing) (chunk : Bytes) (filled room : Nat) :
    Option (Bridge Reading Writing Closing × Bytes) :=
  let count := min filled room
  (copy? chunk 0 count room).map fun handed =>
    if count < filled then
      ({ bridge with leftover := chunk.take filled, position := count }, handed)
    else (bridge, handed)

def readDone? (bridge : Bridge Reading Writing Closing) (outcome : ReadOutcome) (asked room : Nat) :
    Option (Bridge Reading Writing Closing × Polled Bytes) :=
  let bridge := { bridge with reading := none }
  let handed (delivered : Bridge Reading Writing Closing × Bytes) :=
    (delivered.1, some (.ok delivered.2))
  match outcome.result with
  | .ok filled => (bridge.deliver? (outcome.chunk asked) filled room).map handed
  | .error error =>
    if 0 < error.transferred then
      ({ bridge with readFailure := some error.toFailure }.deliver? (outcome.chunk asked)
        error.transferred room).map handed
    else some (bridge, some (.error error.toFailure))

def pollRead? (calls : StreamCalls World Reading Writing Closing) (ticket : Ticket) (room : Nat)
    (bridge : Bridge Reading Writing Closing) (world : World) :
    Option ((Bridge Reading Writing Closing × World) × Polled Bytes) :=
  match bridge.takeLeftover? room with
  | none => none
  | some (bridge, some handed) => some ((bridge, world), some (.ok handed))
  | some (bridge, none) =>
    match bridge.readFailure with
    | some failure => some (({ bridge with readFailure := none }, world), some (.error failure))
    | none =>
      if room = 0 then some ((bridge, world), some (.ok []))
      else
        let call := bridge.reading.getD { ticket, request := room }
        match pollCall (calls.read call.request) call world with
        | (world, .waiting call) => some (({ bridge with reading := some call }, world), none)
        | (world, .ready outcome) =>
          (bridge.readDone? outcome call.request room).map fun done => ((done.1, world), done.2)

def settle? (calls : StreamCalls World Reading Writing Closing)
    (bridge : Bridge Reading Writing Closing) (world : World) :
    Option ((Bridge Reading Writing Closing × World) × Bool) :=
  match bridge.pollWriting calls world with
  | (state, .idle) => some (state, true)
  | (state, .waiting) => some (state, false)
  | (state, .done (.ok _)) => some (state, true)
  | ((bridge, world), .done (.error failure)) =>
    match bridge.writeFailure with
    | some _ => none
    | none => some (({ bridge with writeFailure := some failure }, world), true)

def pollWrite? (calls : StreamCalls World Reading Writing Closing) (ticket : Ticket) (data : Bytes)
    (bridge : Bridge Reading Writing Closing) (world : World) :
    Option ((Bridge Reading Writing Closing × World) × Polled Nat) :=
  let abandoned := bridge.inFlight.any fun given => given != data
  match if abandoned then bridge.settle? calls world else some ((bridge, world), true) with
  | none => none
  | some (state, false) => some (state, none)
  | some ((bridge, world), true) =>
    match bridge.beginWrite ticket data with
    | (bridge, some failure) => some ((bridge, world), some (.error failure))
    | (bridge, none) =>
      match bridge.pollWriting calls world with
      | (_, .idle) => none
      | (state, .waiting) => some (state, none)
      | (state, .done result) => some (state, some result)

def pollFlush? (calls : StreamCalls World Reading Writing Closing)
    (bridge : Bridge Reading Writing Closing) (world : World) :
    Option ((Bridge Reading Writing Closing × World) × Polled Unit) :=
  (bridge.settle? calls world).map fun _ => bridge.pollFlush calls world

def pollShutdown? (calls : StreamCalls World Reading Writing Closing) (ticket : Ticket)
    (bridge : Bridge Reading Writing Closing) (world : World) :
    Option ((Bridge Reading Writing Closing × World) × Polled Unit) :=
  (bridge.settle? calls world).map fun _ => bridge.pollShutdown calls ticket world

section Reads

variable (bridge : Bridge Reading Writing Closing)

theorem takeLeftover?_eq (room : Nat) :
    bridge.takeLeftover? room = some (bridge.takeLeftover room) := by
  unfold takeLeftover? takeLeftover
  split
  · rfl
  · rename_i more
    dsimp only
    have there : bridge.position + min (bridge.leftover.length - bridge.position) room ≤
        bridge.leftover.length := by omega
    rw [copy?_eq there (Nat.min_le_right _ _), Option.map_some]

theorem deliver?_eq (room : Nat) {outcome : ReadOutcome} {asked : Nat}
    (fits : outcome.data.length ≤ asked) :
    bridge.deliver? (outcome.chunk asked) outcome.data.length room =
      some (bridge.deliver outcome.data room) := by
  have counted : min outcome.data.length room ≤ outcome.data.length := Nat.min_le_left _ _
  have there : 0 + min outcome.data.length room ≤ (outcome.chunk asked).length := by
    rw [outcome.chunk_length]
    omega
  unfold deliver? deliver
  dsimp only
  rw [copy?_eq there (Nat.min_le_right _ _), Option.map_some, List.drop_zero,
    ReadOutcome.chunk_take fits counted, ReadOutcome.chunk_take fits (Nat.le_refl _),
    List.take_length]

theorem readDone?_eq (room : Nat) {outcome : ReadOutcome} {asked : Nat}
    (fits : outcome.data.length ≤ asked) :
    bridge.readDone? outcome asked room = some (bridge.readDone outcome room) := by
  have delivers (after : Bridge Reading Writing Closing) :=
    congrArg (Option.map fun delivered => (delivered.1, (some (.ok delivered.2) : Polled Bytes)))
      (after.deliver?_eq room fits)
  unfold readDone? readDone
  cases outcome with
  | filled data => exact delivers _
  | closed => rfl
  | broken data source =>
    by_cases moved : 0 < data.length
    · simp only [ReadOutcome.result, StreamError.transferred, moved, ↓reduceIte]
      exact delivers _
    · simp only [ReadOutcome.result, StreamError.transferred, moved, ↓reduceIte]

/-- A read that ends in this poll is the only thing that could make it break off. -/
theorem pollRead?_eq (calls : StreamCalls World Reading Writing Closing) (ticket : Ticket)
    (room : Nat) (world : World)
    (fits : ∀ call later outcome, call = bridge.reading.getD { ticket, request := room } →
      (calls.read call.request).poll call.ticket call.stage world = (later, .ready outcome) →
      (bridge.pollRead calls ticket room world).1.2 = later →
      outcome.data.length ≤ call.request) :
    bridge.pollRead? calls ticket room world = some (bridge.pollRead calls ticket room world) := by
  -- Both polls take the same turns, down to the end of the read.
  unfold pollRead at fits
  unfold pollRead? pollRead
  rw [takeLeftover?_eq]
  generalize takenAs : bridge.takeLeftover room = taken at fits ⊢
  obtain ⟨after, _ | handed⟩ := taken
  · obtain ⟨rfl, spent⟩ := takeLeftover_none takenAs
    dsimp only at fits ⊢
    cases stored : after.readFailure with
    | some failure => rfl
    | none =>
      rw [stored] at fits
      dsimp only at fits ⊢
      by_cases roomless : room = 0
      · rw [if_pos roomless, if_pos roomless]
      · rw [if_neg roomless] at fits
        rw [if_neg roomless, if_neg roomless]
        simp only [pollCall] at fits ⊢
        generalize asks : after.reading.getD { ticket, request := room } = call at fits ⊢
        rcases polled : (calls.read call.request).poll call.ticket call.stage world with
          ⟨later, stage | outcome⟩
        · rfl
        · have small := fits call later outcome rfl polled (by rw [polled]; rfl)
          dsimp only [Progress.mapStage]
          rw [readDone?_eq _ room small]
          rfl
  · rfl

end Reads

section Writes

variable (calls : StreamCalls World Reading Writing Closing)
  {bridge : Bridge Reading Writing Closing} (order : bridge.InOrder) (world : World)
include order

theorem settle?_eq : bridge.settle? calls world = some (bridge.settle calls world) := by
  have polls := pollWriting_polls calls bridge order.clean world
  unfold settle? settle
  generalize bridge.pollWriting calls world = result at polls ⊢
  obtain ⟨⟨after, later⟩, progress⟩ := result
  dsimp only at polls
  cases polls with
  | idles free => rfl
  | waits under polled => rfl
  | @ends call _ outcome under polled =>
    cases answer : outcome.told with
    | ok count => rfl
    | error failure =>
      dsimp only
      rw [(WriteOutcome.told_error answer).2]
      rfl

theorem pollFlush?_eq : bridge.pollFlush? calls world = some (bridge.pollFlush calls world) := by
  rw [pollFlush?, settle?_eq calls order, Option.map_some]

theorem pollShutdown?_eq (ticket : Ticket) :
    bridge.pollShutdown? calls ticket world = some (bridge.pollShutdown calls ticket world) := by
  rw [pollShutdown?, settle?_eq calls order, Option.map_some]

end Writes

theorem beginWrite_going {bridge after : Bridge Reading Writing Closing} {ticket : Ticket}
    {data : Bytes} (begun : bridge.beginWrite ticket data = (after, none)) :
    after.writing.isSome := by
  unfold beginWrite at begun
  split at begun
  · rename_i going
    cases begun
    exact going
  · split at begun
    · cases begun
    · cases begun
      rfl

theorem pollWriting_going (calls : StreamCalls World Reading Writing Closing)
    {bridge : Bridge Reading Writing Closing} (going : bridge.writing.isSome) (world : World) :
    (bridge.pollWriting calls world).2 ≠ .idle := by
  obtain ⟨call, under⟩ := Option.isSome_iff_exists.mp going
  unfold pollWriting
  rw [under]
  dsimp only
  split <;> exact nofun

theorem pollWrite?_eq (calls : StreamCalls World Reading Writing Closing)
    {bridge : Bridge Reading Writing Closing} (order : bridge.InOrder) (world : World)
    (ticket : Ticket) (data : Bytes) :
    bridge.pollWrite? calls ticket data world =
      some (bridge.pollWrite calls ticket data world) := by
  have way : (if bridge.inFlight.any fun given => given != data then bridge.settle? calls world
      else some ((bridge, world), true)) = some (if bridge.inFlight.any fun given => given != data
        then bridge.settle calls world else ((bridge, world), true)) := by
    split
    · exact settle?_eq calls order world
    · rfl
  unfold pollWrite? pollWrite
  dsimp only
  rw [way]
  generalize (if bridge.inFlight.any fun given => given != data then bridge.settle calls world
    else ((bridge, world), true)) = result
  obtain ⟨⟨free, later⟩, _ | _⟩ := result
  · rfl
  · dsimp only
    rcases begun : free.beginWrite ticket data with ⟨next, _ | failure⟩
    · have polled := pollWriting_going calls (beginWrite_going begun) later
      dsimp only
      generalize next.pollWriting calls later = result at polled ⊢
      obtain ⟨state, progress⟩ := result
      cases progress with
      | idle => exact absurd rfl polled
      | waiting => rfl
      | done result => rfl
    · rfl

end Bridge

namespace Bridged

def poll? (calls : StreamCalls World Reading Writing Closing)
    (bridged : Bridged World Reading Writing Closing) :
    Bridge.Request →
      Option ((Bridge Reading Writing Closing × World × List Bridge.Deed) × Bridge.Answer)
  | .read room =>
    (bridged.bridge.pollRead? calls.recorded bridged.next room
      (bridged.world, bridged.record)).map (Prod.map id (.of .bytes))
  | .write data =>
    (bridged.bridge.pollWrite? calls.recorded bridged.next data
      (bridged.world, bridged.record)).map (Prod.map id (.of .count))
  | .flush =>
    (bridged.bridge.pollFlush? calls.recorded (bridged.world, bridged.record)).map
      (Prod.map id (.of fun () => .done))
  | .shutdown =>
    (bridged.bridge.pollShutdown? calls.recorded bridged.next
      (bridged.world, bridged.record)).map (Prod.map id (.of fun () => .done))

def step? (calls : StreamCalls World Reading Writing Closing)
    (bridged : Bridged World Reading Writing Closing) :
    Action World → Option (Bridged World Reading Writing Closing)
  | .poll request =>
    (bridged.poll? calls request).map fun polled =>
      { bridge := polled.1.1
        world := polled.1.2.1
        record := polled.1.2.2 ++ [.answered request polled.2]
        next := bridged.next + 1 }
  | .change become => some { bridged with world := become bridged.world }

/-- A run that breaks off in the first poll that does. -/
def run? (calls : StreamCalls World Reading Writing Closing)
    (bridged : Bridged World Reading Writing Closing) (actions : List (Action World)) :
    Option (Bridged World Reading Writing Closing) :=
  actions.foldlM (step? calls) bridged

end Bridged

namespace Bridge

/-- No read in the record has brought more bytes than there was room for in its buffer. -/
def Deed.Fit (record : List Deed) : Prop :=
  ∀ ticket room outcome, .begun ticket (.read room) ∈ record →
    .ended ticket (.read outcome) ∈ record → outcome.data.length ≤ room

def Deed.covers : Deed → Deed → Bool
  | begun ticket (.read room), ended other (.read outcome) =>
    ticket != other || outcome.data.length ≤ room
  | _, _ => true

theorem Deed.fit_iff_all {record : List Deed} :
    Fit record ↔ (record.all fun begun => record.all begun.covers) = true := by
  simp only [List.all_eq_true]
  constructor
  · intro fit begun first ended last
    unfold covers
    split
    · rename_i ticket room other outcome
      by_cases same : ticket = other
      · subst same
        simpa using fit ticket room outcome first last
      · simp [same]
    · rfl
  · intro all ticket room outcome first last
    simpa [covers] using all _ first _ last

instance (record : List Deed) : Decidable (Deed.Fit record) :=
  decidable_of_iff _ Deed.fit_iff_all.symm

theorem Deed.Fit.mono {record grown : List Deed} (fit : Fit grown)
    (kept : ∀ deed ∈ record, deed ∈ grown) : Fit record :=
  fun ticket room outcome begun ended => fit ticket room outcome (kept _ begun) (kept _ ended)

def Noted (bridge : Bridge Reading Writing Closing) (record : List Deed) : Prop :=
  ∀ call, bridge.reading = some call → .begun call.ticket (.read call.request) ∈ record

variable {calls : StreamCalls World Reading Writing Closing}
  {bridge after : Bridge Reading Writing Closing} {world later : World} {record grown : List Deed}

theorem Noted.begun_mem (noted : bridge.Noted record) {ticket : Ticket} {room : Nat}
    {call : InFlight Nat Reading} (asks : call = bridge.reading.getD { ticket, request := room })
    {progress : Progress Reading ReadOutcome}
    (polled : (calls.recorded.read call.request).poll call.ticket call.stage (world, record) =
      ((later, grown), progress)) :
    .begun call.ticket (.read call.request) ∈ grown := by
  rw [StreamCalls.noted_adds polled]
  cases under : bridge.reading with
  | none =>
    rw [under] at asks
    subst asks
    exact List.mem_append_right _ (.head _)
  | some going =>
    rw [under] at asks
    subst asks
    exact List.mem_append_left _ (noted call under)

theorem ended_noted {call : InFlight Nat Reading} {outcome : ReadOutcome}
    (polled : (calls.recorded.read call.request).poll call.ticket call.stage (world, record) =
      ((later, grown), .ready outcome)) : .ended call.ticket (.read outcome) ∈ grown := by
  rw [StreamCalls.noted_adds polled]
  exact List.mem_append_right _ (List.mem_append_right _ (.head _))

theorem ReadPoll.record_grows {ticket : Ticket} {room : Nat} {polled : Polled Bytes}
    (polls : ReadPoll calls.recorded ticket room bridge (world, record) after (later, grown)
      polled) : ∃ deeds, grown = record ++ deeds := by
  cases polls with
  | waits spent clean roomy asks polled => exact ⟨_, StreamCalls.noted_adds polled⟩
  | ends spent clean roomy asks polled => exact ⟨_, StreamCalls.noted_adds polled⟩
  | _ => exact ⟨[], (List.append_nil _).symm⟩

theorem ReadPoll.noted {ticket : Ticket} {room : Nat} {polled : Polled Bytes}
    (polls : ReadPoll calls.recorded ticket room bridge (world, record) after (later, grown) polled)
    (noted : bridge.Noted record) : after.Noted grown := by
  cases polls with
  | surplus taken =>
    rw [(takeLeftover_some taken).2.2]
    exact noted
  | reports spent stored => exact noted
  | idles spent clean roomless => exact noted
  | waits spent clean roomy asks polled =>
    have begun := noted.begun_mem asks polled
    rintro _ ⟨⟩
    exact begun
  | ends spent clean roomy asks polled =>
    intro call under
    rw [bridge.readDone_reading] at under
    cases under

theorem Noted.append_deeds (noted : bridge.Noted record) (deeds : List Deed) :
    bridge.Noted (record ++ deeds) :=
  fun call under => List.mem_append_left deeds (noted call under)

theorem Aside.noted {before last : Bridge Reading Writing Closing × World × List Deed}
    (aside : Aside before last) (noted : before.1.Noted before.2.2) : last.1.Noted last.2.2 := by
  obtain ⟨deeds, added, -⟩ := aside.record
  rw [added, Noted, aside.reading]
  exact noted.append_deeds deeds

end Bridge

namespace Bridged

open Bridge (Tended Stocked Noted Deed)

structure Steady (bridged : Bridged World Reading Writing Closing) : Prop where
  tended : Tended bridged.bridge bridged.record bridged.next
  stocked : bridged.bridge.Stocked
  noted : bridged.bridge.Noted bridged.record

variable {calls : StreamCalls World Reading Writing Closing}
  {bridged : Bridged World Reading Writing Closing}

theorem step_grows (calls : StreamCalls World Reading Writing Closing)
    (bridged : Bridged World Reading Writing Closing) (action : Action World) :
    ∃ deeds, (bridged.step calls action).record = bridged.record ++ deeds := by
  cases action with
  | change become => exact ⟨[], (List.append_nil _).symm⟩
  | poll request =>
    have grown : ∃ deeds, (bridged.poll calls request).1.2.2 = bridged.record ++ deeds := by
      rcases poll_reads_or_aside calls bridged request with ⟨room, result, polls⟩ | aside
      · exact polls.record_grows
      · exact aside.record.imp fun _ added => added.1
    obtain ⟨deeds, grown⟩ := grown
    exact ⟨_, (congrArg (· ++ _) grown).trans (List.append_assoc ..)⟩

theorem Steady.after_step (steady : bridged.Steady) (action : Action World) :
    (bridged.step calls action).Steady := by
  refine ⟨tended_step steady.tended action, stocked_step steady.stocked action, ?_⟩
  cases action with
  | change become => exact steady.noted
  | poll request =>
    rcases poll_reads_or_aside calls bridged request with ⟨room, result, polls⟩ | aside
    · exact (polls.noted steady.noted).append_deeds _
    · exact (aside.noted steady.noted).append_deeds _

theorem step?_eq (steady : bridged.Steady) (action : Action World)
    (fit : Deed.Fit (bridged.step calls action).record) :
    bridged.step? calls action = some (bridged.step calls action) := by
  have order := steady.tended.order
  cases action with
  | change become => rfl
  | poll request =>
    have polled : bridged.poll? calls request = some (bridged.poll calls request) := by
      cases request with
      | read room =>
        refine congrArg (Option.map _) (Bridge.pollRead?_eq _ _ _ _ _ ?_)
        rintro call ⟨later, grown⟩ outcome asks polled last
        have recorded : (bridged.step calls (.poll (.read room))).record = grown ++ _ :=
          congrArg (·.2 ++ _) last
        rw [recorded] at fit
        exact fit _ _ _ (List.mem_append_left _ (steady.noted.begun_mem asks polled))
          (List.mem_append_left _ (Bridge.ended_noted polled))
      | write data => exact congrArg (Option.map _) (Bridge.pollWrite?_eq _ order _ _ _)
      | flush => exact congrArg (Option.map _) (Bridge.pollFlush?_eq _ order _)
      | shutdown => exact congrArg (Option.map _) (Bridge.pollShutdown?_eq _ order _ _)
    rw [step?, polled]
    rfl

theorem run_grows (calls : StreamCalls World Reading Writing Closing)
    (bridged : Bridged World Reading Writing Closing) (actions : List (Action World)) :
    ∀ deed ∈ bridged.record, deed ∈ (bridged.run calls actions).record := by
  intro deed member
  refine run_keeps calls (fun bridged => deed ∈ bridged.record) ?_ bridged actions member
  intro bridged action member
  obtain ⟨deeds, grown⟩ := bridged.step_grows calls action
  rw [grown]
  exact List.mem_append_left deeds member

theorem run?_eq (steady : bridged.Steady) (actions : List (Action World))
    (fit : Deed.Fit (bridged.run calls actions).record) :
    bridged.run? calls actions = some (bridged.run calls actions) := by
  induction actions generalizing bridged with
  | nil => rfl
  | cons action later ih =>
    -- What the whole run has recorded covers what this step has.
    have first : bridged.step? calls action = some (bridged.step calls action) :=
      step?_eq steady action (fit.mono (run_grows calls (bridged.step calls action) later))
    have rest := ih (steady.after_step action) fit
    rw [run?, List.foldlM_cons, first]
    exact rest

/-- The fields of a bridge agree with each other, however it has been polled and whatever its calls
have come to. And if no read has brought more bytes than there was room for in its buffer, then no
poll has copied bytes that were not there, kept one failure of a write beside another, or found no
write to poll after it had begun one. -/
theorem run_strict (calls : StreamCalls World Reading Writing Closing) (world : World)
    (actions : List (Action World)) :
    let bridged := run calls { world } actions
    bridged.bridge.Coherent ∧
      (Deed.Fit bridged.record → run? calls { world } actions = some bridged) := by
  have start : Steady ({ world } : Bridged World Reading Writing Closing) :=
    ⟨start_tended 0, start_stocked, nofun⟩
  have steady : Steady (run calls { world } actions) :=
    run_keeps calls Steady (fun _ action steady => steady.after_step action) _ _ start
  exact ⟨steady.stocked.coherent_of_order steady.tended.order, run?_eq start actions⟩

/-- A read begun for four bytes is handed over to a poll with room for one. A write is abandoned,
fails after three bytes, and its failure goes to the poll that has settled it. -/
theorem run_strict_abandoned :
    let calls := Stream.calls
      (Scripted.transport { readerGate := some 0, writeGate := some 1, writeLimit := some 3 })
    let world : Stream Scripted.signature :=
      { state := .new {}, world := { inbound := [.ok [1, 2, 3, 4, 5]] } }
    let opens (gate : Nat) : Action (Stream Scripted.signature) := .change fun stream =>
      { stream with world := { stream.world with gates := stream.world.gates.notify gate } }
    let actions := [.poll (.read 4), opens 0, .poll (.read 1), .poll (.write [7, 8, 9, 10]),
      opens 1, .poll (.write [5]), opens 1, .poll (.write [5])]
    let bridged := run calls { world } actions
    bridged.bridge.leftover = [1, 2, 3, 4] ∧ bridged.bridge.position = 1 ∧
      bridged.bridge.Coherent ∧ Deed.Fit bridged.record ∧
      run? calls { world } actions = some bridged := by
  intro calls world opens actions bridged
  have fit : Deed.Fit bridged.record := by decide +kernel
  obtain ⟨coherent, strict⟩ := run_strict calls world actions
  exact ⟨by decide +kernel, by decide +kernel, coherent, fit, strict fit⟩

/-- A read begun with room for one byte brings two, and the poll it ends in has room for them. -/
example :
    let brings : Operation Unit Unit ReadOutcome :=
      { poll := fun _ stage world =>
          (world, if stage.isSome then .ready (.filled [1, 2]) else .waiting ())
        cancel := fun _ _ world => world }
    let rests (Value : Type) : Operation Unit Unit Value :=
      { poll := fun _ _ world => (world, .waiting ()), cancel := fun _ _ world => world }
    let calls : StreamCalls Unit Unit Unit Unit :=
      { read := fun _ => brings, write := fun _ => rests _, close := rests _ }
    (run? calls { world := () } [.poll (.read 1), .poll (.read 2)]).isNone := rfl

end Bridged

end MessageStream
