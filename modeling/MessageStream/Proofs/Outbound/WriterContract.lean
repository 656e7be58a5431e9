import Mathlib.Data.List.Induction
import MessageStream.Proofs.Outbound.ScriptedWrite
import MessageStream.Proofs.Usage.Turns
import MessageStream.Transport.Pair

/-!
What writers promise. Calls are made on one writer, each driven to its end before the next, while
the world may change between two polls in any way. Every poll is entered in a log, with the messages
that had been emitted before it and those emitted after it. A writer takes bytes until it is
finished, emits its message in the first finish or not at all, and refuses everything after that.

The promise is made to callers who know neither kind of connection, so it is stated once, and both
kinds of writer are shown to keep it.
-/
namespace MessageStream

/-- Where the message of a writer goes: what has been emitted there, and whether it is open. -/
structure Outlet (World : Type) where
  emitted : World → List Message
  opens : World → Bool

namespace Drafting

inductive Request where
  | write (data : Bytes)
  | finish
  deriving DecidableEq, Repr

inductive Call (S : Signature) where
  | write (data : Bytes) (stage : Option S.Writing)
  | finish (stage : Option S.Finishing)

inductive Note where
  | waited
  | wrote (data : Bytes) (answer : Except Failure Nat)
  | finished (answer : Except Failure Unit)
  deriving DecidableEq

/-- A poll of a call: whether the outlet was open, and what had been emitted before and after. -/
structure Entry where
  note : Note
  opened : Bool
  before : List Message
  after : List Message

def Request.call {S : Signature} : Request → Call S
  | write data => .write data none
  | finish => .finish none

def Call.left {S : Signature} {Stage Answer : Type} (waits : Stage → Call S) :
    Progress Stage Answer → Option (Call S)
  | .waiting stage => some (waits stage)
  | .ready _ => none

def Note.ofWrite {Stage : Type} (data : Bytes) : Progress Stage (Except Failure Nat) → Note
  | .waiting _ => waited
  | .ready answer => wrote data answer

def Note.ofFinish {Stage : Type} : Progress Stage (Except Failure Unit) → Note
  | .waiting _ => waited
  | .ready answer => finished answer

def Note.accepted : Note → Bytes
  | wrote data (.ok count) => data.take count
  | _ => []

def Note.finishes : Note → Bool
  | finished _ => true
  | _ => false

def accepted (log : List Entry) : Bytes := log.flatMap fun entry => entry.note.accepted

def concluded (log : List Entry) : Bool := log.any fun entry => entry.note.finishes

def Entry.emitted (entry : Entry) : List Message := entry.after.drop entry.before.length

end Drafting

structure Drafting (S : Signature) where
  writer : S.Writer
  world : S.World
  call : Option (Drafting.Call S) := none
  log : List Drafting.Entry := []
  ticket : Ticket := 0

namespace Drafting

inductive Action (World : Type) where
  | begin (request : Request)
  | poll
  | change (become : World → World)

section Run

variable {S : Signature} (T : Transport S) (outlet : Outlet S.World)

def entry (world later : S.World) (note : Note) : Entry :=
  ⟨note, outlet.opens world, outlet.emitted world, outlet.emitted later⟩

def poll (drafting : Drafting S) : Drafting S :=
  match drafting.call with
  | none => drafting
  | some (.write data stage) =>
    let polled := (T.write data).poll drafting.ticket stage (drafting.writer, drafting.world)
    { drafting with
      writer := polled.1.1
      world := polled.1.2
      call := Call.left (fun stage => .write data (some stage)) polled.2
      log := drafting.log ++ [entry outlet drafting.world polled.1.2 (.ofWrite data polled.2)] }
  | some (.finish stage) =>
    let polled := T.finish.poll drafting.ticket stage (drafting.writer, drafting.world)
    { drafting with
      writer := polled.1.1
      world := polled.1.2
      call := Call.left (fun stage => .finish (some stage)) polled.2
      log := drafting.log ++ [entry outlet drafting.world polled.1.2 (.ofFinish polled.2)] }

def step (drafting : Drafting S) : Action S.World → Drafting S
  | .begin request =>
    if drafting.call.isSome then drafting
    else { drafting with call := some request.call, ticket := drafting.ticket + 1 }
  | .poll => drafting.poll T outlet
  | .change become => { drafting with world := become drafting.world }

def run (drafting : Drafting S) (actions : List (Action S.World)) : Drafting S :=
  actions.foldl (step T outlet) drafting

end Run

def refusal : Failure := .withText .other "message already finalized"

/-- The promise of a writer of the given kind. How many bytes of a buffer it takes is said by how
many it has taken before and how many it is offered. -/
structure Promise where
  kind : MessageKind
  takes : Nat → Nat → Nat
  waits : Bool

/-- The entry is as promised, behind earlier ones by which these bytes have been accepted and the
writer is finished or not. A poll that waits emits nothing, nor does a write; nor does a finish,
unless it is the first and succeeds, which it does just if the outlet is open. -/
def Promise.Kept (promise : Promise) (taken : Bytes) (closed : Bool) (entry : Entry) : Prop :=
  match entry.note with
  | .waited => promise.waits = true ∧ entry.after = entry.before
  | .wrote data answer =>
    entry.after = entry.before ∧
      answer = if closed then .error refusal else .ok (promise.takes taken.length data.length)
  | .finished answer =>
    if closed then answer = .error refusal ∧ entry.after = entry.before
    else if entry.opened then
      answer = .ok () ∧ entry.after = entry.before ++ [⟨promise.kind, taken⟩]
    else (∃ failure, answer = .error failure) ∧ entry.after = entry.before

def Promise.Honoured (promise : Promise) (log : List Entry) : Prop :=
  ∀ earlier entry later, log = earlier ++ entry :: later →
    promise.Kept (accepted earlier) (concluded earlier) entry

section Log

variable {promise : Promise} {log : List Entry} {entry : Entry} {taken : Bytes} {closed : Bool}

theorem accepted_snoc (log : List Entry) (entry : Entry) :
    accepted (log ++ [entry]) = accepted log ++ entry.note.accepted := by
  simp [accepted]

theorem concluded_snoc (log : List Entry) (entry : Entry) :
    concluded (log ++ [entry]) = (concluded log || entry.note.finishes) := by
  simp [concluded]

theorem Promise.honoured_nil : promise.Honoured [] := by
  intro earlier entry later split
  cases earlier <;> cases split

theorem Promise.honoured_snoc :
    promise.Honoured (log ++ [entry]) ↔
      promise.Honoured log ∧ promise.Kept (accepted log) (concluded log) entry := by
  constructor
  · intro honoured
    refine ⟨?_, honoured log entry [] rfl⟩
    rintro earlier other later rfl
    exact honoured earlier other (later ++ [entry]) (by simp)
  · rintro ⟨honoured, kept⟩ earlier other later split
    rcases split_snoc split with ⟨rest, there, -⟩ | ⟨rfl, rfl, -⟩
    · exact honoured earlier other rest there
    · exact kept

theorem Entry.emitted_silent (silent : entry.after = entry.before) : entry.emitted = [] := by
  rw [emitted, silent, List.drop_length]

theorem Entry.emitted_append {messages : List Message}
    (more : entry.after = entry.before ++ messages) : entry.emitted = messages := by
  rw [emitted, more, List.drop_left]

theorem Promise.Kept.emits_or_silent (kept : promise.Kept taken closed entry) :
    entry.emitted = [] ∨
      closed = false ∧ entry.note.finishes = true ∧ entry.emitted = [⟨promise.kind, taken⟩] := by
  unfold Promise.Kept at kept
  split at kept
  · exact .inl (Entry.emitted_silent kept.2)
  · exact .inl (Entry.emitted_silent kept.1)
  · rename_i answer noted
    split at kept
    · exact .inl (Entry.emitted_silent kept.2)
    · rename_i unfinished
      split at kept
      · refine .inr ⟨Bool.eq_false_iff.mpr unfinished, ?_, Entry.emitted_append kept.2⟩
        rw [noted]
        rfl
      · exact .inl (Entry.emitted_silent kept.2)

theorem Promise.Kept.accepted_le (kept : promise.Kept taken closed entry) :
    entry.note.accepted = [] ∨
      ∃ offered, entry.note.accepted.length ≤ promise.takes taken.length offered := by
  unfold Promise.Kept at kept
  split at kept
  · rename_i noted
    exact .inl (by rw [noted]; rfl)
  · rename_i data answer noted
    rw [noted, kept.2]
    split
    · exact .inl rfl
    · exact .inr ⟨data.length, List.length_take_le _ _⟩
  · rename_i noted
    exact .inl (by rw [noted]; rfl)

theorem Promise.Honoured.emits_once (honoured : promise.Honoured log) :
    (log.flatMap Entry.emitted).length ≤ 1 ∧
      (concluded log = false → log.flatMap Entry.emitted = []) := by
  induction log using List.reverseRecOn with
  | nil => exact ⟨Nat.zero_le 1, fun _ => rfl⟩
  | append_singleton log entry ih =>
    obtain ⟨before, kept⟩ := Promise.honoured_snoc.mp honoured
    obtain ⟨once, none⟩ := ih before
    have all : (log ++ [entry]).flatMap Entry.emitted =
        log.flatMap Entry.emitted ++ entry.emitted := by simp
    rw [all, concluded_snoc]
    rcases kept.emits_or_silent with silent | ⟨unfinished, finishes, sent⟩
    · rw [silent, List.append_nil]
      exact ⟨once, fun unfinished => none (Bool.or_eq_false_iff.mp unfinished).1⟩
    · -- It is the first finish, so nothing has been emitted before.
      rw [none unfinished, sent, finishes]
      exact ⟨Nat.le_refl 1, by simp⟩

theorem Promise.Honoured.within_limit {limit : Nat} (honoured : promise.Honoured log)
    (bounded : ∀ taken offered, promise.takes taken offered ≤ limit - taken) :
    (accepted log).length ≤ limit := by
  induction log using List.reverseRecOn with
  | nil => exact Nat.zero_le limit
  | append_singleton log entry ih =>
    obtain ⟨before, kept⟩ := Promise.honoured_snoc.mp honoured
    have within := ih before
    rw [accepted_snoc, List.length_append]
    rcases kept.accepted_le with nothing | ⟨offered, taken⟩
    · rw [nothing]
      exact within
    · have most := bounded (accepted log).length offered
      omega

end Log

section Keeping

variable {S : Signature} (outlet : Outlet S.World) (promise : Promise)
  (holds : S.Writer → Bytes → Bool → Prop)

/-- The writers of the transport keep the promise in every poll, as long as they hold what they
have accepted and whether they are finished, and then they still do. -/
structure Adheres (T : Transport S) : Prop where
  write : ∀ {writer taken closed}, holds writer taken closed → ∀ data ticket stage world,
    let polled := (T.write data).poll ticket stage (writer, world)
    let note := Note.ofWrite data polled.2
    promise.Kept taken closed (entry outlet world polled.1.2 note) ∧
      holds polled.1.1 (taken ++ note.accepted) closed
  finish : ∀ {writer taken closed}, holds writer taken closed → ∀ ticket stage world,
    let polled := T.finish.poll ticket stage (writer, world)
    let note := Note.ofFinish polled.2
    promise.Kept taken closed (entry outlet world polled.1.2 note) ∧
      holds polled.1.1 taken (closed || note.finishes)

structure Sound (drafting : Drafting S) : Prop where
  holds : holds drafting.writer (accepted drafting.log) (concluded drafting.log)
  honoured : promise.Honoured drafting.log

variable {outlet promise holds} {T : Transport S} {drafting : Drafting S}

theorem Promise.kept_emits {taken : Bytes} {world later : S.World}
    (opened : outlet.opens world = true)
    (sent : outlet.emitted later = outlet.emitted world ++ [⟨promise.kind, taken⟩]) :
    promise.Kept taken false (entry outlet world later (.finished (.ok ()))) := by
  simp only [Promise.Kept, entry, Bool.false_eq_true, ↓reduceIte, opened]
  exact ⟨trivial, sent⟩

theorem Promise.kept_fails {taken : Bytes} {world later : S.World} {failure : Failure}
    (shut : outlet.opens world = false) (silent : outlet.emitted later = outlet.emitted world) :
    promise.Kept taken false (entry outlet world later (.finished (.error failure))) := by
  simp only [Promise.Kept, entry, Bool.false_eq_true, ↓reduceIte, shut]
  exact ⟨⟨failure, rfl⟩, silent⟩

theorem Note.ofWrite_finishes {Stage : Type} (data : Bytes)
    (progress : Progress Stage (Except Failure Nat)) :
    (ofWrite data progress).finishes = false := by
  cases progress <;> rfl

theorem Note.ofFinish_accepted {Stage : Type} (progress : Progress Stage (Except Failure Unit)) :
    (ofFinish progress).accepted = [] := by
  cases progress <;> rfl

theorem Sound.after_poll (adheres : Adheres outlet promise holds T)
    (sound : Sound promise holds drafting) : Sound promise holds (drafting.poll T outlet) := by
  obtain ⟨held, honoured⟩ := sound
  unfold Drafting.poll
  split
  · exact ⟨held, honoured⟩
  · rename_i data stage _
    obtain ⟨kept, holding⟩ := adheres.write held data drafting.ticket stage drafting.world
    refine ⟨?_, Promise.honoured_snoc.mpr ⟨honoured, kept⟩⟩
    rw [accepted_snoc, concluded_snoc, entry, Note.ofWrite_finishes, Bool.or_false]
    exact holding
  · rename_i stage _
    obtain ⟨kept, holding⟩ := adheres.finish held drafting.ticket stage drafting.world
    refine ⟨?_, Promise.honoured_snoc.mpr ⟨honoured, kept⟩⟩
    rw [accepted_snoc, concluded_snoc, entry, Note.ofFinish_accepted, List.append_nil]
    exact holding

theorem Sound.after_step (adheres : Adheres outlet promise holds T)
    (sound : Sound promise holds drafting) (action : Action S.World) :
    Sound promise holds (drafting.step T outlet action) := by
  cases action with
  | begin request =>
    unfold Drafting.step
    dsimp only
    split
    · exact sound
    · exact ⟨sound.holds, sound.honoured⟩
  | poll => exact sound.after_poll adheres
  | change become => exact ⟨sound.holds, sound.honoured⟩

theorem Adheres.run_honoured (adheres : Adheres outlet promise holds T) {writer : S.Writer}
    (fresh : holds writer [] false) (world : S.World) (actions : List (Action S.World)) :
    promise.Honoured (run T outlet { writer, world } actions).log := by
  have start : Sound promise holds ({ writer, world } : Drafting S) :=
    ⟨fresh, Promise.honoured_nil⟩
  suffices sound : Sound promise holds (run T outlet { writer, world } actions) from sound.honoured
  generalize ({ writer, world } : Drafting S) = drafting at start
  induction actions generalizing drafting with
  | nil => exact start
  | cons action later ih => exact ih _ (start.after_step adheres action)

end Keeping

end Drafting

open Drafting (Promise Adheres)

namespace Scripted

/-- Messages go to the record of those sent, unless finishing is set to fail. -/
def outlet (setup : Setup) : Outlet World where
  emitted := World.sent
  opens _ := !setup.failFinish

/-- A scripted writer takes the least of what it is offered, what one write may take and what is
left of the limit. Its writes wait at the gate, if there is one. -/
def promise (setup : Setup) (kind : MessageKind) : Promise where
  kind
  takes taken offered :=
    (setup.writeChunk.toList ++ (setup.writeLimit.map (· - taken)).toList).foldl min offered
  waits := setup.writeGate.isSome

structure Writer.Holds (kind : MessageKind) (writer : Writer) (taken : Bytes) (closed : Bool) :
    Prop where
  kind : writer.kind = kind
  finished : writer.finished = closed
  payload : closed = true ∨ writer.payload = taken

theorem accepts_promised (setup : Setup) (kind : MessageKind) (writer : Writer) (offered : Nat) :
    accepts setup writer offered = (promise setup kind).takes writer.payload.length offered := by
  unfold accepts promise bounded
  cases setup.writeChunk <;> cases setup.writeLimit <;> simp
  omega

theorem pass_sent (gate : Option Nat) (ticket : Ticket) (world : World) :
    (pass gate ticket world).1.sent = world.sent := by
  cases gate <;> rfl

theorem writer_adheres (setup : Setup) (kind : MessageKind) :
    Adheres (outlet setup) (promise setup kind) (Writer.Holds kind) (transport setup) := by
  constructor
  · rintro writer taken closed ⟨same, finished, payload⟩ data ticket stage world
    have silent := pass_sent setup.writeGate ticket world
    dsimp only [transport, write]
    rcases passed : pass setup.writeGate ticket world with ⟨later, _ | _⟩
    · -- A write that waits has not come to the writer yet.
      rw [passed] at silent
      obtain ⟨number, gated, -⟩ := (pass_refused (congrArg Prod.snd passed)).1
      refine ⟨⟨Option.isSome_of_eq_some gated, silent⟩, same, finished, ?_⟩
      exact payload.imp_right fun payload => payload.trans (List.append_nil taken).symm
    · rw [passed] at silent
      cases closed with
      | true =>
        simp only [writeNow, finished, ↓reduceIte]
        exact ⟨⟨silent, rfl⟩, same, finished, .inl rfl⟩
      | false =>
        obtain rfl := payload.resolve_left Bool.false_ne_true
        simp only [writeNow, finished, Bool.false_eq_true, ↓reduceIte, accepts_promised setup kind]
        exact ⟨⟨silent, rfl⟩, same, rfl, .inr rfl⟩
  · rintro writer taken closed ⟨same, finished, payload⟩ ticket stage world
    dsimp only [transport, finish, Operation.instant]
    cases closed with
    | true =>
      simp only [finishNow, finished, ↓reduceIte]
      exact ⟨⟨rfl, rfl⟩, same, finished, .inl rfl⟩
    | false =>
      obtain rfl := payload.resolve_left Bool.false_ne_true
      obtain rfl := same
      simp only [finishNow, finished, Bool.false_eq_true, ↓reduceIte]
      cases fails : setup.failFinish with
      | true =>
        -- The payload is still there, but nothing will be done with it.
        exact ⟨Promise.kept_fails (by simp [outlet, fails]) rfl, rfl, rfl, .inl rfl⟩
      | false => exact ⟨Promise.kept_emits (by simp [outlet, fails]) rfl, rfl, rfl, .inl rfl⟩

end Scripted

namespace Pair

def outlet (side : Side) : Outlet World where
  emitted world := (world.endpoint side.other).inbox
  opens world := (world.endpoint side.other).alive

/-- A writer of a pair takes everything at once. -/
def promise (kind : MessageKind) : Promise where
  kind
  takes _ offered := offered
  waits := false

structure Writer.Holds (side : Side) (kind : MessageKind) (writer : Writer) (taken : Bytes)
    (closed : Bool) : Prop where
  side : writer.side = side
  kind : writer.kind = kind
  finished : writer.finished = closed
  payload : closed = true ∨ writer.payload = taken

theorem writer_adheres (side : Side) (kind : MessageKind) :
    Adheres (outlet side) (promise kind) (Writer.Holds side kind) (transport side) := by
  constructor
  · rintro writer taken closed ⟨own, same, finished, payload⟩ data ticket stage world
    dsimp only [transport, write, Operation.instant]
    cases closed with
    | true =>
      simp only [writeNow, finished, ↓reduceIte]
      exact ⟨⟨rfl, rfl⟩, own, same, finished, .inl rfl⟩
    | false =>
      obtain rfl := payload.resolve_left Bool.false_ne_true
      simp only [writeNow, finished, Bool.false_eq_true, ↓reduceIte]
      refine ⟨⟨rfl, rfl⟩, own, same, rfl, .inr ?_⟩
      exact congrArg _ List.take_length.symm
  · rintro writer taken closed ⟨own, same, finished, payload⟩ ticket stage world
    dsimp only [transport, finish, Operation.instant]
    cases closed with
    | true =>
      simp only [finishNow, finished, ↓reduceIte]
      exact ⟨⟨rfl, rfl⟩, own, same, finished, .inl rfl⟩
    | false =>
      obtain rfl := payload.resolve_left Bool.false_ne_true
      obtain rfl := same
      obtain rfl := own
      simp only [finishNow, finished, Bool.false_eq_true, ↓reduceIte, put]
      cases alive : (world.endpoint writer.side.other).alive with
      | true =>
        refine ⟨Promise.kept_emits alive ?_, rfl, rfl, rfl, .inl rfl⟩
        simp [outlet, dropSender, promise]
      | false =>
        refine ⟨Promise.kept_fails alive ?_, rfl, rfl, rfl, .inl rfl⟩
        simp [outlet, dropSender]

end Pair

namespace Drafting

/-- Both kinds of writer keep their promise, whatever they are asked, in whatever order, and
whatever becomes of the world meanwhile. They emit one message at most, and a scripted writer stays
within its limit. -/
theorem writers_keep_promise :
    (∀ (setup : Scripted.Setup) (kind : MessageKind) (world : Scripted.World)
        (actions : List (Action Scripted.World)),
      let log := (run (Scripted.transport setup) (Scripted.outlet setup)
        { writer := { kind }, world } actions).log
      (Scripted.promise setup kind).Honoured log ∧ (log.flatMap Entry.emitted).length ≤ 1 ∧
        ∀ limit, setup.writeLimit = some limit → (accepted log).length ≤ limit) ∧
    ∀ (side : Pair.Side) (kind : MessageKind) (world : Pair.World)
        (actions : List (Action Pair.World)),
      let log := (run (Pair.transport side) (Pair.outlet side)
        { writer := { side, kind }, world } actions).log
      (Pair.promise kind).Honoured log ∧ (log.flatMap Entry.emitted).length ≤ 1 := by
  constructor
  · intro setup kind world actions log
    have honoured : (Scripted.promise setup kind).Honoured log :=
      (Scripted.writer_adheres setup kind).run_honoured ⟨rfl, rfl, .inr rfl⟩ world actions
    refine ⟨honoured, honoured.emits_once.1, ?_⟩
    intro limit limited
    refine honoured.within_limit fun taken offered => ?_
    simp only [Scripted.promise, limited, Option.map_some, Option.toList_some, List.foldl_append]
    exact Nat.min_le_right _ _
  · intro side kind world actions log
    have honoured : (Pair.promise kind).Honoured log :=
      (Pair.writer_adheres side kind).run_honoured ⟨rfl, rfl, rfl, .inr rfl⟩ world actions
    exact ⟨honoured, honoured.emits_once.1⟩

/-- A scripted writer waits at a gate, reaches its limit and is asked on after its finish. The peer
of another writer has gone when that is finished. -/
theorem writers_keep_promise_refusing :
    let setup : Scripted.Setup :=
      { writeChunk := some 2, writeLimit := some 3, writeGate := some 0 }
    let opens : Action Scripted.World :=
      .change fun world => { world with gates := world.gates.notify 0 }
    let asks (request : Request) : List (Action Scripted.World) := [.begin request, opens, .poll]
    let scripted := (run (Scripted.transport setup) (Scripted.outlet setup)
      { writer := { kind := .text }, world := { inbound := [] } }
      (.begin (.write [1, 2, 3, 4]) :: .poll :: opens :: .poll ::
        [.write [3, 4], .finish, .write [5], .finish].flatMap asks)).log
    let pair := (run (Pair.transport .left) (Pair.outlet .left)
      { writer := { side := .left, kind := .binary }, world := {} }
      [.begin (.write [1, 2]), .poll, .change (Pair.drop .right), .begin .finish, .poll,
        .begin .finish, .poll]).log
    scripted.map Entry.note = [.waited, .wrote [1, 2, 3, 4] (.ok 2), .wrote [3, 4] (.ok 1),
        .finished (.ok ()), .wrote [5] (.error refusal), .finished (.error refusal)] ∧
      scripted.flatMap Entry.emitted = [⟨.text, [1, 2, 3]⟩] ∧
      pair.map Entry.note = [.wrote [1, 2] (.ok 2),
        .finished (.error (Pair.peerClosed .brokenPipe)), .finished (.error refusal)] ∧
      (Scripted.promise setup .text).Honoured scripted ∧ (accepted scripted).length ≤ 3 ∧
      (Pair.promise .binary).Honoured pair ∧ (pair.flatMap Entry.emitted).length ≤ 1 := by
  intro setup opens asks scripted pair
  obtain ⟨scripteds, pairs⟩ := writers_keep_promise
  obtain ⟨kept, -, within⟩ := scripteds setup .text { inbound := [] }
    (.begin (.write [1, 2, 3, 4]) :: .poll :: opens :: .poll ::
      [.write [3, 4], .finish, .write [5], .finish].flatMap asks)
  obtain ⟨honoured, once⟩ := pairs .left .binary {} [.begin (.write [1, 2]), .poll,
    .change (Pair.drop .right), .begin .finish, .poll, .begin .finish, .poll]
  exact ⟨by decide +kernel, by decide +kernel, by decide +kernel, kept, within 3 rfl, honoured,
    once⟩

end Drafting

end MessageStream
