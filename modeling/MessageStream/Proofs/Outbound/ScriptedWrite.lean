import MessageStream.Proofs.Outbound.Deals
import MessageStream.Proofs.Usage.Spared

/-!
What a write on a scripted connection comes to. The script decides it: how much a message takes, and
which of its calls fail. A write that is not disturbed by other calls opens one message, fills it as
far as it goes, and finishes it once; the gates of the script only make it wait.
-/
namespace MessageStream

namespace Gate

def Holds (gate : Gate) (ticket : Ticket) : Prop :=
  ticket ∈ gate.waiting ∨ ticket ∈ gate.released

theorem Holds.after_notification {gate : Gate} {ticket : Ticket} (holds : gate.Holds ticket) :
    gate.notify.Holds ticket := by
  unfold notify
  split
  · exact holds
  · rename_i first rest line
    rcases holds with waits | released
    · rw [line] at waits
      rcases List.mem_cons.mp waits with rfl | later
      · exact .inr (List.mem_append_right _ (List.mem_singleton.mpr rfl))
      · exact .inl later
    · exact .inr (List.mem_append_left _ released)

theorem pass_released {gate : Gate} {ticket : Ticket} (released : ticket ∈ gate.released) :
    (gate.pass ticket).2 = true := by
  simp [pass, released]

theorem Holds.released_after_notifications {gate : Gate} {ticket : Ticket}
    (holds : gate.Holds ticket) :
    ∃ count, ticket ∈ (notify^[count] gate).released := by
  -- Each notification takes one off the front of those waiting.
  induction line : gate.waiting generalizing gate with
  | nil =>
    refine ⟨0, holds.resolve_left ?_⟩
    rw [line]
    exact List.not_mem_nil
  | cons first rest ih =>
    have shorter : gate.notify.waiting = rest := by simp [notify, line]
    obtain ⟨count, through⟩ := ih holds.after_notification shorter
    exact ⟨count + 1, through⟩

end Gate

namespace Scripted

variable {setup : Setup} {data : Bytes} {ticket : Ticket}

/-- How many bytes of a buffer its message takes, if the write goes on for as long as it can. -/
def Setup.takes (setup : Setup) (data : Bytes) : Nat :=
  if setup.writeChunk = some 0 then 0 else bounded setup.writeLimit data.length

/-- What a write answers. That the message has not taken all bytes goes before a failure to finish
it. -/
def Setup.answer (setup : Setup) (config : Configuration) (data : Bytes) : WriteOutcome :=
  if config.skips data then .ok 0
  else if setup.failNextWriter then
    .error (.transport 0 (.withText .connectionReset "scripted writer failure"))
  else if setup.takes data < data.length then
    .error (.transport (setup.takes data) (.bare .writeZero))
  else if setup.failFinish then
    .error (.transport (setup.takes data) (.withText .brokenPipe "finish failed"))
  else .ok data.length

namespace World

def written (setup : Setup) (config : Configuration) (data : Bytes) (world : World) : World :=
  if config.skips data || setup.failNextWriter then world
  else { world with
    writersOpened := world.writersOpened + 1
    finishes := world.finishes + 1
    sent := world.sent ++ if setup.failFinish then []
      else [⟨config.messageKind, data.take (setup.takes data)⟩] }

def AsideGates (before after : World) : Prop := after = { before with gates := after.gates }

/-- The operation is at the gate it has to pass. -/
def Awaits (gate : Option Nat) (ticket : Ticket) (world : World) : Prop :=
  ∃ number, gate = some number ∧ (world.gates number).Holds ticket

def Open (gate : Option Nat) (ticket : Ticket) (world : World) : Prop :=
  ∀ number, gate = some number → ticket ∈ (world.gates number).released

variable {before middle after : World}

theorem AsideGates.trans (one : before.AsideGates middle) (two : middle.AsideGates after) :
    before.AsideGates after := by
  unfold AsideGates at *
  rw [two, one]

def notified (gate : Nat) (world : World) : World :=
  { world with gates := world.gates.notify gate }

theorem notified_aside (gate : Nat) (world : World) : world.AsideGates (world.notified gate) := rfl

theorem notified_iterate (gate count : Nat) (world : World) :
    ((notified gate)^[count] world).gates gate = Gate.notify^[count] (world.gates gate) := by
  induction count generalizing world with
  | zero => rfl
  | succ count ih =>
    rw [Function.iterate_succ_apply, Function.iterate_succ_apply, ih]
    simp [notified, Gates.notify]

theorem Awaits.opens_after_notifications {gate : Option Nat} {world : World}
    (awaits : world.Awaits gate ticket) :
    ∃ number count, ((notified number)^[count] world).Open gate ticket := by
  obtain ⟨number, rfl, holds⟩ := awaits
  obtain ⟨count, released⟩ := holds.released_after_notifications
  refine ⟨number, count, ?_⟩
  rintro other ⟨⟩
  rwa [notified_iterate]

theorem Awaits.after_notification {gate : Option Nat} {world : World}
    (awaits : world.Awaits gate ticket)
    (other : Nat) : (world.notified other).Awaits gate ticket := by
  obtain ⟨number, rfl, holds⟩ := awaits
  refine ⟨number, rfl, ?_⟩
  by_cases same : number = other
  · subst same
    simpa [World.notified, Gates.notify] using holds.after_notification
  · simpa [World.notified, Gates.notify, same] using holds

end World

theorem pass_aside (gate : Option Nat) (ticket : Ticket) (world : World) :
    world.AsideGates (pass gate ticket world).1 := by
  cases gate <;> rfl

theorem pass_refused {gate : Option Nat} {world : World}
    (refused : (pass gate ticket world).2 = false) :
    (pass gate ticket world).1.Awaits gate ticket ∧ ¬ world.Open gate ticket := by
  cases gate with
  | none => cases refused
  | some number =>
    refine ⟨⟨number, rfl, .inl ?_⟩, fun opened => ?_⟩
    · simpa [pass, Gates.pass] using (world.gates number).pass_refused ticket refused
    · have through := Gate.pass_released (opened number rfl)
      exact absurd (refused.symm.trans through) nofun

theorem pass_closed (gate : Option Nat) (ticket : Ticket) (world : World) :
    (pass gate ticket world).1.closed = world.closed := by
  cases gate <;> rfl

theorem leave_closed (gate : Option Nat) (ticket : Ticket) (world : World) :
    (leave gate ticket world).closed = world.closed := by
  cases gate <;> rfl

theorem handOutAt_closed (gate : Option Nat) (item : Option Inbound) (ticket : Ticket)
    (world : World) : (handOutAt gate item ticket world).1.closed = world.closed := by
  have passed := pass_closed gate ticket world
  unfold handOutAt
  rcases through : pass gate ticket world with ⟨after, _ | _⟩ <;> rw [through] at passed
  · exact passed
  · rcases item with _ | _ | payload <;> exact passed

theorem writerAt_closed (setup : Setup) (kind : MessageKind) (ticket : Ticket) (world : World) :
    (writerAt setup kind ticket world).1.closed = world.closed := by
  have passed := pass_closed setup.writerGate ticket world
  unfold writerAt
  rcases through : pass setup.writerGate ticket world with ⟨after, _ | _⟩ <;>
    rw [through] at passed <;> exact passed

theorem transport_spares (setup : Setup) : (transport setup).Spares World.closed where
  nextReader := by
    refine ⟨fun ticket stage world => ?_, fun ticket _ world => leave_closed _ ticket world⟩
    simp only [transport, nextReader]
    cases stage with
    | some item => exact handOutAt_closed _ item ticket world
    | none =>
      dsimp only
      split
      · rfl
      · exact handOutAt_closed _ _ ticket _
  read room := ⟨fun _ _ _ => rfl, nofun⟩
  nextWriter kind := by
    refine ⟨fun ticket stage world => ?_, fun ticket _ world => leave_closed _ ticket world⟩
    simp only [transport, nextWriter]
    cases stage with
    | some nothing => exact writerAt_closed setup kind ticket world
    | none =>
      dsimp only
      split
      · rfl
      · split
        · rfl
        · exact writerAt_closed setup kind ticket _
  write data := by
    refine ⟨fun ticket stage whole => ?_, fun ticket _ whole => leave_closed _ ticket whole.2⟩
    have passed := pass_closed setup.writeGate ticket whole.2
    simp only [transport, write]
    rcases through : pass setup.writeGate ticket whole.2 with ⟨after, _ | _⟩ <;>
      rw [through] at passed <;> exact passed
  finish := by
    refine ⟨fun ticket stage whole => ?_, nofun⟩
    show (finishNow setup whole.1 whole.2).1.2.closed = whole.2.closed
    unfold finishNow
    dsimp only
    split
    · rfl
    · split <;> rfl
  dropWriter _ _ := rfl
  drop _ := rfl

end Scripted

namespace Usage

variable {S : Signature} {T : Transport S}

theorem run_config {usage : Usage S} (sound : usage.Sound) (actions : List (Action S.World)) :
    (usage.run T actions).stream.state.config = usage.stream.state.config := by
  refine moves_keep (T := T)
    (fun later => later.stream.state.config = usage.stream.state.config) (fun _ _ same => same)
    (fun moves same => ?_) (fun drops same => ?_) (fun _ _ same => same) sound rfl actions
  · cases moves with
    | rests => exact same
    | reads found next move => exact move.config_same.trans same
    | writes found next move => exact move.config_same.trans same
    | closes found next move => exact move.config_same.trans same
  · cases drops with
    | rests => exact same
    | forgets demand found => exact same
    | reads found drop => exact drop.config_same.trans same
    | writes found drop => exact drop.config_same.trans same
    | closes found drop => exact drop.config_same.trans same

end Usage

section Openings

variable {S : Signature} {T : Transport S} {ticket : Ticket} {stage : Option S.WriterOpening}
  {stream : Stream S.recorded} {inner : S.World}

theorem Write.ask_waits {later : S.WriterOpening}
    (polled : (T.nextWriter stream.state.config.messageKind).poll ticket stage
      stream.world.inner = (inner, .waiting later)) :
    Write.ask T.recorded ticket stage stream =
      (stream.heard inner (Traffic.ofPoll ticket
        (.nextWriter stream.state.config.messageKind) stage.isSome none),
      .waiting (.opening later)) := by
  rw [ask, Stream.nextWriter_poll, polled]

theorem Write.ask_fails {source : Failure}
    (polled : (T.nextWriter stream.state.config.messageKind).poll ticket stage
      stream.world.inner = (inner, .ready (.error source))) :
    Write.ask T.recorded ticket stage stream =
      ((stream.heard inner (Traffic.ofPoll ticket (.nextWriter stream.state.config.messageKind)
        stage.isSome (some (.failed source)))).giveBack T.recorded ticket,
      .ready (.error (.transport 0 source))) := by
  rw [ask, Stream.nextWriter_poll, polled]

theorem Write.ask_opens {writer : S.Writer} (enumerated : stream.Enumerated)
    (standing : stream.state.isClosed = false)
    (polled : (T.nextWriter stream.state.config.messageKind).poll ticket stage
      stream.world.inner = (inner, .ready (.ok writer))) :
    Write.ask T.recorded ticket stage stream =
      ((((stream.heard inner (Traffic.ofPoll ticket (.nextWriter stream.state.config.messageKind)
        stage.isSome (some (.opened stream.state.writers.length)))).countWriter.openWriter
          T.recorded ⟨stream.state.writers.length, writer⟩ ticket).record
            (.outboundOpened stream.state.config.messageKind)).giveBack T.recorded ticket,
      .onward (.queued stream.state.writers.length)) := by
  have still : ((stream.heard inner (Traffic.ofPoll ticket
      (.nextWriter stream.state.config.messageKind) stage.isSome
        (some (.opened stream.state.writers.length)))).countWriter).state.isClosed = false :=
    standing
  rw [ask, Stream.nextWriter_poll, polled, enumerated.writer_count]
  exact if_neg (by simpa using still)

end Openings

namespace Scripted

variable {setup : Setup} {config : Configuration} {data : Bytes} {ticket : Ticket}
  {before : World}

def filled (config : Configuration) (data : Bytes) (ticket : Ticket) (number written : Nat) :
    Cursor (Outbound (Numbered Writer)) where
  content := { writer :=
    { number, content := { kind := config.messageKind, payload := data.take written } } }
  line := [ticket]

/-- The write has something to do, and its message can be opened. -/
structure Setup.Opens (setup : Setup) (config : Configuration) (data : Bytes) : Prop where
  sent : config.skips data = false
  opens : setup.failNextWriter = false

def World.opened (world : World) : World :=
  { world with writersOpened := world.writersOpened + 1 }

/-- Where a write stands that nothing disturbs, begun in the given world. -/
inductive Stands (setup : Setup) (config : Configuration) (data : Bytes) (ticket : Ticket)
    (before : World) : WriteStage signature.recorded → Stream signature.recorded → Prop where
  | start {stream : Stream signature.recorded} (vacant : stream.state.outbound = none)
      (same : before.AsideGates stream.world.inner) :
    Stands setup config data ticket before .start stream
  | opening {stream : Stream signature.recorded} (opens : setup.Opens config data)
      (vacant : stream.state.outbound = none)
      (same : before.opened.AsideGates stream.world.inner) :
    Stands setup config data ticket before (.opening ()) stream
  | queued {stream : Stream signature.recorded} {number : Nat} (opens : setup.Opens config data)
      (current : stream.state.outbound = some number)
      (found : stream.state.writers[number]? = some (filled config data ticket number 0))
      (same : before.opened.AsideGates stream.world.inner) :
    Stands setup config data ticket before (.queued number) stream
  | filling {stream : Stream signature.recorded} {number written : Nat} {stage : Option Unit}
      (opens : setup.Opens config data) (current : stream.state.outbound = some number)
      (found : stream.state.writers[number]? = some (filled config data ticket number written))
      (short : written < data.length) (fits : written ≤ setup.takes data)
      (same : before.opened.AsideGates stream.world.inner) :
    Stands setup config data ticket before (.filling number written stage) stream
  | finishing {stream : Stream signature.recorded} {number written : Nat}
      {failure : Option Failure} (opens : setup.Opens config data)
      (current : stream.state.outbound = some number)
      (found : stream.state.writers[number]? = some (filled config data ticket number written))
      (all : written = setup.takes data)
      (stalled : failure = if written < data.length then some (.bare .writeZero) else none)
      (same : before.opened.AsideGates stream.world.inner) :
    Stands setup config data ticket before (.finishing number written failure none) stream

/-- A write that nothing disturbs on a stream that is open. -/
structure Undisturbed (setup : Setup) (config : Configuration) (data : Bytes) (ticket : Ticket)
    (before : World) (stage : WriteStage signature.recorded)
    (stream : Stream signature.recorded) : Prop where
  enumerated : stream.Enumerated
  standing : stream.state.isClosed = false
  configured : stream.state.config = config
  open_ : before.closed = false
  stands : Stands setup config data ticket before stage stream

structure Done (setup : Setup) (config : Configuration) (data : Bytes) (before : World)
    (outcome : WriteOutcome) (stream : Stream signature.recorded) : Prop where
  answers : outcome = setup.answer config data
  vacant : stream.state.outbound = none
  world : (before.written setup config data).AsideGates stream.world.inner

def Waits (setup : Setup) (ticket : Ticket) : WriteStage signature.recorded → World → Prop
  | .opening _, world => world.Awaits setup.writerGate ticket
  | .filling _ _ (some _), world => world.Awaits setup.writeGate ticket
  | _, _ => False

def Passes (setup : Setup) (ticket : Ticket) : WriteStage signature.recorded → World → Prop
  | .opening _, world => world.Open setup.writerGate ticket
  | .filling _ _ _, world => world.Open setup.writeGate ticket
  | _, _ => False

def stretchesLeft (data : Bytes) : WriteStage signature.recorded → Nat
  | .start => data.length + 4
  | .opening _ => data.length + 3
  | .queued _ => data.length + 2
  | .filling _ written _ => data.length - written + 1
  | _ => 0

/-- What one stretch of an undisturbed write comes to. -/
def Goes (setup : Setup) (config : Configuration) (data : Bytes) (ticket : Ticket) (before : World)
    (stage : WriteStage signature.recorded) (world : World) :
    Stream signature.recorded × Step (WriteStage signature.recorded) WriteOutcome → Prop
  | (after, .waiting later) => Stands setup config data ticket before later after ∧
      Waits setup ticket later after.world.inner ∧
      (stretchesLeft data later < stretchesLeft data stage ∨
        stretchesLeft data later = stretchesLeft data stage ∧ ¬ Passes setup ticket stage world)
  | (after, .onward next) => Stands setup config data ticket before next after ∧
      stretchesLeft data next < stretchesLeft data stage
  | (after, .ready outcome) => Done setup config data before outcome after

@[simp] theorem giveBack_inner (stream : Stream signature.recorded) :
    (stream.giveBack (transport setup).recorded ticket).world.inner = stream.world.inner := by
  unfold Stream.giveBack
  dsimp only
  split <;> rfl

@[simp] theorem settleWriter_inner (stream : Stream signature.recorded) (number : Nat) :
    (stream.settleWriter (transport setup).recorded number).world.inner = stream.world.inner := by
  unfold Stream.settleWriter
  dsimp only
  split
  · rfl
  · split <;> rfl

@[simp] theorem retireWriter_inner (stream : Stream signature.recorded) (number : Nat) :
    (stream.retireWriter (transport setup).recorded number ticket).world.inner =
      stream.world.inner :=
  settleWriter_inner _ number

@[simp] theorem openWriter_inner (stream : Stream signature.recorded) (writer : Numbered Writer) :
    (stream.openWriter (transport setup).recorded writer ticket).world.inner =
      stream.world.inner := by
  unfold Stream.openWriter
  dsimp only
  split
  · rfl
  · exact settleWriter_inner _ _

theorem opening_comes (setup : Setup) (ticket : Ticket) (asked : Option Unit)
    {stream : Stream signature.recorded} {world : World} (enumerated : stream.Enumerated)
    (standing : stream.state.isClosed = false)
    (configured : stream.state.config = config) (opens : setup.Opens config data)
    (vacant : stream.state.outbound = none) (same : before.opened.AsideGates world)
    (polled : (nextWriter setup config.messageKind).poll ticket asked stream.world.inner =
      writerAt setup config.messageKind ticket world) :
    (∃ after, Write.ask (transport setup).recorded ticket asked stream =
        (after, .waiting (.opening ())) ∧
      Stands setup config data ticket before (.opening ()) after ∧
      after.world.inner.Awaits setup.writerGate ticket ∧ ¬ world.Open setup.writerGate ticket) ∨
    ∃ after number, Write.ask (transport setup).recorded ticket asked stream =
        (after, .onward (.queued number)) ∧
      Stands setup config data ticket before (.queued number) after := by
  have aside := same.trans (pass_aside setup.writerGate ticket world)
  rw [← configured] at polled
  unfold writerAt at polled
  rcases through : pass setup.writerGate ticket world with ⟨after, _ | _⟩ <;>
    rw [through] at aside polled
  · have refused := pass_refused (congrArg Prod.snd through)
    rw [through] at refused
    exact .inl ⟨_, Write.ask_waits polled, .opening opens vacant aside, refused⟩
  · refine .inr ⟨_, _, Write.ask_opens enumerated standing polled, .queued opens rfl ?_ ?_⟩
    · simp [filled, configured]
    · simpa using aside

theorem Setup.takes_le (setup : Setup) (data : Bytes) : setup.takes data ≤ data.length := by
  unfold Setup.takes
  split
  · exact Nat.zero_le _
  · exact bounded_le _ _

theorem accepts_towards {writer : Writer} {written : Nat}
    (holds : writer.payload.length = written) (short : written < data.length)
    (fits : written ≤ setup.takes data) :
    written + accepts setup writer (data.drop written).length ≤ setup.takes data ∧
      (accepts setup writer (data.drop written).length = 0 → written = setup.takes data) := by
  unfold accepts
  unfold Setup.takes at fits ⊢
  rw [holds, List.length_drop]
  generalize setup.writeChunk = chunk at fits ⊢
  generalize setup.writeLimit = most at fits ⊢
  rcases chunk with _ | _ | chunk <;> rcases most with _ | most <;>
    simp only [bounded, Option.map_none, Option.map_some, Option.some.injEq, reduceCtorEq,
      Nat.succ_ne_zero, if_true, if_false] at fits ⊢ <;> omega

theorem Stands.fills_or_finishes (stream : Stream signature.recorded) {number written : Nat}
    (opens : setup.Opens config data) (current : stream.state.outbound = some number)
    (found : stream.state.writers[number]? = some (filled config data ticket number written))
    (fits : written ≤ setup.takes data) (same : before.opened.AsideGates stream.world.inner) :
    Stands setup config data ticket before (Write.fillOrFinish data number written) stream ∧
      stretchesLeft data (Write.fillOrFinish data number written) ≤ data.length - written + 1 := by
  unfold Write.fillOrFinish
  split
  · rename_i short
    exact ⟨.filling opens current found short fits same, Nat.le_refl _⟩
  · rename_i full
    have all : written = setup.takes data := by
      have most := setup.takes_le data
      omega
    exact ⟨.finishing opens current found all (if_neg full).symm same, Nat.zero_le _⟩

theorem filling_comes (stage : Option Unit) {stream : Stream signature.recorded}
    {number written : Nat} (enumerated : stream.Enumerated) (opens : setup.Opens config data)
    (current : stream.state.outbound = some number)
    (found : stream.state.writers[number]? = some (filled config data ticket number written))
    (short : written < data.length) (fits : written ≤ setup.takes data)
    (same : before.opened.AsideGates stream.world.inner) :
    (∃ after, Write.advance (transport setup).recorded data ticket (.filling number written stage)
        stream = (after, .waiting (.filling number written (some ()))) ∧
      Stands setup config data ticket before (.filling number written (some ())) after ∧
      after.world.inner.Awaits setup.writeGate ticket ∧
      ¬ stream.world.inner.Open setup.writeGate ticket) ∨
    ∃ after next, Write.advance (transport setup).recorded data ticket
        (.filling number written stage) stream = (after, .onward next) ∧
      Stands setup config data ticket before next after ∧
      stretchesLeft data next < stretchesLeft data (.filling number written stage) := by
  have aside := same.trans (pass_aside setup.writeGate ticket stream.world.inner)
  have polled := Stream.writer_poll (transport setup) number (data.drop written) ticket stage stream
    enumerated _ found
  let put (taken : Nat) (inner : World) (reply : Option Reply) : Stream signature.recorded :=
    (stream.putWriter number { kind := config.messageKind, payload := data.take taken }
      false).heard inner (Traffic.ofPoll ticket (.write number (data.drop written)) stage.isSome
        reply)
  have there (taken : Nat) (inner : World) (reply : Option Reply) :
      (put taken inner reply).state.writers[number]? =
        some (filled config data ticket number taken) := by
    simp [put, found, filled]
  -- The gate decides whether the write waits; past it the writer takes what it can.
  rcases through : pass setup.writeGate ticket stream.world.inner with ⟨inner, _ | _⟩ <;>
    rw [through] at aside
  · have refused := pass_refused (congrArg Prod.snd through)
    rw [through] at refused
    have waits : ((transport setup).write (data.drop written)).poll ticket stage
        ((filled config data ticket number written).content.writer.content, stream.world.inner) =
          (({ kind := config.messageKind, payload := data.take written }, inner), .waiting ()) := by
      simp [transport, write, through, filled]
    rw [waits] at polled
    refine .inl ⟨put written inner none, ?_,
      .filling opens current (there written inner none) short fits aside, refused⟩
    simp only [Write.advance, polled, Progress.map, Progress.reply?]
    rfl
  · have holds : (filled config data ticket number written).content.writer.content.payload.length =
        written := by
      simp [filled, Nat.le_of_lt short]
    obtain ⟨within, all⟩ := accepts_towards holds short fits
    generalize accepted : accepts setup
      (filled config data ticket number written).content.writer.content
      (data.drop written).length = taken at within all
    have takes : ((transport setup).write (data.drop written)).poll ticket stage
        ((filled config data ticket number written).content.writer.content, stream.world.inner) =
          (({ kind := config.messageKind, payload := data.take (written + taken) }, inner),
            .ready (.ok taken)) := by
      have fresh : (filled config data ticket number written).content.writer.content.finished =
        false := rfl
      simp only [transport, write, through, writeNow, fresh, accepted]
      simp [filled, List.take_add]
    rw [takes] at polled
    right
    -- A writer that takes nothing of what it is offered is at its limit.
    cases taken with
    | zero =>
      have stalled : (some (.bare .writeZero) : Option Failure) =
          if written < data.length then some (.bare .writeZero) else none := (if_pos short).symm
      refine ⟨put written inner (some (.accepted 0)), _, ?_, .finishing opens current
        (there written inner _) (all rfl) stalled aside, Nat.succ_pos _⟩
      simp only [Write.advance, polled, Progress.map, Progress.reply?]
      rfl
    | succ taken =>
      obtain ⟨stands, fewer⟩ := Stands.fills_or_finishes (put (written + (taken + 1)) inner
        (some (.accepted (taken + 1)))) opens current (there _ inner _) within aside
      refine ⟨_, _, ?_, stands, ?_⟩
      · simp only [Write.advance, polled, Progress.map, Progress.reply?]
        rfl
      · show _ < data.length - written + 1
        omega

theorem finishNow_unfinished (setup : Setup) {writer : Writer}
    (unfinished : writer.finished = false) (world : World) :
    (finishNow setup writer world).2 = (if setup.failFinish then
      .error (.withText .brokenPipe "finish failed") else .ok ()) ∧
    (finishNow setup writer world).1.2 = { world with
      finishes := world.finishes + 1
      sent := world.sent ++ if setup.failFinish then [] else [⟨writer.kind, writer.payload⟩] } := by
  unfold finishNow
  cases setup.failFinish <;> simp [unfinished]

theorem finished_answers {stream : Stream signature.recorded} {number : Nat}
    (opens : setup.Opens config data) (current : stream.state.outbound = some number)
    (world : (before.written setup config data).AsideGates stream.world.inner) :
    ∃ after, Write.finished (transport setup).recorded number (setup.takes data)
        (if setup.takes data < data.length then some (.bare .writeZero) else none)
        (if setup.failFinish then .error (.withText .brokenPipe "finish failed") else .ok ()) ticket
        stream = (after, .ready (setup.answer config data)) ∧
      Done setup config data before (setup.answer config data) after := by
  have answer : setup.answer config data =
      if setup.takes data < data.length then
        .error (.transport (setup.takes data) (.bare .writeZero))
      else if setup.failFinish then
        .error (.transport (setup.takes data) (.withText .brokenPipe "finish failed"))
      else .ok data.length := by
    simp [Setup.answer, opens.sent, opens.opens]
  let moved := (stream.retireWriter (transport setup).recorded number ticket).record
    (.outboundMoved (setup.takes data))
  have retired : moved.state.outbound = none := by simp [moved, current]
  have aside : (before.written setup config data).AsideGates moved.world.inner := by
    simpa [moved] using world
  by_cases short : setup.takes data < data.length
  · refine ⟨moved, ?_, rfl, retired, aside⟩
    rw [answer, if_pos short, if_pos short]
    rfl
  · have full : setup.takes data = data.length :=
      Nat.le_antisymm (setup.takes_le data) (Nat.not_lt.mp short)
    rw [answer, if_neg short, if_neg short]
    cases fails : setup.failFinish with
    | true => exact ⟨moved, rfl, by simp [answer, short, fails], retired, aside⟩
    | false =>
      let last := moved.record (.outboundFinalized (setup.takes data))
      have answered : (last, Step.ready (Except.ok (setup.takes data))) =
          ((last, Step.ready (Except.ok data.length)) :
            _ × Step (WriteStage signature.recorded) WriteOutcome) := by
        rw [full]
      exact ⟨last, answered, by simp [answer, short, fails], retired, aside⟩

theorem finishing_done {stream : Stream signature.recorded} {number written : Nat}
    {failure : Option Failure} (enumerated : stream.Enumerated) (opens : setup.Opens config data)
    (current : stream.state.outbound = some number)
    (found : stream.state.writers[number]? = some (filled config data ticket number written))
    (all : written = setup.takes data)
    (stalled : failure = if written < data.length then some (.bare .writeZero) else none)
    (same : before.opened.AsideGates stream.world.inner) :
    ∃ after, Write.advance (transport setup).recorded data ticket
        (.finishing number written failure none) stream =
          (after, .ready (setup.answer config data)) ∧
      Done setup config data before (setup.answer config data) after := by
  subst all stalled
  obtain ⟨after, progress, polled, comes⟩ := Stream.finish_poll (transport setup) number ticket none
    stream enumerated (List.getElem?_eq_some_iff.mp found).1
  cases comes with
  | settled fresh there finished =>
    rw [found] at there
    cases there
    cases finished
  | polls there unsettled finishes =>
    rw [found] at there
    cases there
    rename_i content inner
    let writer := (filled config data ticket number (setup.takes data)).content.writer.content
    have ends : ((finishNow setup writer stream.world.inner).1,
        Progress.ready (finishNow setup writer stream.world.inner).2) =
          ((content, inner), progress) := finishes
    have unfinished : writer.finished = false := rfl
    obtain ⟨answered, left⟩ := finishNow_unfinished setup unfinished stream.world.inner
    have result : progress = .ready (if setup.failFinish then
        .error (.withText .brokenPipe "finish failed") else .ok ()) :=
      answered ▸ (congrArg Prod.snd ends).symm
    have world : (before.written setup config data).AsideGates inner := by
      have reached : inner = _ := (congrArg (·.1.2) ends).symm.trans left
      rw [reached, same]
      simp [World.AsideGates, World.written, World.opened, opens.sent, opens.opens, writer, filled]
    subst result
    simp only [Write.advance, polled, Progress.map, Option.getD_some]
    exact finished_answers opens current world

theorem start_goes {stream : Stream signature.recorded} (enumerated : stream.Enumerated)
    (standing : stream.state.isClosed = false) (configured : stream.state.config = config)
    (unclosed : before.closed = false) (vacant : stream.state.outbound = none)
    (same : before.AsideGates stream.world.inner) :
    Goes setup config data ticket before .start stream.world.inner
      (Write.advance (transport setup).recorded data ticket .start stream) := by
  have open_ : stream.world.inner.closed = false := by
    rw [same]
    exact unclosed
  by_cases skipped : config.skips data = true
  · have begun : Write.advance (transport setup).recorded data ticket .start stream =
        (stream, .ready (.ok 0)) := by
      simp [Write.advance, Write.start, standing, configured, skipped]
    rw [begun]
    refine ⟨by simp [Setup.answer, skipped], vacant, ?_⟩
    simpa [World.written, skipped] using same
  · have begun : Write.advance (transport setup).recorded data ticket .start stream =
        Write.ask (transport setup).recorded ticket none (stream.borrow ticket) := by
      simp [Write.advance, Write.start, standing, configured, skipped, vacant]
    rw [begun]
    by_cases fails : setup.failNextWriter = true
    · have refused : ((transport setup).nextWriter
          (stream.borrow ticket).state.config.messageKind).poll ticket none
            (stream.borrow ticket).world.inner = (stream.world.inner,
              .ready (.error (.withText .connectionReset "scripted writer failure"))) := by
        simp [transport, nextWriter, open_, fails]
      rw [Write.ask_fails refused]
      refine ⟨by simp [Setup.answer, skipped, fails], vacant, ?_⟩
      simpa [World.written, fails] using same
    · have opens : setup.Opens config data := ⟨by simpa using skipped, by simpa using fails⟩
      have polled : (nextWriter setup config.messageKind).poll ticket none
          (stream.borrow ticket).world.inner = writerAt setup config.messageKind ticket
            stream.world.inner.opened := by
        simp [nextWriter, open_, fails, World.opened]
      have aside : before.opened.AsideGates stream.world.inner.opened := by
        unfold World.opened World.AsideGates
        rw [same]
      obtain ⟨after, comes, stands, waits, shut⟩ | ⟨after, number, comes, stands⟩ :=
        opening_comes setup ticket none (enumerated.after_borrow ticket) standing configured opens
          vacant aside polled
      · rw [comes]
        exact ⟨stands, waits, .inl (Nat.lt_succ_self _)⟩
      · rw [comes]
        exact ⟨stands, Nat.lt_add_of_pos_right (Nat.succ_pos 1)⟩

/-- Every stretch of an undisturbed write leads on. -/
theorem Undisturbed.advance_goes {stage : WriteStage signature.recorded}
    {stream : Stream signature.recorded}
    (undisturbed : Undisturbed setup config data ticket before stage stream) :
    Goes setup config data ticket before stage stream.world.inner
      (Write.advance (transport setup).recorded data ticket stage stream) := by
  obtain ⟨enumerated, standing, configured, unclosed, stands⟩ := undisturbed
  cases stands with
  | start vacant same => exact start_goes enumerated standing configured unclosed vacant same
  | opening opens vacant same =>
    have comes := opening_comes setup ticket (some ()) enumerated
      standing configured opens vacant same rfl
    obtain ⟨after, comes, stands, waits, shut⟩ | ⟨after, number, comes, stands⟩ := comes
    · rw [Write.advance, comes]
      exact ⟨stands, waits, .inr ⟨rfl, shut⟩⟩
    · rw [Write.advance, comes]
      exact ⟨stands, Nat.lt_succ_self _⟩
  | queued opens current found same =>
    rename_i number
    have turn : (lineOf stream.state.writers number).admits ticket = true := by
      simp [lineOf, found, filled, Line.admits]
    have entered : Write.advance (transport setup).recorded data ticket (.queued number) stream =
        (stream, .onward (Write.fillOrFinish data number 0)) := by
      simp [Write.advance, turn, Write.admitted, found, filled]
    obtain ⟨stands, fewer⟩ :=
      Stands.fills_or_finishes stream opens current found (Nat.zero_le _) same
    rw [entered]
    exact ⟨stands, Nat.lt_succ_of_le fewer⟩
  | filling opens current found short fits same =>
    rename_i number written stage
    have comes := filling_comes stage enumerated opens current found short fits same
    obtain ⟨after, comes, stands, waits, shut⟩ | ⟨after, next, comes, stands, fewer⟩ := comes
    · rw [comes]
      exact ⟨stands, waits, .inr ⟨rfl, shut⟩⟩
    · rw [comes]
      exact ⟨stands, fewer⟩
  | finishing opens current found all stalled same =>
    obtain ⟨after, comes, done⟩ := finishing_done enumerated opens current found all stalled same
    rw [comes]
    exact done

theorem Undisturbed.after_advance {stage next : WriteStage signature.recorded}
    {stream after : Stream signature.recorded}
    {step : Step (WriteStage signature.recorded) WriteOutcome}
    (undisturbed : Undisturbed setup config data ticket before stage stream)
    (advanced : Write.advance (transport setup).recorded data ticket stage stream = (after, step))
    (stands : Stands setup config data ticket before next after) :
    Undisturbed setup config data ticket before next after := by
  have known (number : Nat) (turn : Bool) (placed : stage.place = some (number, turn)) :
      number < stream.state.writers.length := by
    cases undisturbed.stands with
    | start vacant same => cases placed
    | opening opens vacant same => cases placed
    | queued opens current found same =>
      cases placed
      exact (List.getElem?_eq_some_iff.mp found).1
    | filling opens current found short fits same =>
      cases placed
      exact (List.getElem?_eq_some_iff.mp found).1
    | finishing opens current found all stalled same =>
      cases placed
      exact (List.getElem?_eq_some_iff.mp found).1
  have move := Write.advance_moves (transport setup) data ticket stage stream
    undisturbed.enumerated known
  rw [advanced] at move
  refine ⟨move.enumerated undisturbed.enumerated, ?_, move.config_same.trans undisturbed.configured,
    undisturbed.open_, stands⟩
  show (!after.state.lease.owned) = false
  rw [move.owned_same]
  exact undisturbed.standing

def Reaches (setup : Setup) (config : Configuration) (data : Bytes) (ticket : Ticket)
    (before : World) (bound : Nat) :
    Progress (WriteStage signature.recorded) WriteOutcome → Stream signature.recorded → Prop
  | .waiting stage, stream => Undisturbed setup config data ticket before stage stream ∧
      Waits setup ticket stage stream.world.inner ∧ stretchesLeft data stage < bound
  | .ready outcome, stream => Done setup config data before outcome stream

theorem Undisturbed.poll_reaches (stage : Option (WriteStage signature.recorded))
    {stream : Stream signature.recorded} {bound : Nat}
    (undisturbed : Undisturbed setup config data ticket before (stage.getD .start) stream)
    (near : stretchesLeft data (stage.getD .start) < bound ∨
      stretchesLeft data (stage.getD .start) = bound ∧
        Passes setup ticket (stage.getD .start) stream.world.inner) :
    Reaches setup config data ticket before bound
      ((Stream.write (transport setup).recorded data).poll ticket stage stream).2
      ((Stream.write (transport setup).recorded data).poll ticket stage stream).1 := by
  refine @Step.run_ends _ _ _ _
    (fun stage stream => Undisturbed setup config data ticket before stage stream ∧
      (stretchesLeft data stage < bound ∨
        stretchesLeft data stage = bound ∧ Passes setup ticket stage stream.world.inner))
    (fun progress stream => Reaches setup config data ticket before bound progress stream)
    (fun stage _ => stretchesLeft data stage) ?_ _ _ _ ⟨undisturbed, near⟩ ?_
  · rintro stage stream ⟨undisturbed, near⟩
    have goes := undisturbed.advance_goes
    rcases advanced : Write.advance (transport setup).recorded data ticket stage stream with
      ⟨after, later | next | outcome⟩ <;> rw [advanced] at goes
    · obtain ⟨stands, waits, nearer | ⟨same, shut⟩⟩ := goes
      · refine ⟨undisturbed.after_advance advanced stands, waits, ?_⟩
        omega
      · have below := near.resolve_right fun opened => shut opened.2
        exact ⟨undisturbed.after_advance advanced stands, waits, same ▸ below⟩
    · obtain ⟨stands, fewer⟩ := goes
      refine ⟨⟨undisturbed.after_advance advanced stands, .inl ?_⟩, fewer⟩
      omega
    · exact goes
  · show stretchesLeft data (stage.getD .start) < data.length + 16
    unfold stretchesLeft
    split <;> omega

end Scripted

end MessageStream
