import MessageStream.Proofs.Bridge.ReadSide

/-!
The writing side of a bridge: the write it has in flight and the failure it keeps. No failure is
kept while a write is in flight, so what becomes of the write decides what is kept after it.
Everything a poll for a write, a flush or a shutdown can do to this side is said here once. Polls
for bytes leave it alone, and so do the entries they add to the record.
-/
namespace MessageStream

namespace WriteOutcome

def failure? : WriteOutcome → Option Failure
  | .ok _ => none
  | .error error => some error.toFailure

def told : WriteOutcome → Except Failure Nat
  | .ok count => .ok count
  | .error error =>
    if 0 < error.transferred then .ok error.transferred else .error error.toFailure

def behind (outcome : WriteOutcome) : Option Failure :=
  match outcome.told with
  | .ok _ => outcome.failure?
  | .error _ => none

theorem told_ok {outcome : WriteOutcome} {count : Nat} (told : outcome.told = .ok count) :
    outcome.moved = count ∧ outcome.behind = outcome.failure? := by
  refine ⟨?_, by rw [behind, told]⟩
  cases outcome with
  | ok moved => exact Except.ok.inj told
  | error error =>
    unfold WriteOutcome.told at told
    dsimp only at told
    split at told
    · exact Except.ok.inj told
    · cases told

theorem told_error {outcome : WriteOutcome} {failure : Failure}
    (told : outcome.told = .error failure) :
    outcome.failure? = some failure ∧ outcome.behind = none := by
  refine ⟨?_, by rw [behind, told]⟩
  cases outcome with
  | ok moved => cases told
  | error error =>
    unfold WriteOutcome.told at told
    dsimp only at told
    split at told
    · cases told
    · exact congrArg some (Except.error.inj told)

end WriteOutcome

namespace Bridge

variable {World Reading Writing Closing : Type}

theorem writeDone_told (bridge : Bridge Reading Writing Closing) (outcome : WriteOutcome)
    (clean : bridge.writeFailure = none) :
    bridge.writeDone outcome =
      ({ bridge with writing := none, inFlight := none, writeFailure := outcome.behind },
        outcome.told) := by
  unfold writeDone WriteOutcome.behind WriteOutcome.told
  cases outcome with
  | ok count =>
    rw [clean]
    rfl
  | error error =>
    dsimp only
    split
    · rfl
    · rw [clean]

/-- A write in flight has been polled, its bytes are those kept for comparison, and no failure is
kept beside it. -/
structure InOrder (bridge : Bridge Reading Writing Closing) : Prop where
  given : bridge.inFlight = bridge.writing.map InFlight.request
  clean : ∀ call, bridge.writing = some call → bridge.writeFailure = none
  resumes : ∀ call, bridge.writing = some call → call.stage.isSome = true

section Polls

variable (calls : StreamCalls World Reading Writing Closing)

inductive WritingPoll (bridge : Bridge Reading Writing Closing) (world : World) :
    Bridge Reading Writing Closing → World → WriteProgress → Prop where
  | idles (free : bridge.writing = none) : WritingPoll bridge world bridge world .idle
  | waits {call : InFlight Bytes Writing} {later : World} {stage : Writing}
      (under : bridge.writing = some call)
      (polled : (calls.write call.request).poll call.ticket call.stage world =
        (later, .waiting stage)) :
    WritingPoll bridge world { bridge with writing := some { call with stage := some stage } }
      later .waiting
  | ends {call : InFlight Bytes Writing} {later : World} {outcome : WriteOutcome}
      (under : bridge.writing = some call)
      (polled : (calls.write call.request).poll call.ticket call.stage world =
        (later, .ready outcome)) :
    WritingPoll bridge world
      { bridge with writing := none, inFlight := none, writeFailure := outcome.behind } later
      (.done outcome.told)

theorem pollWriting_polls (bridge : Bridge Reading Writing Closing)
    (clean : ∀ call, bridge.writing = some call → bridge.writeFailure = none) (world : World) :
    WritingPoll calls bridge world (bridge.pollWriting calls world).1.1
      (bridge.pollWriting calls world).1.2 (bridge.pollWriting calls world).2 := by
  unfold pollWriting
  split
  · rename_i free
    exact .idles free
  · rename_i call under
    simp only [pollCall, bridge.writeDone_told _ (clean call under)]
    rcases polled : (calls.write call.request).poll call.ticket call.stage world with
      ⟨later, stage | outcome⟩
    · exact .waits under polled
    · exact .ends under polled

/-- Everything the settling of a write in flight can do. The failure of one that ends is kept. -/
inductive Settles (bridge : Bridge Reading Writing Closing) (world : World) :
    Bridge Reading Writing Closing → World → Bool → Prop where
  | idles (free : bridge.writing = none) : Settles bridge world bridge world true
  | waits {call : InFlight Bytes Writing} {later : World} {stage : Writing}
      (under : bridge.writing = some call)
      (polled : (calls.write call.request).poll call.ticket call.stage world =
        (later, .waiting stage)) :
    Settles bridge world { bridge with writing := some { call with stage := some stage } } later
      false
  | ends {call : InFlight Bytes Writing} {later : World} {outcome : WriteOutcome}
      (under : bridge.writing = some call)
      (polled : (calls.write call.request).poll call.ticket call.stage world =
        (later, .ready outcome)) :
    Settles bridge world
      { bridge with writing := none, inFlight := none, writeFailure := outcome.failure? } later true

theorem settle_settles {bridge : Bridge Reading Writing Closing} (order : bridge.InOrder)
    (world : World) :
    Settles calls bridge world (bridge.settle calls world).1.1 (bridge.settle calls world).1.2
      (bridge.settle calls world).2 := by
  have polls := pollWriting_polls calls bridge order.clean world
  unfold settle
  generalize bridge.pollWriting calls world = result at polls ⊢
  obtain ⟨⟨after, later⟩, progress⟩ := result
  dsimp only at polls
  cases polls with
  | idles free => exact .idles free
  | waits under polled => exact .waits under polled
  | @ends call _ outcome under polled =>
    have ends : Settles calls bridge world { bridge with
        writing := none, inFlight := none, writeFailure := outcome.failure? } _ true :=
      .ends under polled
    -- Whether its caller would have been told of it or not, its failure is kept.
    cases answer : outcome.told with
    | ok count =>
      rw [(WriteOutcome.told_ok answer).2]
      exact ends
    | error failure =>
      obtain ⟨failed, told⟩ := WriteOutcome.told_error answer
      rw [told]
      rw [failed] at ends
      exact ends

/-- Nothing stands in the way of a write of these bytes: a write in flight with others has been
settled. -/
inductive MakesWay (data : Bytes) (bridge : Bridge Reading Writing Closing) (world : World) :
    Bridge Reading Writing Closing → World → Prop where
  | same (own : ∀ call, bridge.writing = some call → call.request = data) :
    MakesWay data bridge world bridge world
  | settles {after : Bridge Reading Writing Closing} {later : World}
      (other : ∀ call, bridge.writing = some call → call.request ≠ data)
      (settled : Settles calls bridge world after later true) :
    MakesWay data bridge world after later

/-- Everything a poll for a write can do. -/
inductive WritePoll (ticket : Ticket) (data : Bytes) (bridge : Bridge Reading Writing Closing)
    (world : World) : Bridge Reading Writing Closing → World → Polled Nat → Prop where
  | blocked {after : Bridge Reading Writing Closing} {later : World}
      (other : ∀ call, bridge.writing = some call → call.request ≠ data)
      (settled : Settles calls bridge world after later false) :
    WritePoll ticket data bridge world after later none
  | reports {free : Bridge Reading Writing Closing} {later : World} {failure : Failure}
      (way : MakesWay calls data bridge world free later) (idle : free.writing = none)
      (kept : free.writeFailure = some failure) :
    WritePoll ticket data bridge world { free with writeFailure := none } later
      (some (.error failure))
  | waits {free : Bridge Reading Writing Closing} {later last : World}
      {call : InFlight Bytes Writing} {stage : Writing}
      (way : MakesWay calls data bridge world free later) (clean : free.writeFailure = none)
      (asks : call = free.writing.getD { ticket, request := data })
      (polled : (calls.write call.request).poll call.ticket call.stage later =
        (last, .waiting stage)) :
    WritePoll ticket data bridge world
      { free with writing := some { call with stage := some stage }, inFlight := some data } last
      none
  | ends {free : Bridge Reading Writing Closing} {later last : World}
      {call : InFlight Bytes Writing} {outcome : WriteOutcome}
      (way : MakesWay calls data bridge world free later) (clean : free.writeFailure = none)
      (asks : call = free.writing.getD { ticket, request := data })
      (polled : (calls.write call.request).poll call.ticket call.stage later =
        (last, .ready outcome)) :
    WritePoll ticket data bridge world
      { free with writing := none, inFlight := none, writeFailure := outcome.behind } last
      (some outcome.told)

inductive FlushPoll (bridge : Bridge Reading Writing Closing) (world : World) :
    Bridge Reading Writing Closing → World → Polled Unit → Prop where
  | blocked {after : Bridge Reading Writing Closing} {later : World}
      (settled : Settles calls bridge world after later false) :
    FlushPoll bridge world after later none
  | reports {free : Bridge Reading Writing Closing} {later : World} {failure : Failure}
      (settled : Settles calls bridge world free later true)
      (kept : free.writeFailure = some failure) :
    FlushPoll bridge world { free with writeFailure := none } later (some (.error failure))
  | flushes {free : Bridge Reading Writing Closing} {later : World}
      (settled : Settles calls bridge world free later true) (clean : free.writeFailure = none) :
    FlushPoll bridge world free later (some (.ok ()))

/-- Everything a poll for a shutdown can do. It closes the stream once no write is in flight, and
looks at no failure kept. -/
inductive ShutdownPoll (bridge : Bridge Reading Writing Closing) (world : World) :
    Bridge Reading Writing Closing → World → Polled Unit → Prop where
  | blocked {after : Bridge Reading Writing Closing} {later : World}
      (settled : Settles calls bridge world after later false) :
    ShutdownPoll bridge world after later none
  | waits {free : Bridge Reading Writing Closing} {later last : World}
      {call : InFlight Unit Closing} {stage : Closing}
      (settled : Settles calls bridge world free later true)
      (polled : calls.close.poll call.ticket call.stage later = (last, .waiting stage)) :
    ShutdownPoll bridge world { free with closing := some { call with stage := some stage } } last
      none
  | closes {free : Bridge Reading Writing Closing} {later last : World}
      {call : InFlight Unit Closing} {outcome : CloseOutcome}
      (settled : Settles calls bridge world free later true)
      (polled : calls.close.poll call.ticket call.stage later = (last, .ready outcome)) :
    ShutdownPoll bridge world { free with closing := none } last
      (some (outcome.mapError StreamError.toFailure))

theorem pollFlush_polls {bridge : Bridge Reading Writing Closing} (order : bridge.InOrder)
    (world : World) :
    FlushPoll calls bridge world (bridge.pollFlush calls world).1.1
      (bridge.pollFlush calls world).1.2 (bridge.pollFlush calls world).2 := by
  have settled := settle_settles calls order world
  unfold pollFlush
  generalize bridge.settle calls world = result at settled ⊢
  obtain ⟨⟨free, later⟩, _ | _⟩ := result
  · exact .blocked settled
  · dsimp only
    split
    · rename_i failure kept
      exact .reports settled kept
    · rename_i clean
      exact .flushes settled clean

theorem pollShutdown_polls (ticket : Ticket) {bridge : Bridge Reading Writing Closing}
    (order : bridge.InOrder) (world : World) :
    ShutdownPoll calls bridge world (bridge.pollShutdown calls ticket world).1.1
      (bridge.pollShutdown calls ticket world).1.2 (bridge.pollShutdown calls ticket world).2 := by
  have settled := settle_settles calls order world
  unfold pollShutdown
  generalize bridge.settle calls world = result at settled ⊢
  obtain ⟨⟨free, later⟩, _ | _⟩ := result
  · exact .blocked settled
  · simp only [pollCall]
    generalize free.closing.getD { ticket, request := () } = call
    rcases polled : calls.close.poll call.ticket call.stage later with ⟨last, stage | outcome⟩
    · exact .waits settled polled
    · exact .closes settled polled

end Polls

variable {calls : StreamCalls World Reading Writing Closing}
  {bridge after : Bridge Reading Writing Closing} {world later : World}

theorem Settles.inOrder {free : Bool} (settles : Settles calls bridge world after later free)
    (order : bridge.InOrder) : after.InOrder := by
  cases settles with
  | idles idle => exact order
  | waits under polled =>
    refine ⟨?_, fun _ _ => order.clean _ under, ?_⟩
    · rw [order.given, under]
      rfl
    · rintro _ ⟨⟩
      rfl
  | ends under polled => exact ⟨rfl, nofun, nofun⟩

theorem Settles.unchanged_of_idle {free : Bool}
    (settles : Settles calls bridge world after later free)
    (idle : bridge.writing = none) : after = bridge ∧ later = world ∧ free = true := by
  cases settles with
  | idles idle => exact ⟨rfl, rfl, rfl⟩
  | waits under polled =>
    rw [idle] at under
    cases under
  | ends under polled =>
    rw [idle] at under
    cases under

theorem Settles.idle_of_free (settles : Settles calls bridge world after later true) :
    after.writing = none := by
  cases settles with
  | idles idle => exact idle
  | ends under polled => rfl

theorem MakesWay.inOrder {data : Bytes} (way : MakesWay calls data bridge world after later)
    (order : bridge.InOrder) : after.InOrder := by
  cases way with
  | same own => exact order
  | settles other settled => exact settled.inOrder order

theorem MakesWay.unchanged_of_idle {data : Bytes}
    (way : MakesWay calls data bridge world after later)
    (idle : bridge.writing = none) : after = bridge ∧ later = world := by
  cases way with
  | same own => exact ⟨rfl, rfl⟩
  | settles other settled =>
    obtain ⟨same, unchanged, -⟩ := settled.unchanged_of_idle idle
    exact ⟨same, unchanged⟩

theorem MakesWay.request_of_writing {data : Bytes}
    (way : MakesWay calls data bridge world after later)
    (call : InFlight Bytes Writing) (under : after.writing = some call) : call.request = data := by
  cases way with
  | same own => exact own call under
  | settles other settled =>
    rw [settled.idle_of_free] at under
    cases under

theorem MakesWay.request_of_asked {data : Bytes}
    (way : MakesWay calls data bridge world after later)
    {ticket : Ticket} {call : InFlight Bytes Writing}
    (asks : call = after.writing.getD { ticket, request := data }) : call.request = data := by
  cases under : after.writing with
  | none =>
    rw [asks, under]
    rfl
  | some going =>
    rw [asks, under]
    exact way.request_of_writing going under

theorem MakesWay.unchanged_of_same {data : Bytes}
    (way : MakesWay calls data bridge world after later)
    {call : InFlight Bytes Writing} (under : bridge.writing = some call)
    (same : call.request = data) : after = bridge ∧ later = world := by
  cases way with
  | same own => exact ⟨rfl, rfl⟩
  | settles other settled => exact absurd same (other call under)

theorem WritePoll.inOrder {ticket : Ticket} {data : Bytes} {polled : Polled Nat}
    (polls : WritePoll calls ticket data bridge world after later polled)
    (order : bridge.InOrder) : after.InOrder := by
  cases polls with
  | blocked other settled => exact settled.inOrder order
  | reports way idle kept =>
    refine ⟨(way.inOrder order).given, fun _ _ => rfl, ?_⟩
    rintro call under
    rw [idle] at under
    cases under
  | waits way clean asks polled =>
    refine ⟨?_, fun _ _ => clean, ?_⟩
    · exact congrArg some (way.request_of_asked asks).symm
    · rintro _ ⟨⟩
      rfl
  | ends way clean asks polled => exact ⟨rfl, nofun, nofun⟩

theorem FlushPoll.inOrder {polled : Polled Unit}
    (polls : FlushPoll calls bridge world after later polled) (order : bridge.InOrder) :
    after.InOrder := by
  cases polls with
  | blocked settled => exact settled.inOrder order
  | reports settled kept =>
    have free := settled.inOrder order
    exact ⟨free.given, fun _ _ => rfl, free.resumes⟩
  | flushes settled clean => exact settled.inOrder order

theorem ShutdownPoll.inOrder {polled : Polled Unit}
    (polls : ShutdownPoll calls bridge world after later polled) (order : bridge.InOrder) :
    after.InOrder := by
  cases polls with
  | blocked settled => exact settled.inOrder order
  | waits settled polled =>
    have free := settled.inOrder order
    exact ⟨free.given, free.clean, free.resumes⟩
  | closes settled polled =>
    have free := settled.inOrder order
    exact ⟨free.given, free.clean, free.resumes⟩

theorem InOrder.idle_of_held (order : bridge.InOrder) {failure : Failure}
    (held : bridge.writeFailure = some failure) : bridge.writing = none := by
  cases under : bridge.writing with
  | none => rfl
  | some call =>
    rw [order.clean call under] at held
    cases held

theorem WritePoll.reports_held {ticket : Ticket} {data : Bytes} {polled : Polled Nat}
    (polls : WritePoll calls ticket data bridge world after later polled)
    (order : bridge.InOrder) {failure : Failure} (held : bridge.writeFailure = some failure) :
    after.writeFailure = none ∧ later = world ∧ polled = some (.error failure) := by
  have idle := order.idle_of_held held
  cases polls with
  | blocked other settled => cases (settled.unchanged_of_idle idle).2.2
  | reports way free kept =>
    obtain ⟨rfl, rfl⟩ := way.unchanged_of_idle idle
    cases kept.symm.trans held
    exact ⟨rfl, rfl, rfl⟩
  | waits way clean asks polled =>
    obtain ⟨rfl, rfl⟩ := way.unchanged_of_idle idle
    cases clean.symm.trans held
  | ends way clean asks polled =>
    obtain ⟨rfl, rfl⟩ := way.unchanged_of_idle idle
    cases clean.symm.trans held

theorem FlushPoll.reports_held {polled : Polled Unit}
    (polls : FlushPoll calls bridge world after later polled) (order : bridge.InOrder)
    {failure : Failure} (held : bridge.writeFailure = some failure) :
    after.writeFailure = none ∧ later = world ∧ polled = some (.error failure) := by
  have idle := order.idle_of_held held
  cases polls with
  | blocked settled => cases (settled.unchanged_of_idle idle).2.2
  | reports settled kept =>
    obtain ⟨rfl, rfl, -⟩ := settled.unchanged_of_idle idle
    cases kept.symm.trans held
    exact ⟨rfl, rfl, rfl⟩
  | flushes settled clean =>
    obtain ⟨rfl, rfl, -⟩ := settled.unchanged_of_idle idle
    cases clean.symm.trans held

theorem FlushPoll.succeeds_of_clean {polled : Polled Unit}
    (polls : FlushPoll calls bridge world after later polled) (idle : bridge.writing = none)
    (clean : bridge.writeFailure = none) : polled = some (.ok ()) := by
  cases polls with
  | blocked settled => cases (settled.unchanged_of_idle idle).2.2
  | reports settled kept =>
    obtain ⟨rfl, rfl, -⟩ := settled.unchanged_of_idle idle
    cases clean.symm.trans kept
  | flushes settled clean => rfl

theorem ShutdownPoll.goes_on_holding {polled : Polled Unit}
    (polls : ShutdownPoll calls bridge world after later polled) (order : bridge.InOrder)
    {failure : Failure} (held : bridge.writeFailure = some failure) :
    after.writeFailure = some failure := by
  have idle := order.idle_of_held held
  cases polls with
  | blocked settled => cases (settled.unchanged_of_idle idle).2.2
  | waits settled polled =>
    obtain ⟨rfl, rfl, -⟩ := settled.unchanged_of_idle idle
    exact held
  | closes settled polled =>
    obtain ⟨rfl, rfl, -⟩ := settled.unchanged_of_idle idle
    exact held

theorem ShutdownPoll.idle_of_done {polled : Polled Unit}
    (polls : ShutdownPoll calls bridge world after later polled)
    (done : polled = some (.ok ())) : after.writing = none := by
  cases polls with
  | blocked settled => cases done
  | waits settled polled => cases done
  | closes settled polled => exact settled.idle_of_free

theorem beginWrite_cases {data : Bytes} (ticket : Ticket) (order : bridge.InOrder)
    (own : ∀ call, bridge.writing = some call → call.request = data) :
    (∃ failure, bridge.writing = none ∧ bridge.writeFailure = some failure ∧
      bridge.beginWrite ticket data = ({ bridge with writeFailure := none }, some failure)) ∨
    (bridge.writeFailure = none ∧ bridge.beginWrite ticket data =
      ({ bridge with
        writing := some (bridge.writing.getD { ticket, request := data })
        inFlight := some data }, none)) := by
  unfold beginWrite
  split
  · rename_i going
    obtain ⟨call, under⟩ := Option.isSome_iff_exists.mp going
    have given : bridge.inFlight = some data := by
      rw [order.given, under, ← own call under]
      rfl
    refine .inr ⟨order.clean call under, ?_⟩
    -- The bridge stays as it is, for it holds this very write.
    cases bridge
    cases under
    cases given
    rfl
  · rename_i idle
    have free : bridge.writing = none := by simpa using idle
    rw [free]
    cases kept : bridge.writeFailure with
    | some failure => exact .inl ⟨failure, rfl, rfl, rfl⟩
    | none => exact .inr ⟨rfl, rfl⟩

theorem pollWrite_polls (calls : StreamCalls World Reading Writing Closing) (ticket : Ticket)
    (data : Bytes) (order : bridge.InOrder) (world : World) :
    WritePoll calls ticket data bridge world (bridge.pollWrite calls ticket data world).1.1
      (bridge.pollWrite calls ticket data world).1.2
      (bridge.pollWrite calls ticket data world).2 := by
  -- First a write in flight with other bytes is settled, and then a write of these goes on.
  have way : match if bridge.inFlight.any fun given => given != data then bridge.settle calls world
      else ((bridge, world), true) with
      | ((free, later), true) => MakesWay calls data bridge world free later
      | ((free, later), false) => (∀ call, bridge.writing = some call → call.request ≠ data) ∧
        Settles calls bridge world free later false := by
    have settled := settle_settles calls order world
    by_cases abandoned : (bridge.inFlight.any fun given => given != data) = true
    · have other (call : InFlight Bytes Writing) (under : bridge.writing = some call) :
          call.request ≠ data := by
        simpa [order.given, under] using abandoned
      rw [if_pos abandoned]
      generalize bridge.settle calls world = result at settled ⊢
      obtain ⟨⟨free, later⟩, _ | _⟩ := result
      · exact ⟨other, settled⟩
      · exact .settles other settled
    · rw [if_neg abandoned]
      refine .same ?_
      intro call under
      simpa [order.given, under] using abandoned
  unfold pollWrite
  dsimp only
  generalize (if bridge.inFlight.any fun given => given != data then bridge.settle calls world
    else ((bridge, world), true)) = result at way ⊢
  obtain ⟨⟨free, later⟩, _ | _⟩ := result
  · exact .blocked way.1 way.2
  · rcases beginWrite_cases ticket (way.inOrder order) way.request_of_writing with
      ⟨failure, idle, kept, begun⟩ | ⟨clean, begun⟩
    · simp only [begun]
      exact .reports way idle kept
    · simp only [begun]
      have polls := pollWriting_polls calls { free with
        writing := some (free.writing.getD { ticket, request := data })
        inFlight := some data } (fun _ _ => clean) later
      generalize pollWriting calls _ later = result at polls ⊢
      obtain ⟨⟨after, last⟩, progress⟩ := result
      dsimp only at polls
      cases polls with
      | idles idle => cases idle
      | waits under polled =>
        cases under
        have waits := WritePoll.waits way clean rfl polled
        exact waits
      | ends under polled =>
        cases under
        have ends := WritePoll.ends way clean rfl polled
        exact ends

structure Apart (bridge after : Bridge Reading Writing Closing) : Prop where
  writing : after.writing = bridge.writing
  inFlight : after.inFlight = bridge.inFlight
  writeFailure : after.writeFailure = bridge.writeFailure

theorem Apart.inOrder (apart : Apart bridge after) (order : bridge.InOrder) : after.InOrder := by
  obtain ⟨writing, inFlight, writeFailure⟩ := apart
  constructor
  · rw [writing, inFlight]
    exact order.given
  · rw [writing, writeFailure]
    exact order.clean
  · rw [writing]
    exact order.resumes

theorem deliver_apart (bridge : Bridge Reading Writing Closing) (data : Bytes) (room : Nat) :
    Apart bridge (bridge.deliver data room).1 := by
  unfold deliver
  dsimp only
  split <;> exact ⟨rfl, rfl, rfl⟩

theorem readDone_apart (bridge : Bridge Reading Writing Closing) (outcome : ReadOutcome)
    (room : Nat) : Apart bridge (bridge.readDone outcome room).1 := by
  unfold readDone
  dsimp only
  split
  · obtain ⟨writing, inFlight, writeFailure⟩ :=
      deliver_apart { bridge with reading := none } outcome.data room
    exact ⟨writing, inFlight, writeFailure⟩
  · rename_i error failed
    split
    · obtain ⟨writing, inFlight, writeFailure⟩ := deliver_apart
        { bridge with reading := none, readFailure := some error.toFailure } outcome.data room
      exact ⟨writing, inFlight, writeFailure⟩
    · exact ⟨rfl, rfl, rfl⟩

theorem ReadPoll.apart {ticket : Ticket} {room : Nat} {polled : Polled Bytes}
    (polls : ReadPoll calls ticket room bridge world after later polled) : Apart bridge after := by
  cases polls with
  | surplus taken =>
    rw [(takeLeftover_some taken).2.2]
    exact ⟨rfl, rfl, rfl⟩
  | ends spent clean roomy asks polled => exact bridge.readDone_apart _ room
  | _ => exact ⟨rfl, rfl, rfl⟩

end Bridge

end MessageStream
