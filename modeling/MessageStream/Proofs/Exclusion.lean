import MessageStream.Proofs.Inbound.Delivery
import MessageStream.Proofs.Outbound.Attendance
import MessageStream.Transport.Scripted

/-!
One open message each way. A call asks for a message only when none is current, and a message that
is current stays so until it is finished. But a call that finds none current then waits, and another
may find none current meanwhile and ask as well. So messages follow one another, each finished
before the next is asked for, exactly if no two calls ask for one at once; and a message asked for
while an earlier one is open finds that one overtaken, another having been handed out after it.
-/
namespace MessageStream

variable {S : Signature} {T : Transport S}

namespace Direction

def asks : Direction → Request → Bool
  | inbound, .nextReader => true
  | outbound, .nextWriter _ => true
  | _, _ => false

def slot : Direction → Stream.State S → Option Nat
  | inbound, state => state.inbound
  | outbound, state => state.outbound

theorem asks_writer {direction : Direction} {request : Request}
    (asks : direction.asks request = true) : request.writer? = none := by
  cases direction <;> cases request <;> first | rfl | cases asks

end Direction

namespace Traffic

variable {direction : Direction} {traffic entries : List Traffic} {number : Nat}

/-- The calls that ask for a message, after one more entry of the record. -/
def enlist (direction : Direction) (waiting : List Ticket) : Traffic → List Ticket
  | .begun caller request => if direction.asks request then waiting ++ [caller] else waiting
  | .ended caller request _ | .cancelled caller request =>
    if direction.asks request then waiting.erase caller else waiting

/-- The calls that have asked for a message and have neither been answered nor been given up. -/
def outstanding (direction : Direction) (traffic : List Traffic) : List Ticket :=
  traffic.foldl (enlist direction) []

def Opened (direction : Direction) (number : Nat) (traffic : List Traffic) : Prop :=
  ∃ caller request, direction.asks request = true ∧
    .ended caller request (.opened number) ∈ traffic

/-- No more comes of the message: an inbound one has yielded nothing where there was room, and the
finish of an outbound one is over. -/
def Finished : Direction → Nat → List Traffic → Prop
  | .inbound, number, traffic =>
    ∃ caller room, 0 < room ∧ .ended caller (.read number room) (.yielded []) ∈ traffic
  | .outbound, number, traffic => Over number traffic

/-- Another message was handed out while this one was open. -/
def Overtaken (direction : Direction) (number : Nat) (traffic : List Traffic) : Prop :=
  ∃ before caller request later after,
    traffic = before ++ .ended caller request (.opened later) :: after ∧
    direction.asks request = true ∧ Opened direction number before ∧
    ¬ Finished direction number before

/-- At some moment two calls asked for a message at once. -/
def Overlapped (direction : Direction) (traffic : List Traffic) : Prop :=
  ∃ before, before <+: traffic ∧ 1 < (outstanding direction before).length

/-- At no moment do two calls ask for a message, and none is asked for while another is open. -/
structure Exclusive (direction : Direction) (traffic : List Traffic) : Prop where
  alone : ∀ before, before <+: traffic → (outstanding direction before).length ≤ 1
  closed : ∀ before caller request after, traffic = before ++ .begun caller request :: after →
    direction.asks request = true →
    ∀ number, Opened direction number before → Finished direction number before

theorem outstanding_append :
    outstanding direction (traffic ++ entries) =
      entries.foldl (enlist direction) (outstanding direction traffic) :=
  List.foldl_append

theorem outstanding_quiet (quiet : ∀ entry ∈ entries, direction.asks entry.request = false) :
    outstanding direction (traffic ++ entries) = outstanding direction traffic := by
  rw [outstanding_append]
  generalize outstanding direction traffic = waiting
  induction entries with
  | nil => rfl
  | cons entry rest ih =>
    have same : enlist direction waiting entry = waiting := by
      have silent := quiet entry (.head _)
      cases entry <;> simp_all [enlist, request]
    rw [List.foldl_cons, same]
    exact ih fun later member => quiet later (.tail _ member)

theorem Opened.append_entries (opened : Opened direction number traffic) :
    Opened direction number (traffic ++ entries) := by
  obtain ⟨caller, request, asks, member⟩ := opened
  exact ⟨caller, request, asks, List.mem_append_left _ member⟩

theorem opened_quiet (opened : Opened direction number (traffic ++ entries))
    (quiet : ∀ entry ∈ entries, direction.asks entry.request = false) :
    Opened direction number traffic := by
  obtain ⟨caller, request, asks, member⟩ := opened
  rcases List.mem_append.mp member with old | new
  · exact ⟨caller, request, asks, old⟩
  · cases asks.symm.trans (quiet _ new)

theorem Finished.append_elsewhere (finished : Finished direction number traffic)
    (elsewhere : ∀ entry ∈ entries, entry.request.writer? = none) :
    Finished direction number (traffic ++ entries) := by
  cases direction with
  | inbound =>
    obtain ⟨caller, room, roomy, member⟩ := finished
    exact ⟨caller, room, roomy, List.mem_append_left _ member⟩
  | outbound =>
    have passed : Use.idle.follow number traffic = some .finished := finished
    have away : Use.finished.follow number entries = some .finished := by
      apply Use.follow_elsewhere
      intro entry member
      rw [elsewhere entry member]
      nofun
    change Use.idle.follow number (traffic ++ entries) = some .finished
    rw [Use.follow_append, passed]
    exact away

theorem Overtaken.append_entries (overtaken : Overtaken direction number traffic) :
    Overtaken direction number (traffic ++ entries) := by
  obtain ⟨before, caller, request, later, after, rfl, rest⟩ := overtaken
  exact ⟨before, caller, request, later, after ++ entries, by simp, rest⟩

theorem Overlapped.append_entries (overlapped : Overlapped direction traffic) :
    Overlapped direction (traffic ++ entries) := by
  obtain ⟨before, earlier, crowd⟩ := overlapped
  exact ⟨before, earlier.trans (List.prefix_append _ _), crowd⟩

theorem not_overlapped (alone : ¬ Overlapped direction traffic) :
    ∀ before, before <+: traffic → (outstanding direction before).length ≤ 1 := by
  intro before earlier
  by_contra crowd
  exact alone ⟨before, earlier, Nat.lt_of_not_le crowd⟩

/-- What the record of one direction shows at every moment. While the stream stands, a message
handed out is current, or finished, or overtaken; whoever asks does so when none is current; and
unless two calls have asked at once, every message is finished while one asks for the next. -/
structure Sole (direction : Direction) (traffic : List Traffic) (slot : Option Nat)
    (shut : Bool) : Prop where
  placed : shut = false → ∀ number, Opened direction number traffic →
    slot = some number ∨ Finished direction number traffic ∨ Overtaken direction number traffic
  asked : ∀ before caller request after, traffic = before ++ .begun caller request :: after →
    direction.asks request = true → ∀ number, Opened direction number before →
    Finished direction number before ∨ Overtaken direction number before
  handed : ∀ before caller request later after,
    traffic = before ++ .ended caller request (.opened later) :: after →
    direction.asks request = true → Overlapped direction before ∨
      ∀ number, Opened direction number before → Finished direction number before
  waits : outstanding direction traffic ≠ [] → Overlapped direction traffic ∨
    ∀ number, Opened direction number traffic → Finished direction number traffic

namespace Sole

variable {slot after : Option Nat} {shut shuts : Bool} (sole : Sole direction traffic slot shut)
include sole

theorem overtaken_overlapped (overtaken : Overtaken direction number traffic) :
    Overlapped direction traffic := by
  obtain ⟨before, caller, request, later, rest, rfl, asks, opened, unfinished⟩ := overtaken
  rcases sole.handed before caller request later rest rfl asks with overlapped | finished
  · exact overlapped.append_entries
  · exact absurd (finished number opened) unfinished

theorem after_silence (silent : ∀ entry ∈ entries, direction.asks entry.request = false)
    (keeps : ∀ number, Finished direction number traffic →
      Finished direction number (traffic ++ entries))
    (stays : shuts = false → shut = false)
    (kept : after = slot ∨ shuts = true ∨
      ∃ number, slot = some number ∧ Finished direction number (traffic ++ entries)) :
    Sole direction (traffic ++ entries) after shuts := by
  refine ⟨?_, ?_, ?_, ?_⟩
  · intro standing number opened
    rcases sole.placed (stays standing) number (opened_quiet opened silent) with
      current | finished | overtaken
    · rcases kept with same | closed | ⟨left, held, finished⟩
      · exact .inl (same.trans current)
      · cases closed.symm.trans standing
      · cases held.symm.trans current
        exact .inr (.inl finished)
    · exact .inr (.inl (keeps number finished))
    · exact .inr (.inr overtaken.append_entries)
  · intro before caller request rest split asks
    rcases split_append split with ⟨middle, early⟩ | ⟨front, -, late⟩
    · exact sole.asked before caller request middle early asks
    · cases asks.symm.trans (silent (.begun caller request) (by simp [late]))
  · intro before caller request later rest split asks
    rcases split_append split with ⟨middle, early⟩ | ⟨front, -, late⟩
    · exact sole.handed before caller request later middle early asks
    · cases asks.symm.trans (silent (.ended caller request (.opened later)) (by simp [late]))
  · intro waiting
    rw [outstanding_quiet silent] at waiting
    refine (sole.waits waiting).imp Overlapped.append_entries ?_
    intro finished number opened
    exact keeps number (finished number (opened_quiet opened silent))

theorem after_asking {caller : Ticket} {request : Request}
    (asks : direction.asks request = true)
    (standing : shut = false) (vacant : slot = none) :
    Sole direction (traffic ++ [.begun caller request]) slot shut := by
  have free (number : Nat) (opened : Opened direction number traffic) :
      Finished direction number traffic ∨ Overtaken direction number traffic := by
    refine (sole.placed standing number opened).resolve_left ?_
    rw [vacant]
    nofun
  have keeps (number : Nat) (finished : Finished direction number traffic) :
      Finished direction number (traffic ++ [.begun caller request]) := by
    apply finished.append_elsewhere
    intro entry member
    exact List.mem_singleton.mp member ▸ Direction.asks_writer asks
  have before (number : Nat)
      (opened : Opened direction number (traffic ++ [.begun caller request])) :
      Opened direction number traffic := by
    obtain ⟨other, answered, fits, member⟩ := opened
    exact ⟨other, answered, fits, by simpa using member⟩
  refine ⟨?_, ?_, ?_, ?_⟩
  · intro _ number opened
    exact .inr ((free number (before number opened)).imp (keeps number) Overtaken.append_entries)
  · intro front other begun rest split fits
    rcases split_snoc split with ⟨middle, early, -⟩ | ⟨rfl, -, -⟩
    · exact sole.asked front other begun middle early fits
    · -- The call that asks now finds every message finished or overtaken.
      exact free
  · intro front other answered later rest split fits
    rcases split_snoc split with ⟨middle, early, -⟩ | ⟨-, other, -⟩
    · exact sole.handed front _ answered later middle early fits
    · cases other
  · intro _
    have joins : outstanding direction (traffic ++ [.begun caller request]) =
        outstanding direction traffic ++ [caller] := by
      simp [outstanding_append, enlist, asks]
    by_cases alone : outstanding direction traffic = []
    · by_cases overlapped : Overlapped direction traffic
      · exact .inl overlapped.append_entries
      · right
        intro number opened
        rcases free number (before number opened) with finished | overtaken
        · exact keeps number finished
        · exact absurd (sole.overtaken_overlapped overtaken) overlapped
    · have crowd := List.length_pos_iff.mpr alone
      refine .inl ⟨_, List.prefix_rfl, ?_⟩
      rw [joins, List.length_append, List.length_singleton]
      exact Nat.lt_add_of_pos_left crowd

theorem after_answer {caller : Ticket} {request : Request} {reply : Reply}
    (asks : direction.asks request = true) (asking : caller ∈ outstanding direction traffic)
    (hands : ∀ number, reply = .opened number → shut = true ∨ after = some number)
    (keeps : (∀ number, reply ≠ .opened number) → after = slot) :
    Sole direction (traffic ++ [.ended caller request reply]) after shut := by
  have waits := sole.waits (List.ne_nil_of_mem asking)
  have finishes (number : Nat) (finished : Finished direction number traffic) :
      Finished direction number (traffic ++ [.ended caller request reply]) := by
    apply finished.append_elsewhere
    intro entry member
    exact List.mem_singleton.mp member ▸ Direction.asks_writer asks
  have cases_opened (number : Nat)
      (opened : Opened direction number (traffic ++ [.ended caller request reply])) :
      Opened direction number traffic ∨ reply = .opened number := by
    obtain ⟨other, answered, fits, member⟩ := opened
    rcases List.mem_append.mp member with old | new
    · exact .inl ⟨other, answered, fits, old⟩
    · have same := List.mem_singleton.mp new
      injection same with _ _ same
      exact .inr same.symm
  refine ⟨?_, ?_, ?_, ?_⟩
  · intro standing number opened
    rcases cases_opened number opened with old | new
    · by_cases finished : Finished direction number traffic
      · exact .inr (.inl (finishes number finished))
      · by_cases handed : ∃ later, reply = .opened later
        · obtain ⟨later, rfl⟩ := handed
          exact .inr (.inr ⟨traffic, caller, request, later, [], rfl, asks, old, finished⟩)
        · rw [keeps fun later same => handed ⟨later, same⟩]
          rcases sole.placed standing number old with current | done | overtaken
          · exact .inl current
          · exact absurd done finished
          · exact .inr (.inr overtaken.append_entries)
    · rcases hands number new with closed | current
      · cases closed.symm.trans standing
      · exact .inl current
  · intro front other begun rest split fits
    rcases split_snoc split with ⟨middle, early, -⟩ | ⟨-, other, -⟩
    · exact sole.asked front _ begun middle early fits
    · cases other
  · intro front other answered later rest split fits
    rcases split_snoc split with ⟨middle, early, -⟩ | ⟨rfl, -, -⟩
    · exact sole.handed front other answered later middle early fits
    · exact waits
  · intro waiting
    have leaves : outstanding direction (traffic ++ [.ended caller request reply]) =
        (outstanding direction traffic).erase caller := by
      simp [outstanding_append, enlist, asks]
    rw [leaves] at waiting
    -- Someone else asks still, so two did before this call was answered.
    have others := List.length_pos_iff.mpr waiting
    rw [List.length_erase_of_mem asking] at others
    exact .inl (Overlapped.append_entries ⟨traffic, List.prefix_rfl, Nat.lt_of_sub_pos others⟩)

end Sole

end Traffic

def Stream.Sole (direction : Direction) (stream : Stream S.recorded) : Prop :=
  Traffic.Sole direction stream.world.traffic (direction.slot stream.state) stream.state.isClosed

def Call.awaits : Direction → Call S → Bool
  | .inbound, .read _ (.waiting (.opening _)) => true
  | .inbound, _ => false
  | .outbound, call => call.seeks

/-- What one stretch of a call does about the messages of one direction, by whether the call waits
for one before and after: it asks for none, and the current one stays unless the stream is closed or
the message is finished; it asks for one while none is current; or it is answered. -/
inductive Procures (direction : Direction) (ticket : Ticket) (stream after : Stream S.recorded) :
    Bool → Bool → Prop where
  | rests {waits : Bool}
      (adds : stream.Adds ticket (fun request => !direction.asks request) after)
      (slot : direction.slot after.state = direction.slot stream.state ∨
        after.state.isClosed = true ∨ ∃ number, direction.slot stream.state = some number ∧
          Traffic.Finished direction number after.world.traffic) :
    Procures direction ticket stream after waits waits
  | asks {request : Request} (asks : direction.asks request = true)
      (standing : stream.state.isClosed = false) (vacant : direction.slot stream.state = none)
      (grown : after.world.traffic = stream.world.traffic ++ [.begun ticket request])
      (slot : direction.slot after.state = direction.slot stream.state)
      (closed : after.state.isClosed = stream.state.isClosed) :
    Procures direction ticket stream after false true
  | hears {request : Request} {resumed : Bool} {reply : Reply}
      (asks : direction.asks request = true)
      (vacant : resumed = false →
        stream.state.isClosed = false ∧ direction.slot stream.state = none)
      (grown : after.world.traffic =
        stream.world.traffic ++ Traffic.ofPoll ticket request resumed (some reply))
      (hands : ∀ number, reply = .opened number →
        stream.state.isClosed = true ∨ direction.slot after.state = some number)
      (keeps : (∀ number, reply ≠ .opened number) →
        direction.slot after.state = direction.slot stream.state)
      (closed : after.state.isClosed = stream.state.isClosed) :
    Procures direction ticket stream after resumed false

section Moves

variable {ticket : Ticket} {stream after : Stream S.recorded}

theorem ReaderComes.procures {asked : Option S.ReaderOpening} {room : Nat}
    {step : Step (ReadStage S.recorded) ReadOutcome}
    (comes : ReaderComes T ticket asked stream step after)
    (vacant : asked.isSome = false →
      stream.state.isClosed = false ∧ stream.state.inbound = none) :
    Procures .inbound ticket stream after asked.isSome
      ((Call.read room (.ofStep step) : Call S.recorded).awaits .inbound) := by
  cases comes with
  | waits =>
    cases asked with
    | none => exact .asks rfl (vacant rfl).1 (vacant rfl).2 rfl rfl rfl
    | some asked => exact .rests (.of_same_traffic (List.append_nil _)) (.inl rfl)
  | fails => exact .hears rfl vacant (Stream.giveBack_traffic T _ ticket) nofun (fun _ => rfl) rfl
  | late closed =>
    exact .hears rfl vacant (Stream.giveBack_traffic T _ ticket) (fun _ _ => .inl closed)
      (fun other => absurd rfl (other _)) rfl
  | opens standing =>
    refine .hears rfl vacant (Stream.giveBack_traffic T _ ticket) ?_
      (fun other => absurd rfl (other _)) rfl
    rintro number ⟨⟩
    exact .inr rfl

theorem WriterComes.procures {data : Bytes} {resumed : Bool}
    {step : Step (WriteStage S.recorded) WriteOutcome}
    (comes : WriterComes T ticket resumed stream step after)
    (vacant : resumed = false →
      stream.state.isClosed = false ∧ stream.state.outbound = none) :
    Procures .outbound ticket stream after resumed
      ((Call.write data (.ofStep step) : Call S.recorded).awaits .outbound) := by
  cases comes with
  | waits =>
    cases resumed with
    | false => exact .asks rfl (vacant rfl).1 (vacant rfl).2 rfl rfl rfl
    | true => exact .rests (.of_same_traffic (List.append_nil _)) (.inl rfl)
  | fails => exact .hears rfl vacant (Stream.giveBack_traffic T _ ticket) nofun (fun _ => rfl) rfl
  | late closed =>
    exact .hears rfl vacant rfl (fun _ _ => .inl closed) (fun other => absurd rfl (other _)) rfl
  | opens standing =>
    have asks : Direction.outbound.asks (.nextWriter stream.state.config.messageKind) = true := rfl
    have handed {Claim : Prop}
        (other : ∀ number, Reply.opened stream.state.writers.length ≠ .opened number) : Claim :=
      absurd rfl (other _)
    refine .hears asks vacant ?_ ?_ handed rfl
    · exact (Stream.giveBack_traffic T _ ticket).trans (Stream.openWriter_traffic T _ _ ticket)
    · rintro number ⟨⟩
      exact .inr rfl

theorem Procures.sole_after_move {direction : Direction} {waits awaits : Bool}
    (procures : Procures direction ticket stream after waits awaits) (sole : stream.Sole direction)
    (waited : waits = true → ticket ∈ Traffic.outstanding direction stream.world.traffic)
    (lasts : ∀ entries, after.world.traffic = stream.world.traffic ++ entries →
      ∀ number, Traffic.Finished direction number stream.world.traffic →
        Traffic.Finished direction number after.world.traffic)
    (stays : after.state.isClosed = false → stream.state.isClosed = false) :
    after.Sole direction ∧
    (awaits = true → ticket ∈ Traffic.outstanding direction after.world.traffic) ∧
    ∀ other, other ≠ ticket → other ∈ Traffic.outstanding direction stream.world.traffic →
      other ∈ Traffic.outstanding direction after.world.traffic := by
  have joins {request : Request} (asks : direction.asks request = true) :
      Traffic.outstanding direction (stream.world.traffic ++ [.begun ticket request]) =
        Traffic.outstanding direction stream.world.traffic ++ [ticket] := by
    simp [Traffic.outstanding_append, Traffic.enlist, asks]
  unfold Stream.Sole
  cases procures with
  | rests adds slot =>
    obtain ⟨entries, grown, quiet⟩ := adds
    have silent (entry : Traffic) (member : entry ∈ entries) :
        direction.asks entry.request = false := by
      simpa using (quiet entry member).2
    have kept := lasts entries grown
    rw [grown] at slot kept ⊢
    rw [Traffic.outstanding_quiet silent]
    exact ⟨sole.after_silence silent kept stays slot, waited, fun _ _ there => there⟩
  | asks asks standing vacant grown slot closed =>
    rw [grown, slot, closed, joins asks]
    exact ⟨sole.after_asking asks standing vacant, fun _ => List.mem_append_right _ (.head _),
      fun _ _ there => List.mem_append_left _ there⟩
  | hears asks vacant grown hands keeps closed =>
    rename_i request reply
    -- A call that is answered in the stretch in which it asks has asked before it is answered.
    obtain ⟨asking, same, asked, waiting, still⟩ : ∃ asking,
        after.world.traffic = asking ++ [.ended ticket request reply] ∧
        Traffic.Sole direction asking (direction.slot stream.state) stream.state.isClosed ∧
        ticket ∈ Traffic.outstanding direction asking ∧
        ∀ other, other ∈ Traffic.outstanding direction stream.world.traffic →
          other ∈ Traffic.outstanding direction asking := by
      cases waits with
      | true => exact ⟨stream.world.traffic, grown, sole, waited rfl, fun _ => id⟩
      | false =>
        obtain ⟨standing, none⟩ := vacant rfl
        refine ⟨stream.world.traffic ++ [.begun ticket request], ?_,
          sole.after_asking asks standing none, ?_, ?_⟩
        · rw [grown, List.append_assoc]
          rfl
        · exact joins asks ▸ List.mem_append_right _ (.head _)
        · exact fun other there => joins asks ▸ List.mem_append_left _ there
    have leaves : Traffic.outstanding direction after.world.traffic =
        (Traffic.outstanding direction asking).erase ticket := by
      simp [same, Traffic.outstanding_append, Traffic.enlist, asks]
    rw [leaves, same, closed]
    exact ⟨asked.after_answer asks waiting hands keeps, nofun, fun other different there =>
      (List.mem_erase_of_ne different).mpr (still other there)⟩

theorem Procures.of_borrow {direction : Direction} {waits awaits : Bool}
    (procures : Procures direction ticket (stream.borrow ticket) after waits awaits) :
    Procures direction ticket stream after waits awaits := by
  have same : direction.slot (stream.borrow ticket).state = direction.slot stream.state := by
    cases direction <;> rfl
  cases procures with
  | rests adds slot => exact .rests adds (same ▸ slot)
  | asks asks standing vacant grown slot closed =>
    exact .asks asks standing (same ▸ vacant) grown (same ▸ slot) closed
  | hears asks vacant grown hands keeps closed =>
    exact .hears asks (same ▸ vacant) grown hands (same ▸ keeps) closed

theorem ReadMove.procures_inbound {room : Nat} {stage : ReadStage S.recorded}
    {phase : Phase (ReadStage S.recorded) ReadOutcome}
    {step : Step (ReadStage S.recorded) ReadOutcome}
    (move : ReadMove T room ticket stage stream step after) (next : phase.next? .start = some stage)
    (roomy : stage.Roomy room) :
    Procures .inbound ticket stream after ((Call.read room phase : Call S.recorded).awaits .inbound)
      ((Call.read room (.ofStep step) : Call S.recorded).awaits .inbound) := by
  have waits : (Call.read room phase : Call S.recorded).awaits .inbound =
      (Call.read room (.waiting stage) : Call S.recorded).awaits .inbound := by
    cases phase <;> cases next <;> rfl
  rw [waits]
  have ends {number space : Nat} {later : Stream S.recorded} (space_left : 0 < space)
      {resumed : Bool} (grown : later.world.traffic = stream.world.traffic ++
        Traffic.ofPoll ticket (.read number space) resumed (some (.yielded []))) :
      Traffic.Finished .inbound number later.world.traffic := by
    refine ⟨ticket, space, space_left, ?_⟩
    rw [grown]
    exact List.mem_append_right _ (List.mem_append_right _ (.head _))
  have cleared {number : Nat} {later : Stream S.recorded}
      (slot : later.state.inbound =
        if stream.state.inbound = some number then none else stream.state.inbound)
      (finished : Traffic.Finished .inbound number later.world.traffic) :
      later.state.inbound = stream.state.inbound ∨ later.state.isClosed = true ∨
        ∃ number, stream.state.inbound = some number ∧
          Traffic.Finished .inbound number later.world.traffic := by
    by_cases current : stream.state.inbound = some number
    · exact .inr (.inr ⟨number, current, finished⟩)
    · exact .inl (slot.trans (if_neg current))
  cases move with
  | asks standing needed vacant comes =>
    exact (comes.procures fun _ => ⟨standing, vacant⟩).of_borrow
  | hears comes => exact comes.procures nofun
  | refused closed => exact .rests (.of_same_traffic rfl) (.inl rfl)
  | idles standing roomless => exact .rests (.of_same_traffic rfl) (.inl rfl)
  | joins standing needed current => exact .rests (.of_same_traffic rfl) (.inl rfl)
  | queues blocked => exact .rests (.of_same_traffic rfl) (.inl rfl)
  | enters turn => exact .rests (.of_same_traffic rfl) (.inl rfl)
  | pends found polled => exact .rests (.of_poll rfl _ _ rfl) (.inl rfl)
  | fails found polled => exact .rests (.of_poll rfl _ _ rfl) (.inl rfl)
  | goesOn found polled gained short => exact .rests (.of_poll rfl _ _ rfl) (.inl rfl)
  | fulfils found polled gained full => exact .rests (.of_poll rfl _ _ rfl) (.inl rfl)
  | passes found polled =>
    exact .rests (.of_poll rfl _ _ rfl) (cleared rfl (ends roomy rfl))
  | ends found polled gained =>
    exact .rests (.of_poll rfl _ _ rfl) (cleared rfl (ends (Nat.sub_pos_of_lt roomy) rfl))

theorem CloseMove.inbound_same_or_closed {stage : CloseStage S.recorded}
    {step : Step (CloseStage S.recorded) CloseOutcome}
    (move : CloseMove T ticket stage stream step after) :
    after.state.inbound = stream.state.inbound ∨
      after.state.isClosed = true ∧ after.state.inbound = none := by
  cases move with
  | takes current => exact .inr ⟨Close.take_closed ticket stream, rfl⟩
  | takesIdle vacant shuts => exact .inr ⟨Close.take_closed ticket stream, rfl⟩
  | finishPends comes => exact .inl comes.inbound_same
  | finishFails comes =>
    left
    unfold Close.letGo
    split <;> exact comes.inbound_same
  | finishes comes shuts => exact .inl comes.inbound_same
  | _ => exact .inl rfl

theorem WriteMove.asks_or_adds {data : Bytes} {stage : WriteStage S.recorded}
    {step : Step (WriteStage S.recorded) WriteOutcome}
    (move : WriteMove T data ticket stage stream step after) :
    (stage = .start ∧ stream.state.isClosed = false ∧ stream.state.outbound = none ∧
      WriterComes T ticket false (stream.borrow ticket) step after) ∨
    (∃ asked, stage = .opening asked ∧ WriterComes T ticket true stream step after) ∨
    (stream.Adds ticket (·.writer?.isSome) after ∧
      (Call.write data (.waiting stage) : Call S.recorded).seeks = false ∧
      (Call.write data (.ofStep step) : Call S.recorded).seeks = false) := by
  have filled (number written : Nat) : (Call.write data
      (.waiting (Write.fillOrFinish data number written)) : Call S.recorded).seeks = false := by
    unfold Write.fillOrFinish
    split <;> rfl
  cases move with
  | asks standing sent vacant comes => exact .inl ⟨rfl, standing, vacant, comes⟩
  | hears comes => exact .inr (.inl ⟨_, rfl, comes⟩)
  | refused closed => exact .inr (.inr ⟨.of_same_traffic rfl, rfl, rfl⟩)
  | skips standing skipped => exact .inr (.inr ⟨.of_same_traffic rfl, rfl, rfl⟩)
  | joins standing sent current => exact .inr (.inr ⟨.of_same_traffic rfl, rfl, rfl⟩)
  | discardPends comes => exact .inr (.inr ⟨comes.adds rfl, rfl, rfl⟩)
  | discards comes => exact .inr (.inr ⟨(comes.adds rfl).then_same (by simp), rfl, rfl⟩)
  | queues blocked => exact .inr (.inr ⟨.of_same_traffic rfl, rfl, rfl⟩)
  | retires turn found finished => exact .inr (.inr ⟨.of_same_traffic (by simp), rfl, rfl⟩)
  | enters turn found unfinished => exact .inr (.inr ⟨.of_same_traffic rfl, rfl, filled _ _⟩)
  | pends found => exact .inr (.inr ⟨.of_poll rfl _ _ rfl, rfl, rfl⟩)
  | breaks found => exact .inr (.inr ⟨.of_poll rfl _ _ rfl, rfl, rfl⟩)
  | takes found polled gained => exact .inr (.inr ⟨.of_poll rfl _ _ rfl, rfl, filled _ _⟩)
  | stalls found => exact .inr (.inr ⟨.of_poll rfl _ _ rfl, rfl, rfl⟩)
  | finishPends comes => exact .inr (.inr ⟨comes.adds rfl, rfl, rfl⟩)
  | failed comes => exact .inr (.inr ⟨(comes.adds rfl).then_same (by simp), rfl, rfl⟩)
  | finishFails comes => exact .inr (.inr ⟨(comes.adds rfl).then_same (by simp), rfl, rfl⟩)
  | delivers comes => exact .inr (.inr ⟨(comes.adds rfl).then_same (by simp), rfl, rfl⟩)

end Moves

namespace Usage

structure Single (direction : Direction) (usage : Usage S) : Prop where
  settled : usage.Settled
  attended : usage.Attended
  sole : usage.stream.Sole direction
  waits : ∀ (ticket : Ticket) (call : Call S.recorded), usage.calls[ticket]? = some call →
    call.awaits direction = true → ticket ∈ Traffic.outstanding direction usage.traffic
  roomy : ∀ (ticket : Ticket) (room : Nat) (phase : Phase (ReadStage S.recorded) ReadOutcome),
    usage.calls[ticket]? = some (.read room phase) →
    ∀ stage, phase.next? .start = some stage → stage.Roomy room

theorem Used.finished_grown {usage after : Usage S} (used : after.Used) {direction : Direction}
    {number : Nat} (finished : Traffic.Finished direction number usage.traffic)
    {entries : List Traffic} (grown : after.traffic = usage.traffic ++ entries) :
    Traffic.Finished direction number after.traffic := by
  cases direction with
  | inbound =>
    obtain ⟨caller, room, roomy, member⟩ := finished
    exact ⟨caller, room, roomy, grown ▸ List.mem_append_left _ member⟩
  | outbound => exact used.over_grown finished grown

namespace Single

variable {direction : Direction} {usage : Usage S} (single : usage.Single direction)
  {ticket : Ticket} {call become : Call S.recorded} {after : Stream S.recorded}
include single

theorem outbound_rests (found : usage.calls[ticket]? = some call)
    (used : Used (⟨after, usage.calls.set ticket become⟩ : Usage S))
    (tends : Tends ticket usage.stream after call become)
    (adds : usage.stream.Adds ticket (fun request => !Direction.outbound.asks request) after)
    (waits : call.seeks = become.seeks) :
    Procures .outbound ticket usage.stream after (call.awaits .outbound)
      (become.awaits .outbound) := by
  have same : become.awaits .outbound = call.awaits .outbound := waits.symm
  rw [same]
  refine .rests adds ?_
  cases tends with
  | stays unopened slot => exact slot.imp_right fun closes => .inl closes.1
  | leaves unopened slot attended turn away marked =>
    refine slot.imp_right fun left => .inr ⟨_, left.1, ?_⟩
    exact single.attended.used.leaves_over found used turn away marked
  | opens away told =>
    -- No message is handed out, since none is asked for.
    obtain ⟨entries, grown, made⟩ := adds
    have answer := made (.ended ticket (.nextWriter _) (.opened usage.stream.state.writers.length))
      (by
        rw [List.append_cancel_left (grown.symm.trans told)]
        exact List.mem_append_right _ (.head _))
    cases answer.2

theorem after_stretch (found : usage.calls[ticket]? = some call)
    (settled : Settled (⟨after, usage.calls.set ticket become⟩ : Usage S))
    (attended : Attended (⟨after, usage.calls.set ticket become⟩ : Usage S))
    (stays : after.state.isClosed = false → usage.stream.state.isClosed = false)
    (procures : Procures direction ticket usage.stream after (call.awaits direction)
      (become.awaits direction))
    (roomy : ∀ room phase, become = .read room phase →
      ∀ stage, phase.next? .start = some stage → stage.Roomy room) :
    Single direction (⟨after, usage.calls.set ticket become⟩ : Usage S) := by
  obtain ⟨sole, mover, others⟩ :=
    procures.sole_after_move single.sole (single.waits ticket call found)
    (fun _ grown _ finished => attended.used.finished_grown finished grown) stays
  refine ⟨settled, attended, sole, ?_, ?_⟩
  · intro other waiting there waits
    rcases set_cases there with ⟨rfl, rfl⟩ | ⟨different, kept⟩
    · exact mover waits
    · exact others other different (single.waits other waiting kept waits)
  · intro other room phase there
    rcases set_cases there with ⟨-, same⟩ | ⟨-, kept⟩
    · exact roomy room phase same.symm
    · exact single.roomy other room phase kept

theorem read_procures {room : Nat} {phase : Phase (ReadStage S.recorded) ReadOutcome}
    {stage : ReadStage S.recorded} {step : Step (ReadStage S.recorded) ReadOutcome}
    (found : usage.calls[ticket]? = some (.read room phase))
    (next : phase.next? .start = some stage)
    (move : ReadMove T room ticket stage usage.stream step after)
    (used : Used (⟨after, usage.calls.set ticket (.read room (.ofStep step))⟩ : Usage S)) :
    Procures direction ticket usage.stream after ((Call.read room phase).awaits direction)
      ((Call.read room (.ofStep step)).awaits direction) := by
  cases direction with
  | inbound => exact move.procures_inbound next (single.roomy ticket room phase found stage next)
  | outbound =>
    refine single.outbound_rests found used move.tends ?_ rfl
    apply move.adds.of_weaker
    intro request made
    cases request <;> first | rfl | cases made

theorem write_procures {data : Bytes} {phase : Phase (WriteStage S.recorded) WriteOutcome}
    {stage : WriteStage S.recorded} {step : Step (WriteStage S.recorded) WriteOutcome}
    (found : usage.calls[ticket]? = some (.write data phase))
    (next : phase.next? .start = some stage)
    (move : WriteMove T data ticket stage usage.stream step after)
    (used : Used (⟨after, usage.calls.set ticket (.write data (.ofStep step))⟩ : Usage S)) :
    Procures direction ticket usage.stream after ((Call.write data phase).awaits direction)
      ((Call.write data (.ofStep step)).awaits direction) := by
  have seeks : (Call.write data phase : Call S.recorded).seeks =
      (Call.write data (.waiting stage) : Call S.recorded).seeks := by
    cases phase <;> cases next <;> rfl
  cases direction with
  | inbound =>
    refine .rests ?_ (.inl move.inbound_same)
    apply move.adds.of_weaker
    intro request made
    cases request <;> first | rfl | cases made
  | outbound =>
    rcases move.asks_or_adds with ⟨rfl, standing, vacant, comes⟩ | ⟨asked, rfl, comes⟩ |
      ⟨adds, before, later⟩
    · have waits : (Call.write data phase : Call S.recorded).awaits .outbound = false := seeks
      rw [waits]
      exact (comes.procures fun _ => ⟨standing, vacant⟩).of_borrow
    · have waits : (Call.write data phase : Call S.recorded).awaits .outbound = true := seeks
      rw [waits]
      exact comes.procures nofun
    · refine single.outbound_rests found used (move.tends.of_next next) ?_
        ((seeks.trans before).trans later.symm)
      apply adds.of_weaker
      intro request made
      cases request <;> first | rfl | cases made

theorem close_procures {phase : Phase (CloseStage S.recorded) CloseOutcome}
    {stage : CloseStage S.recorded} {step : Step (CloseStage S.recorded) CloseOutcome}
    (found : usage.calls[ticket]? = some (.close phase))
    (move : CloseMove T ticket stage usage.stream step after)
    (used : Used (⟨after, usage.calls.set ticket (.close (.ofStep step))⟩ : Usage S)) :
    Procures direction ticket usage.stream after ((Call.close phase).awaits direction)
      ((Call.close (.ofStep step)).awaits direction) := by
  have adds (direction : Direction) :
      usage.stream.Adds ticket (fun request => !direction.asks request) after := by
    apply move.adds.of_weaker
    intro request made
    cases direction <;> cases request <;> first | rfl | cases made
  cases direction with
  | inbound =>
    exact .rests (adds .inbound) (move.inbound_same_or_closed.imp_right fun taken => .inl taken.1)
  | outbound => exact single.outbound_rests found used move.tends (adds .outbound) rfl

theorem after_move {later : Usage S} (moves : Moves T usage ticket later) :
    later.Single direction := by
  have settled := single.settled.after_move moves
  have attended := single.attended.after_move moves
  have stays := moves.stays_closed single.settled
  cases moves with
  | rests => exact single
  | reads found next move =>
    refine single.after_stretch found settled attended stays
      (single.read_procures found next move attended.used) ?_
    rintro room phase ⟨⟩ stage next
    exact move.roomy (single.roomy ticket _ _ found _ ‹_›) stage next
  | writes found next move =>
    exact single.after_stretch found settled attended stays
      (single.write_procures found next move attended.used) nofun
  | closes found next move =>
    exact single.after_stretch found settled attended stays
      (single.close_procures found move attended.used) nofun

theorem after_begin (demand : Demand) : (usage.step T (.begin demand)).Single direction := by
  refine ⟨single.settled.after_begin demand, single.attended.after_begin demand, single.sole, ?_,
    ?_⟩
  · intro other waiting there waits
    rcases push_cases there with ⟨-, rfl⟩ | ⟨-, old⟩
    · cases direction <;> cases demand <;> cases waits
    · exact single.waits other waiting old waits
  · intro other room phase there
    rcases push_cases there with ⟨-, new⟩ | ⟨-, old⟩
    · cases demand <;> cases new
      rintro stage ⟨⟩
      trivial
    · exact single.roomy other room phase old

theorem after_change (become : S.World → S.World) :
    (usage.step T (.change become)).Single direction :=
  ⟨⟨single.settled.sound.after_change become, single.settled.taken, single.settled.slots⟩,
    single.attended.after_change become, single.sole, single.waits, single.roomy⟩

end Single

theorem start_single (direction : Direction) (config : Configuration) (world : S.World) :
    (start config world).Single direction := by
  refine ⟨start_settled config world, start_attended config world, ⟨?_, ?_, ?_, ?_⟩, nofun, nofun⟩
  · rintro - number ⟨caller, request, -, ⟨⟩⟩
  · intro before caller request after split
    cases before <;> cases split
  · intro before caller request later after split
    cases before <;> cases split
  · exact fun waiting => absurd rfl waiting

theorem run_single (direction : Direction) (config : Configuration) (world : S.World)
    (actions : List (Action S.World))
    (lasting : ∀ action ∈ actions, ∀ ticket, action ≠ .drop ticket) :
    ((start config world).run T actions).Single direction :=
  run_keeps T (Single direction) (fun action => ∀ ticket, action ≠ .drop ticket)
    (fun _ demand _ single => single.after_begin demand)
    (fun _ ticket single => single.after_move (single.attended.used.sound.stretch_moves ticket))
    (fun _ ticket lasts _ => absurd rfl (lasts ticket))
    (fun _ become single => single.after_change become)
    (start config world) actions lasting (start_single direction config world)

/-- One message is open each way exactly if no two calls ask for one at once. In every run of any
calls none of which is given up, over any connection: whenever a message is asked for, each message
of its direction handed out before is finished, or another has been handed out since while it was
open; and at no moment do two calls ask for a message and never is one asked for while another is
open, if and only if two never ask at once. -/
theorem one_open_iff_asked_alone (T : Transport S) (config : Configuration) (world : S.World)
    (actions : List (Action S.World))
    (lasting : ∀ action ∈ actions, ∀ ticket, action ≠ .drop ticket) (direction : Direction) :
    let traffic := ((start config world).run T actions).traffic
    (∀ before caller request after, traffic = before ++ .begun caller request :: after →
      direction.asks request = true → ∀ number, Traffic.Opened direction number before →
        Traffic.Finished direction number before ∨ Traffic.Overtaken direction number before) ∧
    (Traffic.Exclusive direction traffic ↔ ¬ Traffic.Overlapped direction traffic) := by
  intro traffic
  have sole : Traffic.Sole direction traffic _ _ :=
    (run_single (T := T) direction config world actions lasting).sole
  refine ⟨sole.asked, ?_⟩
  constructor
  · rintro exclusive ⟨before, earlier, crowd⟩
    exact absurd crowd (Nat.not_lt_of_le (exclusive.alone before earlier))
  · intro alone
    refine ⟨Traffic.not_overlapped alone, ?_⟩
    intro before caller request after split asks number opened
    refine (sole.asked before caller request after split asks number opened).resolve_right ?_
    -- A message overtaken would show that two calls had asked at once.
    rintro ⟨front, other, answered, later, rest, early, fits, held, unfinished⟩
    have whole : traffic = front ++ .ended other answered (.opened later) ::
        (rest ++ .begun caller request :: after) := by
      rw [split, early]
      simp
    rcases sole.handed front other answered later _ whole fits with overlapped | finished
    · exact alone (whole ▸ overlapped.append_entries)
    · exact unfinished (finished number held)

/-- Two writes one after the other, each waiting for its message: the first message is finished when
the second is asked for. -/
theorem one_open_iff_asked_alone_in_turn :
    let actions : List (Action Scripted.World) := [.begin (.write [1]), .poll 0,
      .change fun world => { world with gates := world.gates.notify 0 }, .poll 0,
      .begin (.write [2]), .poll 1]
    let traffic := ((start {} { inbound := [] } : Usage Scripted.signature).run
      (Scripted.transport { writerGate := some 0 }) actions).traffic
    (∀ action ∈ actions, ∀ ticket, action ≠ .drop ticket) ∧
      Traffic.outstanding .outbound traffic = [1] ∧ Traffic.Exclusive .outbound traffic := by
  intro actions traffic
  have lasting : ∀ action ∈ actions, ∀ ticket, action ≠ .drop ticket := by simp [actions]
  refine ⟨lasting, rfl, ?_⟩
  apply (one_open_iff_asked_alone (Scripted.transport { writerGate := some 0 }) {}
    { inbound := [] } actions lasting .outbound).2.mpr
  rintro ⟨before, earlier, crowd⟩
  have lengths : ∀ count ≤ traffic.length,
      (Traffic.outstanding .outbound (traffic.take count)).length ≤ 1 := by decide
  rw [List.prefix_iff_eq_take.mp earlier] at crowd
  exact Nat.not_lt_of_le (lengths before.length earlier.length_le) crowd

/-- Two reads find no message current and both ask for one, and so do two writes. -/
theorem two_ask_at_once :
    let actions : List (Action Scripted.World) := [.begin (.read 1), .begin (.read 1),
      .begin (.write [1]), .begin (.write [2]), .poll 0, .poll 1, .poll 2, .poll 3]
    let traffic := ((start {} { inbound := [.ok [1], .ok [2]] } : Usage Scripted.signature).run
      (Scripted.transport { readerGate := some 0, writerGate := some 1 }) actions).traffic
    (∀ action ∈ actions, ∀ ticket, action ≠ .drop ticket) ∧
      ¬ Traffic.Exclusive .inbound traffic ∧ ¬ Traffic.Exclusive .outbound traffic := by
  intro actions traffic
  have readers : (Traffic.outstanding .inbound traffic).length = 2 := rfl
  have writers : (Traffic.outstanding .outbound traffic).length = 2 := rfl
  refine ⟨by simp [actions], ?_, ?_⟩
  · intro exclusive
    exact absurd (exclusive.alone traffic List.prefix_rfl) (by simp [readers])
  · intro exclusive
    exact absurd (exclusive.alone traffic List.prefix_rfl) (by simp [writers])

end Usage

end MessageStream
