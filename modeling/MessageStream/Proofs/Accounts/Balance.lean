import Mathlib.Data.List.Dedup
import MessageStream.Proofs.Accounts.Ends
import MessageStream.Transport.Scripted

/-!
The counters balance. Those of bytes and of messages sent say what callers have been told. That of
messages received counts a message once its reader has reported its end, and never twice. It misses
none as long as no read or close does anything while another read is in flight: then a read is
always at the current message, and finds it current still when it ends.
-/
namespace MessageStream

variable {S : Signature} {T : Transport S}

def Call.reading : Call S → Bool
  | .read _ (.waiting _) => true
  | _ => false

theorem Call.reading_placed {call : Call S} {place : Nat × Bool}
    (stands : Direction.inbound.place call = some place) : call.reading = true := by
  cases call with
  | read room phase =>
    cases phase with
    | waiting stage => rfl
    | _ => cases stands
  | write data phase => cases stands
  | close phase => cases stands

def Usage.alone (usage : Usage S) (ticket : Ticket) : Bool :=
  (List.range usage.calls.length).all fun other =>
    other == ticket || !usage.calls[other]?.any Call.reading

namespace Stretch

/-- A read or a close runs the stretch while no other read is in flight, or a write runs it. -/
def apart (stretch : Stretch S) : Bool :=
  match stretch.before.calls[stretch.ticket]? with
  | some (.read _ _) => stretch.before.alone stretch.ticket
  | some (.close _) => stretch.before.alone stretch.ticket
  | _ => true

/-- The inbound message that a stretch counts: where it moves the counter of messages received, the
one its call is at. -/
def counts? (T : Transport S) (stretch : Stretch S) : Option Nat :=
  if (stretch.after T).stream.journal.total ⟨.messages, .inbound⟩ =
      stretch.before.stream.journal.total ⟨.messages, .inbound⟩ then none
  else (stretch.before.place .inbound stretch.ticket).map Prod.fst

def counted (T : Transport S) (trail : List (Stretch S)) : List Nat :=
  trail.filterMap (counts? T)

theorem counts?_none {usage : Usage S} {ticket : Ticket}
    (same : (usage.stretch T ticket).stream.journal.total ⟨.messages, .inbound⟩ =
      usage.stream.journal.total ⟨.messages, .inbound⟩) :
    (⟨ticket, usage⟩ : Stretch S).counts? T = none :=
  if_pos same

theorem counts?_some {usage : Usage S} {ticket : Ticket} {number : Nat} {turn : Bool}
    (more : (usage.stretch T ticket).stream.journal.total ⟨.messages, .inbound⟩ =
      usage.stream.journal.total ⟨.messages, .inbound⟩ + 1)
    (stood : usage.place .inbound ticket = some (number, turn)) :
    (⟨ticket, usage⟩ : Stretch S).counts? T = some number := by
  refine (if_neg ?_).trans (congrArg (Option.map Prod.fst) stood)
  exact fun same => Nat.succ_ne_self _ (more.symm.trans same)

theorem counted_snoc (trail : List (Stretch S)) (stretch : Stretch S) :
    counted T (trail ++ [stretch]) = counted T trail ++ (stretch.counts? T).toList := by
  cases counts : stretch.counts? T <;> simp [counted, counts]

end Stretch

namespace Usage

variable {config : Configuration} {usage after : Usage S} {ticket : Ticket}
  {trail : List (Stretch S)}

theorem alone_placed (alone : usage.alone ticket = true) {other : Ticket} {place : Nat × Bool}
    (stands : usage.place .inbound other = some place) : other = ticket := by
  obtain ⟨call, found, here⟩ := Option.bind_eq_some_iff.mp stands
  have inside := List.mem_range.mpr (List.getElem?_eq_some_iff.mp found).1
  have apart := List.all_eq_true.mp alone other inside
  simpa [found, Call.reading_placed here] using apart

theorem Moves.inbound_kept (moves : Moves T usage ticket after)
    (apart : (⟨ticket, usage⟩ : Stretch S).apart = true) {other : Ticket}
    (different : other ≠ ticket) {place : Nat × Bool}
    (stands : usage.place .inbound other = some place) :
    after.stream.state.inbound = usage.stream.state.inbound := by
  cases moves with
  | rests => rfl
  | reads found next move =>
    have alone : usage.alone ticket = true := by simpa [Stretch.apart, found] using apart
    exact absurd (alone_placed alone stands) different
  | writes found next move => exact move.inbound_same
  | closes found next move =>
    have alone : usage.alone ticket = true := by simpa [Stretch.apart, found] using apart
    exact absurd (alone_placed alone stands) different

/-- What the counter of messages received says of the readers, whatever calls overlap. -/
structure Tallied (T : Transport S) (config : Configuration) (trail : List (Stretch S))
    (usage : Usage S) : Prop where
  booked : usage.Booked config
  paced : usage.Paced
  total : usage.stream.journal.total ⟨.messages, .inbound⟩ = (Stretch.counted T trail).length
  nodup : (Stretch.counted T trail).Nodup
  past : ∀ number ∈ Stretch.counted T trail, number < usage.stream.state.readers.length ∧
    usage.stream.state.inbound ≠ some number
  opened : ∀ number, usage.stream.state.inbound = some number →
    Traffic.Opened .inbound number usage.traffic
  timely : ∀ stretch ∈ trail, ∀ number, stretch.counts? T = some number →
    Traffic.Opened .inbound number stretch.before.traffic ∧
      Traffic.Finished .inbound number (stretch.after T).traffic

/-- The same where every read and close keeps apart: reads are at the current message, and each
message at its end has been counted. -/
structure Parted (T : Transport S) (trail : List (Stretch S)) (usage : Usage S) : Prop where
  current : ∀ ticket number turn, usage.place .inbound ticket = some (number, turn) →
    usage.stream.state.inbound = some number
  counted : Stretch.counted T trail = usage.stream.exhausted

namespace Tallied

variable (tallied : usage.Tallied T config trail)
include tallied

theorem without_count {before now : Place} {later : List (Stretch S)}
    (booked : after.Booked config) (paced : after.Paced)
    (forward : usage.stream.Forward .inbound after.stream before now)
    (counted : after.stream.journal.total ⟨.messages, .inbound⟩ =
      usage.stream.journal.total ⟨.messages, .inbound⟩)
    (opened : ∀ number, after.stream.state.inbound = some number →
      Traffic.Opened .inbound number after.traffic)
    (silent : ∀ stretch ∈ later, stretch.counts? T = none) :
    after.Tallied T config (trail ++ later) := by
  have same : Stretch.counted T (trail ++ later) = Stretch.counted T trail := by
    rw [Stretch.counted, List.filterMap_append, List.filterMap_eq_nil_iff.mpr silent,
      List.append_nil, Stretch.counted]
  refine ⟨booked, paced, ?_, ?_, ?_, opened, ?_⟩
  · rw [same, counted]
    exact tallied.total
  · rw [same]
    exact tallied.nodup
  · rw [same]
    intro number member
    obtain ⟨known, away⟩ := tallied.past number member
    exact ⟨Nat.lt_of_lt_of_le known forward.entered,
      fun current => away (forward.slot number known current)⟩
  · intro stretch member number counts
    rcases List.mem_append.mp member with old | new
    · exact tallied.timely stretch old number counts
    · cases (silent stretch new).symm.trans counts

theorem with_count (moves : Moves T usage ticket (usage.stretch T ticket)) {number : Nat}
    (current : usage.stream.state.inbound = some number)
    (stood : usage.place .inbound ticket = some (number, true))
    (told : (usage.stretch T ticket).stream.exhausted = usage.stream.exhausted ++ [number])
    (counted : (usage.stretch T ticket).stream.journal.total ⟨.messages, .inbound⟩ =
      usage.stream.journal.total ⟨.messages, .inbound⟩ + 1)
    (slot : (usage.stretch T ticket).stream.state.inbound = none) :
    (usage.stretch T ticket).Tallied T config (trail ++ [⟨ticket, usage⟩]) := by
  have forward := moves.forward .inbound
  have counts : (⟨ticket, usage⟩ : Stretch S).counts? T = some number :=
    Stretch.counts?_some counted stood
  have fresh : number ∉ Stretch.counted T trail :=
    fun member => (tallied.past number member).2 current
  have gone (other : Nat) : (usage.stretch T ticket).stream.state.inbound ≠ some other :=
    fun there => Option.some_ne_none other (there.symm.trans slot)
  have listed : Stretch.counted T (trail ++ [⟨ticket, usage⟩]) =
      Stretch.counted T trail ++ [number] := by
    rw [Stretch.counted_snoc, counts, Option.toList_some]
  refine ⟨tallied.booked.after_move moves, tallied.paced.after_move moves, ?_, ?_, ?_,
    fun other there => absurd there (gone other), ?_⟩
  · rw [listed, counted, tallied.total, List.length_append, List.length_singleton]
  · rw [listed]
    exact List.concat_eq_append ▸ tallied.nodup.concat fresh
  · rw [listed]
    intro other member
    refine ⟨Nat.lt_of_lt_of_le ?_ forward.entered, gone other⟩
    rcases List.mem_append.mp member with old | new
    · exact (tallied.past other old).1
    · rw [List.mem_singleton.mp new]
      exact tallied.paced.used.sound.enumerated.inbound number current
  · intro stretch member other counted
    rcases List.mem_append.mp member with old | new
    · exact tallied.timely stretch old other counted
    · cases List.mem_singleton.mp new
      cases counts.symm.trans counted
      refine ⟨tallied.opened number current, Traffic.mem_exhausted.mp ?_⟩
      have last : number ∈ (usage.stretch T ticket).stream.exhausted :=
        told ▸ List.mem_append_right _ (.head _)
      exact last

theorem after_move (moves : Moves T usage ticket (usage.stretch T ticket)) :
    (usage.stretch T ticket).Tallied T config (trail ++ [⟨ticket, usage⟩]) := by
  have booked := tallied.booked.after_move moves
  have paced := tallied.paced.after_move moves
  have forward := moves.forward .inbound
  obtain ⟨entries, grown⟩ := moves.traffic_grows
  have still (number : Nat) (current : usage.stream.state.inbound = some number) :
      Traffic.Opened .inbound number (usage.stretch T ticket).traffic :=
    grown ▸ (tallied.opened number current).append_entries
  have quiet (same : (usage.stretch T ticket).stream.journal.total ⟨.messages, .inbound⟩ =
      usage.stream.journal.total ⟨.messages, .inbound⟩) (stretch : Stretch S)
      (member : stretch ∈ [(⟨ticket, usage⟩ : Stretch S)]) : stretch.counts? T = none :=
    List.mem_singleton.mp member ▸ Stretch.counts?_none same
  have receives := moves.receives tallied.booked tallied.paced
  generalize (usage.stretch T ticket).place .inbound ticket = now at receives
  cases receives with
  | rests told counted slot place =>
    exact tallied.without_count booked paced forward counted
      (fun number current => still number (slot.symm.trans current)) (quiet counted)
  | opens told counted slot opened =>
    refine tallied.without_count booked paced forward counted ?_ (quiet counted)
    intro number current
    cases slot.symm.trans current
    exact opened
  | ends stood told counted slot =>
    rename_i number
    -- Only a message that is still current is counted, and it is current no longer then.
    by_cases current : usage.stream.state.inbound = some number
    · rw [if_pos current] at counted slot
      exact tallied.with_count moves current stood told counted slot
    · rw [if_neg current] at counted slot
      exact tallied.without_count booked paced forward counted
        (fun number current => still number (slot.symm.trans current)) (quiet counted)
  | closes told counted slot =>
    refine tallied.without_count booked paced forward counted ?_ (quiet counted)
    intro number current
    cases slot.symm.trans current

theorem after_drop (drops : Drops T usage ticket after) : after.Tallied T config trail := by
  obtain ⟨-, journal, slot, -⟩ := drops.nothing_received
  obtain ⟨entries, grown⟩ := drops.traffic_grows
  have kept : after.Tallied T config (trail ++ []) :=
    tallied.without_count (tallied.booked.after_drop drops) (tallied.paced.after_drop drops)
      (drops.forward .inbound) (congrArg _ journal)
      (fun number current =>
        grown ▸ (tallied.opened number (slot.symm.trans current)).append_entries) nofun
  rwa [List.append_nil] at kept

theorem after_begin (demand : Demand) : (usage.step T (.begin demand)).Tallied T config trail :=
  ⟨tallied.booked.after_begin demand, tallied.paced.after_begin demand, tallied.total,
    tallied.nodup,
    tallied.past, tallied.opened, tallied.timely⟩

end Tallied

namespace Parted

variable (parted : usage.Parted T trail)
include parted

theorem after_move (moves : Moves T usage ticket (usage.stretch T ticket))
    (tallied : usage.Tallied T config trail)
    (apart : (⟨ticket, usage⟩ : Stretch S).apart = true) :
    (usage.stretch T ticket).Parted T (trail ++ [⟨ticket, usage⟩]) := by
  have receives := moves.receives tallied.booked tallied.paced
  constructor
  · intro other number turn stands
    by_cases mover : other = ticket
    · subst mover
      rw [stands] at receives
      -- A read that is still at a message joined it while it was current, or opened it itself.
      cases receives with
      | rests told counted slot place =>
        rcases place number turn rfl with current | ⟨was, stood⟩
        · exact slot.trans current
        · exact slot.trans (parted.current other number was stood)
      | opens told counted slot opened => exact slot
    · have stood : usage.place .inbound other = some (number, turn) := by
        rwa [place, moves.calls_other mover] at stands
      exact (moves.inbound_kept apart mover stood).trans (parted.current other number turn stood)
  · have quiet (told : (usage.stretch T ticket).stream.exhausted = usage.stream.exhausted)
        (same : (usage.stretch T ticket).stream.journal.total ⟨.messages, .inbound⟩ =
          usage.stream.journal.total ⟨.messages, .inbound⟩) :
        Stretch.counted T (trail ++ [⟨ticket, usage⟩]) =
          (usage.stretch T ticket).stream.exhausted := by
      rw [Stretch.counted_snoc, Stretch.counts?_none same, told]
      exact (List.append_nil _).trans parted.counted
    generalize (usage.stretch T ticket).place .inbound ticket = now at receives
    cases receives with
    | rests told counted slot place => exact quiet told counted
    | opens told counted slot opened => exact quiet told counted
    | closes told counted slot => exact quiet told counted
    | ends stood told counted slot =>
      -- The read was at the current message, so the end it hears of is counted.
      rw [if_pos (parted.current _ _ _ stood)] at counted
      rw [Stretch.counted_snoc, Stretch.counts?_some counted stood, told, parted.counted]
      rfl

theorem after_drop (drops : Drops T usage ticket after) : after.Parted T trail := by
  obtain ⟨told, -, slot, place⟩ := drops.nothing_received
  refine ⟨?_, parted.counted.trans told.symm⟩
  intro other number turn stands
  refine slot.trans (parted.current other number turn ?_)
  by_cases mover : other = ticket
  · subst mover
    exact place _ stands
  · rwa [Usage.place, drops.calls_other mover] at stands

theorem after_begin (demand : Demand) : (usage.step T (.begin demand)).Parted T trail := by
  refine ⟨?_, parted.counted⟩
  intro other number turn stands
  have same : (usage.step T (.begin demand)).place .inbound other = usage.place .inbound other :=
    congrFun (push_same usage.calls demand Call.reader (by cases demand <;> rfl)) other
  exact parted.current other number turn (same.symm.trans stands)

end Parted

theorem start_tallied (config : Configuration) (world : S.World) :
    (start config world).Tallied T config [] :=
  ⟨start_booked config world, start_paced config world, rfl, List.nodup_nil, nofun, nofun,
    nofun⟩

theorem run_tallied (T : Transport S) (config : Configuration) (world : S.World)
    (actions : List (Action S.World)) :
    let usage := (start config world).run T actions
    let trail := (start config world).trail T actions
    usage.Tallied T config trail ∧
      (trail.all Stretch.apart = true → usage.Parted T trail) := by
  refine trail_keep (fun trail usage => usage.Tallied T config trail ∧
    (trail.all Stretch.apart = true → usage.Parted T trail)) ?_ ?_ ?_ ?_ (start_sound config world)
    ⟨start_tallied config world, fun _ => ⟨nofun, rfl⟩⟩ actions
  · rintro trail usage demand ⟨tallied, parted⟩
    exact ⟨tallied.after_begin demand, fun apart => (parted apart).after_begin demand⟩
  · rintro trail usage ticket moves ⟨tallied, parted⟩
    refine ⟨tallied.after_move moves, fun apart => ?_⟩
    rw [List.all_append, Bool.and_eq_true] at apart
    exact (parted apart.1).after_move moves tallied (by simpa using apart.2)
  · rintro trail usage ticket after drops ⟨tallied, parted⟩
    exact ⟨tallied.after_drop drops, fun apart => (parted apart).after_drop drops⟩
  · rintro trail usage become ⟨tallied, parted⟩
    obtain ⟨booked, paced, total, nodup, past, opened, timely⟩ := tallied
    exact ⟨⟨⟨booked.configured, booked.unskipped, booked.balanced⟩, paced.after_change become,
      total, nodup, past, opened, timely⟩,
      fun apart => ⟨(parted apart).current, (parted apart).counted⟩⟩

/-- The counters account for exactly what callers were told. At every point of every run of reads,
writes and closes, overlapping or given up in any way, over any connection: the counters of bytes
and of messages sent are what the answers of all calls come to, in sixty-four bits. That of messages
received counts a message that was handed out at most once, in a stretch that hears its reader
report its end. It counts all readers that have reported their end, if no read or close ever does
anything while another read is in flight. -/
theorem counters_account (T : Transport S) (config : Configuration) (world : S.World)
    (actions : List (Action S.World)) :
    let usage := (start config world).run T actions
    let trail := (start config world).trail T actions
    let counters := Counters.ofJournal usage.stream.journal
    (∀ counter, counter ≠ ⟨.messages, .inbound⟩ →
      counters.value counter = .ofNat (usage.calls.map (Call.told config counter)).sum) ∧
    counters.value ⟨.messages, .inbound⟩ = .ofNat (Stretch.counted T trail).length ∧
    (Stretch.counted T trail).Nodup ∧
    (∀ stretch ∈ trail, ∀ number, stretch.counts? T = some number →
      Traffic.Opened .inbound number stretch.before.traffic ∧
        Traffic.Finished .inbound number (stretch.after T).traffic) ∧
    (trail.all Stretch.apart = true →
      counters.value ⟨.messages, .inbound⟩ =
        .ofNat (Traffic.exhausted usage.traffic).dedup.length) := by
  intro usage trail counters
  obtain ⟨tallied, parted⟩ : usage.Tallied T config trail ∧
      (trail.all Stretch.apart = true → usage.Parted T trail) :=
    run_tallied T config world actions
  have received : counters.value ⟨.messages, .inbound⟩ =
      .ofNat (Stretch.counted T trail).length := by
    rw [Counters.ofJournal_value, tallied.total]
  refine ⟨?_, received, tallied.nodup, tallied.timely, ?_⟩
  · intro counter other
    rw [Counters.ofJournal_value, tallied.booked.balanced counter other]
  · intro apart
    have all : Stretch.counted T trail = Traffic.exhausted usage.traffic := (parted apart).counted
    rw [received, ← all, List.Nodup.dedup tallied.nodup]

/-- One read after another, the last of which is given up while it waits for a message, and then a
close: the one reader that has reported its end is counted. -/
theorem counters_account_in_turn :
    let T := Scripted.transport { readerGate := some 0 }
    let world : Scripted.World := { inbound := [.ok [1, 2], .ok [3]] }
    let actions : List (Action Scripted.World) := [.begin (.read 4), .poll 0,
      .change fun world => { world with gates := world.gates.notify 0 }, .poll 0,
      .begin (.write [7]), .poll 1, .begin (.read 4), .poll 2, .drop 2, .begin .close, .poll 3]
    ((start {} world).trail T actions).all Stretch.apart = true ∧
      Traffic.exhausted ((start {} world).run T actions).traffic = [0] ∧
      (Counters.ofJournal ((start {} world).run T actions).stream.journal).value
        ⟨.messages, .inbound⟩ = 1 := by
  intro T world actions
  have apart : ((start {} world).trail T actions).all Stretch.apart = true := by decide +kernel
  have ended : Traffic.exhausted ((start {} world).run T actions).traffic = [0] := by
    decide +kernel
  obtain ⟨-, -, -, -, received⟩ := counters_account T {} world actions
  refine ⟨apart, ended, (received apart).trans ?_⟩
  rw [ended]
  rfl

end Usage

end MessageStream
