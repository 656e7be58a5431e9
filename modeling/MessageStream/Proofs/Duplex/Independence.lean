import MessageStream.Proofs.Duplex.Script

/-!
Reads and writes beside each other on one stream. Calls of both kinds are begun, polled and given up
in any order, and gates are notified in between. Where the gate of inbound messages is none of those
of outbound ones, such a run looks the same to the reads with or without the writes in it, and the
same to the writes with or without the reads.
-/
namespace MessageStream.Scripted

structure Duplex where
  stream : Stream signature
  reads : Calls Nat (ReadStage signature) ReadOutcome := []
  writes : Calls Bytes (WriteStage signature) WriteOutcome := []

namespace Duplex

inductive Action where
  | read (act : Act Nat)
  | write (act : Act Bytes)
  | notify (gate : Nat)
  deriving DecidableEq, Repr

/-- The step belongs to no call of the given direction. -/
def Action.apartFrom : Direction → Action → Bool
  | .inbound, read _ => false
  | .outbound, write _ => false
  | _, _ => true

def start (config : Configuration) (world : World) : Duplex where
  stream := { state := .new config, world }

/-- One step. Reads have even tickets and writes odd ones. -/
def step (setup : Setup) (duplex : Duplex) : Action → Duplex
  | .read act =>
    let acted := act.perform (Stream.read (transport setup)) (2 * ·) duplex.reads duplex.stream
    { duplex with stream := acted.1, reads := acted.2 }
  | .write act =>
    let acted := act.perform (Stream.write (transport setup)) (2 * · + 1) duplex.writes
      duplex.stream
    { duplex with stream := acted.1, writes := acted.2 }
  | .notify gate =>
    let world := duplex.stream.world
    { duplex with stream := { duplex.stream with
        world := { world with gates := world.gates.notify gate } } }

/-- All that reads have to do with: how far each has come and what it has answered, the current
message and the contents of all, and what has been counted. -/
structure ReadView where
  calls : Calls Nat (ReadStage signature) ReadOutcome
  current : Option Nat
  messages : List (Cursor Bytes)
  counters : Quantity → Option UInt64
  readersOpened : Nat

def readView (duplex : Duplex) : ReadView where
  calls := duplex.reads
  current := duplex.stream.state.inbound
  messages := duplex.stream.state.readers
  counters quantity := Counters.ofJournal duplex.stream.journal ⟨quantity, .inbound⟩
  readersOpened := duplex.stream.world.readersOpened

structure WriteView where
  calls : Calls Bytes (WriteStage signature) WriteOutcome
  current : Option Nat
  messages : List (Cursor (Outbound Writer))
  sent : List Message
  counters : Quantity → Option UInt64
  writersOpened : Nat
  finishes : Nat

def writeView (duplex : Duplex) : WriteView where
  calls := duplex.writes
  current := duplex.stream.state.outbound
  messages := duplex.stream.state.writers
  sent := duplex.stream.world.sent
  counters quantity := Counters.ofJournal duplex.stream.journal ⟨quantity, .outbound⟩
  writersOpened := duplex.stream.world.writersOpened
  finishes := duplex.stream.world.finishes

def readSide (setup : Setup) (duplex : Duplex) :
    ReadHalf signature World × Calls Nat (ReadStage signature) ReadOutcome :=
  (duplex.stream.readHalf (World.inward setup), duplex.reads)

def writeSide (setup : Setup) (duplex : Duplex) :
    WriteHalf signature World × Calls Bytes (WriteStage signature) WriteOutcome :=
  (duplex.stream.writeHalf (World.outward setup), duplex.writes)

variable {setup : Setup} {left right : Duplex}

theorem readView_of_side (same : left.readSide setup = right.readSide setup) :
    left.readView = right.readView := by
  obtain ⟨halves, calls⟩ := Prod.mk.inj same
  have current : left.stream.state.inbound = right.stream.state.inbound :=
    congrArg ReadHalf.current halves
  have messages : left.stream.state.readers = right.stream.state.readers :=
    congrArg ReadHalf.readers halves
  have counters := Counters.ofJournal_of_along (congrArg ReadHalf.events halves)
  have opened : left.stream.world.readersOpened = right.stream.world.readersOpened :=
    congrArg (fun half => half.world.readersOpened) halves
  simp only [readView, calls, current, messages, counters, opened]

theorem writeView_of_side (same : left.writeSide setup = right.writeSide setup) :
    left.writeView = right.writeView := by
  obtain ⟨halves, calls⟩ := Prod.mk.inj same
  have current : left.stream.state.outbound = right.stream.state.outbound :=
    congrArg WriteHalf.current halves
  have messages : left.stream.state.writers = right.stream.state.writers :=
    congrArg WriteHalf.writers halves
  have counters := Counters.ofJournal_of_along (congrArg WriteHalf.events halves)
  have sent : left.stream.world.sent = right.stream.world.sent :=
    congrArg (fun half => half.world.sent) halves
  have opened : left.stream.world.writersOpened = right.stream.world.writersOpened :=
    congrArg (fun half => half.world.writersOpened) halves
  have finishes : left.stream.world.finishes = right.stream.world.finishes :=
    congrArg (fun half => half.world.finishes) halves
  simp only [writeView, calls, current, messages, sent, counters, opened, finishes]

section Steps

variable (apart : setup.Apart)
include apart

theorem step_readSide (action : Action) (kept : action.apartFrom .outbound = true)
    (same : left.readSide setup = right.readSide setup) :
    (left.step setup action).readSide setup = (right.step setup action).readSide setup := by
  obtain ⟨halves, calls⟩ := Prod.mk.inj same
  cases action with
  | read act =>
    have confined := Stream.read_confined (transport_divides apart)
    obtain ⟨answers, agree⟩ := Act.perform_tracks confined act right.reads halves
    simp only [step, readSide]
    rw [calls]
    exact Prod.ext agree answers
  | write act => cases kept
  | notify gate =>
    have world : left.stream.world.inward setup = right.stream.world.inward setup :=
      congrArg ReadHalf.world halves
    exact Prod.ext (congrArg₂ ReadHalf.inWorld halves (notify_inward gate world)) calls

theorem step_readSide_spares (action : Action) (taken : action.apartFrom .outbound = false)
    (duplex : Duplex) : (duplex.step setup action).readSide setup = duplex.readSide setup := by
  cases action with
  | read act => cases taken
  | write act =>
    have confined := Stream.write_confined (transport_divides apart)
    exact congrArg (·, duplex.reads)
      (Act.perform_spares confined act duplex.writes duplex.stream)
  | notify gate => cases taken

theorem step_writeSide (action : Action) (kept : action.apartFrom .inbound = true)
    (same : left.writeSide setup = right.writeSide setup) :
    (left.step setup action).writeSide setup = (right.step setup action).writeSide setup := by
  obtain ⟨halves, calls⟩ := Prod.mk.inj same
  cases action with
  | read act => cases kept
  | write act =>
    have confined := Stream.write_confined (transport_divides apart)
    obtain ⟨answers, agree⟩ := Act.perform_tracks confined act right.writes halves
    simp only [step, writeSide]
    rw [calls]
    exact Prod.ext agree answers
  | notify gate =>
    have world : left.stream.world.outward setup = right.stream.world.outward setup :=
      congrArg WriteHalf.world halves
    exact Prod.ext (congrArg₂ WriteHalf.inWorld halves (notify_outward gate world)) calls

theorem step_writeSide_spares (action : Action) (taken : action.apartFrom .inbound = false)
    (duplex : Duplex) : (duplex.step setup action).writeSide setup = duplex.writeSide setup := by
  cases action with
  | read act =>
    have confined := Stream.read_confined (transport_divides apart)
    exact congrArg (·, duplex.writes)
      (Act.perform_spares confined act duplex.reads duplex.stream)
  | write act => cases taken
  | notify gate => cases taken

end Steps

/-- Taking the writes out of a run changes nothing, at any step that remains, of what reads answer,
of the inbound messages and of what is counted of them; and taking the reads out changes nothing of
what writes answer, of the outbound messages, of what has been sent and of what is counted of it. -/
theorem directions_independent (apart : setup.Apart) (duplex : Duplex) (actions : List Action) :
    seen (step setup) readView (·.apartFrom .outbound) duplex actions =
      seenThroughout (step setup) readView duplex (actions.filter (·.apartFrom .outbound)) ∧
    seen (step setup) writeView (·.apartFrom .inbound) duplex actions =
      seenThroughout (step setup) writeView duplex (actions.filter (·.apartFrom .inbound)) :=
  ⟨seen_filter (fun action kept _ _ => step_readSide apart action kept)
      (step_readSide_spares apart) (fun _ _ => readView_of_side) actions rfl,
    seen_filter (fun action kept _ _ => step_writeSide apart action kept)
      (step_writeSide_spares apart) (fun _ _ => writeView_of_side) actions rfl⟩

/-- A read and a write wait at their gates, and each is let through in its turn. -/
theorem directions_independent_at_gates :
    let setup : Setup := { readerGate := some 0, writerGate := some 1, writeGate := some 1 }
    let before := start {} { inbound := [.ok [97, 98]] }
    let actions : List Action := [.read (.begin 2), .write (.begin [99]), .write (.poll 0),
      .read (.poll 0), .notify 1, .write (.poll 0), .notify 0, .read (.poll 0), .notify 1,
      .write (.poll 0)]
    let after := actions.foldl (step setup) before
    setup.Apart ∧ after.reads.map (·.2.answer?) = [some (.filled [97, 98])] ∧
    after.writes.map (·.2.answer?.bind Except.toOption) = [some 1] ∧
    seen (step setup) readView (·.apartFrom .outbound) before actions =
      seenThroughout (step setup) readView before (actions.filter (·.apartFrom .outbound)) ∧
    seen (step setup) writeView (·.apartFrom .inbound) before actions =
      seenThroughout (step setup) writeView before (actions.filter (·.apartFrom .inbound)) := by
  intro setup before actions after
  have apart : setup.Apart := ⟨by decide, by decide⟩
  exact ⟨apart, by decide +kernel, by decide +kernel, directions_independent apart before actions⟩

/-- At a gate that the two directions share, a write can take the notification that would have let a
read through. -/
example :
    let setup : Setup := { readerGate := some 0, writerGate := some 0 }
    let before := start {} { inbound := [.ok [97]] }
    let actions : List Action := [.read (.begin 1), .write (.begin [98]), .write (.poll 0),
      .read (.poll 0), .notify 0, .read (.poll 0)]
    (actions.foldl (step setup) before).reads.map (·.2.answer?) = [none] ∧
    ((actions.filter (·.apartFrom .outbound)).foldl (step setup) before).reads.map (·.2.answer?) =
      [some (.filled [97])] := by
  decide +kernel

end Duplex

end MessageStream.Scripted
