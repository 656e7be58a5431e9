import MessageStream.Proofs.Usage.Sound

/-!
What a connection has been given to send, read off its record: the messages opened, with the bytes
they have taken, and the messages sent, in order. A message is sent when its finish ends well.
-/
namespace MessageStream

def Reply.taken (offered : Bytes) : Option Reply → Bytes
  | some (.accepted count) => offered.take count
  | _ => []

/-- A message sent: the call that finished it and the writer it went through. -/
structure Sent where
  caller : Ticket
  number : Nat
  message : Message
  deriving DecidableEq, Repr

/-- The outbound messages of a connection: all that were opened, by number and with the bytes they
have taken, and those sent. -/
structure Outbox where
  drafts : List Message := []
  sent : List Sent := []

namespace Outbox

def fill (outbox : Outbox) (number : Nat) (data : Bytes) : Outbox :=
  { outbox with drafts := outbox.drafts.modify number fun draft =>
      { draft with payload := draft.payload ++ data } }

def begin (outbox : Outbox) (kind : MessageKind) : Outbox :=
  { outbox with drafts := outbox.drafts ++ [⟨kind, []⟩] }

def send (outbox : Outbox) (caller : Ticket) (number : Nat) : Outbox :=
  { outbox with sent := outbox.sent ++
      (outbox.drafts[number]?.map fun message => { caller, number, message }).toList }

theorem fill_nil (outbox : Outbox) (number : Nat) : outbox.fill number [] = outbox := by
  have same : (fun draft : Message => { draft with payload := draft.payload ++ [] }) = id := by
    funext draft
    simp
  rw [fill, same, List.modify_id]

/-- How one entry of the record shows. -/
def hear (outbox : Outbox) : Traffic → Outbox
  | .ended _ (.nextWriter kind) (.opened _) => outbox.begin kind
  | .ended _ (.write number data) (.accepted count) => outbox.fill number (data.take count)
  | .ended caller (.finish number) .done => outbox.send caller number
  | _ => outbox

def ofTraffic (traffic : List Traffic) : Outbox := traffic.foldl hear {}

theorem hear_poll (outbox : Outbox) (caller : Ticket) (request : Request) (resumed : Bool)
    (reply : Option Reply) :
    (Traffic.ofPoll caller request resumed reply).foldl hear outbox =
      match reply with
      | none => outbox
      | some reply => outbox.hear (.ended caller request reply) := by
  cases resumed <;> cases reply <;> simp [Traffic.ofPoll, hear]

theorem hear_write (outbox : Outbox) (caller : Ticket) (number : Nat) (data : Bytes)
    (resumed : Bool) (reply : Option Reply) :
    (Traffic.ofPoll caller (.write number data) resumed reply).foldl hear outbox =
      outbox.fill number (Reply.taken data reply) := by
  rw [hear_poll]
  cases reply with
  | none => exact (fill_nil _ _).symm
  | some reply =>
    cases reply with
    | accepted count => rfl
    | _ => exact (fill_nil _ _).symm

theorem hear_asks (outbox : Outbox) (caller : Ticket) (resumed : Bool) (reply : Option Reply) :
    (Traffic.ofPoll caller .nextReader resumed reply).foldl hear outbox = outbox := by
  rw [hear_poll]
  cases reply <;> rfl

theorem hear_reads (outbox : Outbox) (caller : Ticket) (number room : Nat) (resumed : Bool)
    (reply : Option Reply) :
    (Traffic.ofPoll caller (.read number room) resumed reply).foldl hear outbox = outbox := by
  rw [hear_poll]
  cases reply <;> rfl

theorem hear_shuts (outbox : Outbox) (caller : Ticket) (resumed : Bool) (reply : Option Reply) :
    (Traffic.ofPoll caller .close resumed reply).foldl hear outbox = outbox := by
  rw [hear_poll]
  cases reply <;> rfl

end Outbox

variable {S : Signature}

def Stream.outbox (stream : Stream S.recorded) : Outbox := .ofTraffic stream.world.traffic

/-- Whether each outbound message has been finished, or its finishing begun, by number. -/
def Stream.finished (stream : Stream S.recorded) : List Bool :=
  stream.state.writers.map (·.content.finished)

namespace Stream

variable (T : Transport S) (stream : Stream S.recorded)

theorem outbox_same {stream after : Stream S.recorded}
    (same : after.world.traffic = stream.world.traffic) : after.outbox = stream.outbox :=
  congrArg Outbox.ofTraffic same

@[simp] theorem heard_outbox (inner : S.World) (entries : List Traffic) :
    (stream.heard inner entries).outbox = entries.foldl Outbox.hear stream.outbox := by
  simp [outbox, Outbox.ofTraffic]

@[simp] theorem record_outbox (event : Event) : (stream.record event).outbox = stream.outbox := rfl

@[simp] theorem recordIf_outbox (condition : Bool) (event : Event) :
    (stream.recordIf condition event).outbox = stream.outbox := rfl

@[simp] theorem giveBack_outbox (ticket : Ticket) :
    (stream.giveBack T.recorded ticket).outbox = stream.outbox :=
  outbox_same (giveBack_traffic T stream ticket)

@[simp] theorem joinReader_outbox (number : Nat) (ticket : Ticket) :
    (stream.joinReader number ticket).outbox = stream.outbox := rfl

@[simp] theorem leaveReader_outbox (number : Nat) (ticket : Ticket) :
    (stream.leaveReader number ticket).outbox = stream.outbox := rfl

@[simp] theorem putReader_outbox (number : Nat) (content : S.Reader) :
    (stream.putReader number content).outbox = stream.outbox := rfl

@[simp] theorem clearInbound_outbox (number : Nat) :
    (stream.clearInbound number).outbox = stream.outbox := rfl

@[simp] theorem openReader_outbox (reader : Numbered S.Reader) (ticket : Ticket) :
    (stream.countReader.openReader reader ticket).outbox = stream.outbox := rfl

@[simp] theorem discardReader_outbox (reader : Numbered S.Reader) :
    (stream.countReader.discardReader reader).outbox = stream.outbox := rfl

@[simp] theorem leaveWriter_outbox (number : Nat) (ticket : Ticket) :
    (stream.leaveWriter T.recorded number ticket).outbox = stream.outbox :=
  outbox_same (leaveWriter_traffic T stream number ticket)

@[simp] theorem retireWriter_outbox (number : Nat) (ticket : Ticket) :
    (stream.retireWriter T.recorded number ticket).outbox = stream.outbox :=
  outbox_same (retireWriter_traffic T stream number ticket)

@[simp] theorem putWriter_outbox (number : Nat) (content : S.Writer) (finished : Bool) :
    (stream.putWriter number content finished).outbox = stream.outbox := rfl

@[simp] theorem enterWriter_outbox (writer : Numbered S.Writer) (ticket : Ticket) :
    (stream.countWriter.enterWriter writer ticket).outbox = stream.outbox := rfl

@[simp] theorem openWriter_outbox (writer : Numbered S.Writer) (ticket : Ticket) :
    (stream.countWriter.openWriter T.recorded writer ticket).outbox = stream.outbox :=
  outbox_same (openWriter_traffic T stream.countWriter writer ticket)

@[simp] theorem letGo_outbox (ticket : Ticket) :
    (Close.letGo T.recorded ticket stream).outbox = stream.outbox := by
  unfold Close.letGo
  split
  · exact giveBack_outbox T stream ticket
  · rfl

end Stream

end MessageStream
