import MessageStream.Session.State

/-!
Calls in flight: how they are begun, polled and cancelled.
-/
namespace MessageStream.Session

variable {S : Signature}

/-- Polls a call on a handle, in turn after the calls on it before. -/
def pollInTurn {Stage Answer : Type} (join leave : Session S → Session S)
    (admits : Session S → Bool) (operation : Operation (Session S) Stage Answer) (ticket : Ticket)
    (stage : Option Stage) (session : Session S) : Session S × Progress (Option Stage) Answer :=
  let session := join session
  if admits session then
    let polled := operation.poll ticket stage session
    match polled.2 with
    | .waiting stage => (polled.1, .waiting (some stage))
    | .ready answer => (leave polled.1, .ready answer)
  else (session, .waiting stage)

def answerOr {Value : Type} (change : Value → Answer) : Option Value → Answer
  | some value => change value
  | none => .skipped

namespace Job

def begin? (F : Fabric S) (ticket : Ticket) (session : Session S) :
    Call → Option (Session S × Job S)
  | .read site room => (session.held? site true).map fun _ => (session, .read site room none)
  | .write site data => (session.held? site true).map fun _ => (session, .write site data none)
  | .close site => (session.held? site true).map fun _ => (session, .close site none)
  | .nextReader site handle =>
    (session.held? site false).map fun _ => (borrow site, .nextReader site handle none)
  | .nextWriter site handle kind =>
    (session.held? site false).map fun _ => (borrow site, .nextWriter site handle kind none)
  | .closeConnection site =>
    (session.held? site false).map fun _ => (borrow site, .closeConnection site none)
  | .receive site =>
    match session.held? site false, F.exchange with
    | some _, some exchange => some (borrow site, .receive site exchange none)
    | _, _ => none
  | .readHandle handle room =>
    (session.readers.find? handle).map fun number => (session, .readHandle number room none)
  | .writeHandle handle data =>
    (session.writers.find? handle).map fun number => (session, .writeHandle number data none)
  | .finishHandle handle =>
    (session.writers.find? handle).map fun number => (session, .finishHandle number none)
where
  borrow (site : Nat) : Session S :=
    session.changeLease (F.transport site) site (·.borrow ticket)

def poll (F : Fabric S) (ticket : Ticket) (session : Session S) :
    Job S → Session S × Progress (Job S) Answer
  | .read site room stage =>
    let polled := (onStream site (Stream.read (F.transport site) room)).poll ticket stage session
    (polled.1, (polled.2.mapStage fun stage => .read site room (some stage)).map (answerOr .read))
  | .write site data stage =>
    let polled := (onStream site (Stream.write (F.transport site) data)).poll ticket stage session
    (polled.1,
      (polled.2.mapStage fun stage => .write site data (some stage)).map (answerOr .ofCount))
  | .close site stage =>
    let polled := (onStream site (Stream.close (F.transport site))).poll ticket stage session
    (polled.1, (polled.2.mapStage fun stage => .close site (some stage)).map (answerOr .ofStream))
  | .nextReader site handle stage =>
    match (onWorld (F.transport site).nextReader).poll ticket stage session with
    | (session, .waiting stage) => (session, .waiting (.nextReader site handle (some stage)))
    | (session, .ready (.error failure)) => (giveBack site session, .ready (.failed failure))
    | (session, .ready (.ok reader)) =>
      (giveBack site (session.enterReader handle site reader), .ready .done)
  | .nextWriter site handle kind stage =>
    match (onWorld ((F.transport site).nextWriter kind)).poll ticket stage session with
    | (session, .waiting stage) => (session, .waiting (.nextWriter site handle kind (some stage)))
    | (session, .ready (.error failure)) => (giveBack site session, .ready (.failed failure))
    | (session, .ready (.ok writer)) =>
      (giveBack site (session.enterWriter F handle site writer), .ready .done)
  | .closeConnection site stage =>
    match (onWorld (F.transport site).close).poll ticket stage session with
    | (session, .waiting stage) => (session, .waiting (.closeConnection site (some stage)))
    | (session, .ready result) =>
      (giveBack site session, .ready (.ofResult (fun () => .done) result))
  | .receive site exchange stage =>
    match (onWorld (exchange.receive site)).poll ticket stage session with
    | (session, .waiting stage) => (session, .waiting (.receive site exchange (some stage)))
    | (session, .ready result) => (giveBack site session, .ready (.ofResult .message result))
  | .readHandle number room stage =>
    let polled := pollInTurn (joinReaderHandle number ticket) (leaveReaderHandle number ticket)
      (fun session => (session.readers.line number).admits ticket)
      (onReaderHandle number ((session.readerTransport F number).read room)) ticket stage session
    (polled.1, (polled.2.mapStage (.readHandle number room)).map
      (answerOr (.ofResult .yielded)))
  | .writeHandle number data stage =>
    let polled := pollInTurn (joinWriterHandle number ticket) (leaveWriterHandle F number ticket)
      (fun session => (session.writers.line number).admits ticket)
      (onWriterHandle number ((session.writerTransport F number).write data)) ticket stage session
    (polled.1, (polled.2.mapStage (.writeHandle number data)).map (answerOr (.ofResult .count)))
  | .finishHandle number stage =>
    let polled := pollInTurn (joinWriterHandle number ticket) (leaveWriterHandle F number ticket)
      (fun session => (session.writers.line number).admits ticket)
      (onWriterHandle number (session.writerTransport F number).finish) ticket stage session
    (polled.1, (polled.2.mapStage (.finishHandle number)).map
      (answerOr (.ofResult fun () => .done)))
where
  giveBack (site : Nat) (session : Session S) : Session S :=
    session.changeLease (F.transport site) site (·.giveBack ticket)

def cancelStage {Stage Answer : Type} (operation : Operation (Session S) Stage Answer)
    (ticket : Ticket) (stage : Option Stage) (session : Session S) : Session S :=
  match stage with
  | none => session
  | some stage => operation.cancel ticket stage session

def cancel (F : Fabric S) (ticket : Ticket) (session : Session S) : Job S → Session S
  | .read site room stage =>
    cancelStage (onStream site (Stream.read (F.transport site) room)) ticket stage session
  | .write site data stage =>
    cancelStage (onStream site (Stream.write (F.transport site) data)) ticket stage session
  | .close site stage =>
    cancelStage (onStream site (Stream.close (F.transport site))) ticket stage session
  | .nextReader site _ stage =>
    giveBack site (cancelStage (onWorld (F.transport site).nextReader) ticket stage session)
  | .nextWriter site _ kind stage =>
    giveBack site (cancelStage (onWorld ((F.transport site).nextWriter kind)) ticket stage session)
  | .closeConnection site stage =>
    giveBack site (cancelStage (onWorld (F.transport site).close) ticket stage session)
  | .receive site exchange stage =>
    giveBack site (cancelStage (onWorld (exchange.receive site)) ticket stage session)
  | .readHandle number room stage =>
    leaveReaderHandle number ticket (cancelStage
      (onReaderHandle number ((session.readerTransport F number).read room)) ticket stage session)
  | .writeHandle number data stage =>
    leaveWriterHandle F number ticket (cancelStage
      (onWriterHandle number ((session.writerTransport F number).write data)) ticket stage session)
  | .finishHandle number stage =>
    leaveWriterHandle F number ticket (cancelStage
      (onWriterHandle number (session.writerTransport F number).finish) ticket stage session)
where
  giveBack (site : Nat) (session : Session S) : Session S :=
    session.changeLease (F.transport site) site (·.giveBack ticket)

end Job

end MessageStream.Session
