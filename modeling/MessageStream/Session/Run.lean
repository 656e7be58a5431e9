import MessageStream.Counters
import MessageStream.Session.Job

/-!
Running a session: one command after another, with an observation after each.
-/
namespace MessageStream.Session

variable {S : Signature}

def start (world : S.World) (setups : List EndSetup) : Session S where
  world
  ends := setups.map fun setup =>
    { occupant := match setup.mode with
        | .bare => .bare { owned := true }
        | _ => .stream (.new setup.config) }
  bridges := (setups.zipIdx.filter fun entry => entry.1.mode == .bridged).map fun entry =>
    some { site := entry.2 }

def nextTicket (session : Session S) : Session S × Ticket :=
  ({ session with tickets := session.tickets + 1 }, session.tickets)

def removeTask (session : Session S) (ticket : Ticket) : Session S :=
  { session with tasks := session.tasks.filter fun task => task.ticket != ticket }

def updateTask (session : Session S) (ticket : Ticket) (job : Job S) : Session S :=
  { session with tasks := session.tasks.map fun task =>
      if task.ticket == ticket then { task with job } else task }

def taskNamed? (session : Session S) (name : String) : Option (Task S) :=
  session.tasks.find? fun task => task.name == name

/-- Polls a task. One that is done goes, and with it what only it kept. -/
def pollTask (F : Fabric S) (session : Session S) (task : Task S) : Session S × Answer :=
  match task.job.poll F task.ticket session with
  | (session, .waiting job) => (session.updateTask task.ticket job, .pending)
  | (session, .ready answer) => ((session.removeTask task.ticket).sweep F, answer)

def pollTasks (F : Fabric S) (session : Session S) : Session S × List (String × Answer) :=
  session.tasks.foldl (fun (session, answers) task =>
    let polled := session.pollTask F task
    (polled.1, answers ++ [(task.name, polled.2)])) (session, [])

def beginTask (F : Fabric S) (session : Session S) (name : String) (call : Call) :
    Session S × Answer :=
  let (session, ticket) := session.nextTicket
  match Job.begin? F ticket session call with
  | none => (session, .skipped)
  | some (session, job) =>
    let task : Task S := { name, ticket, job }
    { session with tasks := session.tasks ++ [task] }.pollTask F task

def cancelTask (F : Fabric S) (session : Session S) (task : Task S) : Session S :=
  ((task.job.cancel F task.ticket session).removeTask task.ticket).sweep F

def letGo (F : Fabric S) (session : Session S) (site : Nat) : Session S :=
  ({ session with ends := session.ends.modify site fun place =>
      { place with held := false } }.changeLease (F.transport site) site
    (·.surrender)).sweep F

def span? (session : Session S) (number : Nat) : Option (Span S) :=
  match session.bridges[number]? with
  | some (some span) => some span
  | _ => none

def onBridge {Value : Type} (session : Session S) (number : Nat)
    (poll : Transport S → Bridge (ReadStage S) (WriteStage S) (CloseStage S) → Stream S →
      (Bridge (ReadStage S) (WriteStage S) (CloseStage S) × Stream S) × Polled Value)
    (F : Fabric S) (change : Value → Answer) : Session S × Answer :=
  match session.span? number with
  | none => (session, .skipped)
  | some span =>
    match session.stream? span.site with
    | none => (session, .skipped)
    | some stream =>
      let polled := poll (F.transport span.site) span.bridge stream
      let session := session.setStream span.site polled.1.2
      ({ session with
          bridges := session.bridges.set number (some { span with bridge := polled.1.1 }) },
        .ofPolled change polled.2)

/-- Gives a bridge up, with the calls it has begun. -/
def dropBridge (F : Fabric S) (session : Session S) (number : Nat) : Session S × Answer :=
  match session.span? number with
  | none => (session, .skipped)
  | some span =>
    let session := match session.stream? span.site with
      | none => session
      | some stream =>
        session.setStream span.site
          (span.bridge.dismiss (Stream.calls (F.transport span.site)) stream)
    ({ session with bridges := session.bridges.set number none }.sweep F, .done)

def step (F : Fabric S) (session : Session S) : Command → Session S × Answer
  | .call name call => session.beginTask F name call
  | .poll name =>
    match session.taskNamed? name with
    | none => (session, .skipped)
    | some task => session.pollTask F task
  | .pollAll =>
    let polled := session.pollTasks F
    (polled.1, .tasks polled.2)
  | .cancel name =>
    match session.taskNamed? name with
    | none => (session, .skipped)
    | some task => (session.cancelTask F task, .done)
  | .notify gate =>
    if gate < gateCount then ({ session with world := F.notify gate session.world }, .done)
    else (session, .skipped)
  | .debug site =>
    match session.held? site true, session.stream? site with
    | some _, some stream => (session, .text stream.state.debug)
    | _, _ => (session, .skipped)
  | .config site =>
    match session.held? site true, session.stream? site with
    | some _, some stream => (session, .text stream.state.config.debug)
    | _, _ => (session, .skipped)
  | .letGo site =>
    match session.ends[site]? with
    | some place => if place.held then (session.letGo F site, .done) else (session, .skipped)
    | none => (session, .skipped)
  | .send site message =>
    match session.held? site false, F.exchange with
    | some _, some exchange =>
      let sent := exchange.send site message session.world
      ({ session with world := sent.1 }, .ofResult (fun () => .done) sent.2)
    | _, _ => (session, .skipped)
  | .dropHandle name =>
    if (session.readers.find? name).isSome || (session.writers.find? name).isSome then
      (session.dropHandle F name, .done)
    else (session, .skipped)
  | .bridge site =>
    match session.held? site true with
    | some _ =>
      ({ session with bridges := session.bridges ++ [some { site }] },
        .count session.bridges.length)
    | none => (session, .skipped)
  | .dropBridge number => session.dropBridge F number
  | .pollRead number room held =>
    let (session, ticket) := session.nextTicket
    session.onBridge number (fun T => Bridge.pollRead (Stream.calls T) ticket room) F
      fun data => .buffer (held ++ data)
  | .pollWrite number data =>
    let (session, ticket) := session.nextTicket
    session.onBridge number (fun T => Bridge.pollWrite (Stream.calls T) ticket data) F .count
  | .pollFlush number =>
    session.onBridge number (fun T => Bridge.pollFlush (Stream.calls T)) F fun () => .done
  | .pollShutdown number =>
    let (session, ticket) := session.nextTicket
    session.onBridge number (fun T => Bridge.pollShutdown (Stream.calls T) ticket) F fun () => .done
  | .unknown => (session, .skipped)

def describeEnd (F : Fabric S) (world : S.World) (site : Nat) (place : End S) : String :=
  if !place.held then "gone"
  else match place.occupant with
    | .stream state =>
      (if state.isClosed then "c" else "o") ++ (if state.inbound.isSome then "r" else "-") ++
        (if state.outbound.isSome then "w" else "-")
    | .bare _ => if F.showsClosed site world then "raw closed" else "raw"

/-- What shows of a session after a step. -/
structure Observation where
  answer : Answer
  ends : List String
  records : List Record
  counters : Counters

def observe (F : Fabric S) (before after : Session S) (answer : Answer) : Observation where
  answer
  ends := after.ends.zipIdx.map fun entry => describeEnd F after.world entry.2 entry.1
  records := Journal.records (after.journal.drop before.journal.length)
  counters := .ofJournal after.journal

def run (F : Fabric S) (session : Session S) :
    List Command → List (Observation × S.World × S.World)
  | [] => []
  | command :: rest =>
    let stepped := session.step F command
    (observe F session stepped.1 stepped.2, session.world, stepped.1.world) :: run F stepped.1 rest

end MessageStream.Session
