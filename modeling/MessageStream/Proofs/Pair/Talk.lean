import MessageStream.Proofs.Pair.Sending

/-!
Two streams over the ends of one pair. Over one end a stream writes and at last closes, over the
other a stream reads, and their steps interleave in any way. Either has one call under way at a
time: it is polled as often as one likes, and a read that has not ended may be given up.
-/
namespace MessageStream

variable {S : Signature}

def Phase.isOver {Stage Answer : Type} : Phase Stage Answer → Bool
  | fresh => false
  | waiting _ => false
  | answered _ => true
  | dropped _ => true

namespace Call

def isOver : Call S → Bool
  | read _ phase => phase.isOver
  | write _ phase => phase.isOver
  | close phase => phase.isOver

def written : Call S → Bytes
  | write data (.answered (.ok _)) => data
  | _ => []

def received : Call S → Bytes
  | read _ (.answered outcome) => outcome.data
  | _ => []

def shut : Call S → Bool
  | close (.answered (.ok _)) => true
  | _ => false

def failure? : Call S → Option StreamError
  | read _ (.answered outcome) =>
    match outcome.result with
    | .ok _ => none
    | .error error => some error
  | _ => none

theorem poll_over (T : Transport S) (ticket : Ticket) (stream : Stream S) (call : Call S)
    (concluded : call.isOver = true) : Call.poll T ticket (stream, call) = (stream, call) := by
  rcases call with ⟨room, _ | _ | _ | _⟩ | ⟨data, _ | _ | _ | _⟩ | (_ | _ | _ | _) <;>
    first | rfl | cases concluded

theorem drop_over (T : Transport S) (ticket : Ticket) (stream : Stream S) (call : Call S)
    (concluded : call.isOver = true) : Call.drop T ticket (stream, call) = (stream, call) := by
  rcases call with ⟨room, _ | _ | _ | _⟩ | ⟨data, _ | _ | _ | _⟩ | (_ | _ | _ | _) <;>
    first | rfl | cases concluded

end Call

namespace Usage

def free (usage : Usage S) : Bool := usage.calls.all Call.isOver

def last (usage : Usage S) : Ticket := usage.calls.length - 1

/-- The bytes of all writes that have ended well, in order. -/
def written (usage : Usage S) : Bytes := usage.calls.flatMap Call.written

def received (usage : Usage S) : Bytes := usage.calls.flatMap Call.received

def shut (usage : Usage S) : Bool := usage.calls.any Call.shut

theorem onCall_free
    (act : Stream S.recorded × Call S.recorded → Stream S.recorded × Call S.recorded)
    (still : ∀ stream call, call.isOver = true → act (stream, call) = (stream, call))
    (usage : Usage S) (free : usage.free = true) (ticket : Ticket) :
    usage.onCall act ticket = usage := by
  unfold onCall
  cases found : usage.calls[ticket]? with
  | none => rfl
  | some call =>
    obtain ⟨inside, rfl⟩ := List.getElem?_eq_some_iff.mp found
    have concluded : usage.calls[ticket].isOver = true :=
      List.all_eq_true.mp free _ (List.getElem_mem inside)
    simp [still _ _ concluded]

theorem onCall_last
    (act : Stream S.recorded × Call S.recorded → Stream S.recorded × Call S.recorded)
    {usage : Usage S} {past : List (Call S.recorded)} {call : Call S.recorded}
    (calls : usage.calls = past ++ [call]) :
    usage.onCall act usage.last =
      ⟨(act (usage.stream, call)).1, past ++ [(act (usage.stream, call)).2]⟩ := by
  have here : usage.last = past.length := by simp [last, calls]
  simp [onCall, here, calls]

end Usage

namespace Pair

/-- A stream that writes over one end of a pair and a stream that reads over the other. -/
structure Talk where
  writing : Usage signature
  reading : Usage signature

namespace Talk

/-- A step of a talk. A call is begun only where the last one is over. -/
inductive Action where
  | write (data : Bytes)
  | close
  | pollWriter
  | read (room : Nat)
  | pollReader
  | dropReader

def start (near far : Configuration) : Talk where
  writing := .start near {}
  reading := .start far {}

/-- The writing stream takes a step, and the reading one finds the pair as that leaves it. -/
def writerDoes (side : Side) (action : MessageStream.Action World) (talk : Talk) : Talk :=
  let writing := talk.writing.step (transport side) action
  { writing
    reading := talk.reading.step (transport side.other)
      (.change fun _ => writing.stream.world.inner) }

def readerDoes (side : Side) (action : MessageStream.Action World) (talk : Talk) : Talk :=
  let reading := talk.reading.step (transport side.other) action
  { writing := talk.writing.step (transport side) (.change fun _ => reading.stream.world.inner)
    reading }

/-- The writer has the given end of the pair. -/
def step (side : Side) (talk : Talk) : Action → Talk
  | .write data => if talk.writing.free then talk.writerDoes side (.begin (.write data)) else talk
  | .close => if talk.writing.free then talk.writerDoes side (.begin .close) else talk
  | .pollWriter => talk.writerDoes side (.poll talk.writing.last)
  | .read room => if talk.reading.free then talk.readerDoes side (.begin (.read room)) else talk
  | .pollReader => talk.readerDoes side (.poll talk.reading.last)
  | .dropReader => talk.readerDoes side (.drop talk.reading.last)

def run (side : Side) (talk : Talk) (actions : List Action) : Talk := actions.foldl (step side) talk

/-- Successive reads with the given room, each of them polled once. -/
def reads (rooms : List Nat) : List Action := rooms.flatMap fun room => [.read room, .pollReader]

end Talk

end Pair

end MessageStream
