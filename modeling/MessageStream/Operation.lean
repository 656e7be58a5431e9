/-!
Operations that may have to wait.

An operation is begun by its first poll and resumed by every later one. A poll runs it until it is
done or has to wait; in between, what it has to remember is its stage. Each run of an operation has
a ticket of its own, by which locks and gates know who is waiting. Waking up is no part of this:
whoever drives an operation polls it as often as it likes.
-/
namespace MessageStream

/-- Names one run of one operation. -/
abbrev Ticket := Nat

inductive Progress (Stage Answer : Type) where
  | waiting (stage : Stage)
  | ready (answer : Answer)
  deriving Repr

namespace Progress

variable {Stage Other Answer Result : Type}

def map (change : Answer → Result) : Progress Stage Answer → Progress Stage Result
  | waiting stage => waiting stage
  | ready answer => ready (change answer)

def mapStage (change : Stage → Other) : Progress Stage Answer → Progress Other Answer
  | waiting stage => waiting (change stage)
  | ready answer => ready answer

def answer? : Progress Stage Answer → Option Answer
  | waiting _ => none
  | ready answer => some answer

end Progress

/-- An operation on a world. `poll` begins it where no stage is given and resumes it otherwise;
`cancel` gives a waiting operation up, with all it holds of the world. -/
structure Operation (World Stage Answer : Type) where
  poll : Ticket → Option Stage → World → World × Progress Stage Answer
  cancel : Ticket → Stage → World → World

namespace Operation

variable {World Stage Answer Result : Type}

def instant (run : World → World × Answer) : Operation World Empty Answer where
  poll _ _ world := ((run world).1, .ready (run world).2)
  cancel _ stage _ := nomatch stage

def map (change : Answer → Result) (operation : Operation World Stage Answer) :
    Operation World Stage Result where
  poll ticket stage world :=
    ((operation.poll ticket stage world).1, (operation.poll ticket stage world).2.map change)
  cancel := operation.cancel

def within {Large : Type} (part : Large → World) (replace : Large → World → Large)
    (operation : Operation World Stage Answer) : Operation Large Stage Answer where
  poll ticket stage large :=
    let polled := operation.poll ticket stage (part large)
    (replace large polled.1, polled.2)
  cancel ticket stage large := replace large (operation.cancel ticket stage (part large))

def withinOption {Large : Type} (part : Large → Option World) (replace : Large → World → Large)
    (operation : Operation World Stage Answer) : Operation Large Stage (Option Answer) where
  poll ticket stage large :=
    match part large with
    | none => (large, .ready none)
    | some world =>
      let polled := operation.poll ticket stage world
      (replace large polled.1, polled.2.map some)
  cancel ticket stage large :=
    match part large with
    | none => large
    | some world => replace large (operation.cancel ticket stage world)

end Operation

inductive Step (Stage Answer : Type) where
  | waiting (stage : Stage)
  | onward (stage : Stage)
  | ready (answer : Answer)
  deriving Repr

namespace Step

variable {World Stage Answer : Type}

/-- Runs stretch after stretch, until the operation waits or is done or `limit` stretches have
passed. An operation stopped by the limit merely gives way: its next poll goes on from the same
stage. -/
def run (advance : Stage → World → World × Step Stage Answer) :
    Nat → Stage → World → World × Progress Stage Answer
  | 0, stage, world => (world, .waiting stage)
  | limit + 1, stage, world =>
    match advance stage world with
    | (world, .waiting stage) => (world, .waiting stage)
    | (world, .onward stage) => run advance limit stage world
    | (world, .ready answer) => (world, .ready answer)

end Step

end MessageStream
