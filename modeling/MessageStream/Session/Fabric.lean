import MessageStream.Transport.Pair
import MessageStream.Transport.Recorded
import MessageStream.Transport.Scripted
import MessageStream.Transport.Staged

/-!
Fabrics: the connections a session can run over, with what each offers besides its transport.
-/
namespace MessageStream.Session

structure Exchange (S : Signature) where
  send : Nat → Message → S.World → S.World × Except Failure Unit
  receive : Nat → Operation S.World S.ReaderOpening (Except Failure Message)

structure Fabric (S : Signature) where
  transport : Nat → Transport S
  notify : Nat → S.World → S.World
  showsClosed : Nat → S.World → Bool
  exchange : Option (Exchange S)

def gateCount : Nat := 8

def scripted (setup : Scripted.Setup) : Fabric Scripted.signature where
  transport _ := Scripted.transport setup
  notify gate world := { world with gates := world.gates.notify gate }
  showsClosed _ _ := false
  exchange := none

def staged : Fabric Staged.signature.recorded where
  transport _ := Staged.transport.recorded
  notify gate world :=
    { world with inner := { world.inner with gates := world.inner.gates.notify gate } }
  showsClosed _ _ := false
  exchange := none

def side (site : Nat) : Pair.Side := if site = 0 then .left else .right

/-- A pair of connections in memory. It has no gates, so notifications are lost on it. -/
def pair : Fabric Pair.signature where
  transport site := Pair.transport (side site)
  notify _ world := world
  showsClosed site world := (world.endpoint (side site)).closed
  exchange := some {
    send := fun site => Pair.send (side site)
    receive := fun site => Pair.receive (side site) }

end MessageStream.Session
