import MessageStream.Operation
import MessageStream.Message
import MessageStream.Failure

/-!
Transports: what a stream requires of the connection under it.

A connection moves whole messages. An inbound one is read through a reader until that yields
nothing; an outbound one is filled through a writer and sent by finishing it. Every call may have to
wait, may fail, and acts on the world in which the connection lives, where it meets the calls of
others.

A read that takes no bytes where there is room for some has found the end of its message. A write
answers how many of the bytes offered, from the first on, the message has taken. `drop` is what
becomes of the world when the last owner of a connection gives it up, and `supply` is a bound on the
messages that can be opened before an opening has to wait.
-/
namespace MessageStream

structure Signature where
  World : Type
  Reader : Type
  Writer : Type
  ReaderOpening : Type
  WriterOpening : Type
  Reading : Type
  Writing : Type
  Finishing : Type
  Closing : Type

structure Transport (S : Signature) where
  nextReader : Operation S.World S.ReaderOpening (Except Failure S.Reader)
  nextWriter : MessageKind → Operation S.World S.WriterOpening (Except Failure S.Writer)
  read : Nat → Operation (S.Reader × S.World) S.Reading (Except Failure Bytes)
  write : Bytes → Operation (S.Writer × S.World) S.Writing (Except Failure Nat)
  finish : Operation (S.Writer × S.World) S.Finishing (Except Failure Unit)
  close : Operation S.World S.Closing (Except Failure Unit)
  dropWriter : S.Writer → S.World → S.World
  drop : S.World → S.World
  supply : S.World → Nat

end MessageStream
