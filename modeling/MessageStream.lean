import MessageStream.Configuration.Reader
import MessageStream.Counters
import MessageStream.Records
import MessageStream.Session.Run
import MessageStream.Proofs.Usage.Basic
import MessageStream.Proofs.Usage.Stretch
import MessageStream.Proofs.Usage.Effect
import MessageStream.Proofs.Usage.Move
import MessageStream.Proofs.Usage.Frame
import MessageStream.Proofs.Usage.Turns
import MessageStream.Proofs.Usage.Drop
import MessageStream.Proofs.Usage.Sound
import MessageStream.Proofs.Usage.Record
import MessageStream.Proofs.Usage.Spared
import MessageStream.Proofs.Usage.Lending
import MessageStream.Proofs.Usage.Blame
import MessageStream.Proofs.Closing
import MessageStream.Proofs.Usage.Trace
import MessageStream.Proofs.Outbound.Outbox
import MessageStream.Proofs.Outbound.Post
import MessageStream.Proofs.Outbound.Moves
import MessageStream.Proofs.Outbound.OneMessage
import MessageStream.Proofs.Outbound.Use
import MessageStream.Proofs.Outbound.FinishedOnce
import MessageStream.Proofs.Outbound.Shares
import MessageStream.Proofs.Outbound.Deals
import MessageStream.Proofs.Outbound.LeftBehind
import MessageStream.Proofs.Outbound.ScriptedWrite
import MessageStream.Proofs.Outbound.ExactWrite
import MessageStream.Proofs.Outbound.WriterContract
import MessageStream.Proofs.Teardown.Standing
import MessageStream.Proofs.Teardown.Once
import MessageStream.Proofs.Outbound.Attendance
import MessageStream.Proofs.Outbound.Displaced
import MessageStream.Proofs.Outbound.InTurn
import MessageStream.Proofs.Inbound.Delivery
import MessageStream.Proofs.Exclusion
import MessageStream.Proofs.Progress.NoSpin
import MessageStream.Proofs.Accounts.Balance
import MessageStream.Proofs.Inbound.NoByteLost
import MessageStream.Proofs.Inbound.Portions
import MessageStream.Proofs.Inbound.Deframer
import MessageStream.Proofs.Inbound.Story
import MessageStream.Proofs.Inbound.Deframing
import MessageStream.Proofs.Pair.Receiving
import MessageStream.Proofs.Pair.Sending
import MessageStream.Proofs.Pair.Fidelity
import MessageStream.Proofs.Pair.Exchange
import MessageStream.Proofs.Pair.Conveyance
import MessageStream.Proofs.Pair.Refusal
import MessageStream.Proofs.Duplex.Confined
import MessageStream.Proofs.Duplex.Halves
import MessageStream.Proofs.Duplex.Calls
import MessageStream.Proofs.Duplex.Script
import MessageStream.Proofs.Duplex.Independence
import MessageStream.Proofs.Bridge.Basic
import MessageStream.Proofs.Bridge.ReadSide
import MessageStream.Proofs.Bridge.FaithfulReads
import MessageStream.Proofs.Bridge.WriteSide
import MessageStream.Proofs.Bridge.FaithfulWrites
import MessageStream.Proofs.Bridge.Ledger
import MessageStream.Proofs.Bridge.OwnBytes
import MessageStream.Proofs.Bridge.NoFalseEnd
import MessageStream.Proofs.Bridge.Shutdown
import MessageStream.Proofs.Bridge.Coherence
import MessageStream.Proofs.Bridge.Strict
import MessageStream.Proofs.Configuration.Literal
import MessageStream.Proofs.Configuration.Grammar
import MessageStream.Proofs.Configuration.Lexing
import MessageStream.Proofs.Configuration.Reading
