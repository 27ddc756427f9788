import FieldLink.Main
import FieldLink.Fleet
import FieldLink.Register.BitField
import FieldLink.Register.ByteOrder
import FieldLink.Register.Codec
import FieldLink.Station
import FieldLink.Transport.SerialPort
import FieldLink.Proofs.Transport.Queue
import FieldLink.Proofs.Transport.Script
import FieldLink.Proofs.Transport.Sharing
import FieldLink.Proofs.Registry.Basic
import FieldLink.Proofs.Registry.CloseAll
import FieldLink.Proofs.Registry.History
import FieldLink.Proofs.Link.Scene
import FieldLink.Proofs.Link.FrameHandling
import FieldLink.Proofs.Link.Ledger
import FieldLink.Proofs.Link.Outline
import FieldLink.Proofs.Link.Start
import FieldLink.Proofs.Link.Orderly
import FieldLink.Proofs.Link.LedgerRuns
import FieldLink.Proofs.Link.Accounts
import FieldLink.Proofs.Link.Lifecycle
import FieldLink.Proofs.Link.ClosedEvents
import FieldLink.Proofs.Link.Chronicle
import FieldLink.Proofs.Link.SessionOwner
import FieldLink.Proofs.Link.FailedSessions
import FieldLink.Proofs.Link.Steady
import FieldLink.Proofs.Link.Settling
import FieldLink.Proofs.Link.Crowd
import FieldLink.Proofs.Link.StartInProgress
import FieldLink.Proofs.Link.LinkOwner
import FieldLink.Proofs.Link.Closing
import FieldLink.Proofs.Link.Motions
import FieldLink.Proofs.Link.Endings
import FieldLink.Proofs.Link.Phases
import FieldLink.Proofs.Link.SessionEnd
import FieldLink.Proofs.Link.Aftermath
import FieldLink.Proofs.Link.Marks
import FieldLink.Proofs.Link.Outstanding
import FieldLink.Proofs.Link.Landmarks
import FieldLink.Proofs.Link.Effects
import FieldLink.Proofs.Link.Devices
import FieldLink.Proofs.Link.Serial
import FieldLink.Proofs.Link.Loopback
import FieldLink.Proofs.Link.Tally
import FieldLink.Proofs.Link.Service
import FieldLink.Proofs.Link.Attempts
import FieldLink.Proofs.Link.Cycles
import FieldLink.Proofs.Link.PollerCancellation
import FieldLink.Proofs.Link.Dormant
import FieldLink.Proofs.Link.LetGoRuns
import FieldLink.Proofs.Link.Refusals
import FieldLink.Proofs.Link.Polls
import FieldLink.Proofs.Link.Launches
import FieldLink.Proofs.Link.Stream
import FieldLink.Proofs.Link.Deliveries
import FieldLink.Proofs.Link.Readings
import FieldLink.Proofs.Link.Chunks
import FieldLink.Proofs.Link.Pollers
import FieldLink.Proofs.Config.Words
import FieldLink.Proofs.Config.Records
import FieldLink.Proofs.Config.RoundTrip
import FieldLink.Proofs.Config.Defaults
import FieldLink.Proofs.Config.Opening
import FieldLink.Proofs.Numeric.Widening
import FieldLink.Proofs.Register.RoundTrip
import FieldLink.Proofs.Numeric.Exact
import FieldLink.Proofs.Register.Coercion
import FieldLink.Proofs.Register.BitField
import FieldLink.Proofs.Register.ByteOrder
import FieldLink.Proofs.Numeric.Nearest
import FieldLink.Proofs.Numeric.Rounding
import FieldLink.Proofs.Register.Monotone
import FieldLink.Proofs.Numeric.Literal
import FieldLink.Proofs.Register.IntegerText
import FieldLink.Proofs.Register.Layout
import FieldLink.Proofs.Options.Timing
import FieldLink.Proofs.Options.Validation
