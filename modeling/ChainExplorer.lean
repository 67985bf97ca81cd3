import ChainExplorer.Binary64.Basic
import ChainExplorer.Binary64.Shortest
import ChainExplorer.Bytes.Base58
import ChainExplorer.Bytes.Base64
import ChainExplorer.Bytes.Hex
import ChainExplorer.Bytes.Sha256
import ChainExplorer.Bytes.Utf8
import ChainExplorer.Cli.Arguments
import ChainExplorer.Cli.Parse
import ChainExplorer.Cli.Plan
import ChainExplorer.Error.Decode
import ChainExplorer.Error.Query
import ChainExplorer.Error.Rpc
import ChainExplorer.Forms
import ChainExplorer.History.Explorer
import ChainExplorer.History.Inquiry
import ChainExplorer.History.Page
import ChainExplorer.History.Record
import ChainExplorer.Http.Exchange
import ChainExplorer.Http.Host
import ChainExplorer.Http.Rate
import ChainExplorer.Http.Settings
import ChainExplorer.Http.Status
import ChainExplorer.Http.Url
import ChainExplorer.Idna.Bidi
import ChainExplorer.Idna.Domain
import ChainExplorer.Idna.Label
import ChainExplorer.Idna.Mapping
import ChainExplorer.Idna.Punycode
import ChainExplorer.Json.Pretty
import ChainExplorer.Json.Printer
import ChainExplorer.Json.Reader
import ChainExplorer.Json.Skipper
import ChainExplorer.Json.Value
import ChainExplorer.Lists.Extract
import ChainExplorer.Machine
import ChainExplorer.Pool.Basic
import ChainExplorer.Pool.Config
import ChainExplorer.Pool.Machine
import ChainExplorer.Proofs.History.Caching
import ChainExplorer.Proofs.History.DoubleEntry
import ChainExplorer.Proofs.History.Fee
import ChainExplorer.Proofs.History.Inquiry
import ChainExplorer.Proofs.History.OutPoint
import ChainExplorer.Proofs.History.Outcome
import ChainExplorer.Proofs.History.Resolution
import ChainExplorer.Proofs.History.Run
import ChainExplorer.Proofs.History.Sequential
import ChainExplorer.Proofs.History.Unconfirmed
import ChainExplorer.Proofs.Inevitable
import ChainExplorer.Proofs.Pool.Backoff
import ChainExplorer.Proofs.Pool.Clock
import ChainExplorer.Proofs.Pool.Closing
import ChainExplorer.Proofs.Pool.Deadline
import ChainExplorer.Proofs.Pool.Holdings
import ChainExplorer.Proofs.Pool.Ownership
import ChainExplorer.Proofs.Pool.Probing
import ChainExplorer.Proofs.Pool.Run
import ChainExplorer.Proofs.Pool.Standing
import ChainExplorer.Proofs.Pool.Turns
import ChainExplorer.Proofs.Pool.Waking
import ChainExplorer.Proofs.Results
import ChainExplorer.Proofs.Rpc.Correlation
import ChainExplorer.Proofs.Rpc.Disposition
import ChainExplorer.Proofs.Rpc.Run
import ChainExplorer.Proofs.Socket.Framing
import ChainExplorer.Proofs.Tasks.Accounting
import ChainExplorer.Proofs.Tasks.Round
import ChainExplorer.Proofs.Trace
import ChainExplorer.Proofs.Transaction.Reader
import ChainExplorer.Rpc.Client
import ChainExplorer.Rpc.Lookup
import ChainExplorer.Rpc.Machine
import ChainExplorer.Rpc.Message
import ChainExplorer.Rpc.Query
import ChainExplorer.Script.Address
import ChainExplorer.Script.Basic
import ChainExplorer.Script.Holder
import ChainExplorer.Script.Pattern
import ChainExplorer.Script.Tape
import ChainExplorer.Script.Word
import ChainExplorer.Simulation.ClientScript
import ChainExplorer.Simulation.HistoryScript
import ChainExplorer.Simulation.PoolScript
import ChainExplorer.Simulation.Scene
import ChainExplorer.Simulation.Server
import ChainExplorer.Simulation.TaskScript
import ChainExplorer.Socket.Address
import ChainExplorer.Socket.Frame
import ChainExplorer.Store
import ChainExplorer.Tasks.Basic
import ChainExplorer.Tasks.FanOut
import ChainExplorer.Text.Blank
import ChainExplorer.Text.Decimal
import ChainExplorer.Text.LabelSet
import ChainExplorer.Text.Pieces
import ChainExplorer.Time.Span
import ChainExplorer.Time.Utc
import ChainExplorer.Transaction.Amount
import ChainExplorer.Transaction.Basic
import ChainExplorer.Transaction.Reader
import ChainExplorer.Unicode.Combining
import ChainExplorer.Unicode.Decomposition
import ChainExplorer.Unicode.Direction
import ChainExplorer.Unicode.Joining
import ChainExplorer.Unicode.Normal
import ChainExplorer.Unicode.Table
import ChainExplorer.Words
import ChainExplorer.Main
import ChainExplorer.Proofs.Bytes.Base58
import ChainExplorer.Proofs.Bytes.Hex
import ChainExplorer.Proofs.Bytes.Utf8
import ChainExplorer.Proofs.Json.Numeral
import ChainExplorer.Proofs.Json.Written
import ChainExplorer.Proofs.Socket.Exchange
import ChainExplorer.Proofs.Script.Address
import ChainExplorer.Proofs.Script.Credit
import ChainExplorer.Proofs.History.Cancellation
import ChainExplorer.Proofs.Tasks.Delivery
import ChainExplorer.Proofs.Script.Tape
import ChainExplorer.Proofs.Text.Numeral
import ChainExplorer.Proofs.Json.Accessors
import ChainExplorer.Proofs.Script.Control
import ChainExplorer.Proofs.Script.Marker
import ChainExplorer.Proofs.Rpc.Outcome
import ChainExplorer.Tasks.Crew
import ChainExplorer.Proofs.Tasks.Crew
import ChainExplorer.Proofs.Tasks.Conservation
import ChainExplorer.Proofs.Tasks.Refinement
import ChainExplorer.Proofs.Tasks.Cancellation
import ChainExplorer.Proofs.Tasks.Intake
import ChainExplorer.Proofs.Binary64.Rounding
import ChainExplorer.Proofs.Json.Scaled
import ChainExplorer.Proofs.Transaction.Amount
import ChainExplorer.Proofs.Transaction.Agreement
import ChainExplorer.Proofs.Transaction.Description
import ChainExplorer.Proofs.History.Sides
import ChainExplorer.Proofs.History.IndexKey
import ChainExplorer.Proofs.Pool.IdleOrder
import ChainExplorer.Proofs.Pool.Aging
import ChainExplorer.Proofs.History.Paging
import ChainExplorer.Proofs.Script.Word
import ChainExplorer.Proofs.Store
import ChainExplorer.Proofs.History.Calls
import ChainExplorer.Proofs.Pool.Recollection
import ChainExplorer.Proofs.Bytes.Reversal
import ChainExplorer.Proofs.Text.Slice
import ChainExplorer.Proofs.Checked.Reader
import ChainExplorer.Proofs.Checked.Word
import ChainExplorer.Proofs.Checked.Script
import ChainExplorer.Proofs.Checked.Tape
