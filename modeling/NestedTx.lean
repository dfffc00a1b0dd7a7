import NestedTx.Binary64.Basic
import NestedTx.Binary64.Format
import NestedTx.Binary64.Read
import NestedTx.Binary64.Shortest
import NestedTx.Command.Args
import NestedTx.Command.Check
import NestedTx.Database.Connection
import NestedTx.Database.Kind
import NestedTx.Database.PoolOptions
import NestedTx.Database.Settings
import NestedTx.Database.Target
import NestedTx.Dialogue
import NestedTx.Error.Basic
import NestedTx.Error.Driver
import NestedTx.Host
import NestedTx.Json.Basic
import NestedTx.Json.Document
import NestedTx.Json.Printer
import NestedTx.Json.Reader
import NestedTx.Main
import NestedTx.Pool
import NestedTx.Proofs.Binary64.Decimal
import NestedTx.Proofs.Binary64.Rounding
import NestedTx.Proofs.Binary64.Single
import NestedTx.Proofs.Command.Check
import NestedTx.Proofs.Command.Course
import NestedTx.Proofs.Command.Report
import NestedTx.Proofs.Command.Secrecy
import NestedTx.Proofs.Command.Series
import NestedTx.Proofs.Database.Identifiers
import NestedTx.Proofs.Database.Masking
import NestedTx.Proofs.Database.Names
import NestedTx.Proofs.Database.Password
import NestedTx.Proofs.Database.PoolOptions
import NestedTx.Proofs.Database.Rereading
import NestedTx.Proofs.Database.Stripping
import NestedTx.Proofs.Database.Unmasked
import NestedTx.Proofs.Dialogue
import NestedTx.Proofs.Error
import NestedTx.Proofs.Provider.Backend
import NestedTx.Proofs.Provider.Doubt
import NestedTx.Proofs.Provider.Failure
import NestedTx.Proofs.Provider.Ideal
import NestedTx.Proofs.Provider.Independence
import NestedTx.Proofs.Provider.Naming
import NestedTx.Proofs.Provider.Nesting
import NestedTx.Proofs.Provider.Observation
import NestedTx.Proofs.Provider.Operation
import NestedTx.Proofs.Provider.Protocol
import NestedTx.Proofs.Provider.Refinement
import NestedTx.Proofs.Provider.Retry
import NestedTx.Proofs.Provider.Return
import NestedTx.Proofs.Provider.Reuse
import NestedTx.Proofs.Provider.Sight
import NestedTx.Proofs.Provider.Standing
import NestedTx.Proofs.Provider.Unwinding
import NestedTx.Proofs.Registration.Race
import NestedTx.Proofs.Registration.Sound
import NestedTx.Proofs.Registration.World
import NestedTx.Proofs.Registry
import NestedTx.Proofs.Registry.Conservation
import NestedTx.Proofs.Registry.History
import NestedTx.Proofs.Registry.Ledger
import NestedTx.Proofs.Savepoint
import NestedTx.Proofs.Savepoint.Grammar
import NestedTx.Proofs.Server.Parameters
import NestedTx.Proofs.Server.Query
import NestedTx.Proofs.Server.Session
import NestedTx.Proofs.Text.Decimal
import NestedTx.Proofs.Text.LowerCase
import NestedTx.Proofs.Text.Trimming
import NestedTx.Proofs.Text.Utf8
import NestedTx.Proofs.Transaction.Life
import NestedTx.Proofs.Transaction.Operation
import NestedTx.Proofs.Transaction.Savepoint
import NestedTx.Proofs.Url.Address
import NestedTx.Proofs.Url.Form
import NestedTx.Proofs.Url.Host
import NestedTx.Proofs.Url.Marks
import NestedTx.Proofs.Url.Password
import NestedTx.Proofs.Url.Rereading
import NestedTx.Proofs.Url.Roundtrip
import NestedTx.Proofs.Url.Segments
import NestedTx.Proofs.Url.Surroundings
import NestedTx.Proofs.Url.Written
import NestedTx.Proofs.Value.Rows
import NestedTx.Proofs.Value.Scalar
import NestedTx.Proofs.Wire.Datum
import NestedTx.Proofs.Wire.Float
import NestedTx.Proofs.Wire.Guarded
import NestedTx.Proofs.Wire.Integer
import NestedTx.Proofs.Wire.Malformed
import NestedTx.Proofs.Wire.Numeric
import NestedTx.Proofs.Wire.Rendering
import NestedTx.Proofs.Wire.Uuid
import NestedTx.Provider
import NestedTx.Registration
import NestedTx.Registry
import NestedTx.Resource
import NestedTx.Savepoint
import NestedTx.Server.Address
import NestedTx.Server.Outcome
import NestedTx.Server.Recorder
import NestedTx.Server.Scripted
import NestedTx.Server.Snapshot
import NestedTx.Server.Sql
import NestedTx.Server.Store
import NestedTx.Service
import NestedTx.Text.Alphanumeric
import NestedTx.Text.Ascii
import NestedTx.Text.Base64
import NestedTx.Text.Blank
import NestedTx.Text.CaseFold
import NestedTx.Text.Integer
import NestedTx.Text.Invisible
import NestedTx.Text.Quoted
import NestedTx.Text.Utf8
import NestedTx.Transaction
import NestedTx.Url.Basic
import NestedTx.Url.Domain
import NestedTx.Url.Form
import NestedTx.Url.Host
import NestedTx.Url.Parser
import NestedTx.Url.PercentEncode
import NestedTx.Url.Punycode
import NestedTx.Value.Category
import NestedTx.Value.Param
import NestedTx.Value.Rows
import NestedTx.Wire.Argument
import NestedTx.Wire.Basic
import NestedTx.Wire.Integer
import NestedTx.Wire.MySql
import NestedTx.Wire.Numeric
import NestedTx.Wire.Postgres
import NestedTx.Wire.Temporal
import NestedTx.Wire.Uuid
