import ServiceKit.Config.Document
import ServiceKit.Config.Entropy
import ServiceKit.Config.Error
import ServiceKit.Config.Listener
import ServiceKit.Config.Load
import ServiceKit.Config.Seal
import ServiceKit.Config.Shared
import ServiceKit.Config.Stanza
import ServiceKit.Config.Telemetry
import ServiceKit.Container.Address
import ServiceKit.Container.Config
import ServiceKit.Container.Diagnosis
import ServiceKit.Container.Document
import ServiceKit.Container.Engine
import ServiceKit.Container.Error
import ServiceKit.Container.Output
import ServiceKit.Container.Pump
import ServiceKit.Container.Runner
import ServiceKit.Container.Spec
import ServiceKit.Credentials.Chain
import ServiceKit.Credentials.Config
import ServiceKit.Credentials.Document
import ServiceKit.Credentials.Error
import ServiceKit.Credentials.Profiles
import ServiceKit.Credentials.Rotation
import ServiceKit.Duration
import ServiceKit.ErrorEnum.Expansion
import ServiceKit.ErrorEnum.Item
import ServiceKit.ErrorEnum.Types
import ServiceKit.Features
import ServiceKit.Hcl.Decode
import ServiceKit.Hcl.Printer
import ServiceKit.Hcl.Reader
import ServiceKit.Hcl.Syntax
import ServiceKit.Http.CustomHeaders
import ServiceKit.Http.Error
import ServiceKit.Http.Forwarded
import ServiceKit.Http.Header
import ServiceKit.Http.Message
import ServiceKit.Http.UnixSocket
import ServiceKit.Json.Basic
import ServiceKit.Json.Printer
import ServiceKit.Json.Reader
import ServiceKit.Logging.Error
import ServiceKit.Logging.Event
import ServiceKit.Logging.Filter
import ServiceKit.Logging.Level
import ServiceKit.Logging.Logger
import ServiceKit.Memo.Awaited
import ServiceKit.Memo.Basic
import ServiceKit.Memo.Once
import ServiceKit.Net.Cidr
import ServiceKit.Net.Ip
import ServiceKit.Number.Binary64
import ServiceKit.Number.Integer
import ServiceKit.Number.Power
import ServiceKit.Number.Shortest
import ServiceKit.Permits.Clients
import ServiceKit.Permits.Pool
import ServiceKit.Proofs.Config.Answers
import ServiceKit.Proofs.Config.Blame
import ServiceKit.Proofs.Config.Consistency
import ServiceKit.Proofs.Config.HeaderTables
import ServiceKit.Proofs.Config.Ignored
import ServiceKit.Proofs.Config.Indirections
import ServiceKit.Proofs.Config.Joining
import ServiceKit.Proofs.Config.Keys
import ServiceKit.Proofs.Config.Listener
import ServiceKit.Proofs.Config.Loading
import ServiceKit.Proofs.Config.Merging
import ServiceKit.Proofs.Config.Overruns
import ServiceKit.Proofs.Config.Placement
import ServiceKit.Proofs.Config.Precedence
import ServiceKit.Proofs.Config.Quoting
import ServiceKit.Proofs.Config.Redaction
import ServiceKit.Proofs.Config.Reports
import ServiceKit.Proofs.Config.RequestSize
import ServiceKit.Proofs.Config.Shared
import ServiceKit.Proofs.Config.Stanza
import ServiceKit.Proofs.Container.Departures
import ServiceKit.Proofs.Container.Exits
import ServiceKit.Proofs.Container.Orphans
import ServiceKit.Proofs.Container.Pinning
import ServiceKit.Proofs.Container.Piping
import ServiceKit.Proofs.Container.SocketDirectory
import ServiceKit.Proofs.Container.Sockets
import ServiceKit.Proofs.Container.Starting
import ServiceKit.Proofs.Container.Streams
import ServiceKit.Proofs.Credentials.Roles
import ServiceKit.Proofs.Credentials.Rotation
import ServiceKit.Proofs.ErrorEnum.Conversions
import ServiceKit.Proofs.ErrorEnum.Inspecting
import ServiceKit.Proofs.ErrorEnum.Reading
import ServiceKit.Proofs.Forwarded.Admission
import ServiceKit.Proofs.Forwarded.Chain
import ServiceKit.Proofs.Forwarded.Display
import ServiceKit.Proofs.Forwarded.Reference
import ServiceKit.Proofs.Forwarded.Spoofing
import ServiceKit.Proofs.Hcl.Decoding
import ServiceKit.Proofs.Hcl.Masking
import ServiceKit.Proofs.Hcl.Parts
import ServiceKit.Proofs.Hcl.Plain
import ServiceKit.Proofs.Hcl.Rests
import ServiceKit.Proofs.Hcl.Settings
import ServiceKit.Proofs.Hcl.Steps
import ServiceKit.Proofs.Http.Binding
import ServiceKit.Proofs.Http.Headers
import ServiceKit.Proofs.Http.Indexing
import ServiceKit.Proofs.Http.Precedence
import ServiceKit.Proofs.Http.Reaching
import ServiceKit.Proofs.Json.Fields
import ServiceKit.Proofs.Json.Reading
import ServiceKit.Proofs.Memo.Initializing
import ServiceKit.Proofs.Net.Covers
import ServiceKit.Proofs.Number.Numerals
import ServiceKit.Proofs.Number.Rounding
import ServiceKit.Proofs.Outcome
import ServiceKit.Proofs.Permits.Accounts
import ServiceKit.Proofs.Regexp.Footprint
import ServiceKit.Proofs.Regexp.Interning
import ServiceKit.Proofs.Regexp.Reading
import ServiceKit.Proofs.Server.Ending
import ServiceKit.Proofs.Server.Gates
import ServiceKit.Proofs.Server.ResponseHeaders
import ServiceKit.Proofs.Server.Secrecy
import ServiceKit.Proofs.Server.Serving
import ServiceKit.Proofs.Settings.Reading
import ServiceKit.Proofs.Settled
import ServiceKit.Proofs.System.Directories
import ServiceKit.Proofs.System.Paths
import ServiceKit.Proofs.Text.Splitting
import ServiceKit.Proofs.Value.Capacity
import ServiceKit.Proofs.Value.Duration
import ServiceKit.Proofs.Value.Entries
import ServiceKit.Proofs.Value.Fractions
import ServiceKit.Proofs.Value.Integer
import ServiceKit.Proofs.Value.Precision
import ServiceKit.Proofs.Value.Quoting
import ServiceKit.Proofs.Value.Seconds
import ServiceKit.Regexp.Cache
import ServiceKit.Regexp.Interner
import ServiceKit.Regexp.Matcher
import ServiceKit.Regexp.Property
import ServiceKit.Regexp.Reader
import ServiceKit.Regexp.Syntax
import ServiceKit.Server.Build
import ServiceKit.Server.Router
import ServiceKit.Server.Run
import ServiceKit.Settings.Ini
import ServiceKit.Settings.Load
import ServiceKit.Settings.Toml
import ServiceKit.Settings.Value
import ServiceKit.Settings.Yaml
import ServiceKit.System.Fault
import ServiceKit.System.Files
import ServiceKit.System.Path
import ServiceKit.Text.Blank
import ServiceKit.Text.Bytes
import ServiceKit.Text.Category
import ServiceKit.Text.Folding
import ServiceKit.Text.Hidden
import ServiceKit.Text.Letters
import ServiceKit.Text.Quoted
import ServiceKit.Text.Slice
import ServiceKit.Value.Address
import ServiceKit.Value.Duration
import ServiceKit.Value.Error
import ServiceKit.Value.Indirection
import ServiceKit.Value.Scalar
