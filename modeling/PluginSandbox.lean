import PluginSandbox.Address.Cidr
import PluginSandbox.Address.Class
import PluginSandbox.Address.HostPort
import PluginSandbox.Address.Ip
import PluginSandbox.Address.Text
import PluginSandbox.Checker
import PluginSandbox.Codec.Grant
import PluginSandbox.Codec.Payload
import PluginSandbox.Codec.Request
import PluginSandbox.Codec.Settings
import PluginSandbox.Command
import PluginSandbox.Config.Basic
import PluginSandbox.Config.Load
import PluginSandbox.Config.Value
import PluginSandbox.Config.Variable
import PluginSandbox.Config.Wrapped
import PluginSandbox.Data.Basic
import PluginSandbox.Data.Overlay
import PluginSandbox.Data.Real
import PluginSandbox.Data.Record
import PluginSandbox.Environment
import PluginSandbox.Fault
import PluginSandbox.Grant.Algebra
import PluginSandbox.Grant.Basic
import PluginSandbox.Guard.Basic
import PluginSandbox.Guard.Config
import PluginSandbox.Guard.Lookup
import PluginSandbox.Json.Number
import PluginSandbox.Json.Printer
import PluginSandbox.Json.Reader
import PluginSandbox.Json.Token
import PluginSandbox.Manifest
import PluginSandbox.Memory.Arena
import PluginSandbox.Memory.Buffer
import PluginSandbox.Memory.Call
import PluginSandbox.Memory.Error
import PluginSandbox.Memory.Packed
import PluginSandbox.Pattern.Glob
import PluginSandbox.Pattern.Host
import PluginSandbox.Pattern.Port
import PluginSandbox.Policy.Basic
import PluginSandbox.Policy.Glob
import PluginSandbox.Proofs.Address.Case
import PluginSandbox.Proofs.Address.Cidr
import PluginSandbox.Proofs.Address.Forms
import PluginSandbox.Proofs.Address.NormalForm
import PluginSandbox.Proofs.Address.RoundTrip
import PluginSandbox.Proofs.Address.Spelling
import PluginSandbox.Proofs.Address.Target
import PluginSandbox.Proofs.Checker.Call
import PluginSandbox.Proofs.Checker.Isolation
import PluginSandbox.Proofs.Checker.Merge
import PluginSandbox.Proofs.Checker.Outbound
import PluginSandbox.Proofs.Checker.Wire
import PluginSandbox.Proofs.Codec.Record
import PluginSandbox.Proofs.Codec.RoundTrip
import PluginSandbox.Proofs.Command.Arguments
import PluginSandbox.Proofs.Command.Spelling
import PluginSandbox.Proofs.Config.Layers
import PluginSandbox.Proofs.Config.Section
import PluginSandbox.Proofs.Config.Variable
import PluginSandbox.Proofs.Data.Overlay
import PluginSandbox.Proofs.Environment.Sanitizing
import PluginSandbox.Proofs.Grant.Category
import PluginSandbox.Proofs.Grant.Coverage
import PluginSandbox.Proofs.Grant.Distinct
import PluginSandbox.Proofs.Grant.Inclusion
import PluginSandbox.Proofs.Grant.Remainder
import PluginSandbox.Proofs.Grant.Union
import PluginSandbox.Proofs.Guard.Classes
import PluginSandbox.Proofs.Guard.Hardening
import PluginSandbox.Proofs.Guard.HostList
import PluginSandbox.Proofs.Guard.Influence
import PluginSandbox.Proofs.Guard.Mapped
import PluginSandbox.Proofs.Guard.Passage
import PluginSandbox.Proofs.Guard.Pinning
import PluginSandbox.Proofs.Guard.Repinning
import PluginSandbox.Proofs.Guard.Trace
import PluginSandbox.Proofs.Guard.Unresolved
import PluginSandbox.Proofs.Guard.Validation
import PluginSandbox.Proofs.Json.Literal
import PluginSandbox.Proofs.Json.RoundTrip
import PluginSandbox.Proofs.Manifest.Acceptance
import PluginSandbox.Proofs.Memory.Budget
import PluginSandbox.Proofs.Memory.FirstFit
import PluginSandbox.Proofs.Memory.Flat
import PluginSandbox.Proofs.Memory.History
import PluginSandbox.Proofs.Memory.Invariant
import PluginSandbox.Proofs.Memory.Lifetime
import PluginSandbox.Proofs.Memory.Lookup
import PluginSandbox.Proofs.Memory.Packing
import PluginSandbox.Proofs.Memory.Payload
import PluginSandbox.Proofs.Memory.Placement
import PluginSandbox.Proofs.Memory.Reachable
import PluginSandbox.Proofs.Memory.Recovery
import PluginSandbox.Proofs.Memory.Storing
import PluginSandbox.Proofs.Memory.Undo
import PluginSandbox.Proofs.Pattern.Address
import PluginSandbox.Proofs.Pattern.Block
import PluginSandbox.Proofs.Pattern.Glob
import PluginSandbox.Proofs.Pattern.Host
import PluginSandbox.Proofs.Pattern.Port
import PluginSandbox.Proofs.Pattern.Segment
import PluginSandbox.Proofs.Policy.Cache
import PluginSandbox.Proofs.Policy.Confinement
import PluginSandbox.Proofs.Policy.Segment
import PluginSandbox.Proofs.Policy.Trial
import PluginSandbox.Proofs.Policy.Wildcard
import PluginSandbox.Proofs.Risk.Authority
import PluginSandbox.Proofs.Risk.Join
import PluginSandbox.Proofs.Risk.Level
import PluginSandbox.Proofs.Risk.Note
import PluginSandbox.Proofs.Risk.Screening
import PluginSandbox.Proofs.Text.Ascii
import PluginSandbox.Proofs.Text.Blank
import PluginSandbox.Proofs.Text.Bytes
import PluginSandbox.Proofs.Text.Fields
import PluginSandbox.Proofs.Text.Numeral
import PluginSandbox.Proofs.Text.Reader
import PluginSandbox.Proofs.Toml.Distinct
import PluginSandbox.Refusal
import PluginSandbox.Request
import PluginSandbox.Risk.Basic
import PluginSandbox.Risk.Config
import PluginSandbox.Text.Ascii
import PluginSandbox.Text.Blank
import PluginSandbox.Text.Bytes
import PluginSandbox.Text.Numeral
import PluginSandbox.Text.Printable
import PluginSandbox.Text.Quoted
import PluginSandbox.Text.Reader
import PluginSandbox.Text.Split
import PluginSandbox.Toml.Document
import PluginSandbox.Toml.Moment
import PluginSandbox.Toml.Number
import PluginSandbox.Toml.Table
import PluginSandbox.Toml.Text
import PluginSandbox.Toml.Value
