import SourceUpgrade.Analysis.Basic
import SourceUpgrade.Analysis.Codec
import SourceUpgrade.Cause
import SourceUpgrade.Change
import SourceUpgrade.CommandLine.Arguments
import SourceUpgrade.CommandLine.Run
import SourceUpgrade.Crawl.Backoff
import SourceUpgrade.Crawl.Pool
import SourceUpgrade.Digest.Fingerprint
import SourceUpgrade.Digest.Sha256
import SourceUpgrade.Disk
import SourceUpgrade.Flag
import SourceUpgrade.Floating.Decimal
import SourceUpgrade.Floating.Rounding
import SourceUpgrade.Floating.Shortest
import SourceUpgrade.Folder
import SourceUpgrade.Guidance.Collection
import SourceUpgrade.Guidance.Match
import SourceUpgrade.Guidance.Topic
import SourceUpgrade.Ingest
import SourceUpgrade.Json.Printer
import SourceUpgrade.Json.Reader
import SourceUpgrade.Json.Skip
import SourceUpgrade.Json.Value
import SourceUpgrade.Main
import SourceUpgrade.Passage.Normal
import SourceUpgrade.Passage.Record
import SourceUpgrade.Passage.Window
import SourceUpgrade.Patch.Align
import SourceUpgrade.Patch.Compact
import SourceUpgrade.Patch.Edit
import SourceUpgrade.Patch.Hunk
import SourceUpgrade.Patch.Line
import SourceUpgrade.Patch.Unified
import SourceUpgrade.Pattern.Bracket
import SourceUpgrade.Pattern.Encoding
import SourceUpgrade.Pattern.Escape
import SourceUpgrade.Pattern.Expr
import SourceUpgrade.Pattern.Flags
import SourceUpgrade.Pattern.Limit
import SourceUpgrade.Pattern.Normal
import SourceUpgrade.Pattern.Program
import SourceUpgrade.Pattern.Reader
import SourceUpgrade.Pattern.Search
import SourceUpgrade.Pattern.Template
import SourceUpgrade.Pattern.Weight
import SourceUpgrade.Rule.Basic
import SourceUpgrade.Rule.BuiltIn
import SourceUpgrade.Rule.Custom
import SourceUpgrade.Rule.Phrase
import SourceUpgrade.Rule.Registry
import SourceUpgrade.Rule.Replacement
import SourceUpgrade.Selection
import SourceUpgrade.Session.Basic
import SourceUpgrade.Session.Error
import SourceUpgrade.Session.Operation
import SourceUpgrade.Session.Reply
import SourceUpgrade.Session.State
import SourceUpgrade.Settings.Basic
import SourceUpgrade.Settings.Codec
import SourceUpgrade.Snapshot.Basic
import SourceUpgrade.Snapshot.Codec
import SourceUpgrade.Snapshot.Store
import SourceUpgrade.Text.Blank
import SourceUpgrade.Text.Digit
import SourceUpgrade.Toml.Reader
import SourceUpgrade.Unicode.Age
import SourceUpgrade.Unicode.CaseFold
import SourceUpgrade.Unicode.Category
import SourceUpgrade.Unicode.CharSet
import SourceUpgrade.Unicode.Lowercase
import SourceUpgrade.Unicode.NextVersion
import SourceUpgrade.Unicode.Property
import SourceUpgrade.Unicode.Query
import SourceUpgrade.Unicode.Script
import SourceUpgrade.Unicode.Segmentation
import SourceUpgrade.Proofs.Session.Action
import SourceUpgrade.Proofs.Session.Lifecycle
import SourceUpgrade.Proofs.Session.Batch
import SourceUpgrade.Proofs.Session.Agreement
import SourceUpgrade.Proofs.Session.Provenance
import SourceUpgrade.Proofs.Rule.Occurrence
import SourceUpgrade.Proofs.Rule.ClosedForm
import SourceUpgrade.Proofs.Rule.Settled
import SourceUpgrade.Proofs.Pattern.Expansion
import SourceUpgrade.Proofs.Rule.Reading
import SourceUpgrade.Proofs.Floating.Rounding
import SourceUpgrade.Proofs.Floating.Decimal
import SourceUpgrade.Proofs.Floating.Shortest
import SourceUpgrade.Proofs.Json.Fields
import SourceUpgrade.Proofs.Json.Lexical
import SourceUpgrade.Proofs.Json.Numeral
import SourceUpgrade.Proofs.Json.Number
import SourceUpgrade.Proofs.Json.RoundTrip
import SourceUpgrade.Proofs.Json.AsRead
import SourceUpgrade.Proofs.Snapshot.RoundTrip
import SourceUpgrade.Proofs.Snapshot.Payload
import SourceUpgrade.Proofs.Patch.Reader
import SourceUpgrade.Proofs.Patch.Script
import SourceUpgrade.Proofs.Patch.Aligned
import SourceUpgrade.Proofs.Patch.Moved
import SourceUpgrade.Proofs.Patch.Opening
import SourceUpgrade.Proofs.Patch.Merged
import SourceUpgrade.Proofs.Patch.Shown
import SourceUpgrade.Proofs.Patch.Lines
import SourceUpgrade.Proofs.Patch.Played
import SourceUpgrade.Proofs.Patch.Replayed
import SourceUpgrade.Proofs.Patch.Unified
import SourceUpgrade.Proofs.Rule.Account
import SourceUpgrade.Proofs.Session.Application
import SourceUpgrade.Proofs.Session.Composite
import SourceUpgrade.Proofs.Session.InPlace
import SourceUpgrade.Proofs.Session.Gate
import SourceUpgrade.Proofs.Session.Guidance
import SourceUpgrade.Proofs.Session.History
import SourceUpgrade.Proofs.Session.Convergence
import SourceUpgrade.Proofs.Session.Accepted
import SourceUpgrade.Proofs.Crawl.Visit
import SourceUpgrade.Proofs.Crawl.Schedule
import SourceUpgrade.Proofs.Crawl.Load
import SourceUpgrade.Proofs.Crawl.Backoff
import SourceUpgrade.Proofs.Crawl.Clock
import SourceUpgrade.Proofs.Folder
import SourceUpgrade.Proofs.Disk
import SourceUpgrade.Proofs.CommandLine.Work
import SourceUpgrade.Proofs.CommandLine.Frame
import SourceUpgrade.Proofs.CommandLine.Report
import SourceUpgrade.Proofs.CommandLine.Agreement
import SourceUpgrade.Proofs.Passage.Window
import SourceUpgrade.Proofs.Fingerprint
import SourceUpgrade.Proofs.Session.Coverage
import SourceUpgrade.Proofs.Analysis.RoundTrip
import SourceUpgrade.Proofs.Analysis.Reduction
import SourceUpgrade.Proofs.Passage.Normal
import SourceUpgrade.Proofs.Passage.Record
import SourceUpgrade.Proofs.Rule.Isolation
import SourceUpgrade.Proofs.Rule.Comment
import SourceUpgrade.Proofs.Session.Isolation
import SourceUpgrade.Proofs.Session.Reporting
import SourceUpgrade.Proofs.Snapshot.Store
import SourceUpgrade.Proofs.Unicode.Lowercase
import SourceUpgrade.Proofs.Guidance.Mention
import SourceUpgrade.Proofs.FirstSeen
import SourceUpgrade.Proofs.Guidance.Compaction
import SourceUpgrade.Proofs.Session.Harvest
import SourceUpgrade.Proofs.Ingest
import SourceUpgrade.Proofs.Guidance.Ranking
