import Opscript.Code
import Opscript.CommandLine.Options
import Opscript.CommandLine.Program
import Opscript.CommandLine.Session
import Opscript.Config.Basic
import Opscript.Config.Document
import Opscript.Decimal.Layout
import Opscript.Decimal.Reading
import Opscript.Decimal.Shortest
import Opscript.Decoding
import Opscript.Diagnostic.Basic
import Opscript.Diagnostic.ByteRange
import Opscript.Diagnostic.Excerpt
import Opscript.Diagnostic.Kind
import Opscript.Diagnostic.Picture
import Opscript.Diagnostic.Print
import Opscript.Diagnostic.Window
import Opscript.Execution
import Opscript.Inspect
import Opscript.Json.Basic
import Opscript.Json.Fault
import Opscript.Json.Read
import Opscript.Json.Writer
import Opscript.Listing
import Opscript.Log
import Opscript.Model
import Opscript.Observer
import Opscript.Ordered
import Opscript.Palette
import Opscript.Policy
import Opscript.Record
import Opscript.Registry
import Opscript.Resolution
import Opscript.Segment
import Opscript.Sequence
import Opscript.Sequencer.Basic
import Opscript.Sequencer.Request
import Opscript.Symbol
import Opscript.Text.Characters
import Opscript.Text.Quoted
import Opscript.Text.Spelled
import Opscript.Text.Utf16
import Opscript.Trace
import Opscript.Value.Basic
import Opscript.Value.Text
import Opscript.Violation
import Opscript.Main
import Opscript.Proofs.Decoding.Scan
import Opscript.Proofs.Decoding.Tiling
import Opscript.Proofs.Decoding.RoundTrip
import Opscript.Proofs.Decoding.Unknown
import Opscript.Proofs.Execution.Direct
import Opscript.Proofs.Execution.Filled
import Opscript.Proofs.Diagnostic.Bytes
import Opscript.Proofs.Diagnostic.Cuts
import Opscript.Proofs.Model.History
import Opscript.Proofs.Model.Removal
import Opscript.Proofs.Sequencer.Checks
import Opscript.Proofs.Sequencer.Refusals
import Opscript.Proofs.Sequencer.Reports
import Opscript.Proofs.Sequencer.Alike
import Opscript.Proofs.Sequencer.Modes
import Opscript.Proofs.Sequencer.Advice
import Opscript.Proofs.Sequencer.Stored
import Opscript.Proofs.Sequencer.Course
import Opscript.Proofs.Sequencer.Removal
import Opscript.Proofs.Sequencer.Strict
import Opscript.Proofs.Sequencer.Stable
import Opscript.Proofs.Symbol.Grammar
import Opscript.Proofs.Text.Lossy
import Opscript.Proofs.Text.Pairing
import Opscript.Proofs.Json.Scalars
import Opscript.Proofs.Json.Nested
import Opscript.Proofs.Value.Equality
import Opscript.Proofs.Value.RoundTrip
import Opscript.Proofs.CommandLine.Spans
import Opscript.Proofs.CommandLine.Inline
import Opscript.Proofs.Sequencer.Found
import Opscript.Proofs.Registry.History
import Opscript.Proofs.Registry.Latest
import Opscript.Proofs.Sequencer.Slots
import Opscript.Proofs.Sequencer.Records
import Opscript.Proofs.Sequencer.Bulk
import Opscript.Proofs.Sequencer.Construction
import Opscript.Proofs.Sequencer.Journal
import Opscript.Proofs.Config.Fields
import Opscript.Proofs.Config.Order
import Opscript.Proofs.Execution.Observed
import Opscript.Proofs.CommandLine.Status
import Opscript.Proofs.CommandLine.Calls
import Opscript.Proofs.Text.Separated
import Opscript.Proofs.Value.Written
import Opscript.Proofs.Listing.Glyph
import Opscript.Proofs.Text.Tame
import Opscript.Proofs.Palette.Painted
import Opscript.Proofs.Trace.Lines
import Opscript.Proofs.Palette.Uncolored
import Opscript.Proofs.Listing.Faithful
import Opscript.Proofs.Decoding.Seam
import Opscript.Proofs.Listing.Breaks
import Opscript.Proofs.CommandLine.Blocks
import Opscript.Proofs.Config.Limit
import Opscript.Proofs.Text.Replaced
import Opscript.Proofs.Diagnostic.Messages
