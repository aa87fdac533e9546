import PageHeat.Analysis.Discovery
import PageHeat.Analysis.Examination
import PageHeat.Analysis.Run
import PageHeat.Disk.Access
import PageHeat.Disk.Basic
import PageHeat.Disk.Building
import PageHeat.Disk.Path
import PageHeat.Fault.Basic
import PageHeat.Fault.Device
import PageHeat.Invocation.Basic
import PageHeat.Invocation.Help
import PageHeat.Invocation.Option
import PageHeat.Invocation.Reader
import PageHeat.Journal.Directive
import PageHeat.Journal.Event
import PageHeat.Journal.Level
import PageHeat.Journal.Verbosity
import PageHeat.Log.Baseline
import PageHeat.Log.Line
import PageHeat.Log.Source
import PageHeat.Log.Stream
import PageHeat.Main
import PageHeat.Pattern.Basic
import PageHeat.Pattern.Bracket
import PageHeat.Pattern.Construction
import PageHeat.Pattern.Escape
import PageHeat.Pattern.Extent
import PageHeat.Pattern.Machine
import PageHeat.Pattern.Matching
import PageHeat.Pattern.Modes
import PageHeat.Pattern.OctetRange
import PageHeat.Pattern.Reader
import PageHeat.Pattern.Weight
import PageHeat.Program
import PageHeat.Proofs.Analysis.Discovery
import PageHeat.Proofs.Analysis.Examination
import PageHeat.Proofs.Analysis.Faults
import PageHeat.Proofs.Analysis.Frame
import PageHeat.Proofs.Analysis.Isolation
import PageHeat.Proofs.Analysis.Listing
import PageHeat.Proofs.Analysis.Overlap
import PageHeat.Proofs.Analysis.Policies
import PageHeat.Proofs.Analysis.Rerun
import PageHeat.Proofs.Analysis.Results
import PageHeat.Proofs.Analysis.Run
import PageHeat.Proofs.Analysis.Stopping
import PageHeat.Proofs.Analysis.Turns
import PageHeat.Proofs.Disk.Changing
import PageHeat.Proofs.Disk.Entries
import PageHeat.Proofs.Disk.Folders
import PageHeat.Proofs.Disk.Inside
import PageHeat.Proofs.Disk.Lexical
import PageHeat.Proofs.Disk.Linked
import PageHeat.Proofs.Disk.Path
import PageHeat.Proofs.Disk.Plain
import PageHeat.Proofs.Disk.Reordering
import PageHeat.Proofs.Disk.Walking
import PageHeat.Proofs.Disk.Writing
import PageHeat.Proofs.Invocation.Arguments
import PageHeat.Proofs.Log.Agreement
import PageHeat.Proofs.Log.Baseline
import PageHeat.Proofs.Log.Cutting
import PageHeat.Proofs.Log.Decoding
import PageHeat.Proofs.Log.Delivery
import PageHeat.Proofs.Log.Findings
import PageHeat.Proofs.Log.Grammar
import PageHeat.Proofs.Log.Line
import PageHeat.Proofs.Log.Reading
import PageHeat.Proofs.Log.Rendering
import PageHeat.Proofs.Log.Tags
import PageHeat.Proofs.Report.Document
import PageHeat.Proofs.Report.Rows
import PageHeat.Proofs.Report.Table
import PageHeat.Proofs.Selection.Joining
import PageHeat.Proofs.Selection.Meaning
import PageHeat.Proofs.Selection.Slicing
import PageHeat.Proofs.Selection.Splitting
import PageHeat.Proofs.Selection.Term
import PageHeat.Proofs.Selection.Words
import PageHeat.Proofs.Settings.Marks
import PageHeat.Proofs.Tally.Comparison
import PageHeat.Proofs.Tally.Coverage
import PageHeat.Proofs.Tally.Format
import PageHeat.Proofs.Tally.Joining
import PageHeat.Proofs.Tally.Known
import PageHeat.Proofs.Tally.Recording
import PageHeat.Proofs.Tally.Recovery
import PageHeat.Proofs.Tally.RoundTrip
import PageHeat.Proofs.Tally.Saturation
import PageHeat.Proofs.Tally.Sink
import PageHeat.Proofs.Tally.Spacing
import PageHeat.Proofs.Text.Decimal
import PageHeat.Proofs.Text.Fields
import PageHeat.Proofs.Text.Lossy
import PageHeat.Proofs.Text.Octets
import PageHeat.Proofs.Text.Offsets
import PageHeat.Proofs.Text.Order
import PageHeat.Proofs.Text.Trim
import PageHeat.Proofs.Text.Utf8
import PageHeat.Report.Basic
import PageHeat.Report.Json
import PageHeat.Report.Stored
import PageHeat.Report.Table
import PageHeat.Selection.Basic
import PageHeat.Selection.Term
import PageHeat.Settings.Basic
import PageHeat.Settings.Document
import PageHeat.Settings.Stored
import PageHeat.Tally.Basic
import PageHeat.Tally.Format
import PageHeat.Tally.Sink
import PageHeat.Text.Basic
import PageHeat.Text.Decimal
import PageHeat.Text.Floating
import PageHeat.Text.Quoted
import PageHeat.Text.Terminal
import PageHeat.Text.Utf8
import PageHeat.Toml.Basic
import PageHeat.Toml.Lexical
import PageHeat.Toml.Number
import PageHeat.Toml.Reader
import PageHeat.Unicode.Age
import PageHeat.Unicode.CaseChange
import PageHeat.Unicode.Category
import PageHeat.Unicode.Control
import PageHeat.Unicode.Emoji
import PageHeat.Unicode.Folding
import PageHeat.Unicode.Identifier
import PageHeat.Unicode.Ideograph
import PageHeat.Unicode.Letter
import PageHeat.Unicode.Mark
import PageHeat.Unicode.Property
import PageHeat.Unicode.RangeSet
import PageHeat.Unicode.Recent
import PageHeat.Unicode.Script
import PageHeat.Unicode.ScriptExtension
import PageHeat.Unicode.Segment
import PageHeat.Unicode.Symbol
