import SearchFilter.Bindings
import SearchFilter.Command.Arguments
import SearchFilter.Command.Line
import SearchFilter.Command.Run
import SearchFilter.Config
import SearchFilter.Diff.Compare
import SearchFilter.Diff.Lines
import SearchFilter.Diff.Middle
import SearchFilter.Diff.Script
import SearchFilter.Diff.Text
import SearchFilter.Escape
import SearchFilter.Files
import SearchFilter.Filter.Basic
import SearchFilter.Filter.Construct
import SearchFilter.Filter.Holds
import SearchFilter.Filter.Layout
import SearchFilter.Filter.Parse
import SearchFilter.Filter.Simplify
import SearchFilter.Json.Basic
import SearchFilter.Json.Relaxed
import SearchFilter.Main
import SearchFilter.Number.Binary64
import SearchFilter.Number.Format
import SearchFilter.Number.Read
import SearchFilter.Number.Shortest
import SearchFilter.Proofs.Filter.Grammar
import SearchFilter.Proofs.Filter.Trees
import SearchFilter.Proofs.Text.Blanks
import SearchFilter.Record.Entry
import SearchFilter.Record.Load
import SearchFilter.Report.Color
import SearchFilter.Report.Selection
import SearchFilter.Report.Table
import SearchFilter.Text.Basic
import SearchFilter.Text.Case
import SearchFilter.Text.Case.Runs
import SearchFilter.Text.Case.Tables
import SearchFilter.Text.Hex
import SearchFilter.Text.Identifier
import SearchFilter.Text.Quoted
import SearchFilter.Text.Quoted.Tables
import SearchFilter.Text.Ranges
import SearchFilter.Text.Utf8
import SearchFilter.Text.Width
import SearchFilter.Text.Width.Basic
import SearchFilter.Text.Width.Emoji
import SearchFilter.Text.Width.Ligature
import SearchFilter.Text.Width.Tables
import SearchFilter.Toml.Basic
import SearchFilter.Toml.Read
import SearchFilter.Toml.Scalar
import SearchFilter.Value.Basic
import SearchFilter.Value.Equality
import SearchFilter.Value.Order
import SearchFilter.Proofs.Filter.Reading
import SearchFilter.Proofs.Filter.Parsing
import SearchFilter.Proofs.Filter.Meaning
import SearchFilter.Proofs.Escape
import SearchFilter.Proofs.Filter.Building
import SearchFilter.Proofs.Filter.RoundTrip
import SearchFilter.Proofs.Text.Utf8
import SearchFilter.Proofs.Text.Case
import SearchFilter.Proofs.Value.Wildcards
import SearchFilter.Proofs.Value.Equality
import SearchFilter.Proofs.Filter.Comparisons
import SearchFilter.Proofs.Filter.Canonical
import SearchFilter.Proofs.Filter.Layouts
import SearchFilter.Proofs.Command.Printing
import SearchFilter.Proofs.Filter.Faults
import SearchFilter.Proofs.Filter.Completion
import SearchFilter.Proofs.Escape.Spellings
import SearchFilter.Proofs.Escape.Inverse
import SearchFilter.Proofs.Filter.Monotone
import SearchFilter.Proofs.Command.Indentation
import SearchFilter.Proofs.Filter.Locality
import SearchFilter.Proofs.Escape.Pieces
import SearchFilter.Proofs.Filter.Respelling
import SearchFilter.Proofs.Text.AsciiCase
import SearchFilter.Proofs.Escape.AsciiCase
import SearchFilter.Proofs.Number.Integers
import SearchFilter.Proofs.Number.AsciiCase
import SearchFilter.Proofs.Filter.AsciiCase
import SearchFilter.Proofs.Value.Order
import SearchFilter.Proofs.Number.Rounding
import SearchFilter.Proofs.Number.WideIntegers
import SearchFilter.Proofs.Number.Order
import SearchFilter.Proofs.Value.WideOrder
import SearchFilter.Proofs.Filter.Rewriting
import SearchFilter.Proofs.Record.Stores
import SearchFilter.Proofs.Value.Transitivity
import SearchFilter.Proofs.Report.Selections
import SearchFilter.Proofs.Json.Values
import SearchFilter.Proofs.Record.Loading
import SearchFilter.Proofs.Json.Scalars
import SearchFilter.Proofs.Json.RoundTrip
import SearchFilter.Proofs.Record.Printing
import SearchFilter.Proofs.Diff.Ends
import SearchFilter.Proofs.Diff.Lines
import SearchFilter.Proofs.Filter.LayoutLines
import SearchFilter.Proofs.Filter.Shrinking
import SearchFilter.Command.Session
import SearchFilter.Proofs.Command.Sessions
import SearchFilter.Proofs.Diff.Changes
import SearchFilter.Proofs.Command.Differences
import SearchFilter.Filter.Scan
import SearchFilter.Proofs.Filter.Sequencing
import SearchFilter.Proofs.Filter.Scanning
import SearchFilter.Proofs.Filter.Errors
import SearchFilter.Proofs.Filter.Surroundings
import SearchFilter.Proofs.Filter.Persistence
import SearchFilter.Proofs.Filter.Truncation
import SearchFilter.Proofs.Filter.Operations
import SearchFilter.Proofs.Json.Controls
import SearchFilter.Proofs.Report.Columns
import SearchFilter.Proofs.Report.Colors
import SearchFilter.Proofs.Report.Alignment
import SearchFilter.Proofs.Command.Grammar
import SearchFilter.Proofs.Command.Reading
import SearchFilter.Proofs.Command.Acceptance
