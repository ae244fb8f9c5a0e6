import Whitespace.Assembly
import Whitespace.Assembly.Argument
import Whitespace.Assembly.Fault
import Whitespace.Assembly.Line
import Whitespace.Assembly.PushSequence
import Whitespace.CommandLine
import Whitespace.CommandLine.Arguments
import Whitespace.CommandLine.SelfTest
import Whitespace.Config
import Whitespace.Debugger
import Whitespace.Debugger.Frame
import Whitespace.Debugger.Screen
import Whitespace.Error
import Whitespace.Files
import Whitespace.Json
import Whitespace.Json.Reader
import Whitespace.Json.Writer
import Whitespace.Literal
import Whitespace.Machine
import Whitespace.Machine.Arithmetic
import Whitespace.Machine.Console
import Whitespace.Machine.Error
import Whitespace.Machine.Execution
import Whitespace.Machine.Heap
import Whitespace.Machine.Host
import Whitespace.Machine.Labels
import Whitespace.Machine.Memory
import Whitespace.Machine.Snapshot
import Whitespace.Machine.Stack
import Whitespace.Main
import Whitespace.Opcode
import Whitespace.Program
import Whitespace.Program.CodeTree
import Whitespace.Program.Decoding
import Whitespace.Program.Listing
import Whitespace.Proofs.Actions
import Whitespace.Proofs.Arguments
import Whitespace.Proofs.Bounds
import Whitespace.Proofs.CodeTree
import Whitespace.Proofs.Comments
import Whitespace.Proofs.Composition
import Whitespace.Proofs.Consumption
import Whitespace.Proofs.Debugging
import Whitespace.Proofs.Decoding
import Whitespace.Proofs.Division
import Whitespace.Proofs.Endings
import Whitespace.Proofs.Expansion
import Whitespace.Proofs.Failures
import Whitespace.Proofs.Flushes
import Whitespace.Proofs.Histories
import Whitespace.Proofs.Insertion
import Whitespace.Proofs.Labels
import Whitespace.Proofs.Layouts
import Whitespace.Proofs.LineByLine
import Whitespace.Proofs.Lines
import Whitespace.Proofs.Locality
import Whitespace.Proofs.Marks
import Whitespace.Proofs.Numerals
import Whitespace.Proofs.Padding
import Whitespace.Proofs.Patterns
import Whitespace.Proofs.Printing
import Whitespace.Proofs.Quotes
import Whitespace.Proofs.Reading
import Whitespace.Proofs.Reassembly
import Whitespace.Proofs.Rejection
import Whitespace.Proofs.Relocation
import Whitespace.Proofs.Renaming
import Whitespace.Proofs.Rendering
import Whitespace.Proofs.Reports
import Whitespace.Proofs.Resets
import Whitespace.Proofs.Runs
import Whitespace.Proofs.Scanning
import Whitespace.Proofs.Sequences
import Whitespace.Proofs.Sessions
import Whitespace.Proofs.Sliding
import Whitespace.Proofs.Snapshots
import Whitespace.Proofs.Spelling
import Whitespace.Proofs.Stacks
import Whitespace.Proofs.Standstill
import Whitespace.Proofs.Steps
import Whitespace.Proofs.Styles
import Whitespace.Proofs.Subroutines
import Whitespace.Proofs.Text
import Whitespace.Proofs.Writes
import Whitespace.Snippet
import Whitespace.Source
import Whitespace.Style
import Whitespace.Style.Description
import Whitespace.Symbol
import Whitespace.Text.Blank
import Whitespace.Text.Columns
import Whitespace.Text.Conjunct
import Whitespace.Text.Decimal
import Whitespace.Text.Emoji
import Whitespace.Text.Extending
import Whitespace.Text.Fields
import Whitespace.Text.Glyph
import Whitespace.Text.GlyphWidth
import Whitespace.Text.Ignorable
import Whitespace.Text.Integer
import Whitespace.Text.Lines
import Whitespace.Text.Lossy
import Whitespace.Text.Padding
import Whitespace.Text.Pattern
import Whitespace.Text.Quoted
import Whitespace.Text.Ranges
import Whitespace.Text.Shapeless
import Whitespace.Text.SpacingMark
import Whitespace.Text.Wrap
import Whitespace.Warning
import Whitespace.Workbench
