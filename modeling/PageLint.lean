import PageLint.Text.Position
import PageLint.Repair
import PageLint.Json.Read
import PageLint.Json.Codec
import PageLint.Language
import PageLint.Deadline
import PageLint.Engine
import PageLint.Markup.Check
import PageLint.Text.Scan
import PageLint.Style.Mask
import PageLint.Style.Block
import PageLint.Style.Value
import PageLint.Style.Check
import PageLint.Script.Grammar.Automaton
import PageLint.Script.Place
import PageLint.Script.Scanner
import PageLint.Script.Lexer
import PageLint.Script.Subtree
import PageLint.Script.Stack
import PageLint.Script.Parser
import PageLint.Script.Node
import PageLint.Script.Scope
import PageLint.Script.Issue
import PageLint.Script.Ambient
import PageLint.Script.Outline
import PageLint.Script.Resolution
import PageLint.Script.Equality
import PageLint.Script.Header
import PageLint.Script.Clause
import PageLint.Script.Blocks
import PageLint.Script.Check
import PageLint.Standard
import PageLint.Editor
import PageLint.Survey
import PageLint.Survey.Json
import PageLint.Number.Binary
import PageLint.Survey.Text
import PageLint.Text.Quoted
import PageLint.Number.Shortest
import PageLint.Settings.Cause
import PageLint.Settings.Token
import PageLint.Settings.Json
import PageLint.Settings.Yaml.Cursor
import PageLint.Settings.Yaml.Scalar
import PageLint.Settings.Yaml.Token
import PageLint.Settings.Yaml.Node
import PageLint.Settings.Yaml.Options
import PageLint.Settings.File
import PageLint.Number.Natural
import PageLint.Command.Pattern
import PageLint.Command.FileSystem
import PageLint.Command.Arguments
import PageLint.Command.Run
import PageLint.Command.Disk
import PageLint.Main
import PageLint.Proofs.Text.Offsets
import PageLint.Proofs.Text.Lines
import PageLint.Proofs.Engine.Anchoring
import PageLint.Proofs.Repair.Order
import PageLint.Proofs.Repair.Pass
import PageLint.Proofs.Engine.Deadlines
import PageLint.Proofs.Markup.Name
import PageLint.Proofs.Markup.Document
import PageLint.Proofs.Markup.Interruption
import PageLint.Proofs.Markup.Nesting
import PageLint.Proofs.Repair.Revision
import PageLint.Proofs.Markup.Mending
import PageLint.Proofs.Script.Frames
import PageLint.Proofs.Script.Bindings
import PageLint.Proofs.Script.Walk
import PageLint.Proofs.Script.Resolution
import PageLint.Proofs.Script.Nesting
import PageLint.Proofs.Script.Redeclaration
import PageLint.Proofs.Script.Alike
import PageLint.Proofs.Script.Correspondence
import PageLint.Proofs.Script.Reordering
import PageLint.Proofs.Script.Thinning
import PageLint.Proofs.Script.Visits
import PageLint.Proofs.Script.Removal
import PageLint.Proofs.Script.Reports
import PageLint.Proofs.Script.Interruption
import PageLint.Proofs.Text.Slices
import PageLint.Proofs.Text.Trimming
import PageLint.Proofs.Markup.Places
import PageLint.Proofs.Markup.Scan
import PageLint.Proofs.Engine.Exactness
import PageLint.Proofs.Markup.Spans
import PageLint.Proofs.Style.Mask
import PageLint.Proofs.Style.Masking
import PageLint.Proofs.Style.Declarations
import PageLint.Proofs.Text.Ascii
import PageLint.Proofs.Text.Names
import PageLint.Proofs.Style.Symbols
import PageLint.Proofs.Style.Spans
import PageLint.Proofs.Engine.Checks
import PageLint.Proofs.Engine.Selection
import PageLint.Proofs.Style.Interruption
import PageLint.Proofs.Engine.Interruption
import PageLint.Proofs.Editor.Positions
import PageLint.Proofs.Editor.Changes
import PageLint.Proofs.Script.Unused
import PageLint.Proofs.Engine.Stability
import PageLint.Proofs.Script.Merging
import PageLint.Proofs.Style.Ending
import PageLint.Proofs.Style.Closing
import PageLint.Proofs.Script.Introductions
import PageLint.Proofs.Json.RoundTrip
import PageLint.Proofs.Style.Strides
import PageLint.Proofs.Text.Bytes
import PageLint.Proofs.Text.Taken
import PageLint.Proofs.Style.ByteScan
import PageLint.Proofs.Style.ByteMasking
import PageLint.Proofs.Style.MaskedBytes
import PageLint.Proofs.Style.Hiding
import PageLint.Proofs.Style.Importance
import PageLint.Proofs.Text.Edits
import PageLint.Proofs.Style.Color
import PageLint.Proofs.Style.Replacement
import PageLint.Proofs.Style.Braces
import PageLint.Proofs.Style.Repetition
import PageLint.Proofs.Style.Rules
import PageLint.Proofs.Script.Comparisons
import PageLint.Proofs.Markup.Attributes
import PageLint.Proofs.Markup.Hiding
import PageLint.Proofs.Script.Headers
import PageLint.Proofs.Script.Programs
import PageLint.Proofs.Options.Merge
import PageLint.Proofs.Text.Parentheses
import PageLint.Proofs.Script.Arrows
import PageLint.Proofs.Text.Matches
import PageLint.Proofs.Style.Variables
import PageLint.Proofs.Script.Faults
import PageLint.Proofs.Script.ByteWords
import PageLint.Proofs.Script.ByteScan
import PageLint.Proofs.Script.Spans
import PageLint.Proofs.Script.Openings
import PageLint.Proofs.Text.LineStarts
import PageLint.Proofs.Options.Validity
import PageLint.Proofs.Command.Settings
import PageLint.Proofs.Survey.Marks
import PageLint.Proofs.Script.Defects
