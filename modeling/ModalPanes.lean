import ModalPanes.CommandLine.Arguments
import ModalPanes.CommandLine.Directory
import ModalPanes.CommandLine.Program
import ModalPanes.Cursor
import ModalPanes.Double
import ModalPanes.Ex
import ModalPanes.GroundTruth
import ModalPanes.History
import ModalPanes.Json.Basic
import ModalPanes.Json.Reader
import ModalPanes.Json.Writer
import ModalPanes.Key.Basic
import ModalPanes.Key.Decoder
import ModalPanes.Key.Name
import ModalPanes.Keymap
import ModalPanes.Layout
import ModalPanes.Main
import ModalPanes.Mode
import ModalPanes.Motion
import ModalPanes.Named
import ModalPanes.Options
import ModalPanes.Pane.Basic
import ModalPanes.Pane.Drawing
import ModalPanes.Pane.Edit
import ModalPanes.Pane.Executing
import ModalPanes.Pane.Keys
import ModalPanes.Pane.Moving
import ModalPanes.Pane.Normal
import ModalPanes.Pane.Recorder
import ModalPanes.Pane.Selection
import ModalPanes.Pane.Status
import ModalPanes.Pane.Typing
import ModalPanes.Pane.Visual
import ModalPanes.Prompt
import ModalPanes.Proofs.Ex.Substitutions
import ModalPanes.Proofs.GroundTruth.Matching
import ModalPanes.Proofs.History.Insertions
import ModalPanes.Proofs.History.Tracking
import ModalPanes.Proofs.History.Travel
import ModalPanes.Proofs.Key.Chunks
import ModalPanes.Proofs.Key.Notation
import ModalPanes.Proofs.Key.Printable
import ModalPanes.Proofs.Key.Utf8
import ModalPanes.Proofs.Layout.Edges
import ModalPanes.Proofs.Layout.Innermost
import ModalPanes.Proofs.Layout.Leaves
import ModalPanes.Proofs.Layout.Moving
import ModalPanes.Proofs.Layout.Neighboring
import ModalPanes.Proofs.Layout.Placing
import ModalPanes.Proofs.Layout.Showing
import ModalPanes.Proofs.Layout.Surrounding
import ModalPanes.Proofs.Layout.Tiling
import ModalPanes.Proofs.Options.Restoring
import ModalPanes.Proofs.Pane.Asking
import ModalPanes.Proofs.Pane.BlockPutting
import ModalPanes.Proofs.Pane.BlockTyping
import ModalPanes.Proofs.Pane.Clearing
import ModalPanes.Proofs.Pane.Coherence
import ModalPanes.Proofs.Pane.Commands
import ModalPanes.Proofs.Pane.CountedTyping
import ModalPanes.Proofs.Pane.Counting
import ModalPanes.Proofs.Pane.CursorColumns
import ModalPanes.Proofs.Pane.Cycling
import ModalPanes.Proofs.Pane.Deleting
import ModalPanes.Proofs.Pane.Drawing
import ModalPanes.Proofs.Pane.Editing
import ModalPanes.Proofs.Pane.Failing
import ModalPanes.Proofs.Pane.Faithful
import ModalPanes.Proofs.Pane.Following
import ModalPanes.Proofs.Pane.Handling
import ModalPanes.Proofs.Pane.Highlighting
import ModalPanes.Proofs.Pane.Homing
import ModalPanes.Proofs.Pane.Joining
import ModalPanes.Proofs.Pane.Landing
import ModalPanes.Proofs.Pane.Likeness.Commands
import ModalPanes.Proofs.Pane.Likeness.Edits
import ModalPanes.Proofs.Pane.Likeness.Keys
import ModalPanes.Proofs.Pane.LineScrolling
import ModalPanes.Proofs.Pane.Marking
import ModalPanes.Proofs.Pane.Missing
import ModalPanes.Proofs.Pane.ObjectSelecting
import ModalPanes.Proofs.Pane.OneStep
import ModalPanes.Proofs.Pane.Overtyping
import ModalPanes.Proofs.Pane.Painting
import ModalPanes.Proofs.Pane.Prefixes
import ModalPanes.Proofs.Pane.Putting
import ModalPanes.Proofs.Pane.PuttingBack
import ModalPanes.Proofs.Pane.Reaching
import ModalPanes.Proofs.Pane.Recording
import ModalPanes.Proofs.Pane.Refusing
import ModalPanes.Proofs.Pane.Repeating
import ModalPanes.Proofs.Pane.Replaying
import ModalPanes.Proofs.Pane.Rewriting
import ModalPanes.Proofs.Pane.Roaming
import ModalPanes.Proofs.Pane.Saving
import ModalPanes.Proofs.Pane.Selecting
import ModalPanes.Proofs.Pane.SelectionClearing
import ModalPanes.Proofs.Pane.SelectionCommands
import ModalPanes.Proofs.Pane.Sizing
import ModalPanes.Proofs.Pane.Spelling
import ModalPanes.Proofs.Pane.Spending
import ModalPanes.Proofs.Pane.Substituting
import ModalPanes.Proofs.Pane.Turns
import ModalPanes.Proofs.Pane.Typing
import ModalPanes.Proofs.Pane.UndoRedo
import ModalPanes.Proofs.Prompt.Offsets
import ModalPanes.Proofs.Prompt.Zipper
import ModalPanes.Proofs.Regex.Advancing
import ModalPanes.Proofs.Regex.Finding
import ModalPanes.Proofs.Regex.Widening
import ModalPanes.Proofs.Register.Lines
import ModalPanes.Proofs.Screen.Painting
import ModalPanes.Proofs.Screen.Rows
import ModalPanes.Proofs.Screen.Texts
import ModalPanes.Proofs.Screen.Wholeness
import ModalPanes.Proofs.Search.Cycle
import ModalPanes.Proofs.Search.IgnoringCase
import ModalPanes.Proofs.Search.LiteralPatterns
import ModalPanes.Proofs.Search.Succession
import ModalPanes.Proofs.Search.WordPatterns
import ModalPanes.Proofs.Session.Arranging
import ModalPanes.Proofs.Session.Dividing
import ModalPanes.Proofs.Session.Framing
import ModalPanes.Proofs.Session.Pointing
import ModalPanes.Proofs.Session.Saving
import ModalPanes.Proofs.Session.Serving
import ModalPanes.Proofs.Session.Showing
import ModalPanes.Proofs.Session.Sparing
import ModalPanes.Proofs.Session.StatusRow
import ModalPanes.Proofs.Session.Stepping
import ModalPanes.Proofs.Session.Structure
import ModalPanes.Proofs.Text.Alphabet
import ModalPanes.Proofs.Text.BracketObjects
import ModalPanes.Proofs.Text.Brackets
import ModalPanes.Proofs.Text.Characters
import ModalPanes.Proofs.Text.Coordinates
import ModalPanes.Proofs.Text.Cuts
import ModalPanes.Proofs.Text.LineEdits
import ModalPanes.Proofs.Text.Lines
import ModalPanes.Proofs.Text.ObjectSpans
import ModalPanes.Proofs.Text.Place
import ModalPanes.Proofs.Text.Rows
import ModalPanes.Proofs.Text.Standing
import ModalPanes.Proofs.Text.Targets
import ModalPanes.Proofs.Text.Unmarked
import ModalPanes.Proofs.Text.WholeLines
import ModalPanes.Proofs.Text.Words
import ModalPanes.Proofs.View.Clipping
import ModalPanes.Proofs.View.Fitting
import ModalPanes.Proofs.View.Keeping
import ModalPanes.Proofs.View.Rows
import ModalPanes.Proofs.View.Scrolling
import ModalPanes.Proofs.View.Wrapping
import ModalPanes.Regex.CharSet
import ModalPanes.Regex.Expr
import ModalPanes.Regex.Parser
import ModalPanes.Regex.Token
import ModalPanes.Register
import ModalPanes.Scenario
import ModalPanes.Screen.Cell
import ModalPanes.Screen.Grid
import ModalPanes.Search.Find
import ModalPanes.Search.Pattern
import ModalPanes.Session.Basic
import ModalPanes.Session.Commands
import ModalPanes.Session.Drawing
import ModalPanes.Settings
import ModalPanes.Snapshot
import ModalPanes.SnapshotJson
import ModalPanes.Substitution
import ModalPanes.Text.Buffer
import ModalPanes.Text.Line
import ModalPanes.Text.Numeral
import ModalPanes.Text.Object
import ModalPanes.Text.Position
import ModalPanes.Text.Quoted
import ModalPanes.Text.Word
import ModalPanes.Toml
import ModalPanes.Unicode.Case
import ModalPanes.Unicode.CodeSet
import ModalPanes.Unicode.Folding
import ModalPanes.Unicode.Letter
import ModalPanes.Unicode.Printable
import ModalPanes.Unicode.Width
import ModalPanes.View.Glyph
import ModalPanes.View.Scroll
import ModalPanes.View.TextArea
