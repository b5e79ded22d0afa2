import Scratchpad.Main
import Scratchpad.Session.Event
import Scratchpad.Session.View
import Scratchpad.Proofs.Highlight.Literal
import Scratchpad.Proofs.Highlight.Resolution
import Scratchpad.Proofs.Highlight.Painting
import Scratchpad.Proofs.Highlight.Scan
import Scratchpad.Proofs.Highlight.Token
import Scratchpad.Proofs.Text.Place
import Scratchpad.Proofs.Highlight.Marks
import Scratchpad.Proofs.Highlight.Words
import Scratchpad.Proofs.Editor.Cursor
import Scratchpad.Proofs.Editor.FlatText
import Scratchpad.Proofs.Session.Change
import Scratchpad.Proofs.Session.Loop
import Scratchpad.Proofs.Session.Order
import Scratchpad.Proofs.Text.Boundary
import Scratchpad.Proofs.Highlight.Tiling
import Scratchpad.Proofs.Editor.Bounds
import Scratchpad.Proofs.Text.Pieces
import Scratchpad.Proofs.Highlight.StyledLine
import Scratchpad.Proofs.Highlight.Decoding
import Scratchpad.Proofs.Highlight.Locality
import Scratchpad.Proofs.Highlight.Seam
import Scratchpad.Proofs.Table.Last
import Scratchpad.Proofs.Settings.InEffect
import Scratchpad.Proofs.Text.FirstLine
import Scratchpad.Proofs.Interpreter.Candidates
import Scratchpad.Proofs.Interpreter.Search
import Scratchpad.Proofs.Session.Attempt
import Scratchpad.Proofs.Session.Background
import Scratchpad.Proofs.Text.Utf8
import Scratchpad.Proofs.Execution.Capture
import Scratchpad.Proofs.Session.Discovery
import Scratchpad.Proofs.Execution.Verdict
import Scratchpad.Proofs.Session.Unedited
import Scratchpad.Proofs.Arguments.Spelling
import Scratchpad.Proofs.Arguments.Understanding
import Scratchpad.Proofs.Highlight.Chain
import Scratchpad.Proofs.Session.Modal
import Scratchpad.Proofs.Session.StatusLine
import Scratchpad.Proofs.Session.Scroll
import Scratchpad.Proofs.Screen.Sight
import Scratchpad.Proofs.Interpreter.StartedFile
import Scratchpad.Proofs.Execution.Classification
import Scratchpad.Proofs.Editor.Column
import Scratchpad.Proofs.Editor.Reload
import Scratchpad.Proofs.Arguments.Acceptance
import Scratchpad.Proofs.Command.Source
import Scratchpad.Proofs.Command.Script
import Scratchpad.Proofs.Highlight.Selection
import Scratchpad.Proofs.Highlight.Wholeness
import Scratchpad.Proofs.Json.Reading
import Scratchpad.Proofs.Json.RoundTrip
import Scratchpad.Proofs.Json.Controls
import Scratchpad.Proofs.Command.Printed
import Scratchpad.Proofs.Text.Counting
