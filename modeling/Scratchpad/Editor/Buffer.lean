import Scratchpad.Text.Blank
import Scratchpad.Text.Lines
import Scratchpad.Text.Offset

/-!
# The text buffer

A text under edit is a list of lines and a cursor, which stands in line `row` at byte offset `col`.
What an edit reads or replaces is fetched by a checked look-up, `line?` or `split?`, so an edit at a
cursor that stands nowhere is absent rather than wrong.
-/

namespace Scratchpad

open Scratchpad.Text

/-- The lines of a text and the place of the cursor in them. -/
structure Editor where
  lines : List (List Char)
  row : Nat
  col : Nat
  deriving DecidableEq, Repr

namespace Editor

/-- A buffer that holds `text`, without its carriage returns, with the cursor at the end. -/
def ofText (text : List Char) : Editor :=
  let lines := (pieces text).map fun line => line.filter (· != '\r')
  ⟨lines, lines.length - 1, byteLength (lines.getLast?.getD [])⟩

/-- The text of a buffer: its lines with line feeds between them. -/
def text (e : Editor) : List Char := joinLines e.lines

/-- The line of the cursor. -/
def line? (e : Editor) : Option (List Char) := e.lines[e.row]?

/-- The line of the cursor; the empty line if the cursor is in none. -/
def line (e : Editor) : List Char := e.line?.getD []

/-- The parts of the cursor's line before and after the cursor. -/
def split? (e : Editor) : Option (List Char × List Char) :=
  e.line?.bind fun line => cut? line e.col

/-- Whether no line holds anything but blanks. -/
def isBlank (e : Editor) : Bool := e.lines.all allBlank

/-- The buffer with the cursor's line replaced. -/
def withLine (e : Editor) (line : List Char) : Editor := { e with lines := e.lines.set e.row line }

/-- The buffer with its lines `row` to `row + count - 1` replaced by `lines`. -/
def withLines (e : Editor) (row count : Nat) (lines : List (List Char)) : Editor :=
  { e with lines := e.lines.take row ++ lines ++ e.lines.drop (row + count) }

/-- The cursor moved to an offset of its line. -/
def atCol (e : Editor) (col : Nat) : Editor := { e with col }

/-- The cursor moved to a line and an offset in it. -/
def moveTo (e : Editor) (row col : Nat) : Editor := { e with row, col }

@[simp] theorem line?_withLine (e : Editor) (line : List Char) (h : e.row < e.lines.length) :
    (e.withLine line).line? = some line := by
  simp [line?, withLine, h]

/-- The lines of a fresh buffer hold the text without carriage returns. -/
@[simp] theorem lines_ofText (text : List Char) :
    (ofText text).lines = (pieces text).map fun line => line.filter (· != '\r') := rfl

/-- A fresh buffer has a line. -/
theorem lines_ofText_ne_nil (text : List Char) : (ofText text).lines ≠ [] := by
  simp [List.splitOn_ne_nil]

end Editor

end Scratchpad
