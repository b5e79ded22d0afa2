import Scratchpad.Editor.Buffer
import Scratchpad.Screen.Area
import Scratchpad.Text.Width

/-!
# The part of a text that is in sight

A text under edit can have more lines than its pane has rows. The pane is scrolled just so far that
the line of the cursor is in sight, and the cursor is drawn where it stands in that line, or at the
right end of the pane if it stands farther right. Places on a terminal are words of 16 bits, so a
count of lines or columns is taken modulo their number.
-/

namespace Scratchpad.Screen

/-- The rows of text in a pane with a border. -/
def Area.textRows (a : Area) : Nat := a.height - 2

/-- How many lines are above the first one in sight; none if nothing is in sight. -/
def firstLine (a : Area) (e : Editor) : Nat :=
  if a.textRows = 0 then 0 else e.row - (a.textRows - 1)

/-- By how many lines the text is scrolled. -/
def scrollOf (a : Area) (e : Editor) : UInt16 := (firstLine a e).toUInt16

/-- The column of the terminal that the cursor is drawn in. -/
def cursorColumn (a : Area) (e : Editor) : UInt16 :=
  min (a.left.toUInt16 + 1 + (Text.displayColumn e.line e.col).toUInt16)
    (a.left.toUInt16 + (a.width - 2).toUInt16)

/-- The row of the terminal that the cursor is drawn in. -/
def cursorRow (a : Area) (e : Editor) : UInt16 :=
  a.top.toUInt16 + 1 + (e.row - firstLine a e).toUInt16

/-- The line of the cursor is not above the first line in sight. -/
theorem firstLine_le_row (a : Area) (e : Editor) : firstLine a e ≤ e.row := by
  simp only [firstLine]
  split <;> omega

/-- The line of the cursor is not below the last line in sight. -/
theorem row_lt_firstLine_add (a : Area) (e : Editor) (h : 3 ≤ a.height) :
    e.row < firstLine a e + a.textRows := by
  have hrows : a.textRows ≠ 0 := by simp only [Area.textRows]; omega
  rw [firstLine, if_neg hrows]
  omega

end Scratchpad.Screen
