import Scratchpad.Screen.Basic
import Scratchpad.Screen.Wrap

/-!
# Panes

A pane is text that is drawn into an area: with or without a border, cropped or wrapped, and with
some lines scrolled out of sight. `Pane.draw` lays the style of the pane over the whole area, then
draws the border and the title, then the text.
-/

namespace Scratchpad.Screen

/-- What becomes of lines that are longer than a pane is wide. -/
inductive Flow where
  | cropped
  /-- With `trim`, no line begins with blanks. -/
  | wrapped (trim : Bool)
  deriving DecidableEq, Repr

/-- Text that is drawn into an area. -/
structure Pane where
  lines : List Line
  /-- The title in the border; without one there is no border. -/
  title : Option (Line) := none
  /-- The style of all cells. -/
  style : Style := .plain
  flow : Flow := .cropped
  /-- How many lines are scrolled out of sight. -/
  scroll : Nat := 0
  deriving DecidableEq, Repr

/-- The screen with glyphs from a place on; a glyph that takes no column is not drawn. -/
def write (x y : Nat) : Line → Screen → Screen
  | [], s => s
  | g :: gs, s =>
    if g.width = 0 then write x y gs s
    else write (x + g.width) y gs (s.change x y (Cell.write g.symbol g.style))

/-- The screen with one line of glyphs in each row from a place on. -/
def writeLines (x y : Nat) : List Line → Screen → Screen
  | [], s => s
  | line :: lines, s => writeLines x (y + 1) lines (write x y line s)

/-- The screen with a border along the edge of an area; the corners are drawn last. -/
def border (a : Area) (s : Screen) : Screen :=
  let lastColumn := a.right - 1
  let lastRow := a.bottom - 1
  s.fill (a.rows.map fun y => (a.left, y)) '│'
    |>.fill (a.columns.map fun x => (x, a.top)) '─'
    |>.fill (a.rows.map fun y => (lastColumn, y)) '│'
    |>.fill (a.columns.map fun x => (x, lastRow)) '─'
    |>.fill [(lastColumn, lastRow)] '┘'
    |>.fill [(lastColumn, a.top)] '┐'
    |>.fill [(a.left, lastRow)] '└'
    |>.fill [(a.left, a.top)] '┌'

/-- The screen with a title in the upper edge of an area, between the corners. -/
def entitle (a : Area) (title : Line) (s : Screen) : Screen :=
  write (a.left + 1) a.top (cropped (a.width - 2) (a.width - 2) title) s

namespace Pane

/-- The lines of a pane that is `columns` wide. -/
def laidOut (p : Pane) (columns : Nat) : List Line :=
  match p.flow with
  | .cropped => p.lines.map (Screen.cropped columns columns)
  | .wrapped trim => p.lines.flatMap (Screen.wrapped trim columns)

/-- How many lines can be counted. -/
def countable : Nat := 65536

/-- The lines of a pane that are in sight; none are if the last of them cannot be counted. -/
def inSight (p : Pane) (a : Area) : List Line :=
  if p.scroll + a.height < countable then ((p.laidOut a.width).drop p.scroll).take a.height
  else []

/-- Draws the text of a pane into an area. -/
def drawText (p : Pane) (a : Area) (s : Screen) : Screen :=
  if a.isEmpty then s else writeLines a.left a.top (p.inSight a) s

/-- Draws a pane into an area. -/
def draw (p : Pane) (a : Area) (s : Screen) : Screen :=
  if a.isEmpty then s
  else
    let s := s.restyle a p.style
    match p.title with
    | none => p.drawText a s
    | some title => p.drawText a.inside (entitle a title (border a s))

/-- No more lines are in sight than the area has rows. -/
theorem length_inSight_le (p : Pane) (a : Area) : (p.inSight a).length ≤ a.height := by
  rw [inSight]
  split
  · rw [List.length_take]
    exact Nat.min_le_left _ _
  · exact Nat.zero_le _

end Pane

end Scratchpad.Screen
