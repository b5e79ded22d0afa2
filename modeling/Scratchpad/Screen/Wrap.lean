import Scratchpad.Screen.Glyph

/-!
# Fitting lines into columns

A line that is longer than a pane is wide is either cropped or wrapped. Wrapping goes through the
glyphs once. What was read is kept in three parts: the `line` under way, the blanks after it, and
the word after those; blanks and word join the line when the word is known to fit, and when the line
is full, it is given out and the rest begins the next one. A glyph that is wider than the pane is
left out.
-/

namespace Scratchpad.Screen

/-- The glyphs from the start that fit into `columns`, without those that fit into no line. -/
def cropped (columns : Nat) : (room : Nat) → Line → Line
  | _, [] => []
  | room, g :: gs =>
    if columns < g.width then cropped columns room gs
    else if room < g.width then []
    else g :: cropped columns (room - g.width) gs

/-- A cropped line takes no more columns than there is room for. -/
theorem width_cropped_le (columns room : Nat) (gs : Line) :
    Line.width (cropped columns room gs) ≤ room := by
  induction gs generalizing room with
  | nil => simp [cropped]
  | cons g gs ih =>
    rw [cropped]
    split
    · exact ih room
    · split
      · simp
      · have := ih (room - g.width)
        rw [Line.width_cons]
        omega

/-- What was read of a line that is being wrapped and not given out. -/
structure Wrapping where
  line : Line
  /-- Blanks after the line. -/
  gap : Line
  /-- The glyphs after the blanks. -/
  word : Line
  /-- Whether the last glyph that was kept is part of a word. -/
  inWord : Bool
  deriving DecidableEq, Repr

namespace Wrapping

/-- Nothing was read. -/
def start : Wrapping := ⟨[], [], [], false⟩

/-- The columns of all that is kept. -/
def width (w : Wrapping) : Nat :=
  Line.width w.line + Line.width w.gap + Line.width w.word

/-- The line with what was read after it; a line that is trimmed does not begin with blanks. -/
def joined (trim : Bool) (w : Wrapping) : Line :=
  (if trim && w.line.isEmpty then [] else w.line ++ w.gap) ++ w.word

/-- Whether a line that holds nothing yet has no room for `g` after what is kept. -/
def overflows (trim : Bool) (columns : Nat) (w : Wrapping) (g : Glyph) : Bool :=
  w.line.isEmpty &&
    if trim then
      columns < Line.width w.word + g.width || columns < Line.width w.gap + g.width
    else columns < w.width + g.width

/-- Before `g` is taken: a word joins the line when it ends, or when it has filled the line. -/
def settle (trim : Bool) (columns : Nat) (g : Glyph) (w : Wrapping) : Wrapping :=
  if (w.inWord && g.isBlank) || w.overflows trim columns g then
    { w with line := w.joined trim, gap := [], word := [] }
  else w

/-- Whether the line has to be given out before `g` is taken. -/
def isFull (columns : Nat) (g : Glyph) (w : Wrapping) : Bool :=
  columns ≤ Line.width w.line || (0 < g.width && columns ≤ w.width)

/-- Blanks without those at their start that fit into the room left on a line. -/
def dropFitting : (room : Nat) → Line → Line
  | _, [] => []
  | room, g :: gs => if g.width ≤ room then dropFitting (room - g.width) gs else g :: gs

/-- The rest after the line was given out: blanks vanish at the break. -/
def broken (columns : Nat) (w : Wrapping) : Wrapping :=
  { w with line := [], gap := dropFitting (columns - Line.width w.line) w.gap }

/-- Takes a glyph. -/
def add (g : Glyph) (w : Wrapping) : Wrapping :=
  if g.isBlank then { w with gap := w.gap ++ [g], inWord := false }
  else { w with word := w.word ++ [g], inWord := true }

/-- What is given out at the end. A line of nothing but blanks begins with an empty line. -/
def close (trim : Bool) (w : Wrapping) : List Line :=
  let first := if w.line.isEmpty && w.word.isEmpty && !w.gap.isEmpty then [[]] else []
  let last := w.joined trim
  first ++ if last.isEmpty then [] else [last]

/-- The lines that are given out while the rest of the glyphs is read. -/
def run (trim : Bool) (columns : Nat) (w : Wrapping) : Line → List Line
  | [] => w.close trim
  | g :: gs =>
    if columns < g.width then run trim columns w gs
    else
      let w := w.settle trim columns g
      if w.isFull columns g then
        let rest := w.broken columns
        let rest := if g.isBlank && rest.gap.isEmpty then rest else rest.add g
        w.line :: run trim columns rest gs
      else run trim columns (w.add g) gs

end Wrapping

/-- A line as a list of lines that fit into `columns`. With `trim`, no line begins with blanks. -/
def wrapped (trim : Bool) (columns : Nat) (gs : Line) : List Line :=
  match Wrapping.start.run trim columns gs with
  | [] => [[]]
  | lines => lines

/-- Wrapping gives at least one line. -/
theorem wrapped_ne_nil (trim : Bool) (columns : Nat) (gs : Line) :
    wrapped trim columns gs ≠ [] := by
  simp only [wrapped]
  split <;> simp_all

end Scratchpad.Screen
