import Scratchpad.Screen.Cell
import Scratchpad.Text.Blank
import Scratchpad.Text.Grapheme
import Scratchpad.Text.Lines

/-!
# Glyphs

A glyph is a user-perceived character with a style, and a line to be drawn is a list of glyphs.
Line feeds draw nothing.
-/

namespace Scratchpad.Screen

open Scratchpad.Text

/-- A user-perceived character with a style. -/
structure Glyph where
  symbol : List Char
  style : Style
  deriving DecidableEq, Repr

/-- The space that no line is broken at. -/
def noBreakSpace : Char := '\u00a0'

/-- The break opportunity that takes no column. -/
def zeroWidthSpace : Char := '\u200b'

namespace Glyph

/-- How many columns a glyph takes. -/
def width (g : Glyph) : Nat := Text.width g.symbol

/-- Whether a line can be broken at a glyph. -/
def isBlank (g : Glyph) : Bool :=
  g.symbol = [zeroWidthSpace] || (allBlank g.symbol && g.symbol ≠ [noBreakSpace])

end Glyph

/-- A line to be drawn. -/
abbrev Line := List Glyph

namespace Line

/-- A text in one style as a line. -/
def ofText (style : Style) (text : List Char) : Line :=
  ((graphemes text).filter fun symbol => symbol ≠ ['\n']).map fun symbol => ⟨symbol, style⟩

/-- A text as a line in one style. -/
def styled (style : Style) (text : String) : Line := ofText style text.toList

/-- A text as one line without a style: its lines joined. -/
def plain (text : String) : Line := (lines text.toList).flatMap (ofText .plain)

/-- The columns that a line takes. -/
def width : Line → Nat
  | [] => 0
  | g :: gs => g.width + width gs

@[simp] theorem width_nil : width [] = 0 := rfl

@[simp] theorem width_cons (g : Glyph) (gs : Line) : width (g :: gs) = g.width + width gs := rfl

@[simp] theorem width_append (as bs : Line) : width (as ++ bs) = width as + width bs := by
  induction as with
  | nil => simp
  | cons g as ih => rw [List.cons_append, width_cons, ih, width_cons, Nat.add_assoc]

/-- The lines of an output without a style; an empty output has one empty line. -/
def ofOutput (text : String) : List Line :=
  if text.isEmpty then [[]] else (lines text.toList).map (ofText .plain)

end Line

end Scratchpad.Screen
