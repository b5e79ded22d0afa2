import Scratchpad.Terminal.Colour
import Scratchpad.Text.Width

/-!
# Cells

A cell holds one user-perceived character and a style. A style leaves open what it does not give, so
styles can be laid over one another; `Style.plain` leaves everything open.
-/

namespace Scratchpad.Screen

open Scratchpad.Terminal

/-- How text looks. A colour that is absent is left open. -/
structure Style where
  foreground : Option Colour := none
  background : Option Colour := none
  bold : Bool := false
  deriving DecidableEq, Repr

namespace Style

/-- The style that leaves everything open. -/
def plain : Style := {}

/-- The style in one colour. -/
def coloured (colour : Colour) : Style := { foreground := some colour }

/-- The bold style, in a colour if one is given. -/
def emphasis (colour : Option Colour) : Style := { foreground := colour, bold := true }

/-- A style laid over another one: what the upper one leaves open shows through. -/
def above (upper lower : Style) : Style where
  foreground := upper.foreground.or lower.foreground
  background := upper.background.or lower.background
  bold := upper.bold || lower.bold

@[simp] theorem plain_above (s : Style) : plain.above s = s := by
  simp [above, plain]

@[simp] theorem above_plain (s : Style) : s.above plain = s := by
  simp [above, plain]

theorem above_assoc (r s t : Style) : (r.above s).above t = r.above (s.above t) := by
  simp [above, Option.or_assoc, Bool.or_assoc]

end Style

/-- One cell of a screen. -/
structure Cell where
  symbol : List Char
  style : Style
  deriving DecidableEq, Repr

namespace Cell

/-- A cell with nothing in it. -/
def blank : Cell := ⟨[' '], .plain⟩

/-- How many columns the symbol of a cell takes. -/
def width (c : Cell) : Nat := Text.width c.symbol

/-- The cell with a style laid over it. -/
def restyle (style : Style) (c : Cell) : Cell := { c with style := style.above c.style }

/-- The cell with another symbol, and a style laid over it. -/
def write (symbol : List Char) (style : Style) (c : Cell) : Cell := ⟨symbol, style.above c.style⟩

@[simp] theorem restyle_plain (c : Cell) : c.restyle .plain = c := by
  simp [restyle]

end Cell

end Scratchpad.Screen
