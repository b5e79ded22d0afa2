import Scratchpad.Terminal.Colour

/-!
# Categories

Every character of a source text has one category, and a category has a name and a colour.
-/

namespace Scratchpad.Highlight

open Scratchpad.Terminal

/-- What a piece of source text is, as far as colouring goes. -/
inductive Category where
  | keyword
  | constant
  | stringLiteral
  | comment
  | number
  | variableName
  | plain
  deriving DecidableEq, Repr

namespace Category

/-- The name of a category. -/
def name : Category → String
  | keyword => "keyword"
  | constant => "constant"
  | stringLiteral => "string_literal"
  | comment => "comment"
  | number => "number"
  | variableName => "variable"
  | plain => "plain_text"

/-- The colour of a category; plain text has none. -/
def colour : Category → Option Colour
  | keyword => some .magenta
  | constant => some .lightMagenta
  | stringLiteral => some .green
  | comment => some .darkGray
  | number => some .yellow
  | variableName => some .cyan
  | plain => none

/-- Two categories with one colour are one category. -/
theorem colour_injective {a b : Category} (h : a.colour = b.colour) : a = b := by
  cases a <;> cases b <;> first | rfl | (simp [colour] at h)

end Category

end Scratchpad.Highlight
