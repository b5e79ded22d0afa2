/-!
# Terminal colours

The colours that appear on a terminal, with the number that selects each as a foreground in an
escape sequence. `painted` wraps a text in the sequences that switch a colour on and the default
colour back on.
-/

namespace Scratchpad.Terminal

/-- A named terminal colour. -/
inductive Colour where
  | red
  | green
  | yellow
  | blue
  | magenta
  | cyan
  | gray
  | darkGray
  | lightMagenta
  | white
  deriving DecidableEq, Repr

namespace Colour

/-- The name of a colour. -/
def name : Colour → String
  | red => "Red"
  | green => "Green"
  | yellow => "Yellow"
  | blue => "Blue"
  | magenta => "Magenta"
  | cyan => "Cyan"
  | gray => "Gray"
  | darkGray => "DarkGray"
  | lightMagenta => "LightMagenta"
  | white => "White"

/-- The number that selects a colour as the foreground. -/
def code : Colour → Nat
  | red => 31
  | green => 32
  | yellow => 33
  | blue => 34
  | magenta => 35
  | cyan => 36
  | gray => 37
  | darkGray => 90
  | lightMagenta => 95
  | white => 97

/-- Two colours with one number are one colour. -/
theorem code_injective {a b : Colour} (h : a.code = b.code) : a = b := by
  cases a <;> cases b <;> first | rfl | (simp [code] at h)

end Colour

/-- The number that selects the default foreground. -/
def defaultForeground : Nat := 39

/-- The number that makes the text after it bold. -/
def boldOn : Nat := 1

/-- The number that switches every attribute off. -/
def allOff : Nat := 0

/-- The escape sequence with one number. -/
def escape (code : Nat) : List Char := '\x1b' :: '[' :: (Nat.toDigits 10 code) ++ ['m']

/-- A text in one colour, or in the default colour. -/
def painted (colour : Option Colour) (text : List Char) : List Char :=
  match colour with
  | none => text
  | some c => escape c.code ++ text ++ escape defaultForeground

/-- A bold text. -/
def bold (text : List Char) : List Char := escape boldOn ++ text ++ escape allOff

end Scratchpad.Terminal
