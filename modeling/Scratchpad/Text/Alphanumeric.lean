import Scratchpad.Text.Alphanumeric.Table

/-!
# Letters and numbers

A name that begins with a letter is told from other text by these classes. A mark that belongs to a
letter counts as a letter only if it is alphabetic, and a connector never does, so they are not the
word characters.
-/

namespace Scratchpad.Text

/-- Whether `c` is alphabetic. -/
def isAlphabetic (c : Char) : Bool :=
  if c.toNat < 0x80 then c.isAlpha else alphabeticTable.contains c

/-- Whether `c` is a number of any kind. -/
def isNumber (c : Char) : Bool :=
  if c.toNat < 0x80 then c.isDigit else numberTable.contains c

/-- Whether `c` is a letter or a number. -/
def isAlphanumeric (c : Char) : Bool := isAlphabetic c || isNumber c

/-- In ASCII there are the letters from a to z and ten digits. -/
theorem isAlphanumeric_of_ascii {c : Char} (h : c.toNat < 0x80) :
    isAlphanumeric c = (c.isAlpha || c.isDigit) := by
  simp [isAlphanumeric, isAlphabetic, isNumber, h]

end Scratchpad.Text
