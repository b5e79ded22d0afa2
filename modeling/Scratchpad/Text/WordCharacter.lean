import Scratchpad.Text.WordCharacter.Table

/-!
# Word characters

A word is a run of letters, marks, digits and connectors. Where a word begins or ends depends on
this class alone, so `1é` is one word and not a number before a letter.
-/

namespace Scratchpad.Text

/-- Whether `c` is an ASCII letter, an ASCII digit or the low line. -/
def isAsciiWordCharacter (c : Char) : Bool :=
  c.isAlphanum || c == '_'

/-- Whether `c` can stand inside a word. -/
def isWordCharacter (c : Char) : Bool :=
  if c.toNat < 0x80 then isAsciiWordCharacter c else wordCharacterTable.contains c

/-- Whether a word can go on with the optional character `c`; at an end of the text it cannot. -/
def wordGoesOn : Option Char → Bool
  | none => false
  | some c => isWordCharacter c

@[simp] theorem wordGoesOn_none : wordGoesOn none = false := rfl

@[simp] theorem wordGoesOn_some (c : Char) : wordGoesOn (some c) = isWordCharacter c := rfl

/-- In ASCII the word characters are the letters, the digits and the low line. -/
theorem isWordCharacter_of_ascii {c : Char} (h : c.toNat < 0x80) :
    isWordCharacter c = isAsciiWordCharacter c := by
  simp [isWordCharacter, h]

end Scratchpad.Text
