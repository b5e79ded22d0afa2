import Scratchpad.Text.Utf8

/-!
# Bytes as characters

On a machine that runs in the C locale a character is a byte. A byte string is therefore a list of
characters, each of which stands for the byte with its number.
-/

namespace Scratchpad.Machine

open Scratchpad.Text

/-- A text in which every character stands for one byte. -/
abbrev Bytes := List Char

namespace Bytes

/-- The bytes of a list. -/
def ofList (bytes : List UInt8) : Bytes := bytes.map oneByte

/-- The list of the bytes. -/
def toList (bytes : Bytes) : List UInt8 := bytes.map fun c => UInt8.ofNat c.toNat

/-- The bytes of the UTF-8 form of a text. -/
def ofText (text : String) : Bytes := ofList (encode text.toList)

/-- The text that bytes stand for, as far as they are text. -/
def toText (bytes : Bytes) : String := String.ofList (decode bytes.toList)

/-- The decimal digits of a number. -/
def ofNat (n : Nat) : Bytes := Nat.toDigits 10 n

/-- The decimal digits of an integer. -/
def ofInt : Int → Bytes
  | .ofNat n => ofNat n
  | .negSucc n => '-' :: ofNat (n + 1)

/-- The number that decimal digits stand for; absent if there are none, or other characters. -/
def toNat? (bytes : Bytes) : Option Nat :=
  if bytes.isEmpty || !bytes.all Char.isDigit then none
  else some (bytes.foldl (fun n c => 10 * n + (c.toNat - '0'.toNat)) 0)

@[simp] theorem ofList_nil : ofList [] = [] := rfl

@[simp] theorem toList_append (as bs : Bytes) : toList (as ++ bs) = toList as ++ toList bs := by
  simp [toList]

end Bytes

end Scratchpad.Machine
