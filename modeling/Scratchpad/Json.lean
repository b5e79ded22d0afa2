/-!
# JSON text

The values that are written as JSON, and their layout: every item of a list and every field of an
object stands on a line of its own, two spaces deeper than what holds it, and an empty list or
object is written without a break. In a string only the quotation mark, the backslash and the
control characters below the space are escaped.
-/

namespace Scratchpad.Json

/-- A value that can be written as JSON; the fields of an object keep their order. -/
inductive Value where
  | bool (b : Bool)
  | int (n : Int)
  | string (s : String)
  | list (items : List Value)
  | object (fields : List (String × Value))

/-- The digit of a number below sixteen, in lower case. -/
def hexDigit (n : Nat) : Char := Nat.digitChar n

/-- How a character is written inside a string. -/
def escaped (c : Char) : List Char :=
  match c with
  | '"' => ['\\', '"']
  | '\\' => ['\\', '\\']
  | '\x08' => ['\\', 'b']
  | '\x0c' => ['\\', 'f']
  | '\n' => ['\\', 'n']
  | '\r' => ['\\', 'r']
  | '\t' => ['\\', 't']
  | c =>
    if c.toNat < 0x20 then ['\\', 'u', '0', '0', hexDigit (c.toNat / 16), hexDigit (c.toNat % 16)]
    else [c]

/-- A text as a JSON string. -/
def quoted (cs : List Char) : List Char := '"' :: cs.flatMap escaped ++ ['"']

/-- The digits of an integer, after a minus sign if it is negative. -/
def decimal : Int → List Char
  | .ofNat n => Nat.toDigits 10 n
  | .negSucc n => '-' :: Nat.toDigits 10 (n + 1)

/-- The start of a new line at a depth. -/
def lineBreak (depth : Nat) : List Char := '\n' :: List.replicate (2 * depth) ' '

mutual

/-- A value as text, where its first character stands on a line of the given depth. -/
def Value.layout (depth : Nat) : Value → List Char
  | .bool true => ['t', 'r', 'u', 'e']
  | .bool false => ['f', 'a', 'l', 's', 'e']
  | .int n => decimal n
  | .string s => quoted s.toList
  | .list [] => ['[', ']']
  | .list (v :: vs) =>
    '[' :: lineBreak (depth + 1) ++ v.layout (depth + 1) ++ layoutItems (depth + 1) vs ++
      lineBreak depth ++ [']']
  | .object [] => ['\x7b', '\x7d']
  | .object (f :: fs) =>
    '\x7b' :: lineBreak (depth + 1) ++ layoutField (depth + 1) f ++ layoutFields (depth + 1) fs ++
      lineBreak depth ++ ['\x7d']

/-- The items after the first one of a list. -/
def layoutItems (depth : Nat) : List Value → List Char
  | [] => []
  | v :: vs => ',' :: lineBreak depth ++ v.layout depth ++ layoutItems depth vs

/-- One field of an object. -/
def layoutField (depth : Nat) : String × Value → List Char
  | (key, v) => quoted key.toList ++ [':', ' '] ++ v.layout depth

/-- The fields after the first one of an object. -/
def layoutFields (depth : Nat) : List (String × Value) → List Char
  | [] => []
  | f :: fs => ',' :: lineBreak depth ++ layoutField depth f ++ layoutFields depth fs

end

/-- A value as JSON text. -/
def Value.text (v : Value) : String := String.ofList (v.layout 0)

end Scratchpad.Json
