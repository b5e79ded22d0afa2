/-!
# Reading JSON text

What a JSON text stands for (`decode?`), by the grammar of the format and not by the layout in which
values are written here: any white space may stand between the signs, a string may hold every escape
sequence, and a number may have a fraction and an exponent. A number is the rational number that it
denotes, and the fields of an object keep their order.

A reader yields what it has read and what follows. It is absent where the text is no JSON: after a
raw control character in a string, a surrogate without its partner, a number with a leading zero, or
a comma with nothing behind it.
-/

namespace Scratchpad.Json

/-- What a JSON text stands for. -/
inductive Data where
  | null
  | bool (b : Bool)
  | number (q : Rat)
  | string (s : String)
  | array (items : List Data)
  | object (fields : List (String × Data))

/-- The characters that may stand between the signs of a JSON text. -/
def isSpace (c : Char) : Bool := c == ' ' || c == '\t' || c == '\n' || c == '\r'

/-- The text behind the white space at its start. -/
def skipSpace (cs : List Char) : List Char := cs.dropWhile isSpace

/-! ### Strings -/

/-- What stands in a string: a character, or the code unit of an escape sequence. -/
inductive Letter where
  | char (c : Char)
  | unit (n : Nat)
  deriving DecidableEq, Repr

/-- How far an escape sequence was read: it has not begun, the backslash was read, or its code unit so
far, with the number of digits that follow the next one. -/
inductive Stage where
  | plain
  | escape
  | hex (more : Nat) (n : Nat)
  deriving DecidableEq, Repr

/-- What the letter behind a backslash stands for. -/
def unescaped? : Char → Option Char
  | '"' => some '"'
  | '\\' => some '\\'
  | '/' => some '/'
  | 'b' => some '\x08'
  | 'f' => some '\x0c'
  | 'n' => some '\n'
  | 'r' => some '\r'
  | 't' => some '\t'
  | _ => none

/-- The value of a hexadecimal digit. -/
def hexValue? (c : Char) : Option Nat :=
  if c.isDigit then some (c.toNat - '0'.toNat)
  else if 'a' ≤ c ∧ c ≤ 'f' then some (c.toNat - 'a'.toNat + 10)
  else if 'A' ≤ c ∧ c ≤ 'F' then some (c.toNat - 'A'.toNat + 10)
  else none

/-- The letters up to the quotation mark that ends a string. -/
def letters? : Stage → List Char → Option (List Letter × List Char)
  | _, [] => none
  | .plain, c :: cs =>
    if c = '"' then some ([], cs)
    else if c = '\\' then letters? .escape cs
    else if c.toNat < 0x20 then none
    else (letters? .plain cs).map fun (letters, rest) => (.char c :: letters, rest)
  | .escape, c :: cs =>
    if c = 'u' then letters? (.hex 3 0) cs
    else (unescaped? c).bind fun d =>
      (letters? .plain cs).map fun (letters, rest) => (.char d :: letters, rest)
  | .hex (more + 1) n, c :: cs =>
    (hexValue? c).bind fun d => letters? (.hex more (16 * n + d)) cs
  | .hex 0 n, c :: cs =>
    (hexValue? c).bind fun d =>
      (letters? .plain cs).map fun (letters, rest) => (.unit (16 * n + d) :: letters, rest)

/-- The characters that letters stand for: two surrogates are one character. -/
def characters? : List Letter → Option (List Char)
  | [] => some []
  | .char c :: letters => (characters? letters).map (c :: ·)
  | .unit n :: letters =>
    if n < 0xd800 ∨ 0xdfff < n then (characters? letters).map (Char.ofNat n :: ·)
    else
      match letters with
      | .unit m :: letters =>
        if n < 0xdc00 ∧ 0xdc00 ≤ m ∧ m ≤ 0xdfff then
          (characters? letters).map
            (Char.ofNat (0x10000 + 0x400 * (n - 0xd800) + (m - 0xdc00)) :: ·)
        else none
      | _ => none

/-- A string whose quotation mark was read. -/
def readString? (cs : List Char) : Option (String × List Char) :=
  (letters? .plain cs).bind fun (letters, rest) =>
    (characters? letters).map fun text => (String.ofList text, rest)

/-! ### Numbers -/

/-- One or more digits. -/
def digits? (cs : List Char) : Option (List Char × List Char) :=
  match cs.takeWhile Char.isDigit with
  | [] => none
  | ds => some (ds, cs.dropWhile Char.isDigit)

/-- The whole part of a number. A zero stands alone. -/
def whole? (cs : List Char) : Option (Nat × List Char) :=
  (digits? cs).bind fun (ds, rest) =>
    if ds.head? = some '0' ∧ ds ≠ ['0'] then none else some (Nat.ofDigitChars 10 ds 0, rest)

/-- The fraction of a number; zero if there is none. -/
def fraction? : List Char → Option (Rat × List Char)
  | [] => some (0, [])
  | c :: cs =>
    if c = '.' then
      (digits? cs).map fun (ds, rest) => (Nat.ofDigitChars 10 ds 0 / 10 ^ ds.length, rest)
    else some (0, c :: cs)

/-- The sign of an exponent, if there is one: whether it is a minus. -/
def exponentSign (cs : List Char) : Bool × List Char :=
  match cs with
  | '-' :: rest => (true, rest)
  | '+' :: rest => (false, rest)
  | rest => (false, rest)

/-- The exponent of a number; zero if there is none. -/
def exponent? : List Char → Option (Int × List Char)
  | [] => some (0, [])
  | c :: cs =>
    if c = 'e' ∨ c = 'E' then
      let (negative, cs) := exponentSign cs
      (digits? cs).map fun (ds, rest) =>
        let n := Nat.ofDigitChars 10 ds 0
        (if negative then -n else n, rest)
    else some (0, c :: cs)

/-- A number without its sign. -/
def unsigned? (cs : List Char) : Option (Rat × List Char) := do
  let (whole, cs) ← whole? cs
  let (fraction, cs) ← fraction? cs
  let (exponent, cs) ← exponent? cs
  return ((whole + fraction) * 10 ^ exponent, cs)

/-- A number. -/
def readNumber? : List Char → Option (Rat × List Char)
  | [] => none
  | c :: cs =>
    if c = '-' then (unsigned? cs).map fun (q, rest) => (-q, rest) else unsigned? (c :: cs)

/-! ### Values -/

mutual

/-- A value, with whatever white space stands before it. The bound goes down with every sign that is
read on the way into a value and along its parts, so the length of the text is bound enough. -/
def readValue? : Nat → List Char → Option (Data × List Char)
  | 0, _ => none
  | bound + 1, cs =>
    match skipSpace cs with
    | 'n' :: 'u' :: 'l' :: 'l' :: rest => some (.null, rest)
    | 't' :: 'r' :: 'u' :: 'e' :: rest => some (.bool true, rest)
    | 'f' :: 'a' :: 'l' :: 's' :: 'e' :: rest => some (.bool false, rest)
    | '"' :: rest => (readString? rest).map fun (s, rest) => (.string s, rest)
    | '[' :: rest =>
      match skipSpace rest with
      | ']' :: rest => some (.array [], rest)
      | _ => do
        let (item, rest) ← readValue? bound rest
        let (items, rest) ← readItems? bound rest
        return (.array (item :: items), rest)
    | '\x7b' :: rest =>
      match skipSpace rest with
      | '\x7d' :: rest => some (.object [], rest)
      | _ => do
        let (field, rest) ← readField? bound rest
        let (fields, rest) ← readFields? bound rest
        return (.object (field :: fields), rest)
    | rest => (readNumber? rest).map fun (q, rest) => (.number q, rest)

/-- The items after the first one of an array, up to its end. -/
def readItems? : Nat → List Char → Option (List Data × List Char)
  | 0, _ => none
  | bound + 1, cs =>
    match skipSpace cs with
    | ']' :: rest => some ([], rest)
    | ',' :: rest => do
      let (item, rest) ← readValue? bound rest
      let (items, rest) ← readItems? bound rest
      return (item :: items, rest)
    | _ => none

/-- One field of an object. -/
def readField? : Nat → List Char → Option ((String × Data) × List Char)
  | 0, _ => none
  | bound + 1, cs =>
    match skipSpace cs with
    | '"' :: rest => do
      let (key, rest) ← readString? rest
      match skipSpace rest with
      | ':' :: rest =>
        let (value, rest) ← readValue? bound rest
        return ((key, value), rest)
      | _ => none
    | _ => none

/-- The fields after the first one of an object, up to its end. -/
def readFields? : Nat → List Char → Option (List (String × Data) × List Char)
  | 0, _ => none
  | bound + 1, cs =>
    match skipSpace cs with
    | '\x7d' :: rest => some ([], rest)
    | ',' :: rest => do
      let (field, rest) ← readField? bound rest
      let (fields, rest) ← readFields? bound rest
      return (field :: fields, rest)
    | _ => none

end

/-- What a text stands for, if it is one JSON value with nothing but white space around it. -/
def decode? (cs : List Char) : Option Data :=
  (readValue? cs.length cs).bind fun (value, rest) =>
    if skipSpace rest = [] then some value else none

end Scratchpad.Json
