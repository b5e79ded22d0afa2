import Scratchpad.Number.Double
import Scratchpad.Utility.Basic
import Scratchpad.Utility.Version

/-!
# Comparing lines by keys

How two texts are compared, and the parts of lines that are compared. A key reaches from a character
of a field to a character of a field, and can have a comparison of its own.
-/

namespace Scratchpad.Utility

open Scratchpad.Machine Scratchpad.Text Scratchpad.Number

/-- What can be asked of a comparison. -/
inductive Way where
  /-- Only blanks, letters and digits count. -/
  | dictionary
  | folded
  /-- By numbers, with powers and what else a number with a binary point can have. -/
  | general
  /-- By numbers with a letter for a power of a thousand. -/
  | sized
  /-- Only what can be shown counts. -/
  | printing
  | month
  | numeric
  | shuffled
  | backwards
  | version
  deriving DecidableEq, Repr

namespace Way

/-- The letters for what can be asked, in the order in which messages name them. -/
def lettered : List (Char × Way) :=
  [('d', dictionary), ('f', folded), ('g', general), ('h', sized), ('i', printing), ('M', month),
   ('n', numeric), ('R', shuffled), ('r', backwards), ('V', version)]

end Way

/-- How two texts are compared: all that was asked for. -/
abbrev Comparison := List Way

/-- Whether a character separates fields. -/
def isBlank (c : Char) : Bool := c == ' ' || c == '\t' || c == '\n'

/-- Passes over fields: each with the separator after it, or with the blanks before it. -/
def dropFields (separator : Option Char) : Nat → Bytes → Bytes
  | 0, cs => cs
  | n + 1, cs =>
    match separator with
    | some s => dropFields separator n ((cs.dropWhile (· != s)).drop 1)
    | none => dropFields separator n ((cs.dropWhile isBlank).dropWhile fun c => !isBlank c)

@[simp] theorem dropFields_zero (separator : Option Char) (cs : Bytes) :
    dropFields separator 0 cs = cs := rfl

namespace Comparison

/-- The number at the front of a text, as an integer part with its sign and digits after the point.
-/
def leadingNumber (text : Bytes) : Bool × Bytes × Bytes :=
  let text := text.dropWhile isBlank
  let (negative, text) := match text with
    | '-' :: r => (true, r)
    | r => (false, r)
  let whole := text.takeWhile Char.isDigit
  let fraction := match text.drop whole.length with
    | '.' :: r => r.takeWhile Char.isDigit
    | _ => []
  (negative, whole, (fraction.reverse.dropWhile (· = '0')).reverse)

/-- Compares two texts as decimal numbers. -/
def compareNumbers (a b : Bytes) : Ordering :=
  let value (n : Bool × Bytes × Bytes) (places : Nat) : Int :=
    let digits := n.2.1 ++ n.2.2 ++ List.replicate (places - n.2.2.length) '0'
    let v : Int := Double.valueOf 10 digits
    if n.1 then -v else v
  let x := leadingNumber a
  let y := leadingNumber b
  let places := max x.2.2.length y.2.2.length
  compare (value x places) (value y places)

/-- The power of a thousand that the letter behind a number stands for, with the sign of the number;
zero has none. -/
def magnitude (text : Bytes) : Int :=
  let text := text.dropWhile isBlank
  let (negative, text) := match text with
    | '-' :: r => (true, r)
    | r => (false, r)
  let (whole, fraction, rest) := match text.dropWhile Char.isDigit with
    | '.' :: r => (text.takeWhile Char.isDigit, r.takeWhile Char.isDigit, r.dropWhile Char.isDigit)
    | r => (text.takeWhile Char.isDigit, [], r)
  if (whole ++ fraction).any fun c => '0' < c then
    let power : Int := match rest with
      | 'k' :: _ => 1
      | c :: _ => ((("KMGTPEZYRQ".toList).idxOf? c).map fun i => (i : Int) + 1).getD 0
      | [] => 0
    if negative then -power else power
  else 0

/-- Compares two texts as numbers with letters for powers behind them. -/
def compareSizes (a b : Bytes) : Ordering :=
  (compare (magnitude a) (magnitude b)).then (compareNumbers a b)

/-- Compares two numbers with a binary point; undefined ones come first. -/
def compareDoubles (a b : Double) : Ordering :=
  let value : Double → Int × Int
    | .finite n m e => (if n then -(m : Int) else m, e)
    | .infinite n => (if n then -1 else 1, 2000)
    | .undefined _ => (0, 0)
  match a, b with
  | .undefined n, .undefined m => compare m.toNat n.toNat
  | .undefined _, _ => .lt
  | _, .undefined _ => .gt
  | a, b =>
    let (x, e) := value a
    let (y, f) := value b
    let least := min e f
    compare (x * Nat.pow 2 (e - least).toNat) (y * Nat.pow 2 (f - least).toNat)

/-- Compares two texts as numbers of any form; what is none comes first. -/
def compareGenerally (a b : Bytes) : Ordering :=
  let x := Double.read a
  let y := Double.read b
  match x.length, y.length with
  | 0, 0 => .eq
  | 0, _ => .lt
  | _, 0 => .gt
  | _, _ => compareDoubles x.value y.value

/-- The number of the month whose name a text starts with, or zero. -/
def monthOf (text : Bytes) : Nat :=
  let front := ((text.dropWhile isBlank).take 3).map Char.toUpper
  let names := ["JAN", "FEB", "MAR", "APR", "MAY", "JUN", "JUL", "AUG", "SEP", "OCT", "NOV", "DEC"]
  ((names.map String.toList).idxOf? front).elim 0 (· + 1)

/-- Compares two texts by their bytes. -/
def compareBytes : Bytes → Bytes → Ordering
  | [], [] => .eq
  | [], _ :: _ => .lt
  | _ :: _, [] => .gt
  | a :: as, b :: bs =>
    match compare a.toNat b.toNat with
    | .eq => compareBytes as bs
    | o => o

/-- Compares two texts in the given way. -/
def between (k : Comparison) (a b : Bytes) : Ordering :=
  let prepared (t : Bytes) : Bytes :=
    let t := if k.contains .dictionary then t.filter fun c => isBlank c || c.isAlphanum
      else if k.contains .printing then t.filter isShown
      else t
    if k.contains .folded then t.map Char.toUpper else t
  let a := prepared a
  let b := prepared b
  let o :=
    if k.contains .numeric then compareNumbers a b
    else if k.contains .general then compareGenerally a b
    else if k.contains .sized then compareSizes a b
    else if k.contains .month then compare (monthOf a) (monthOf b)
    else if k.contains .version && !k.contains .shuffled then Version.compareNames a b
    else compareBytes a b
  if k.contains .backwards then o.swap else o

/-- Whether nothing but the direction was asked for. -/
def isPlain (k : Comparison) : Bool := k.all (· == .backwards)

/-- The letters of a comparison that asks for things that exclude each other. -/
def conflict? (k : Comparison) : Option Bytes :=
  let groups : List (List Way) :=
    [[.numeric], [.general], [.sized], [.month], [.version, .shuffled, .dictionary, .printing]]
  if 1 < (groups.filter fun g => g.any k.contains).length then
    some ((Way.lettered.filter fun w => k.contains w.2 && w.2 != .backwards &&
      !(w.2 == .printing && k.contains .dictionary)).map Prod.fst)
  else none

@[simp] theorem between_nil (a b : Bytes) : between [] a b = compareBytes a b := rfl

end Comparison

/-- A key: from a character of a field, both counted from zero, to a character of a field; up to the
end of the field if the character is zero, and up to the end of the line if there is no field. -/
structure Key where
  field : Nat
  character : Nat
  lastField : Option Nat
  lastCharacter : Nat
  /-- Whether blanks in front of the first field, and in front of the last one, do not count. -/
  skipsAtStart : Bool
  skipsAtEnd : Bool
  comparison : Comparison
  deriving DecidableEq, Repr

namespace Key

/-- The key that is the whole line. -/
def whole (skipping : Bool) (k : Comparison) : Key := ⟨0, 0, none, 0, skipping, skipping, k⟩

/-- The part of a line that a key means. -/
def of (separator : Option Char) (k : Key) (line : Bytes) : Bytes :=
  let start := dropFields separator k.field line
  let start := if k.skipsAtStart then start.dropWhile isBlank else start
  let start := start.drop k.character
  match k.lastField with
  | none => start
  | some n =>
    let rest :=
      if k.lastCharacter = 0 then
        match separator with
        | some s => (dropFields separator n line).dropWhile (· != s)
        | none => dropFields none (n + 1) line
      else
        let front := dropFields separator n line
        (if k.skipsAtEnd then front.dropWhile isBlank else front).drop k.lastCharacter
    start.take (start.length - rest.length)

/-- Whether a key has no comparison of its own. -/
def isPlain (k : Key) : Bool := k.comparison.isEmpty && !k.skipsAtStart && !k.skipsAtEnd

/-- The letters at the front of a text that ask for something, and what follows them. -/
def lettersOf (text : Bytes) : Bytes × Bytes :=
  let isLetter (c : Char) : Bool := c == 'b' || (Way.lettered.lookup c).isSome
  (text.takeWhile isLetter, text.dropWhile isLetter)

/-- Reads a key such as `2,3nr`. -/
def ofText (text : Bytes) : Except Bytes Key := do
  let number (cs : Bytes) (place : String) : Except Bytes (Nat × Bytes) :=
    let body := cs.dropWhile fun c => c == ' ' || ('\t' ≤ c && c ≤ '\r')
    let body := if body.head? = some '+' then body.drop 1 else body
    let digits := body.takeWhile Char.isDigit
    match Bytes.toNat? digits with
    | some n => .ok (n, body.drop digits.length)
    | none =>
      .error ("invalid number ".toList ++ place.toList ++ ": invalid count at start of ".toList ++
        cited cs)
  let wrong (what : String) : Bytes :=
    what.toList ++ ": invalid field specification ".toList ++ cited text
  let (field, rest) ← number text "at field start"
  if field = 0 then .error (wrong "field number is zero")
  let (character, rest) ← match rest with
    | '.' :: r => number r "after '.'"
    | r => .ok (1, r)
  if character = 0 then .error (wrong "character offset is zero")
  let (letters, rest) := lettersOf rest
  let (lastField, lastCharacter, endLetters, rest) ← match rest with
    | ',' :: r => do
      let (n, r) ← number r "after ','"
      if n = 0 then .error (wrong "field number is zero")
      let (m, r) ← match r with
        | '.' :: r => number r "after '.'"
        | r => .ok (0, r)
      let (letters, r) := lettersOf r
      .ok (some (n - 1), m, letters, r)
    | r => .ok (none, 0, [], r)
  if !rest.isEmpty then .error (wrong "stray character in field spec")
  .ok ⟨field - 1, character - 1, lastField, lastCharacter, letters.contains 'b',
    endLetters.contains 'b', (letters ++ endLetters).filterMap fun c => Way.lettered.lookup c⟩

end Key

end Scratchpad.Utility
