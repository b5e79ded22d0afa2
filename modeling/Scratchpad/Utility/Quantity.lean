import Scratchpad.Utility.Basic

/-!
# Quantities

Numbers in arguments: decimal digits after a sign or none, with a letter for a factor where that
makes sense, and within bounds. What is no such number has a flaw.
-/

namespace Scratchpad.Utility

open Scratchpad.Machine

/-- Why a text is no number that can be used. -/
inductive NumberFlaw where
  | malformed
  /-- It does not fit into the words of the machine, or is far too large. -/
  | tooLarge
  | outOfRange
  deriving DecidableEq, Repr

/-- What a message says of a flaw. -/
def NumberFlaw.text : NumberFlaw → String
  | malformed => ""
  | tooLarge => ": Value too large for defined data type"
  | outOfRange => ": Numerical result out of range"

/-- The letters for powers of a thousand. -/
def powers : List (Char × Nat) :=
  [('k', 1), ('K', 1), ('m', 2), ('M', 2), ('g', 3), ('G', 3), ('t', 4), ('T', 4), ('P', 5),
   ('E', 6), ('Z', 7), ('Y', 8), ('R', 9), ('Q', 10)]

/-- The factor that the letters after a number stand for, of which the first one has to be among
`units`: `b` is a block, a letter for a power is one of 1024, or of 1000 before a `B`. -/
def factorOf? (units : String) : Bytes → Option Nat
  | [] => some 1
  | c :: rest =>
    if !units.toList.contains c then none
    else
      match rest, powers.lookup c with
      | [], some p => some (Nat.pow 1024 p)
      | ['i', 'B'], some p => some (Nat.pow 1024 p)
      | ['B'], some p => some (Nat.pow 1000 p)
      | ['D'], some p => some (Nat.pow 1000 p)
      | [], none => if c = 'b' then some 512 else if c = 'w' then some 2 else some 1
      | _, _ => none

/-- The largest number without a sign that fits into a word. -/
def largestCount : Nat := 18446744073709551615

/-- The largest number with a sign that fits into a word. -/
def largestInteger : Nat := 9223372036854775807

/-- A number from `low` to `high`, with one of some letters for a factor. A sign of minus is none if
`low` is not negative. -/
def integerOf (units : String) (low high : Int) (text : Bytes) : Except NumberFlaw Int :=
  let unsigned := decide (0 ≤ low)
  let body := text.dropWhile fun c => c == ' ' || ('\t' ≤ c && c ≤ '\r')
  let negative := body.head? = some '-'
  let body := if negative || body.head? = some '+' then body.drop 1 else body
  let digits := body.takeWhile Char.isDigit
  let number : Option (Nat × Bytes) :=
    if !digits.isEmpty then some ((Bytes.toNat? digits).getD 0, body.drop digits.length)
    else if text.head?.any units.toList.contains then some (1, text)
    else none
  match number with
  | none => .error .malformed
  | some (n, letters) =>
    match factorOf? units letters with
    | none => .error .malformed
    | some factor =>
      let most := if unsigned then largestCount else largestInteger
      if unsigned && negative then .error .malformed
      else if most + (if negative then 1 else 0) < n * factor then .error .tooLarge
      else
        let v : Int := if negative then -(n * factor : Nat) else (n * factor : Nat)
        if low ≤ v ∧ v ≤ high then .ok v
        else if v < -1073741824 ∨ 1073741823 < v then .error .tooLarge
        else .error .outOfRange

/-- A count, with one of some letters for a factor. -/
def countOf (units : String) (text : Bytes) : Except NumberFlaw Nat :=
  (integerOf units 0 largestCount text).map Int.toNat

namespace Call

/-- The number that an argument is; `what` is the complaint if it is none. -/
def integer (c : Call) (what units : String) (low high : Int) (status : Nat) (text : Bytes) :
    Routine Int :=
  match integerOf units low high text with
  | .ok n => pure n
  | .error f => c.fail (what.toList ++ ": ".toList ++ cited text ++ f.text.toList) status

/-- The count that an argument is; `what` is the complaint if it is none. -/
def count (c : Call) (what units : String) (low : Nat) (status : Nat) (text : Bytes) :
    Routine Nat := do
  pure (← c.integer what units low largestCount status text).toNat

end Call

end Scratchpad.Utility
