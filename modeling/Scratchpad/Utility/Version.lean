import Scratchpad.Machine.Bytes

/-!
# Comparing versions

Names with numbers in them are compared part by part: texts by their characters, and numbers by
their values. What looks like the suffix of a file counts only if the rest is the same.
-/

namespace Scratchpad.Utility.Version

open Scratchpad.Machine

/-- The rank of a character outside of numbers: a tilde comes before everything, even the end, and
letters come before other characters. -/
def rank (c : Char) : Int :=
  if c.isDigit then 0
  else if c.isAlpha then c.toNat
  else if c = '~' then -2
  else c.toNat + 256

/-- The rank of the first character of a text, or of its end. -/
def frontRank (cs : Bytes) : Int :=
  match cs with
  | [] => -1
  | c :: _ => rank c

/-- Compares digits by the number that they stand for. -/
def compareDigits (a b : Bytes) : Ordering :=
  let value (cs : Bytes) : Nat := (Bytes.toNat? cs).getD 0
  compare (value a) (value b)

/-- Compares the texts in front of the first numbers, and yields what is left. -/
def compareTexts : (fuel : Nat) → Bytes → Bytes → Ordering × Bytes × Bytes
  | 0, a, b => (.eq, a, b)
  | fuel + 1, a, b =>
    if (a.head?.all Char.isDigit) && (b.head?.all Char.isDigit) then (.eq, a, b)
    else
      match compare (frontRank a) (frontRank b) with
      | .eq => compareTexts fuel (a.drop 1) (b.drop 1)
      | o => (o, a, b)

/-- Compares two texts part by part. -/
def compareAll : (fuel : Nat) → Bytes → Bytes → Ordering
  | 0, _, _ => .eq
  | fuel + 1, a, b =>
    if a.isEmpty && b.isEmpty then .eq
    else
      match compareTexts (a.length + b.length + 1) a b with
      | (.eq, a, b) =>
        match compareDigits (a.takeWhile Char.isDigit) (b.takeWhile Char.isDigit) with
        | .eq => compareAll fuel (a.dropWhile Char.isDigit) (b.dropWhile Char.isDigit)
        | o => o
      | (o, _, _) => o

/-- Passes over what looks like suffixes: points, each with a letter and more letters and digits. -/
def dropSuffixes : (fuel : Nat) → Bytes → Bytes
  | 0, cs => cs
  | fuel + 1, cs =>
    match cs with
    | '.' :: c :: rest =>
      if c.isAlpha || c = '~' then
        dropSuffixes fuel (rest.dropWhile fun d => d.isAlphanum || d == '~')
      else cs
    | _ => cs

/-- A name without the suffixes at its end. -/
def stem : Bytes → Bytes
  | [] => []
  | c :: cs => if (dropSuffixes (cs.length + 1) cs).isEmpty then [c] else c :: stem cs

@[simp] theorem stem_singleton (c : Char) : stem [c] = [c] := rfl

/-- How far a name comes in front because of points at its start: a lone one, two, and any. -/
def pointRank (name : Bytes) : Nat :=
  if name.isEmpty then 0
  else if name = ['.'] then 1
  else if name = ['.', '.'] then 2
  else if name.head? = some '.' then 3
  else 4

/-- Compares two names. -/
def compareNames (a b : Bytes) : Ordering :=
  let whole (a b : Bytes) : Ordering := compareAll (a.length + b.length + 1) a b
  match compare (pointRank a) (pointRank b) with
  | .eq =>
    match whole (stem a) (stem b) with
    | .eq => whole a b
    | o => o
  | o => o

end Scratchpad.Utility.Version
