import Scratchpad.Machine.Bytes

/-!
# Numbers with a binary point

Numbers of 53 binary digits, as they are read from text and written with a given number of decimal
digits. All roundings are exact and go to the nearest number, and halfway to the even one.
-/

namespace Scratchpad.Number

open Scratchpad.Machine

/-- The quotient of two numbers, rounded to the nearest one and halfway to the even one. -/
def roundDiv (a b : Nat) : Nat :=
  let q := a / b
  let r := a % b
  if 2 * r < b then q else if b < 2 * r then q + 1 else if q % 2 = 0 then q else q + 1

/-- A number with a binary point. -/
inductive Double where
  | finite (negative : Bool) (mantissa : Nat) (exponent : Int)
  | infinite (negative : Bool)
  | undefined (negative : Bool)
  deriving DecidableEq, Repr

namespace Double

/-- How many binary digits a mantissa has at most. -/
def digits : Nat := 53

/-- The smallest exponent. -/
def leastExponent : Int := -1074

/-- The largest exponent. -/
def greatestExponent : Int := 971

/-- The number that is nearest to a quotient; a mantissa has all its digits unless the exponent is
the smallest. -/
def ofQuotient (negative : Bool) (a b : Nat) : Double :=
  if a = 0 then .finite negative 0 leastExponent
  else
    let guess : Int := (a.log2 : Int) - (b.log2 : Int) - digits
    let e := max guess leastExponent
    let mantissaAt (e : Int) : Nat :=
      if 0 ≤ e then roundDiv a (b <<< e.toNat) else roundDiv (a <<< (-e).toNat) b
    let e := if mantissaAt e < 1 <<< digits then e else e + 1
    let e := if mantissaAt e < 1 <<< digits then e else e + 1
    let m := mantissaAt e
    if greatestExponent < e then .infinite negative else .finite negative m e

/-- Whether a number is below zero, or a zero with a minus sign. -/
def isNegative : Double → Bool
  | finite n _ _ => n
  | infinite n => n
  | undefined n => n

/-- The absolute value of a finite number times a power of ten, rounded to an integer. -/
def scaled (mantissa : Nat) (exponent power : Int) : Nat :=
  let up (e : Int) : Nat := e.toNat
  let a := (mantissa <<< up exponent) * Nat.pow 10 (up power)
  let b := (1 <<< up (-exponent)) * Nat.pow 10 (up (-power))
  roundDiv a b

/-- Digits with a point before the last `places` of them. -/
def pointed (places : Nat) (always : Bool) (n : Nat) : Bytes :=
  let ds := Bytes.ofNat n
  let ds := List.replicate (places + 1 - ds.length) '0' ++ ds
  let whole := ds.take (ds.length - places)
  if places = 0 then if always then whole ++ ['.'] else whole
  else whole ++ '.' :: ds.drop (ds.length - places)

/-- A number with so many digits after the point. -/
def fixed (places : Nat) (always : Bool) (mantissa : Nat) (exponent : Int) : Bytes :=
  pointed places always (scaled mantissa exponent places)

/-- The power of ten of the first digit of a number that is written with `places` more digits, and
all those digits. -/
def leading (places : Nat) (mantissa : Nat) (exponent : Int) : Int × Nat :=
  if mantissa = 0 then (0, 0)
  else
    let guess : Int := ((mantissa.log2 : Int) + exponent) * 30103 / 100000
    let k := if Nat.pow 10 (places + 1) ≤ scaled mantissa exponent (places - (guess - 1)) then guess
      else guess - 1
    let k := if Nat.pow 10 (places + 1) ≤ scaled mantissa exponent (places - k) then k + 1 else k
    (k, scaled mantissa exponent (places - k))

/-- A power of ten as it stands at the end of a number: a sign and at least two digits. -/
def powerText (k : Int) : Bytes :=
  let ds := Bytes.ofNat k.natAbs
  'e' :: (if k < 0 then '-' else '+') :: (List.replicate (2 - ds.length) '0' ++ ds)

/-- A number with one digit before the point, so many after it, and a power of ten. -/
def scientific (places : Nat) (always : Bool) (mantissa : Nat) (exponent : Int) : Bytes :=
  let (k, n) := leading places mantissa exponent
  pointed places always n ++ powerText k

/-- Digits without the zeroes at their end, if they have a point. -/
def trimmed (cs : Bytes) : Bytes :=
  if cs.contains '.' then
    let cs := (cs.reverse.dropWhile (· == '0')).reverse
    if cs.getLast? = some '.' then cs.dropLast else cs
  else cs

/-- A number with so many digits in all, in the shorter one of the two forms. -/
def general (precision : Nat) (always : Bool) (mantissa : Nat) (exponent : Int) : Bytes :=
  let p := max precision 1
  let (k, n) := leading (p - 1) mantissa exponent
  if -4 ≤ k && k < p then
    let text := fixed (p - 1 - k).toNat always mantissa exponent
    if always then text else trimmed text
  else
    let text := pointed (p - 1) always n
    (if always then text else trimmed text) ++ powerText k

/-- A number with hexadecimal digits and a power of two. -/
def hexadecimal (precision : Option Nat) (always : Bool) (mantissa : Nat) (exponent : Int) :
    Bytes :=
  let shift := digits - 1 - mantissa.log2
  let m := if mantissa = 0 then 0 else mantissa <<< shift
  let e : Int := if mantissa = 0 then 0 else exponent - shift + (digits - 1)
  let places := precision.getD 13
  let n := if places < 13 then roundDiv m (Nat.pow 16 (13 - places))
    else m * Nat.pow 16 (places - 13)
  let ds := Nat.toDigits 16 n
  let ds := List.replicate (places + 1 - ds.length) '0' ++ ds
  let whole := ds.take (ds.length - places)
  let fraction := ds.drop (ds.length - places)
  let fraction :=
    if precision.isNone then (fraction.reverse.dropWhile (· == '0')).reverse else fraction
  "0x".toList ++ whole ++ (if fraction.isEmpty && !always then [] else '.' :: fraction) ++
    'p' :: (if e < 0 then '-' else '+') :: Bytes.ofNat e.natAbs

/-- A number that was read, how many characters it took, and whether it fits. -/
structure Reading where
  value : Double
  length : Nat
  fits : Bool

/-- Whether a text begins with a word, in small or capital letters. -/
def beginsWith (word : String) (cs : Bytes) : Bool :=
  (cs.take word.length).map Char.toLower == word.toList

/-- The value of digits of a base. -/
def valueOf (base : Nat) (ds : Bytes) : Nat :=
  ds.foldl (fun n c =>
    base * n + (if c.isDigit then c.toNat - '0'.toNat else c.toLower.toNat - 'a'.toNat + 10)) 0

/-- Digits with at most one point among them: those before it, those after it, and the length of it
all. -/
def pointedDigits (isDigit : Char → Bool) (cs : Bytes) : Bytes × Bytes × Nat :=
  let whole := cs.takeWhile isDigit
  match cs.drop whole.length with
  | '.' :: rest =>
    let fraction := rest.takeWhile isDigit
    if whole.isEmpty && fraction.isEmpty then ([], [], 0)
    else (whole, fraction, whole.length + 1 + fraction.length)
  | _ => (whole, [], whole.length)

/-- A power after the digits of a number, marked by a letter, and its length. -/
def powerAfter (letter : Char) (cs : Bytes) : Int × Nat :=
  match cs with
  | c :: rest =>
    if c.toLower = letter then
      let (negative, signed, rest) := match rest with
        | '-' :: r => (true, 1, r)
        | '+' :: r => (false, 1, r)
        | r => (false, 0, r)
      let ds := rest.takeWhile Char.isDigit
      if ds.isEmpty then (0, 0)
      else
        let n : Int := min (valueOf 10 ds) 100000
        (if negative then -n else n, 1 + signed + ds.length)
    else (0, 0)
  | [] => (0, 0)

/-- A number from digits and a power of a base; powers that lead beyond all numbers are not worked
out. -/
def ofParts (negative : Bool) (base : Nat) (n : Nat) (power : Int) : Double × Bool :=
  if n = 0 then (.finite negative 0 leastExponent, true)
  else if power < -20000 then (.finite negative 0 leastExponent, false)
  else if 20000 < power then (.infinite negative, false)
  else
    let d := ofQuotient negative (n * base.pow power.toNat) (base.pow (-power).toNat)
    match d with
    | .finite _ m _ => (d, m.log2 = digits - 1)
    | d => (d, false)

/-- Reads the number at the front of a text; the length is zero if there is none. -/
def read (cs : Bytes) : Reading :=
  let isSpace (c : Char) : Bool := c == ' ' || ('\t' ≤ c && c ≤ '\r')
  let blanks := (cs.takeWhile isSpace).length
  let rest := cs.drop blanks
  let (negative, signed, rest) := match rest with
    | '-' :: r => (true, 1, r)
    | '+' :: r => (false, 1, r)
    | r => (false, 0, r)
  let front := blanks + signed
  if beginsWith "infinity" rest then ⟨.infinite negative, front + 8, true⟩
  else if beginsWith "inf" rest then ⟨.infinite negative, front + 3, true⟩
  else if beginsWith "nan" rest then ⟨.undefined negative, front + 3, true⟩
  else
    let isHex (c : Char) : Bool := c.isDigit || ('a' ≤ c.toLower && c.toLower ≤ 'f')
    let (whole, fraction, n) := pointedDigits isHex (rest.drop 2)
    if beginsWith "0x" rest && n != 0 then
      let (power, m) := powerAfter 'p' (rest.drop (2 + n))
      let (value, fits) :=
        ofParts negative 2 (valueOf 16 (whole ++ fraction)) (power - 4 * fraction.length)
      ⟨value, front + 2 + n + m, fits⟩
    else
      let (whole, fraction, n) := pointedDigits Char.isDigit rest
      if n = 0 then ⟨.finite false 0 leastExponent, 0, true⟩
      else
        let (power, m) := powerAfter 'e' (rest.drop n)
        let (value, fits) :=
          ofParts negative 10 (valueOf 10 (whole ++ fraction)) (power - fraction.length)
        ⟨value, front + n + m, fits⟩

end Double

end Scratchpad.Number
