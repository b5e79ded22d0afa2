import Scratchpad.Number.Double
import Scratchpad.Shell.Printf
import Scratchpad.Utility.Basic

/-!
# Sequences of numbers

`seq` writes numbers in steps. The numbers are decimal fractions, so they are counted exactly, in
units of the last place that the first number or the step has.
-/

namespace Scratchpad.Utility

open Scratchpad.Machine Scratchpad.Number Scratchpad.Shell

/-- A decimal fraction as it was written: its value is `mantissa` in units of the given place. -/
structure Decimal where
  /-- Whether there is a minus sign, which a zero can have too. -/
  negative : Bool
  mantissa : Int
  places : Nat
  /-- The places that are shown, and the width of the whole. -/
  shown : Nat
  width : Int
  deriving DecidableEq, Repr

namespace Decimal

/-- The mantissa in units of another place, which is not before its own. -/
def inPlaces (d : Decimal) (places : Nat) : Int := d.mantissa * Nat.pow 10 (places - d.places)

/-- The decimal fraction that a text stands for; absent if it is none. -/
def ofText? (text : Bytes) : Option Decimal := do
  let text := text.dropWhile fun c => c == ' ' || ('\t' ≤ c && c ≤ '\r') || c == '+'
  let (negative, digits) := match text with
    | '-' :: r => (true, r)
    | r => (false, r)
  if Double.beginsWith "0x" digits then
    let ds := digits.drop 2
    if ds.isEmpty || !ds.all (fun c => c.isDigit || ('a' ≤ c.toLower && c.toLower ≤ 'f')) then none
    else
      let n : Int := Double.valueOf 16 ds
      some ⟨negative, if negative then -n else n, 0, 0, text.length⟩
  else
    let (whole, fraction, n) := Double.pointedDigits Char.isDigit digits
    if n = 0 then none
    else
      let (power, m) := Double.powerAfter 'e' (digits.drop n)
      if n + m != digits.length || 10000 < power.natAbs then none
      else
        let value : Int := Double.valueOf 10 (whole ++ fraction)
        let value := if negative then -value else value
        let hasPoint := digits.contains '.'
        let left := (fraction.length : Int) - power
        let pointWidth : Int :=
          if !hasPoint then 0 else if fraction.isEmpty then -1 else if whole.isEmpty then 1 else 0
        let width : Int := (text.length : Int) - m + pointWidth
        let width :=
          if m = 0 then width
          else if power < 0 then
            (if hasPoint then width else width + 1) - power
          else
            (if hasPoint && left ≤ 0 && !fraction.isEmpty then width - 1 else width) +
              (power - min (fraction.length : Int) power)
        some
          { negative
            mantissa := value * Nat.pow 10 (-left).toNat
            places := left.toNat
            shown := left.toNat
            width }

/-- Whether the value is zero. -/
def isZero (d : Decimal) : Bool := d.mantissa == 0

end Decimal

/-- A number in units of a place, written with all places, and zeroes in front up to a width. -/
def decimalText (places width : Nat) (negative : Bool) (n : Nat) : Bytes :=
  let digits := Double.pointed places false n
  let mark := if negative then ['-'] else []
  mark ++ List.replicate (width - mark.length - digits.length) '0' ++ digits

/-- A bound or a step of a sequence. -/
inductive Bound where
  | at (d : Decimal)
  | endless (negative : Bool)
  deriving DecidableEq, Repr

namespace Bound

/-- The places that are shown. -/
def shown : Bound → Nat
  | .at d => d.shown
  | .endless _ => 0

/-- The places that the value has. -/
def places : Bound → Nat
  | .at d => d.places
  | .endless _ => 0

/-- The value in units of a place; absent if there is none. -/
def inPlaces? (places : Nat) : Bound → Option Int
  | .at d => some (d.inPlaces places)
  | .endless _ => none

/-- Whether the value is below zero, or a zero with a minus sign. -/
def isNegative : Bound → Bool
  | .at d => d.negative
  | .endless negative => negative

/-- The bound that a text stands for; absent if it is none. -/
def ofText? (text : Bytes) : Option Bound :=
  let body := text.dropWhile fun c => c == ' ' || ('\t' ≤ c && c ≤ '\r')
  let negative := body.head? = some '-'
  let word := (if negative || body.head? = some '+' then body.drop 1 else body).map Char.toLower
  if (["inf", "infinity"].map String.toList).contains word then some (.endless negative)
  else (Decimal.ofText? text).map .at

end Bound

/-- A text up to the first directive, where a doubled percent sign stands for itself, and the
rest. -/
def frontOf : (fuel : Nat) → Bytes → Bytes × Bytes
  | 0, cs => ([], cs)
  | fuel + 1, cs =>
    match cs with
    | '%' :: '%' :: rest =>
      let (a, b) := frontOf fuel rest
      ('%' :: a, b)
    | '%' :: rest => ([], '%' :: rest)
    | c :: rest =>
      let (a, b) := frontOf fuel rest
      (c :: a, b)
    | [] => ([], [])

@[simp] theorem frontOf_nil (fuel : Nat) : frontOf fuel [] = ([], []) := by
  cases fuel <;> rfl

/-- The one directive of a format, with the text before it and after it. -/
def formatParts (format : Bytes) : Except Bytes (Bytes × Directive × Char × Bytes) :=
  let (before, rest) := frontOf (format.length + 1) format
  let named := "format ".toList ++ cited format
  match rest with
  | [] => .error (named ++ " has no % directive".toList)
  | _ :: rest =>
    let flags := rest.takeWhile fun c => "'-+ #0".toList.contains c
    let rest := rest.drop flags.length
    let width := rest.takeWhile Char.isDigit
    let rest := rest.drop width.length
    let (precision, rest) := match rest with
      | '.' :: r => (some (r.takeWhile Char.isDigit), r.dropWhile Char.isDigit)
      | r => (none, r)
    let rest := if rest.head? = some 'L' then rest.drop 1 else rest
    match rest with
    | [] => .error (named ++ " ends in %".toList)
    | kind :: rest =>
      if !("efgaEFGA".toList.contains kind) then
        .error (named ++ " has unknown %".toList ++ kind :: " directive".toList)
      else
        let (after, more) := frontOf (rest.length + 1) rest
        if !more.isEmpty then .error (named ++ " has too many % directives".toList)
        else
          .ok (before,
            { left := flags.contains '-'
              zero := flags.contains '0'
              plus := flags.contains '+'
              space := flags.contains ' '
              alternate := flags.contains '#'
              width := (Bytes.toNat? width).getD 0
              precision := precision.map fun p => (Bytes.toNat? p).getD 0 }, kind, after)

/-- A sequence: its first number, the step and the last number, in units of the same place. A step
or an end that is absent is beyond all numbers. -/
structure NumberSequence where
  first : Int
  /-- Whether the first number has a minus sign. -/
  negative : Bool
  step : Option Int
  down : Bool
  last : Option Int

/-- Whether a number is not past the end of a sequence. -/
def NumberSequence.contains (q : NumberSequence) (n : Int) : Bool :=
  match q.last with
  | none => true
  | some l => if q.down then l ≤ n else n ≤ l

/-- Writes the numbers of a sequence, a block at a time, with separators in front of all but the
first one. -/
def NumberSequence.write (c : Call) (text : Bool → Nat → Bytes) (separator : Bytes)
    (q : NumberSequence) : Routine Unit := do
  if q.contains q.first then
    c.put (text q.negative q.first.natAbs)
    match q.step with
    | none => pure ()
    | some step =>
      Routine.loop Routine.patience (fun (n : Int) => do
        let block := ((List.range 1000).map fun (i : Nat) => n + i * step).takeWhile q.contains
        c.put (block.flatMap fun n => separator ++ text (n < 0) n.natAbs)
        pure (if block.length < 1000 then .inr () else .inl (n + 1000 * step))) (fun _ => ())
        (q.first + step)
    c.put ['\n']

/-- Writes numbers in steps. -/
def seq (c : Call) : Routine Nat := do
  let isNumber (a : Bytes) : Bool :=
    match a with
    | '-' :: d :: _ => d.isDigit || d == '.'
    | _ => false
  -- A negative number is no option.
  let front := c.arguments.takeWhile fun a => !isNumber a
  let behind := c.arguments.drop front.length
  let (os, args) ← { c with arguments := front }.options (.before "f:s:w"
    [("equal-width", 'w'), ("format", 'f'), ("separator", 's')]) 1
  let args := args ++ behind
  match args.drop 3 with
  | extra :: _ => c.misused ("extra operand ".toList ++ cited extra) 1
  | [] => pure ()
  if args.isEmpty then c.misused "missing operand".toList 1
  let format ← match lastOf os 'f' with
    | none => pure none
    | some text =>
      match formatParts text with
      | .error e => c.fail e 1
      | .ok parts => pure (some parts)
  if format.isSome && given os 'w' then
    c.misused "format string may not be specified when printing equal width strings".toList 1
  let bound (a : Bytes) : Routine Bound :=
    match Bound.ofText? a with
    | some b => pure b
    | none =>
      let text := (a.dropWhile fun c => c == '-' || c == '+').map Char.toLower
      if text = "nan".toList then
        c.misused ("invalid 'not-a-number' argument: ".toList ++ cited a) 1
      else c.misused ("invalid floating point argument: ".toList ++ cited a) 1
  let one : Bound := .at ⟨false, 1, 0, 0, 1⟩
  let (first, step, last) ← match args with
    | [a, s, b] => do
      let a ← bound a
      let step ← bound s
      match step with
      | .at d => if d.isZero then c.misused ("invalid Zero increment value: ".toList ++ cited s) 1
      | .endless _ => pure ()
      pure (a, step, ← bound b)
    | [a, b] => do
      let a ← bound a
      pure (a, one, ← bound b)
    | args => do pure (one, one, ← bound (args.headD []))
  let shown := max first.shown step.shown
  let places := max shown last.places
  let width : Int :=
    match first with
    | .at first =>
      if !given os 'w' then 0
      else
        let grown (d : Decimal) : Int := d.width + ((shown : Int) - d.shown)
        let firstWidth := grown first + if first.shown = 0 && 0 < shown then 1 else 0
        match last with
        | .endless _ => firstWidth
        | .at d =>
          max firstWidth (grown d + (if 0 < d.shown && shown = 0 then -1 else 0) +
            if d.shown = 0 && 0 < shown then 1 else 0)
    | .endless _ => 0
  let text : Bool → Nat → Bytes :=
    match format with
    | none => fun negative n =>
      decimalText shown width.toNat negative (n / Nat.pow 10 (places - shown))
    | some (before, d, kind, after) => fun negative n =>
      before ++ d.real kind (Double.ofQuotient negative n (Nat.pow 10 places)) ++ after
  let down := step.isNegative
  let write (first : Decimal) (last : Option Int) : Routine Unit :=
    NumberSequence.write c text ((lastOf os 's').getD ['\n'])
      ⟨first.inPlaces places, first.negative, step.inPlaces? places, down, last⟩
  match first, last with
  | .endless _, _ => pure ()
  | .at first, .at d => write first (some (d.inPlaces places))
  | .at first, .endless negative => if negative == down then write first none
  pure 0

end Scratchpad.Utility
