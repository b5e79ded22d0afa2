import Scratchpad.Machine.Bytes
import Scratchpad.Number.Double
import Scratchpad.Shell.Arithmetic

/-!
# Formatted output

The escapes that `echo` and `printf` know, and the directives of a format. A format is written again
as long as there are arguments that it has not used.
-/

namespace Scratchpad.Shell

open Scratchpad.Machine Scratchpad.Number

/-- Whether a character is an octal digit. -/
def isOctal (c : Char) : Bool := '0' ≤ c && c ≤ '7'

/-- The byte that octal digits stand for. -/
def octalByte (digits : Bytes) : Char :=
  Char.ofNat ((digits.foldl (fun n c => 8 * n + (c.toNat - '0'.toNat)) 0) % 256)

/-- The character that a letter after a backslash stands for. -/
def controlOf? (c : Char) : Option Char :=
  match c with
  | 'a' => some '\x07'
  | 'b' => some '\x08'
  | 'e' => some '\x1b'
  | 'f' => some '\x0c'
  | 'n' => some '\n'
  | 'r' => some '\r'
  | 't' => some '\t'
  | 'v' => some '\x0b'
  | '\\' => some '\\'
  | _ => none

/-- The character that is written for what follows a backslash, and how much of that it takes; a
backslash that means nothing stands for itself. -/
def escape (cs : Bytes) : Char × Nat :=
  match cs with
  | [] => ('\\', 0)
  | c :: _ =>
    match controlOf? c with
    | some d => (d, 1)
    | none =>
      let digits := (cs.take 3).takeWhile isOctal
      if digits.isEmpty then ('\\', 0) else (octalByte digits, digits.length)

/-- A text with its escapes resolved, and whether it goes on: `\c` ends all output. An octal number
may have a zero more in front of it. -/
def unescaped (fuel : Nat) (cs : Bytes) : Bytes × Bool :=
  match fuel with
  | 0 => (cs, true)
  | fuel + 1 =>
    match cs with
    | [] => ([], true)
    | '\\' :: 'c' :: _ => ([], false)
    | '\\' :: rest =>
      let rest := match rest with
        | '0' :: d :: more => if isOctal d then d :: more else rest
        | _ => rest
      let (c, n) := escape rest
      let (more, go) := unescaped fuel (rest.drop n)
      (c :: more, go)
    | cs =>
      let run := cs.takeWhile (· != '\\')
      let (more, go) := unescaped fuel (cs.drop run.length)
      (run ++ more, go)

/-- A text with its escapes resolved, and whether it goes on. -/
def resolved (cs : Bytes) : Bytes × Bool := unescaped (2 * cs.length + 2) cs

/-- The words of `echo`, with escapes; `-n` in front keeps the line open. -/
def echoed (args : List Bytes) : Bytes :=
  let (args, ended) := match args with
    | ['-', 'n'] :: rest => (rest, false)
    | _ => (args, true)
  words ended args
where
  words (ended : Bool) : List Bytes → Bytes
    | [] => if ended then ['\n'] else []
    | [a] =>
      let (out, go) := resolved a
      if go && ended then out ++ ['\n'] else out
    | a :: b :: rest =>
      let (out, go) := resolved a
      if go then out ++ ' ' :: words ended (b :: rest) else out

/-- A directive of a format. -/
structure Directive where
  left : Bool
  zero : Bool
  plus : Bool
  space : Bool
  alternate : Bool
  width : Nat
  precision : Option Nat
  deriving DecidableEq, Repr

namespace Directive

/-- A text brought to the width of a directive with blanks. -/
def padded (d : Directive) (cs : Bytes) : Bytes :=
  let missing := List.replicate (d.width - cs.length) ' '
  if d.left then cs ++ missing else missing ++ cs

/-- A number brought to the width of a directive: a mark such as its sign, and its digits. -/
def paddedNumber (d : Directive) (zeroes : Bool) (mark digits : Bytes) : Bytes :=
  if d.zero && !d.left && zeroes then
    mark ++ List.replicate (d.width - mark.length - digits.length) '0' ++ digits
  else d.padded (mark ++ digits)

/-- The sign that is written before a number. -/
def sign (d : Directive) (negative : Bool) : Bytes :=
  if negative then ['-'] else if d.plus then ['+'] else if d.space then [' '] else []

/-- The digits of a number, at least as many as asked for; of zero, none if none are asked for. -/
def filled (d : Directive) (digits : Bytes) : Bytes :=
  match d.precision with
  | none => digits
  | some p =>
    if p = 0 && digits = ['0'] then []
    else List.replicate (p - digits.length) '0' ++ digits

/-- A signed number. -/
def signed (d : Directive) (n : Int) : Bytes :=
  d.paddedNumber d.precision.isNone (d.sign (n < 0)) (d.filled (Bytes.ofNat n.natAbs))

/-- A number without sign in a base. -/
def unsigned (d : Directive) (kind : Char) (n : Nat) : Bytes :=
  let base := if kind == 'o' then 8 else if kind == 'u' then 10 else 16
  let digits := d.filled (Nat.toDigits base n)
  let digits := if kind == 'X' then digits.map Char.toUpper else digits
  if d.alternate && kind == 'o' then
    d.paddedNumber d.precision.isNone []
      (if digits.head? = some '0' then digits else '0' :: digits)
  else
    let mark := if d.alternate && n != 0 && (kind == 'x' || kind == 'X') then ['0', kind] else []
    d.paddedNumber d.precision.isNone mark digits

/-- A number with a point. -/
def real (d : Directive) (kind : Char) (x : Double) : Bytes :=
  let mark := d.sign x.isNegative
  let text := match x with
    | .infinite _ => d.padded (mark ++ "inf".toList)
    | .undefined _ => d.padded (mark ++ "nan".toList)
    | .finite _ m e =>
      let p := d.precision.getD 6
      let digits := match kind.toLower with
        | 'f' => Double.fixed p d.alternate m e
        | 'e' => Double.scientific p d.alternate m e
        | 'g' => Double.general p d.alternate m e
        | _ => Double.hexadecimal d.precision d.alternate m e
      if kind.toLower == 'a' then
        d.paddedNumber true (mark ++ digits.take 2) (digits.drop 2)
      else d.paddedNumber true mark digits
  if kind.isUpper then text.map Char.toUpper else text

end Directive

/-- What is wrong with an argument that should be a number. -/
inductive Flaw where
  | noNumber
  /-- Something follows the number. -/
  | rest
  | tooLarge
  deriving DecidableEq, Repr

/-- A directive that is none, up to its last character; `complete` tells whether that is the letter
which should say what it is. -/
structure BadDirective where
  text : Bytes
  complete : Bool
  deriving DecidableEq, Repr

/-- What is special in formats besides the directives that all know. -/
structure FormatRules where
  /-- What stands for the text after a backslash in a format, how much of the text that is, and
  whether the output goes on. -/
  escape : Bytes → Bytes × Nat × Bool
  /-- An argument with its escapes resolved, and whether the output goes on. -/
  resolved : Bytes → Bytes × Bool
  /-- How an argument is quoted, if there is a directive for that. -/
  quoted? : Option (Bytes → Bytes)

namespace FormatRules

/-- The rules of the shell. -/
def ofShell : FormatRules where
  escape cs :=
    let (c, n) := Shell.escape cs
    ([c], n, true)
  resolved := Shell.resolved
  quoted? := none

end FormatRules

/-- What has been written, which complaints there were, which arguments are left, and whether the
output is at its end. -/
structure Writing where
  rules : FormatRules
  /-- The pieces that were written, the last one first. -/
  out : List Bytes
  complaints : List (Bytes × Flaw)
  left : List Bytes
  closed : Bool

namespace Writing

/-- What was written. -/
def text (w : Writing) : Bytes := w.out.reverse.flatten

/-- Writes something. -/
def put (w : Writing) (cs : Bytes) : Writing := { w with out := cs :: w.out }

/-- Takes an argument, if there is one. -/
def next (w : Writing) : Option Bytes × Writing := (w.left.head?, { w with left := w.left.drop 1 })

/-- Complains about an argument. -/
def complain (w : Writing) (arg : Bytes) (f : Flaw) : Writing :=
  { w with complaints := w.complaints ++ [(arg, f)] }

/-- Complains if a number was not all of an argument, or too large. -/
def check (w : Writing) (arg : Bytes) (length : Nat) (fits : Bool) : Writing :=
  if length < arg.length then w.complain arg (if length = 0 then .noNumber else .rest)
  else if fits then w
  else w.complain arg .tooLarge

/-- The integer that an argument stands for: a number, or a quote before a character. -/
def integer (w : Writing) (signed : Bool) (arg : Option Bytes) : Int × Writing :=
  match arg with
  | none => (0, w)
  | some arg =>
    match arg with
    | '\'' :: rest => ((rest.head?.map fun c => (c.toNat : Int)).getD 0, w)
    | '"' :: rest => ((rest.head?.map fun c => (c.toNat : Int)).getD 0, w)
    | _ =>
      let blanks := (arg.takeWhile Arithmetic.isBlank).length
      let rest := arg.drop blanks
      let (negative, mark, digits) := match rest with
        | '-' :: ds => (true, 1, ds)
        | '+' :: ds => (false, 1, ds)
        | _ => (false, 0, rest)
      let (n, length) := Arithmetic.leadingNumber digits
      let length := if length = 0 then 0 else blanks + mark + length
      let n : Int := n
      let (value, fits) :=
        if signed then
          let v := if negative then -n else n
          if v < Arithmetic.smallest then (Arithmetic.smallest, false)
          else if Arithmetic.largest < v then (Arithmetic.largest, false)
          else (v, true)
        else if Arithmetic.wordCount ≤ n then (Arithmetic.wordCount - 1, false)
        else (if negative then (-n) % Arithmetic.wordCount else n, true)
      (value, w.check arg length fits)

/-- A number in a directive: digits, or a star for an argument, of which 32 bits count. -/
def count (w : Writing) (cs : Bytes) : Option Int × Bytes × Writing :=
  match cs with
  | '*' :: rest =>
    let (arg, w) := w.next
    let (n, w) := w.integer true arg
    (some (n.bmod 4294967296), rest, w)
  | _ =>
    let digits := cs.takeWhile Char.isDigit
    (if digits.isEmpty then none else (Bytes.toNat? digits).map fun n => (n : Int),
      cs.drop digits.length, w)

/-- Writes an argument as a directive says; absent if there is no such directive. -/
def argument? (w : Writing) (d : Directive) (kind : Char) : Option Writing :=
  let (arg, w) := w.next
  let cut (cs : Bytes) : Bytes := match d.precision with
    | some n => cs.take n
    | none => cs
  if kind == 's' then some (w.put (d.padded (cut (arg.getD []))))
  else if kind == 'b' then
    let (out, go) := w.rules.resolved (arg.getD [])
    some { w.put (d.padded (cut out)) with closed := !go }
  else if kind == 'q' then w.rules.quoted?.map fun quoted => w.put (quoted (arg.getD []))
  else if kind == 'c' then some (w.put (d.padded [((arg.getD []).head?).getD '\x00']))
  else if kind == 'd' || kind == 'i' then
    let (n, w) := w.integer true arg
    some (w.put (d.signed n))
  else if kind == 'o' || kind == 'u' || kind == 'x' || kind == 'X' then
    let (n, w) := w.integer false arg
    some (w.put (d.unsigned kind n.toNat))
  else if "aAeEfFgG".toList.contains kind then
    match arg with
    | none => some (w.put (d.real kind (.finite false 0 Double.leastExponent)))
    | some arg =>
      let (x, w) := match arg with
        | '\'' :: rest => (character rest, w)
        | '"' :: rest => (character rest, w)
        | _ =>
          let r := Double.read arg
          (r.value, w.check arg r.length r.fits)
      some (w.put (d.real kind x))
  else none
where
  /-- The number of the character at the front of a text. -/
  character (cs : Bytes) : Double :=
    Double.ofQuotient false ((cs.head?.map Char.toNat).getD 0) 1

/-- Writes a directive, of which everything after its percent sign is given. The answer is what
follows it, or why it is none. -/
def directive (w : Writing) (cs : Bytes) : Except BadDirective Bytes × Writing :=
  let flags := cs.takeWhile fun c => c == '-' || c == '0' || c == '+' || c == ' ' || c == '#'
  let (width, rest, w) := w.count (cs.drop flags.length)
  let (precision, rest, w) := match rest with
    | '.' :: r =>
      let (p, r, w) := w.count r
      (some (p.getD 0), r, w)
    | _ => (none, rest, w)
  match rest with
  | [] => (.error ⟨'%' :: cs, false⟩, w)
  | kind :: after =>
    let width := width.getD 0
    let d : Directive :=
      { left := flags.contains '-' || width < 0
        zero := flags.contains '0'
        plus := flags.contains '+'
        space := flags.contains ' '
        alternate := flags.contains '#'
        width := width.natAbs
        precision := precision.bind fun p => if p < 0 then none else some p.toNat }
    match w.argument? d kind with
    | some w => (.ok after, w)
    | none =>
      (.error ⟨'%' :: cs.take (cs.length - after.length), true⟩, w)

/-- Writes a format once; the exception is why it cannot be written. -/
def format (fuel : Nat) (w : Writing) (cs : Bytes) : Option BadDirective × Writing :=
  match fuel with
  | 0 => (none, w)
  | fuel + 1 =>
    if w.closed then (none, w)
    else
      match cs with
      | [] => (none, w)
      | '\\' :: rest =>
        let (out, n, go) := w.rules.escape rest
        format fuel { w.put out with closed := !go } (rest.drop n)
      | '%' :: '%' :: rest => format fuel (w.put ['%']) rest
      | '%' :: rest =>
        match w.directive rest with
        | (.ok rest, w) => format fuel w rest
        | (.error e, w) => (some e, w)
      | cs =>
        let run := cs.takeWhile fun c => c != '\\' && c != '%'
        format fuel (w.put run) (cs.drop run.length)

/-- Writes a format as long as it uses arguments and some are left. -/
def repeated (fuel : Nat) (w : Writing) (cs : Bytes) : Option BadDirective × Writing :=
  match fuel with
  | 0 => (none, w)
  | fuel + 1 =>
    let n := w.left.length
    match w.format (2 * cs.length + 2) cs with
    | (none, w) =>
      if !w.closed && !w.left.isEmpty && w.left.length < n then w.repeated fuel cs else (none, w)
    | r => r

end Writing

/-- What `printf` writes for a format and arguments, and why it broke off if it did. -/
def printed (rules : FormatRules) (cs : Bytes) (args : List Bytes) :
    Option BadDirective × Writing :=
  Writing.repeated (args.length + 1) ⟨rules, [], [], args, false⟩ cs

end Scratchpad.Shell
