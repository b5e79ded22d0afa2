import Scratchpad.Machine.Bytes
import Scratchpad.Shell.Syntax

/-!
# Arithmetic in scripts

The value of an arithmetic expression over signed words of 64 bits: the operators of C without those
that count up and down, with names for the values of variables. An expression is cut into symbols,
which are then read and evaluated in one go; a part whose value is not needed is only read.
-/

namespace Scratchpad.Shell

open Scratchpad.Machine

namespace Arithmetic

/-- How many words there are. -/
def wordCount : Int := 18446744073709551616

/-- An integer as it is kept in a word. -/
def wrap (n : Int) : Int := (n + 9223372036854775808) % wordCount - 9223372036854775808

/-- Why an expression has no value. -/
inductive Problem where
  | expectingPrimary
  | expectingColon
  | expectingParenthesis
  | expectingEnd
  | divisionByZero
  /-- The value of a variable is no number. -/
  | illegalNumber (text : Bytes)
  deriving DecidableEq, Repr

/-- The text of a problem of an expression. -/
def Problem.message (expression : Bytes) : Problem → Bytes
  | expectingPrimary => about "expecting primary"
  | expectingColon => about "expecting ':'"
  | expectingParenthesis => about "expecting ')'"
  | expectingEnd => about "expecting EOF"
  | divisionByZero => about "division by zero"
  | illegalNumber text => "Illegal number: ".toList ++ text
where
  about (what : String) : Bytes :=
    "arithmetic expression: ".toList ++ what.toList ++ ": \"".toList ++ expression ++ ['"']

/-- A symbol of an expression. -/
inductive Symbol where
  | number (n : Int)
  | name (cs : Bytes)
  | operator (cs : Bytes)
  | unknown
  deriving DecidableEq, Repr

/-- The operators, longer ones first. -/
def operators : List Bytes :=
  ["<<=", ">>=", "==", "!=", "<=", ">=", "&&", "||", "<<", ">>", "+=", "-=", "*=", "/=", "%=",
   "&=", "|=", "^=", "=", "<", ">", "+", "-", "*", "/", "%", "&", "|", "^", "!", "~", "?", ":",
   "(", ")"].map String.toList

/-- The value of a digit in bases up to 36. -/
def digitValue (c : Char) : Nat :=
  if c.isDigit then c.toNat - '0'.toNat
  else if c.isAlpha then c.toLower.toNat - 'a'.toNat + 10
  else 36

/-- The digits of a base at the front of a text. -/
def digitsOf (base : Nat) (cs : Bytes) : Bytes := cs.takeWhile fun c => digitValue c < base

/-- The number that digits stand for. -/
def valueOf (base : Nat) (digits : Bytes) : Nat :=
  digits.foldl (fun n c => base * n + digitValue c) 0

/-- The number at the front of a text and its length; a zero in front makes it octal, and a zero and
an `x` hexadecimal. The length is zero if there is none. -/
def leadingNumber (cs : Bytes) : Nat × Nat :=
  match cs with
  | '0' :: x :: rest =>
    let digits := digitsOf 16 rest
    if (x = 'x' || x = 'X') && !digits.isEmpty then (valueOf 16 digits, digits.length + 2)
    else
      let digits := digitsOf 8 cs
      (valueOf 8 digits, digits.length)
  | _ =>
    let digits := digitsOf 10 cs
    (valueOf 10 digits, digits.length)

/-- The largest number of a word. -/
def largest : Int := 9223372036854775807

/-- The smallest number of a word. -/
def smallest : Int := -9223372036854775808

/-- Whether a character is a blank of an expression. -/
def isBlank (c : Char) : Bool :=
  c == ' ' || c == '\t' || c == '\n' || c == '\x0b' || c == '\x0c' || c == '\r'

/-- The symbols of an expression. -/
def symbols (fuel : Nat) (cs : Bytes) : List Symbol :=
  match fuel with
  | 0 => []
  | fuel + 1 =>
    match cs with
    | [] => []
    | c :: rest =>
      if c = ' ' || c = '\t' || c = '\n' then symbols fuel rest
      else if c.isDigit then
        let (n, length) := leadingNumber cs
        .number (min (n : Int) largest) :: symbols fuel (cs.drop length)
      else if startsName c then
        .name (cs.takeWhile inName) :: symbols fuel (cs.dropWhile inName)
      else
        match operators.find? fun o => o.isPrefixOf cs with
        | some o => .operator o :: symbols fuel (cs.drop o.length)
        | none => .unknown :: symbols fuel rest

/-- The number that the value of a variable stands for: with a sign, blanks around it, and an octal
or hexadecimal mark. Blanks alone stand for zero. -/
def numberOf? (cs : Bytes) : Option Int :=
  let cs := cs.dropWhile isBlank
  let (negative, digits) := match cs with
    | '-' :: ds => (true, ds)
    | '+' :: ds => (false, ds)
    | _ => (false, cs)
  let (n, length) := leadingNumber digits
  let value : Int := if negative then -(n : Int) else n
  if cs.isEmpty then some 0
  else if length = 0 || !((digits.drop length).all isBlank) then none
  else if value < smallest || largest < value then none
  else some value

/-- What is read and done while an expression is evaluated: the symbols that are left, and the
assignments, the last one first. -/
structure Progress where
  left : List Symbol
  assigned : List (Bytes × Int)

/-- Evaluating a part of an expression. -/
abbrev Evaluation := StateT Progress (Except Problem)

/-- The next symbol, which is taken. -/
def next : Evaluation (Option Symbol) := do
  let p ← get
  set { p with left := p.left.tail }
  pure p.left.head?

/-- The operator that comes next, which is left. -/
def operator? : Evaluation (Option Bytes) := do
  match (← get).left with
  | .operator o :: _ => pure (some o)
  | _ => pure none

/-- Takes an operator that is due. -/
def due (o : String) (p : Problem) : Evaluation Unit := do
  match ← next with
  | some (.operator q) => if q = o.toList then pure () else throw p
  | _ => throw p

/-- How tightly binary operators bind: a smaller number binds tighter. -/
def precedence? (o : Bytes) : Option Nat :=
  (table.find? fun e => (e.1.map String.toList).contains o).map Prod.snd
where
  table : List (List String × Nat) :=
    [(["*", "/", "%"], 0), (["+", "-"], 1), (["<<", ">>"], 2), (["<", ">", "<=", ">="], 3),
     (["==", "!="], 4), (["&"], 5), (["^"], 6), (["|"], 7)]

/-- The value of a truth. -/
def truth (b : Bool) : Int := if b then 1 else 0

/-- The bits of a word as a number. -/
def bits (n : Int) : Nat := (n % wordCount).toNat

/-- The value of a binary operator. -/
def apply (o : Bytes) (a b : Int) : Except Problem Int :=
  if o = ['*'] then .ok (wrap (a * b))
  else if o = ['/'] then if b = 0 then .error .divisionByZero else .ok (wrap (a.tdiv b))
  else if o = ['%'] then if b = 0 then .error .divisionByZero else .ok (wrap (a.tmod b))
  else if o = ['+'] then .ok (wrap (a + b))
  else if o = ['-'] then .ok (wrap (a - b))
  else if o = ['<', '<'] then .ok (wrap ((bits a <<< (bits b % 64) : Nat) : Int))
  else if o = ['>', '>'] then .ok (a >>> (bits b % 64))
  else if o = ['<'] then .ok (truth (a < b))
  else if o = ['>'] then .ok (truth (b < a))
  else if o = ['<', '='] then .ok (truth (a ≤ b))
  else if o = ['>', '='] then .ok (truth (b ≤ a))
  else if o = ['=', '='] then .ok (truth (a = b))
  else if o = ['!', '='] then .ok (truth (a ≠ b))
  else if o = ['&'] then .ok (wrap ((bits a &&& bits b : Nat) : Int))
  else if o = ['^'] then .ok (wrap ((bits a ^^^ bits b : Nat) : Int))
  else .ok (wrap ((bits a ||| bits b : Nat) : Int))

/-- The operator in an assignment, if it is one; an empty one only assigns. -/
def assigning? (o : Bytes) : Option Bytes :=
  if ["==", "!=", "<=", ">="].any fun p => p.toList = o then none
  else if o.getLast? = some '=' then some o.dropLast
  else none

/-- The value of a variable, with the assignments of the expression. -/
def lookUp (valueOf? : Bytes → Option Bytes) (name : Bytes) : Evaluation Int := do
  match (← get).assigned.lookup name with
  | some n => pure n
  | none =>
    match valueOf? name with
    | none => pure 0
    | some v =>
      match numberOf? v with
      | some n => pure n
      | none => throw (.illegalNumber v)

mutual

/-- The value of an assignment or a condition. -/
def assignment (fuel : Nat) (valueOf? : Bytes → Option Bytes) (idle : Bool) : Evaluation Int :=
  match fuel with
  | 0 => throw .expectingPrimary
  | fuel + 1 => do
    match (← get).left with
    | .name name :: .operator o :: rest =>
      match assigning? o with
      | none => condition fuel valueOf? idle
      | some o =>
        modify fun p => { p with left := rest }
        let b ← assignment fuel valueOf? idle
        if idle then pure b
        else
          let n ← if o.isEmpty then pure b else do
            let a ← lookUp valueOf? name
            apply o a b
          modify fun p => { p with assigned := (name, n) :: p.assigned }
          pure n
    | _ => condition fuel valueOf? idle

/-- The value of a condition with its two outcomes, or of something simpler. -/
def condition (fuel : Nat) (valueOf? : Bytes → Option Bytes) (idle : Bool) : Evaluation Int :=
  match fuel with
  | 0 => throw .expectingPrimary
  | fuel + 1 => do
    let a ← disjunction fuel valueOf? idle
    if (← operator?) = some ['?'] then
      let _ ← next
      let b ← assignment fuel valueOf? (idle || a = 0)
      due ":" .expectingColon
      let c ← condition fuel valueOf? (idle || a ≠ 0)
      pure (if a ≠ 0 then b else c)
    else pure a

/-- The value of a disjunction, or of something simpler. -/
def disjunction (fuel : Nat) (valueOf? : Bytes → Option Bytes) (idle : Bool) : Evaluation Int :=
  match fuel with
  | 0 => throw .expectingPrimary
  | fuel + 1 => do
    let a ← conjunction fuel valueOf? idle
    if (← operator?) = some ['|', '|'] then
      let _ ← next
      let b ← disjunction fuel valueOf? (idle || a ≠ 0)
      pure (truth (a ≠ 0 || b ≠ 0))
    else pure a

/-- The value of a conjunction, or of something simpler. -/
def conjunction (fuel : Nat) (valueOf? : Bytes → Option Bytes) (idle : Bool) : Evaluation Int :=
  match fuel with
  | 0 => throw .expectingPrimary
  | fuel + 1 => do
    let a ← primary fuel valueOf? idle
    let a ← binary fuel valueOf? idle 8 a
    if (← operator?) = some ['&', '&'] then
      let _ ← next
      let b ← conjunction fuel valueOf? (idle || a = 0)
      pure (truth (a ≠ 0 && b ≠ 0))
    else pure a

/-- Goes on after a value with binary operators that bind tighter than `limit`. -/
def binary (fuel : Nat) (valueOf? : Bytes → Option Bytes) (idle : Bool) (limit : Nat) (a : Int) :
    Evaluation Int :=
  match fuel with
  | 0 => throw .expectingPrimary
  | fuel + 1 => do
    match ← operator? with
    | none => pure a
    | some o =>
      match precedence? o with
      | none => pure a
      | some p =>
        if p < limit then
          let _ ← next
          let b ← primary fuel valueOf? idle
          let b ← binary fuel valueOf? idle p b
          let c ← if idle then pure b else apply o a b
          binary fuel valueOf? idle limit c
        else pure a

/-- The value of a number, a name, a signed value, or an expression in parentheses. -/
def primary (fuel : Nat) (valueOf? : Bytes → Option Bytes) (idle : Bool) : Evaluation Int :=
  match fuel with
  | 0 => throw .expectingPrimary
  | fuel + 1 => do
    match ← next with
    | some (.number n) => pure n
    | some (.name name) => if idle then pure 0 else lookUp valueOf? name
    | some (.operator o) =>
      if o = ['('] then
        let a ← assignment fuel valueOf? idle
        due ")" .expectingParenthesis
        pure a
      else if o = ['+'] then primary fuel valueOf? idle
      else if o = ['-'] then pure (wrap (-(← primary fuel valueOf? idle)))
      else if o = ['!'] then pure (truth ((← primary fuel valueOf? idle) = 0))
      else if o = ['~'] then pure (-(← primary fuel valueOf? idle) - 1)
      else throw .expectingPrimary
    | _ => throw .expectingPrimary

end

/-- The value of an expression, and what it assigns, in order. -/
def evaluate (valueOf? : Bytes → Option Bytes) (expression : Bytes) :
    Except Problem (Int × List (Bytes × Int)) := do
  let left := symbols (expression.length + 1) expression
  let (n, p) ← (assignment (8 * left.length + 16) valueOf? false).run ⟨left, []⟩
  if p.left.isEmpty then .ok (n, p.assigned.reverse) else .error .expectingEnd

end Arithmetic

end Scratchpad.Shell
