import Scratchpad.Regular.Reading
import Scratchpad.Utility.Basic

/-!
# Expressions

`expr` evaluates an expression whose operands and operators are its arguments. Operands are texts;
those that are integers are calculated with and compared as such.
-/

namespace Scratchpad.Utility

open Scratchpad.Machine

namespace Expression

/-- Why an expression has no value. -/
inductive Flaw where
  | missingArgument (after : Bytes)
  | unexpected (argument : Bytes)
  | unexpectedClosing
  | missingClosing (after : Bytes)
  | notAnInteger
  | divisionByZero
  | badPattern (f : Regular.Flaw)
  deriving DecidableEq, Repr

/-- The text of a flaw. -/
def Flaw.message : Flaw → Bytes
  | missingArgument after => "syntax error: missing argument after ".toList ++ cited after
  | unexpected a => "syntax error: unexpected argument ".toList ++ cited a
  | unexpectedClosing => "syntax error: unexpected ')'".toList
  | missingClosing after => "syntax error: expecting ')' after ".toList ++ cited after
  | notAnInteger => "non-integer argument".toList
  | divisionByZero => "division by zero".toList
  | badPattern f => f.message.toList

/-- The integer that a text is. -/
def integer? (text : Bytes) : Option Int :=
  match text with
  | '-' :: ds => (Bytes.toNat? ds).map fun n => -(n : Int)
  | ds => (Bytes.toNat? ds).map fun n => (n : Int)

/-- Whether a text counts as nothing: it is empty, or zero. -/
def isNothing (text : Bytes) : Bool :=
  let digits := match text with
    | '-' :: ds => ds
    | ds => ds
  text.isEmpty || (!digits.isEmpty && digits.all (· == '0'))

/-- What is left of the arguments, and the one before. -/
structure Reader where
  last : Bytes
  rest : List Bytes

/-- Evaluating an expression. -/
abbrev Evaluation := StateT Reader (Except Flaw)

/-- The next argument, which is not taken. -/
def peek : Evaluation (Option Bytes) := do pure (← get).rest.head?

/-- Takes the next argument. -/
def take : Evaluation Bytes := do
  let s ← get
  match s.rest with
  | [] => throw (.missingArgument s.last)
  | a :: rest =>
    set (⟨a, rest⟩ : Reader)
    pure a

/-- The match of a pattern at the start of a text: what its group matched, or else how long it is.
-/
def matched (text pattern : Bytes) : Evaluation Bytes := do
  match Regular.ofText .matching pattern with
  | .error f => throw (.badPattern f)
  | .ok (r, groups) =>
    match r.matchAt? false ⟨[], text, []⟩ with
    | some m =>
      pure (if 0 < groups then (m.groups.lookup 1).getD [] else Bytes.ofNat m.text.length)
    | none => pure (if 0 < groups then [] else ['0'])

/-- The part of a text from a position on, counted from one. -/
def part (text start length : Bytes) : Bytes :=
  match integer? start, integer? length with
  | some s, some n => if s < 1 || n < 1 then [] else (text.drop (s.toNat - 1)).take n.toNat
  | _, _ => []

/-- The first position at which one of some characters stands, counted from one, or zero. -/
def position (text characters : Bytes) : Nat :=
  let front := text.takeWhile fun c => !characters.contains c
  if front.length = text.length then 0 else front.length + 1

/-- Whether two values compare as an operator says; absent if it is none. -/
def compares? (o a b : Bytes) : Option Bool :=
  let order := match integer? a, integer? b with
    | some m, some n => compare m n
    | _, _ => if a = b then .eq else if a < b then .lt else .gt
  match String.ofList o with
  | "<" => some (order == .lt)
  | "<=" => some (order != .gt)
  | "=" => some (order == .eq)
  | "==" => some (order == .eq)
  | "!=" => some (order != .eq)
  | ">=" => some (order != .lt)
  | ">" => some (order == .gt)
  | _ => none

/-- The value of an operation on integers; absent if there is no such operator. -/
def calculated? (o : Bytes) (a b : Int) : Option (Except Flaw Int) :=
  match o with
  | ['+'] => some (.ok (a + b))
  | ['-'] => some (.ok (a - b))
  | ['*'] => some (.ok (a * b))
  | ['/'] => some (if b = 0 then .error .divisionByZero else .ok (a.tdiv b))
  | ['%'] => some (if b = 0 then .error .divisionByZero else .ok (a.tmod b))
  | _ => none

/-- How tightly an operator binds; absent if it is none. -/
def strength? (o : Bytes) : Option Nat :=
  match String.ofList o with
  | "|" => some 0
  | "&" => some 1
  | "<" => some 2
  | "<=" => some 2
  | "=" => some 2
  | "==" => some 2
  | "!=" => some 2
  | ">=" => some 2
  | ">" => some 2
  | "+" => some 3
  | "-" => some 3
  | "*" => some 4
  | "/" => some 4
  | "%" => some 4
  | ":" => some 5
  | _ => none

/-- The value of an operation. -/
def applied (o a b : Bytes) : Evaluation Bytes := do
  if o = ['|'] then pure (if !isNothing a then a else if !isNothing b then b else ['0'])
  else if o = ['&'] then pure (if isNothing a || isNothing b then ['0'] else a)
  else if o = [':'] then matched a b
  else
    match compares? o a b with
    | some yes => pure [if yes then '1' else '0']
    | none =>
      match integer? a, integer? b with
      | some m, some n =>
        match calculated? o m n with
        | some (.ok v) => pure (Bytes.ofInt v)
        | some (.error f) => throw f
        | none => pure []
      | _, _ => throw .notAnInteger

mutual

/-- An expression whose operators bind at least as tightly as asked for. -/
def binary (fuel : Nat) (least : Nat) : Evaluation Bytes :=
  match fuel with
  | 0 => pure []
  | fuel + 1 => do binaryRest fuel least (← unary fuel)

/-- What follows the first operand of an expression. -/
def binaryRest (fuel : Nat) (least : Nat) (a : Bytes) : Evaluation Bytes :=
  match fuel with
  | 0 => pure a
  | fuel + 1 => do
    match ← peek with
    | none => pure a
    | some o =>
      match strength? o with
      | none => pure a
      | some n =>
        if n < least then pure a
        else
          let _ ← take
          let b ← binary fuel (n + 1)
          binaryRest fuel least (← applied o a b)

/-- An operand. -/
def unary (fuel : Nat) : Evaluation Bytes :=
  match fuel with
  | 0 => pure []
  | fuel + 1 => do
    let a ← take
    if a = ['+'] then take
    else if a = ['('] then
      let v ← binary fuel 0
      let s ← get
      match s.rest with
      | [')'] :: rest =>
        set (⟨[')'], rest⟩ : Reader)
        pure v
      | [] => throw (.missingClosing s.last)
      | b :: _ => throw (.missingClosing (if s.last.isEmpty then b else s.last))
    else if a = [')'] then throw .unexpectedClosing
    else if a = "length".toList then do pure (Bytes.ofNat (← unary fuel).length)
    else if a = "match".toList then
      let text ← unary fuel
      matched text (← unary fuel)
    else if a = "index".toList then
      let text ← unary fuel
      pure (Bytes.ofNat (position text (← unary fuel)))
    else if a = "substr".toList then
      let text ← unary fuel
      let start ← unary fuel
      pure (part text start (← unary fuel))
    else pure a

end

/-- The value of an expression. -/
def evaluate (args : List Bytes) : Except Flaw Bytes := do
  let (v, s) ← (binary (4 * args.length + 4) 0).run ⟨[], args⟩
  match s.rest with
  | [] => .ok v
  | a :: _ => .error (.unexpected a)

end Expression

/-- Writes the value of an expression. -/
def expr (c : Call) : Routine Nat := do
  let args := match c.arguments with
    | ['-', '-'] :: rest => rest
    | args => args
  if args.isEmpty then c.misused "missing operand".toList 2
  else
    match Expression.evaluate args with
    | .error f => c.fail f.message 2
    | .ok v =>
      c.put (v ++ ['\n'])
      pure (if Expression.isNothing v then 1 else 0)

end Scratchpad.Utility
