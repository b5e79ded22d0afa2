import Scratchpad.Machine.Request
import Scratchpad.Shell.Arithmetic

/-!
# Conditions

The conditions that `test` knows: on texts, on numbers and on files, joined by `-o`, `-a`, `!` and
parentheses. Which words are operators depends on the words after them, so that any text can be an
operand.
-/

namespace Scratchpad.Shell

open Scratchpad.Machine

namespace Condition

/-- What a word means in a condition. -/
inductive Symbol where
  | unary (o : Char)
  | binary (o : Bytes)
  | not
  | and
  | or
  | opening
  | closing
  | operand
  | nothing
  deriving DecidableEq, Repr

/-- The operators with one operand. -/
def unaries : Bytes := "rwxefdcbpugkstOGhLSnz".toList

/-- The operators with two operands. -/
def binaries : List Bytes :=
  ["=", "!=", "<", ">", "-eq", "-ne", "-gt", "-ge", "-lt", "-le", "-nt", "-ot", "-ef"].map
    String.toList

/-- The operator that a word is, wherever it stands. -/
def operator? (w : Bytes) : Option Symbol :=
  match w with
  | ['-', 'a'] => some .and
  | ['-', 'o'] => some .or
  | ['-', c] => if unaries.contains c then some (.unary c) else none
  | ['!'] => some .not
  | ['('] => some .opening
  | [')'] => some .closing
  | w => if binaries.contains w then some (.binary w) else none

/-- Whether a word is an operator with two operands. -/
def isBinary (w : Bytes) : Bool := binaries.contains w

/-- Whether the first word would be an operator with one operand, but is one itself: nothing follows
it, or an operator with two operands does. -/
def isOperand : List Bytes → Bool
  | [_] => true
  | [_, _] => false
  | _ :: o :: _ => isBinary o
  | [] => false

/-- What the first word means. -/
def symbol (ws : List Bytes) : Symbol :=
  match ws with
  | [] => .nothing
  | w :: rest =>
    match operator? w with
    | some (.unary c) => if isOperand ws then .operand else .unary c
    | some .opening => if rest.isEmpty then .operand else .opening
    | some o => o
    | none => .operand

/-- Evaluating a condition: the exception is why it is none, and the state is the words from the
last one on that was looked at. -/
abbrev Test := ExceptT Bytes (StateT (List Bytes) Routine)

/-- Asks the system for something. -/
def ask (r : Request) : Test r.Reply := fun ws k => Routine.ask r fun a => k (.ok a, ws)

/-- Goes one word on, and tells what it means. -/
def advance : Test Symbol := do
  modify List.tail
  pure (symbol (← get))

/-- The word that is looked at. -/
def current : Test (Option Bytes) := do pure (← get).head?

/-- Fails because of an operator. -/
def fail {α : Type} (o : Bytes) (what : String) : Test α :=
  throw ((if o.isEmpty then [] else o ++ ": ".toList) ++ what.toList)

/-- The integer that a word stands for. -/
def integer (w : Bytes) : Test Int := do
  let cs := w.dropWhile Arithmetic.isBlank
  let (negative, digits) := match cs with
    | '-' :: ds => (true, ds)
    | '+' :: ds => (false, ds)
    | ds => (false, ds)
  let n := digits.takeWhile Char.isDigit
  let value : Int := Arithmetic.valueOf 10 n
  let value := if negative then -value else value
  if n.isEmpty || !(digits.drop n.length).all Arithmetic.isBlank ||
      value < Arithmetic.smallest || Arithmetic.largest < value then
    throw ("Illegal number: ".toList ++ w)
  else pure value

/-- Whether a condition on one file holds. -/
def file (o : Char) (n : Node) : Bool :=
  match o, n with
  | 'e', _ => true
  | 'r', _ => true
  | 'w', _ => true
  | 'O', _ => true
  | 'G', _ => true
  | 'x', n => n.isExecutable || n == .directory
  | 'd', .directory => true
  | 'f', .file _ _ => true
  | 'f', .utility _ => true
  | 'c', .device _ => true
  | 'p', .pipe => true
  | 's', .file content _ => !content.isEmpty
  | 's', .utility _ => true
  | 's', .directory => true
  | _, _ => false

/-- Whether a condition with one operand holds. -/
def unary (o : Char) (w : Bytes) : Test Bool := do
  match o with
  | 'n' => pure !w.isEmpty
  | 'z' => pure w.isEmpty
  | 't' => do
    let _ ← integer w
    pure false
  | o =>
    match ← ask (.look w) with
    | .ok n => pure (file o n)
    | .error _ => pure false

/-- Whether a condition with two operands holds. -/
def binary (a o b : Bytes) : Test Bool := do
  if o = ['='] then pure (a = b)
  else if o = ['!', '='] then pure (a ≠ b)
  else if o = ['<'] then pure (a < b)
  else if o = ['>'] then pure (b < a)
  else if o = "-ef".toList then ask (.isSame a b)
  else if o = "-nt".toList || o = "-ot".toList then pure false
  else do
    let m ← integer a
    let n ← integer b
    pure (if o = "-eq".toList then m = n
      else if o = "-ne".toList then m ≠ n
      else if o = "-gt".toList then n < m
      else if o = "-ge".toList then n ≤ m
      else if o = "-lt".toList then m < n
      else m ≤ n)

mutual

/-- A condition, or one of several. -/
def disjunction (fuel : Nat) (s : Symbol) : Test Bool :=
  match fuel with
  | 0 => pure false
  | fuel + 1 => do
    let a ← conjunction fuel s
    let ws ← get
    if symbol ws.tail = .or then do
      set (ws.drop 2)
      let b ← disjunction fuel (symbol (ws.drop 2))
      pure (a || b)
    else pure a

/-- A condition, or several at once. -/
def conjunction (fuel : Nat) (s : Symbol) : Test Bool :=
  match fuel with
  | 0 => pure false
  | fuel + 1 => do
    let a ← negation fuel s
    let ws ← get
    if symbol ws.tail = .and then do
      set (ws.drop 2)
      let b ← conjunction fuel (symbol (ws.drop 2))
      pure (a && b)
    else pure a

/-- A condition, or the contrary of one. -/
def negation (fuel : Nat) (s : Symbol) : Test Bool :=
  match fuel with
  | 0 => pure false
  | fuel + 1 => do
    if s = .not then do
      let ws ← get
      let next := symbol ws.tail
      if next ≠ .nothing then set ws.tail
      let a ← negation fuel next
      pure !a
    else primary fuel s

/-- A condition without other conditions in it, or one in parentheses. -/
def primary (fuel : Nat) (s : Symbol) : Test Bool :=
  match fuel with
  | 0 => pure false
  | fuel + 1 => do
    match s with
    | .nothing => pure false
    | .opening => do
      let next ← advance
      if next = .closing then pure false
      else do
        let a ← disjunction fuel next
        if (← advance) = .closing then pure a
        else throw "closing paren expected".toList
    | .unary o => do
      let _ ← advance
      match ← current with
      | none => fail ['-', o] "argument expected"
      | some w => unary o w
    | _ => do
      let ws ← get
      match symbol ws.tail with
      | .binary o => do
        set (ws.drop 2)
        match ← current with
        | none => fail o "argument expected"
        | some b => binary (ws.headD []) o b
      | _ => pure !(ws.headD []).isEmpty

end

/-- Whether the condition that words make up holds, or its contrary if it is `negated`. Up to four
words are taken apart by their number first; of the marks of negation that are taken off there, only
one counts. -/
def evaluate (fuel : Nat) (negated : Bool) (ws : List Bytes) : Test Bool :=
  match fuel with
  | 0 => pure false
  | fuel + 1 => do
    let whole (s : Symbol) (ws : List Bytes) : Test Bool := do
      set ws
      let a ← disjunction (8 * ws.length + 8) s
      match ← get with
      | w :: _ :: _ => fail w "unexpected operator"
      | _ => pure (a != negated)
    let plain : Test Bool :=
      match ws.head?, ws.getLast? with
      | some ['('], some [')'] =>
        let inner := (ws.drop 1).dropLast
        whole (symbol inner) inner
      | some ['!'], _ => evaluate fuel true (ws.drop 1)
      | _, _ => whole (symbol ws) ws
    match ws with
    | [] => pure negated
    | [_, o, _] => if isBinary o then whole .operand ws else plain
    | [_, _, _, _] => plain
    | ws => whole (symbol ws) ws

/-- The status of `test`: zero if the condition in its words holds, and one if not. The exception is
why they are none. -/
def status (ws : List Bytes) : Routine (Except Bytes Nat) := do
  let (r, _) ← (evaluate (ws.length + 2) false ws).run []
  pure (r.map fun b => if b then 0 else 1)

end Condition

end Scratchpad.Shell
