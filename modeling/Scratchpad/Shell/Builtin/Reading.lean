import Scratchpad.Shell.Builtin.Basic
import Scratchpad.Shell.Field

/-!
# Reading lines and options

The command that reads a line into variables, and the one that goes through the options of
arguments.
-/

namespace Scratchpad.Shell

open Scratchpad.Machine

namespace Builtin

/-- Where a line that is read ends: after its own end, or after the whole input. A backslash joins
lines and protects characters, unless it means itself. -/
def lineOf (raw : Bool) : Routine (List Piece × Bool) :=
  Routine.loop Routine.patience (fun (s : List Piece × Bytes × Bool) => do
    let (pieces, current, slash) := s
    let closed := ⟨.separators, Sign.ofText false current.reverse⟩ :: pieces
    match ← Routine.ask (.read 0 1) with
    | .ok [c] =>
      if c = '\x00' then pure (.inl s)
      else if slash then
        pure (.inl
          (if c = '\n' then closed else ⟨.nowhere, [.char c true]⟩ :: closed, [], false))
      else if c = '\\' && !raw then pure (.inl (pieces, current, true))
      else if c = '\n' then pure (.inr (closed.reverse, true))
      else pure (.inl (pieces, c :: current, false))
    | _ => pure (.inr (closed.reverse, false)))
    (fun s => (s.1.reverse, false)) ([], [], false)

/-- Gives each name the next value, or nothing. -/
def assignEach : List Bytes → List Bytes → Action Unit
  | [], _ => pure ()
  | n :: ns, vs => do
    Action.assign n (vs.headD [])
    assignEach ns (vs.drop 1)

/-- Reads a line into variables. -/
def read (args : List Bytes) : Action Nat := do
  let (os, names) ← optionsOf "p:r" args
  if names.isEmpty then Action.fail "arg count".toList
  else
    let (pieces, ended) ← Action.lift (lineOf (os.any fun o => o.1 = 'r'))
    let values := fields (← get).separators (some names.length) pieces
    assignEach names (values.map Sign.text)
    pure (if ended then 0 else 1)

/-- The next option of some arguments: its letter, or a question mark or a colon if something is
wrong with it; and its own argument. -/
structure Found where
  letter : Char
  argument : Option Bytes
  index : Nat
  offset : Option Nat
  message : Bytes

/-- What follows an option among those that are known, if it is one of them. A colon after an option
tells that it takes an argument. -/
def afterOption? (c : Char) : Bytes → Option Bytes
  | [] => none
  | d :: ':' :: rest => if d = c then some (':' :: rest) else afterOption? c rest
  | d :: rest => if d = c then some rest else afterOption? c rest

/-- Looks for the next option. Absent if there is none; then the number tells where the others
begin. -/
def nextOption (known : Bytes) (args : List Bytes) (index : Nat) (offset : Option Nat) :
    Except Nat Found :=
  let quiet := known.head? = some ':'
  let before := (args[index - 2]?).getD []
  let inside := match offset with
    | some o => if 1 < index && o < before.length then before.drop o else []
    | none => []
  let start : Except Nat (Bytes × Nat) := match inside with
    | _ :: _ => .ok (inside, index)
    | [] =>
      match args[index - 1]? with
      | some ['-', '-'] => .error (index + 1)
      | some ('-' :: c :: cs) => .ok (c :: cs, index + 1)
      | _ => .error index
  match start with
  | .error n => .error n
  | .ok ([], n) => .error n
  | .ok (c :: cs, n) =>
    let word := (args[n - 2]?).getD []
    let offset := some (word.length - cs.length)
    match afterOption? c known with
    | none =>
      .ok ⟨'?', if quiet then some [c] else none, n, offset,
        if quiet then [] else "Illegal option -".toList ++ [c, '\n']⟩
    | some (':' :: _) =>
      if !cs.isEmpty then .ok ⟨c, some cs, n, none, []⟩
      else
        match args[n - 1]? with
        | some a => .ok ⟨c, some a, n + 1, none, []⟩
        | none =>
          if quiet then .ok ⟨':', some [c], n, none, []⟩
          else .ok ⟨'?', none, n, none, "No arg for -".toList ++ c :: " option\n".toList⟩
    | some _ => .ok ⟨c, some [], n, offset, []⟩

/-- Goes through the options of the arguments, one at a time. -/
def getopts (args : List Bytes) : Action Nat := do
  match ← plain args with
  | known :: name :: given =>
    let sh ← get
    let list := if given.isEmpty then sh.arguments else given
    let (index, offset) :=
      if list.length + 1 < sh.optionIndex then (1, none) else (sh.optionIndex, sh.optionOffset)
    let optind (n : Nat) : Action Unit := Action.assign "OPTIND".toList (Bytes.ofNat n)
    match nextOption known list index offset with
    | .error n =>
      optind n
      Action.assign name ['?']
      modify fun sh => { sh with optionIndex := n, optionOffset := none }
      pure 1
    | .ok f =>
      if !f.message.isEmpty then
        let _ ← Action.write 2 f.message
      match f.argument with
      | some a => Action.assign "OPTARG".toList a
      | none => modify fun sh => sh.remove "OPTARG".toList
      optind f.index
      Action.assign name [f.letter]
      modify fun sh => { sh with optionIndex := f.index, optionOffset := f.offset }
      pure 0
  | _ => Action.fail "Usage: getopts optstring var [arg...]".toList

end Builtin

end Scratchpad.Shell
