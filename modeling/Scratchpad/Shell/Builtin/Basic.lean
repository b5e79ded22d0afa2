import Scratchpad.Shell.State

/-!
# Commands of the shell

The names of the commands that the shell carries out itself, and what they have in common: options,
numbers, and texts in a form in which they can be read again.
-/

namespace Scratchpad.Shell

open Scratchpad.Machine

namespace Builtin

/-- The commands besides the special ones. -/
def regular : List Bytes :=
  ["alias", "bg", "cd", "chdir", "command", "false", "fg", "getopts", "jobs", "kill", "read",
    "true", "umask", "unalias", "wait", "[", "echo", "hash", "printf", "pwd", "test", "type",
    "ulimit"].map String.toList

/-- Whether a name is the one of a command of the shell. -/
def isKnown (name : Bytes) : Bool := specialCommands.contains name || regular.contains name

/-- The options at the front of arguments, each with its own argument if it takes one, and what is
left. In `known` a colon after a letter says that it takes one. -/
def options (known : String) (fuel : Nat) (args : List Bytes) :
    Action (List (Char × Bytes) × List Bytes) :=
  match fuel with
  | 0 => pure ([], args)
  | fuel + 1 =>
    match args with
    | ['-', '-'] :: rest => pure ([], rest)
    | ('-' :: c :: cs) :: rest => group fuel (c :: cs) rest
    | args => pure ([], args)
where
  takesArgument (c : Char) : Option Bool :=
    match known.toList.dropWhile (· != c) with
    | [] => none
    | _ :: ':' :: _ => some true
    | _ => some false
  group (fuel : Nat) (cs : Bytes) (rest : List Bytes) :
      Action (List (Char × Bytes) × List Bytes) :=
    match fuel with
    | 0 => pure ([], rest)
    | fuel + 1 =>
      match cs with
      | [] => options known fuel rest
      | c :: cs =>
        match (if c = ':' then none else takesArgument c) with
        | none => Action.fail ("Illegal option -".toList ++ [c])
        | some false => do
          let (os, args) ← group fuel cs rest
          pure ((c, []) :: os, args)
        | some true =>
          match cs, rest with
          | _ :: _, _ => do
            let (os, args) ← options known fuel rest
            pure ((c, cs) :: os, args)
          | [], a :: rest => do
            let (os, args) ← options known fuel rest
            pure ((c, a) :: os, args)
          | [], [] => Action.fail ("No arg for -".toList ++ c :: " option".toList)

/-- The options at the front of arguments. -/
def optionsOf (known : String) (args : List Bytes) : Action (List (Char × Bytes) × List Bytes) :=
  options known ((args.map fun a => a.length + 2).foldr (· + ·) 2) args

/-- The arguments without a mark that ends options. -/
def plain (args : List Bytes) : Action (List Bytes) := do pure (← optionsOf "" args).2

/-- The number, zero or more, that a text stands for, with blanks around it; absent if there is
none. -/
def number? (text : Bytes) : Option Nat :=
  let cs := text.dropWhile Arithmetic.isBlank
  let (sign, rest) := match cs with
    | '-' :: r => (true, r)
    | '+' :: r => (false, r)
    | r => (false, r)
  let digits := rest.takeWhile Char.isDigit
  let n := (Bytes.toNat? digits).getD 0
  if digits.isEmpty || !(rest.drop digits.length).all Arithmetic.isBlank || 2147483647 < n ||
      (sign && n != 0) then none
  else some n

/-- The number that an argument has to be. -/
def number (text : Bytes) : Action Nat :=
  match number? text with
  | some n => pure n
  | none => Action.fail ("Illegal number: ".toList ++ text)

/-- A text in quotes, so that it can be read again. -/
def quoted (text : Bytes) : Bytes := go (text.length + 1) text
where
  go (fuel : Nat) (cs : Bytes) : Bytes :=
    match fuel with
    | 0 => []
    | fuel + 1 =>
      let front := cs.takeWhile (· != '\'')
      let quotes := (cs.drop front.length).takeWhile (· == '\'')
      let rest := cs.drop (front.length + quotes.length)
      '\'' :: front ++ ['\''] ++ (if quotes.isEmpty then [] else '"' :: quotes ++ ['"']) ++
        (if rest.isEmpty then [] else go fuel rest)

/-- The list of some variables, each in a form in which it can be read again. -/
def listing (mark : Bytes) (vs : List Variable) : Bytes :=
  (vs.mergeSort fun v w => !(w.name < v.name)).flatMap fun v =>
    (if mark.isEmpty then [] else mark ++ [' ']) ++ v.name ++
      (match v.value with
        | some value => '=' :: quoted value
        | none => []) ++ ['\n']

/-- Puts the words of a text after each other. -/
def spaced (words : List Bytes) : Bytes := (words.intersperse [' ']).flatten

end Builtin

end Scratchpad.Shell
