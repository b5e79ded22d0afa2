import Scratchpad.Shell.Builtin.Basic
import Scratchpad.Text.Split

/-!
# Variables, options and arguments

The commands that mark, hide, remove and show variables, and those that set the options and
arguments of the shell.
-/

namespace Scratchpad.Shell

open Scratchpad.Machine Scratchpad.Text

namespace Builtin

/-- Marks variables as handed to programs, or as not to be changed. -/
def markVariables (name : Bytes) (args : List Bytes) : Action Nat := do
  let (os, names) ← optionsOf "p" args
  let constant := name = "readonly".toList
  if !os.isEmpty || names.isEmpty then
    let sh ← get
    Action.put (listing name (sh.bindings.filter fun v =>
      if constant then v.constant else v.exported))
    pure 0
  else
    Action.forEach names fun a => do
      let (n, value) := match cutAt? '=' a with
        | some (n, v) => (n, some v)
        | none => (a, none)
      match value with
      | some v => Action.assign n v
      | none =>
        if isName n then pure ()
        else Action.fail (n ++ ": bad variable name".toList)
      modify fun sh =>
        let v := sh.binding n
        sh.put (if constant then { v with constant := true } else { v with exported := true })
    pure 0

/-- Makes a variable local: what it was comes back at the end. -/
def hide (name : Bytes) : Action Unit := modify fun sh =>
  match sh.hidden with
  | frame :: frames =>
    if frame.any fun e => e.1 = name then sh
    else { sh with hidden := ((name, sh.lookUp? name) :: frame) :: frames }
  | [] => sh

/-- Makes variables local to a function. -/
def makeLocal (args : List Bytes) : Action Nat := do
  if (← get).hidden.isEmpty then Action.fail "not in a function".toList
  else
    Action.forEach args fun a => do
      if a = ['-'] then
        modify fun sh => match sh.hidden with
          | frame :: frames =>
            { sh with hidden := ((a, some ⟨a, some sh.options, false, false⟩) :: frame) :: frames }
          | [] => sh
      else
        let (n, value) := match cutAt? '=' a with
          | some (n, v) => (n, some v)
          | none => (a, none)
        if !isName n then Action.fail (n ++ ": bad variable name".toList)
        else
          hide n
          match value with
          | some v => Action.assign n v
          | none => modify fun sh => sh.put (sh.binding n)
    pure 0

/-- Brings back what local variables hid. -/
def unhide : Action Unit := modify fun sh =>
  match sh.hidden with
  | [] => sh
  | frame :: frames =>
    frame.foldl (fun sh e =>
      if e.1 = ['-'] then { sh with options := ((e.2.bind Variable.value).getD []) }
      else
        match e.2 with
        | some v => sh.put v
        | none => sh.remove e.1) { sh with hidden := frames }

/-- Removes variables or functions. -/
def unset (args : List Bytes) : Action Nat := do
  let (os, names) ← optionsOf "vf" args
  let functions := (os.getLast?.map Prod.fst) = some 'f'
  Action.forEach names fun n => do
    let sh ← get
    if functions then set { sh with functions := sh.functions.filter fun f => f.1 != n }
    else if !isName n then Action.fail (n ++ ": bad variable name".toList)
    else if sh.isConstant n then Action.fail (n ++ ": is read only".toList)
    else set (sh.remove n)
  pure 0

/-- Complains that there is no terminal from which jobs could be controlled. -/
def lackTerminal : Action Unit :=
  Action.complain "can't access tty; job control turned off".toList

/-- Sets one option by its letter. -/
def setOption (c : Char) (on : Bool) : Action Unit := do
  if c = 'm' && on then lackTerminal
  else if State.optionLetters.contains c then modify fun sh => sh.withOption c on
  else Action.fail ("Illegal option -".toList ++ [c])

/-- Sets one option by its name; without a name, shows them all. -/
def setLongOption (name : Option Bytes) (on : Bool) : Action Unit := do
  let sh ← get
  let isOn (o : String × Option Char) : Bool := o.2.any sh.has
  match name with
  | none =>
    Action.put (if on then
      "Current option settings\n".toList ++ State.optionNames.flatMap fun o =>
        o.1.toList ++ List.replicate (16 - o.1.length) ' ' ++
          (if isOn o then "on\n" else "off\n").toList
    else State.optionNames.flatMap fun o =>
      (if isOn o then "set -o " else "set +o ").toList ++ o.1.toList ++ ['\n'])
  | some name =>
    match State.optionNames.find? fun o => o.1.toList = name with
    | none => Action.fail ("Illegal option -o ".toList ++ name)
    | some (_, none) => pure ()
    | some (_, some c) => setOption c on

/-- Sets the options of one argument, after its sign. The answer tells whether the next argument was
taken. -/
def setGroup (on : Bool) (cs : Bytes) (rest : List Bytes) : Action (List Bytes) :=
  match cs with
  | [] => pure rest
  | c :: cs => do
    if c = 'o' then
      setLongOption rest.head? on
      setGroup on cs (rest.drop 1)
    else
      setOption c on
      setGroup on cs rest

/-- Sets options and arguments. -/
def setArguments (fuel : Nat) (args : List Bytes) : Action Unit :=
  match fuel with
  | 0 => pure ()
  | fuel + 1 =>
    match args with
    | [] => pure ()
    | ['-'] :: rest => do
      modify fun sh => (sh.withOption 'x' false).withOption 'v' false
      if rest.isEmpty then pure () else replace rest
    | ['-', '-'] :: rest => replace rest
    | ('-' :: cs) :: rest => do setArguments fuel (← setGroup true cs rest)
    | ('+' :: cs) :: rest => do setArguments fuel (← setGroup false cs rest)
    | args => replace args
where
  replace (args : List Bytes) : Action Unit := modify fun sh =>
    { sh with arguments := args, optionIndex := 1, optionOffset := none }

/-- Sets options and arguments; without any, shows the variables. -/
def setOptions (args : List Bytes) : Action Nat := do
  if args.isEmpty then
    Action.put (listing [] ((← get).bindings.filter fun v => v.value.isSome))
  else setArguments (args.length + 1) args
  pure 0

/-- Drops arguments. -/
def shift (args : List Bytes) : Action Nat := do
  let n ← match args.head? with
    | none => pure 1
    | some a => number a
  let sh ← get
  if sh.arguments.length < n then Action.fail "can't shift that many".toList
  else
    set { sh with
      arguments := sh.arguments.drop n
      optionIndex := 1
      optionOffset := none }
    pure 0

end Builtin

end Scratchpad.Shell
