import Scratchpad.Shell.Builtin.Basic
import Scratchpad.Shell.Grammar
import Scratchpad.Text.Split

/-!
# What names mean

Where programs are found by their names, and the commands that tell and change what names mean.
-/

namespace Scratchpad.Shell

open Scratchpad.Machine Scratchpad.Text

namespace Builtin

/-- Shows or defines aliases. -/
def changeAliases (args : List Bytes) : Action Nat := do
  let sh ← get
  let shown (a : Bytes × Bytes) : Bytes := a.1 ++ '=' :: quoted a.2 ++ ['\n']
  if args.isEmpty then
    Action.put ((sh.aliases.mergeSort fun a b => !(b.1 < a.1)).flatMap shown)
    pure 0
  else
    args.foldlM (fun status a => do
      let sh ← get
      match a with
      | [] => missing a
      | c :: cs =>
        match cutAt? '=' cs with
        | some (n, v) =>
          let name := c :: n
          set { sh with aliases := (name, v) :: sh.aliases.filter fun a => a.1 != name }
          pure status
        | none =>
          match sh.aliases.lookup a with
          | some v =>
            Action.put (shown (a, v))
            pure status
          | none => missing a) 0
where
  missing (name : Bytes) : Action Nat := do
    let _ ← Action.write 2 ("alias: ".toList ++ name ++ " not found\n".toList)
    pure 1

/-- Removes aliases. -/
def unalias (args : List Bytes) : Action Nat := do
  let (os, names) ← optionsOf "a" args
  if !os.isEmpty then
    modify fun sh => { sh with aliases := [] }
    pure 0
  else
    names.foldlM (fun status n => do
      let sh ← get
      if (sh.aliases.lookup n).isSome then
        set { sh with aliases := sh.aliases.filter fun a => a.1 != n }
        pure status
      else
        let _ ← Action.write 2 ("unalias: ".toList ++ n ++ " not found\n".toList)
        pure 1) 0

/-- The path of a program that is looked for in the directories of a search path, and the fault if
there is none. -/
def search (name : Bytes) (fault : Fault) : List Bytes → Action (Except Fault Bytes)
  | [] => pure (.error fault)
  | d :: ds => do
    let path := if d.isEmpty then name else d ++ '/' :: name
    match ← Action.ask (.look path) with
    | .ok node => if node.isExecutable then pure (.ok path) else search name .denied ds
    | .error .noEntry => search name fault ds
    | .error .notDirectory => search name fault ds
    | .error f => search name f ds

/-- The directories in which programs are looked for. -/
def searchPath : Action (List Bytes) := do pure (((← get).get "PATH").splitOn ':')

/-- The path of a script that is looked for in the directories of a search path. -/
def script? (name : Bytes) : List Bytes → Action (Option Bytes)
  | [] => pure none
  | d :: ds => do
    let path := if d.isEmpty then name else d ++ '/' :: name
    match ← Action.ask (.look path) with
    | .ok (.file _ _) => pure (some path)
    | .ok (.utility _) => pure (some path)
    | _ => script? name ds

/-- How a fault is described when a program cannot be run. -/
def faultText (f : Fault) : Bytes :=
  if f = .noEntry || f = .notDirectory then "not found".toList else f.text.toList

/-- The status that stands for a fault when a program cannot be run. -/
def faultStatus (f : Fault) : Nat :=
  if f = .noEntry || f = .notDirectory || f = .nameTooLong || f = .tooManyLinks then 127 else 126

/-- Remembers no more where a program is. -/
def forget (name : Bytes) : Action Unit :=
  modify fun sh => { sh with found := sh.found.filter fun f => f.name != name }

/-- The path of a program that has no slash in its name; it is remembered. -/
def find (name : Bytes) : Action (Except Fault Bytes) := do
  let known := (← get).found.find? fun f => f.name = name
  match known.filter fun f => !f.stale || f.path.head? = some '/' with
  | some f =>
    modify fun sh => { sh with
      found := sh.found.map fun g => if g.name = name then { g with stale := false } else g }
    pure (.ok f.path)
  | none =>
    match ← search name .noEntry (← searchPath) with
    | .ok path =>
      modify fun sh => { sh with
        found := if known.isNone then sh.found ++ [⟨name, path, false⟩]
          else sh.found.map fun g => if g.name = name then ⟨name, path, false⟩ else g }
      pure (.ok path)
    | .error f =>
      forget name
      pure (.error f)

/-- Tells what a name means as a command. -/
def describe (long : Bool) (name : Bytes) : Action Nat := do
  let sh ← get
  let tell (text : String) : Action Nat := do
    Action.put (name ++ (if long then text.toList else []) ++ ['\n'])
    pure 0
  let missing : Action Nat := do
    if long then Action.put (name ++ ": not found\n".toList)
    pure 127
  let found (path : Bytes) (known : Bool) : Action Nat := do
    Action.put (if long then
      name ++ (if known then " is a tracked alias for " else " is ").toList ++ path ++ ['\n']
    else path ++ ['\n'])
    pure 0
  if reservedWords.contains name then tell " is a shell keyword"
  else
    match sh.aliases.lookup name with
    | some v =>
      Action.put (if long then name ++ " is an alias for ".toList ++ v ++ ['\n']
        else "alias ".toList ++ name ++ '=' :: quoted v ++ ['\n'])
      pure 0
    | none =>
      if sh.functions.any fun f => f.1 = name then tell " is a shell function"
      else if specialCommands.contains name then tell " is a special shell builtin"
      else if regular.contains name then tell " is a shell builtin"
      else if name.contains '/' then
        match ← Action.ask (.look name) with
        | .ok _ => found name false
        | .error _ => missing
      else
        match sh.found.find? fun f => f.name = name with
        | some f => found f.path true
        | none =>
          match ← search name .noEntry (← searchPath) with
          | .ok path => found path false
          | .error _ => missing

/-- Tells what names mean as commands. -/
def type (args : List Bytes) : Action Nat := do
  let names ← plain args
  names.foldlM (fun status n => do
    let s ← describe true n
    pure (if s = 0 then status else s)) 0

/-- Shows or changes which programs are remembered. -/
def hash (args : List Bytes) : Action Nat := do
  let (os, names) ← optionsOf "r" args
  if !os.isEmpty then
    modify fun sh => { sh with found := [] }
    pure 0
  else if names.isEmpty then
    let all := (← get).found.mergeSort fun f g => State.bucket 31 f.name ≤ State.bucket 31 g.name
    Action.put (all.flatMap fun f => f.path ++ (if f.stale then ['*'] else []) ++ ['\n'])
    pure 0
  else
    names.foldlM (fun status n => do
      if isKnown n || (← get).functions.any fun f => f.1 = n then pure status
      else
        forget n
        match ← find n with
        | .ok _ => pure status
        | .error f =>
          Action.complain (n ++ ": ".toList ++ faultText f)
          pure 1) 0

end Builtin

end Scratchpad.Shell
