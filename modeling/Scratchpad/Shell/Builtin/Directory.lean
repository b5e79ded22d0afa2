import Scratchpad.Shell.Builtin.Basic
import Scratchpad.Text.Split

/-!
# The working directory

The commands that change and show the directory from which paths start.
-/

namespace Scratchpad.Shell

open Scratchpad.Machine Scratchpad.Text

namespace Builtin

/-- The path of a place. -/
def pathOf (p : Place) : Bytes := if p.isEmpty then ['/'] else p.flatMap fun n => '/' :: n

/-- The slashes at the start of a path from the root that stay as they are: two of them, and one of
any other number. -/
def rootOf : Bytes → Bytes
  | '/' :: '/' :: '/' :: _ => ['/']
  | '/' :: '/' :: _ => ['/', '/']
  | _ => ['/']

/-- A path from the root without dots, as far as that can be told from the path alone. -/
def plainPath (directory path : Bytes) : Bytes :=
  let relative := path.head? != some '/'
  let parts := ((if relative then directory ++ '/' :: path else path).splitOn '/').foldl
    (fun parts part =>
      if part.isEmpty || part = ['.'] then parts
      else if part = ['.', '.'] then parts.drop 1
      else part :: parts) []
  rootOf (if relative then directory else path) ++ (parts.reverse.intersperse ['/']).flatten

/-- Goes to a directory. Its path is `shown` if there is none; `physical` tells that it is to be
known by its own place and not by the path that led to it. -/
def enter (physical : Bool) (path shown : Bytes) : Action Unit := do
  let old := (← get).directory
  let path := if physical then path else plainPath old path
  match ← Action.ask (.enter path) with
  | .error _ => Action.fail ("can't cd to ".toList ++ shown)
  | .ok _ =>
    let directory ← if physical then do pure (pathOf (← Action.ask .here)) else pure path
    Action.assign "OLDPWD".toList old
    modify fun sh =>
      { sh with directory, found := sh.found.map fun f => { f with stale := true } }
    Action.assign "PWD".toList directory
    modify fun sh =>
      let sh := sh.put { sh.binding "OLDPWD".toList with exported := true }
      sh.put { sh.binding "PWD".toList with exported := true }

/-- The directory in which a name is a directory, among those of a search path; whether it is one
that the path names. -/
def lookThrough (name : Bytes) : List Bytes → Action (Option (Bytes × Bool))
  | [] => pure none
  | d :: ds => do
    let path := if d.isEmpty then name else d ++ '/' :: name
    match ← Action.ask (.look path) with
    | .ok .directory => pure (some (path, !d.isEmpty))
    | _ => lookThrough name ds

/-- Whether the last of some options that say how directories are known is the one for their own
places. -/
def isPhysical (os : List (Char × Bytes)) : Bool := os.getLast?.any fun o => o.1 = 'P'

/-- Changes the working directory. -/
def cd (args : List Bytes) : Action Nat := do
  let (os, args) ← optionsOf "LP" args
  let physical := isPhysical os
  let sh ← get
  let (target, told) := match args.head? with
    | none => (sh.get "HOME", false)
    | some ['-'] => (sh.get "OLDPWD", true)
    | some a => (a, false)
  let first := (target.splitOn '/').headD []
  let told ←
    if target.head? = some '/' || first = ['.'] || first = ['.', '.'] then do
      enter physical target target
      pure told
    else
      let target := if target.isEmpty then ['.'] else target
      match ← (match sh.get? "CDPATH".toList with
        | some path => lookThrough target (path.splitOn ':')
        | none => pure none) with
      | some (path, named) => do
        enter physical path target
        pure (told || named)
      | none => do
        enter physical target target
        pure told
  if told then Action.put ((← get).directory ++ ['\n'])
  pure 0

/-- Writes the working directory. -/
def pwd (args : List Bytes) : Action Nat := do
  let (os, _) ← optionsOf "LP" args
  let directory ←
    if isPhysical os then do pure (pathOf (← Action.ask .here)) else do pure (← get).directory
  Action.put (directory ++ ['\n'])
  pure 0

end Builtin

end Scratchpad.Shell
