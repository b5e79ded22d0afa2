import Scratchpad.Utility.Lines
import Scratchpad.Utility.Surroundings

/-!
# Utilities that run programs

Those that run a program for a limited time or unheard, and those that find programs.
-/

namespace Scratchpad.Utility

open Scratchpad.Machine Scratchpad.Execution Scratchpad.Text

/-- Becomes the program that is run, or ends with a message. -/
def becomeCommand (c : Call) (name : Bytes) (args : List Bytes) : Routine Nat := do
  let f ← become name args c.environment
  c.fail ("failed to run command ".toList ++ cited name ++ ": ".toList ++ f.text.toList)
    (if f = .noEntry then 127 else 126)

/-- Ends the process by a signal. -/
def endBy (s : Signal) : Routine Nat := do
  let (me, _) ← Routine.ask .identity
  Routine.ask (.react s .usual)
  let _ ← Routine.ask (.signal me s)
  pure (128 + s)

/-- Runs a program, and sends it a signal when its time is late. -/
def timeout (c : Call) : Routine Nat := do
  let (os, args) ← c.options (.before "fk:ps:v"
    [("foreground", 'f'), ("kill-after", 'k'), ("preserve-status", 'p'), ("signal", 's'),
      ("verbose", 'v')]) 125
  let time (text : Bytes) : Routine Nat :=
    match duration? text with
    | some t => pure t
    | none => c.misused ("invalid time interval ".toList ++ cited text) 125
  let later ← match lastOf os 'k' with
    | none => pure none
    | some text => do pure (some (← time text))
  let signal ← match lastOf os 's' with
    | none => pure 15
    | some text =>
      match Signal.ofText? text with
      | some s => pure s
      | none => c.misused (cited text ++ ": invalid signal".toList) 125
  match args with
  | limit :: name :: args =>
    let limit ← time limit
    let child ← Routine.fork (becomeCommand c name args)
    let deadline := (← Routine.ask .time) + limit
    let watcher ← if limit = 0 then pure none
      else do
        let id ← Routine.fork do
          Routine.ask (.sleepUntil deadline)
          if given os 'v' then
            c.complain ("sending signal ".toList ++ signal.name ++ " to command ".toList ++
              cited name)
          let _ ← Routine.ask (.signal child signal)
          let _ ← Routine.ask (.signal child 18)
          match later with
          | none => pure 0
          | some t =>
            Routine.ask (.sleepUntil (deadline + t))
            let _ ← Routine.ask (.signal child 9)
            pure 0
        pure (some id)
    let r ← Routine.ask (.await (some [child]) .untilEnd)
    let late := limit != 0 && deadline ≤ (← Routine.ask .time)
    match watcher with
    | none => pure ()
    | some id =>
      let _ ← Routine.ask (.signal id 9)
      let _ ← Routine.ask (.await (some [id]) .untilEnd)
    match r with
    | .ended _ (.exited n) => pure (if late && !given os 'p' then 124 else n)
    | .ended _ (.killed s) =>
      if !late || s = 9 then endBy s
      else pure (if given os 'p' then 128 + s else 124)
    | _ => pure 125
  | _ => c.refuse 125

/-- Runs a program that does not hear when its terminal goes away. -/
def nohup (c : Call) : Routine Nat := do
  let (_, args) ← c.options (.before "" []) 125
  match args with
  | [] => c.misused "missing operand".toList 125
  | name :: args =>
    Routine.ask (.react 1 .ignored)
    becomeCommand c name args

/-- Shows where programs are found. -/
def which (c : Call) : Routine Nat := do
  let (os, names) ← c.options (.before "as" []) 2
  let directories := ((c.environment.lookup "PATH".toList).getD []).splitOn ':'
  if names.isEmpty then pure 1
  else
    each (given os 'a') directories 0 names
where
  found (name : Bytes) : List Bytes → Routine (List Bytes)
    | [] => pure []
    | d :: ds => do
      let path := (if d.isEmpty then ['.'] else d) ++ '/' :: name
      match ← Routine.ask (.look path) with
      | .ok n => do
        let more ← found name ds
        pure (if n.isExecutable then path :: more else more)
      | .error _ => found name ds
  each (all : Bool) (directories : List Bytes) (status : Nat) : List Bytes → Routine Nat
    | [] => pure status
    | name :: names => do
      let paths ←
        if name.contains '/' then do
          match ← Routine.ask (.look name) with
          | .ok n => pure (if n.isExecutable then [name] else [])
          | .error _ => pure []
        else found name directories
      c.put ((if all then paths else paths.take 1).flatMap (· ++ ['\n']))
      each all directories (if paths.isEmpty then 1 else status) names

end Scratchpad.Utility
