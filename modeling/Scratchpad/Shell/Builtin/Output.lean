import Scratchpad.Shell.Builtin.Basic
import Scratchpad.Shell.Condition
import Scratchpad.Shell.Printf

/-!
# Writing and testing

The commands that write their arguments, and the one that tests a condition.
-/

namespace Scratchpad.Shell

open Scratchpad.Machine

namespace Builtin

/-- Writes its arguments. -/
def echo (args : List Bytes) : Action Nat := do
  Action.put (echoed args)
  pure 0

/-- Writes its arguments as a format says. -/
def printf (args : List Bytes) : Action Nat := do
  match ← plain args with
  | [] => Action.fail "usage: printf format [arg ...]".toList
  | format :: args =>
    let (fault, w) := printed .ofShell format args
    Action.forEach w.complaints fun c => Action.complain (c.1 ++ match c.2 with
      | .noNumber => ": expected numeric value".toList
      | .rest => ": not completely converted".toList
      | .tooLarge => ": Numerical result out of range".toList)
    Action.put w.text
    match fault with
    | some e =>
      Action.fail (if e.complete then e.text ++ ": invalid directive".toList
        else "missing format character".toList)
    | none => pure (if w.complaints.isEmpty then 0 else 1)

/-- Tests a condition. -/
def test (name : Bytes) (args : List Bytes) : Action Nat := do
  if name = ['['] && (args.getLast?.bind List.head?) != some ']' then Action.fail "missing ]".toList
  else
    let words := if name = ['['] then args.dropLast else args
    match ← Action.lift (Condition.status words) with
    | .ok n => pure n
    | .error e => Action.fail e

end Builtin

end Scratchpad.Shell
