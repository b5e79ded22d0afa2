import Scratchpad.Arguments.Invocation
import Scratchpad.Command.Script
import Scratchpad.Execution.Service

/-!
# Running a script once

The command takes a snippet as it is, or a script from a file, runs it, and prints the result.
-/

namespace Scratchpad.Command

open Scratchpad.Arguments Scratchpad.Execution

/-- Why nothing was run. -/
inductive RunProblem where
  /-- Neither a snippet nor a file was given. -/
  | nothingToRun
  | script (p : ScriptProblem)
  deriving DecidableEq, Repr

/-- What is reported for a problem. -/
def RunProblem.report : RunProblem → Report
  | nothingToRun => ⟨"Provide a script file or --eval CODE", none⟩
  | script p => p.report

/-- The snippet to run: the one that was given, or else the script in the file that was given. -/
def sourceOf {σ : Type} (host : Host σ) (options : RunOptions) (s : σ) : Except RunProblem String :=
  match options.code, options.file with
  | some code, _ => .ok code
  | none, some path => (readScript host path s).mapError .script
  | none, none => .error .nothingToRun

/-- A result in the form that was asked for. -/
def shown (json colour : Bool) (r : Result) : String :=
  if json then r.toJson.text ++ "\n" else String.ofList (r.printed colour)

/-- Runs what the options ask for. The answer is the exit status and the text that is printed. -/
def run {σ : Type} (host : Host σ) (service : Service) (options : RunOptions) (colour : Bool)
    (s : σ) : Except RunProblem (Nat × String) × σ :=
  match sourceOf host options s with
  | .error p => (.error p, s)
  | .ok source =>
    let (result, s) := service.execute host source s
    (.ok (result.exitStatus, shown options.json colour result), s)

/-- A snippet is run as it was given, whatever file comes with it. -/
@[simp] theorem sourceOf_code {σ : Type} (host : Host σ) (s : σ) (file : Option String)
    (code : String) (json : Bool) : sourceOf host ⟨file, some code, json⟩ s = .ok code := rfl

end Scratchpad.Command
