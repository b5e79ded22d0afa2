import Scratchpad.Json
import Scratchpad.Terminal.Colour

/-!
# Results of an execution

What is left when a snippet has been run: the output, whether it counts as an error, and an exit
code. When no program ran, or none produced a status, the exit code is `noExitCode` and the output
tells why.
-/

namespace Scratchpad.Execution

/-- The exit code that stands for the absence of one. -/
def noExitCode : Int := -1

/-- Why an execution could not be carried out. -/
inductive Problem where
  /-- No interpreter was found. -/
  | notInstalled
  /-- The program could not be started. -/
  | notStarted (cause : String)
  /-- The program ran, but its output could not be collected. -/
  | notCaptured (cause : String)
  deriving DecidableEq, Repr

/-- The text that is shown for a problem. -/
def Problem.message : Problem → String
  | notInstalled => "Error: PHP is not installed on this system."
  | notStarted cause => "Execution error: " ++ cause
  | notCaptured cause => "Execution error: failed to capture output: " ++ cause

/-- How a result that is no success is classified. -/
inductive Failure where
  /-- The result has no exit code. -/
  | notRun
  /-- The program exited with this status, which is not zero. -/
  | nonZeroExit (status : Int)
  deriving DecidableEq, Repr

/-- The result of one execution. -/
structure Result where
  output : String
  isError : Bool
  exitCode : Int
  deriving DecidableEq, Repr

namespace Result

/-- The result of a program that ran to its end. -/
def completed (output : String) (exitCode : Int) : Result := ⟨output, exitCode != 0, exitCode⟩

/-- The result that stands for a problem. -/
def ofProblem (p : Problem) : Result := ⟨p.message, true, noExitCode⟩

/-- The classification of a result, read off its exit code. -/
def failure? (r : Result) : Option Failure :=
  if r.exitCode = 0 then none
  else if r.exitCode = noExitCode then some .notRun
  else some (.nonZeroExit r.exitCode)

/-- The status with which a command line program reports a result: the exit code if it fits into a
byte, else one. -/
def exitStatus (r : Result) : Nat :=
  if 0 ≤ r.exitCode ∧ r.exitCode ≤ 255 then r.exitCode.toNat else 1

/-- A result as it is printed: the output, in red if asked for and it is an error, and a line feed
unless the output is empty or ends in one. -/
def printed (colour : Bool) (r : Result) : List Char :=
  let text := r.output.toList
  let body := if colour && r.isError then Terminal.painted (some .red) text else text
  if text.isEmpty || text.getLast? = some '\n' then body else body ++ ['\n']

/-- A result as a JSON value. -/
def toJson (r : Result) : Json.Value :=
  .object [("output", .string r.output), ("is_error", .bool r.isError),
    ("exit_code", .int r.exitCode)]

@[simp] theorem completed_isError (output : String) (code : Int) :
    (completed output code).isError = true ↔ code ≠ 0 := by
  simp [completed]

@[simp] theorem failure?_eq_none_iff (r : Result) : r.failure? = none ↔ r.exitCode = 0 := by
  by_cases h : r.exitCode = 0
  · simp [failure?, h]
  · by_cases h' : r.exitCode = noExitCode <;> simp [failure?, h, h']

/-- The exit status always fits into a byte. -/
theorem exitStatus_le (r : Result) : r.exitStatus ≤ 255 := by
  unfold exitStatus
  split <;> omega

end Result

end Scratchpad.Execution
