import Scratchpad.Command.Run
import Scratchpad.Proofs.Execution.Capture

/-!
# The verdict on a run

Whether a run went well can be read off a result in four places: its error mark, its exit code, its
classification, and the status with which the command line reports it. `Result.Agrees` says that they
tell the same, and `Result.Reports` ties them to the status that the program ended with, if there was
one. A result is always put together by `Result.completed` or `Result.ofProblem`, and both agree.

The main statement is `reports_every_result`.
-/

namespace Scratchpad

open Scratchpad.Arguments Scratchpad.Execution

namespace Execution

/-- The status that a program ended with; a killed program has none. -/
def Ending.status? : Ending → Option Nat
  | exited status => some status
  | killed _ => none

/-- The status that an attempt to run a program came to, if it came to one. -/
def Launch.status? : Launch → Option Nat
  | notStarted _ => none
  | notCaptured _ => none
  | finished _ ending => ending.status?

/-- The status that a snippet ends with; there is none without an interpreter. -/
def Service.status? {σ : Type} (host : Host σ) (service : Service) (source : String) (s : σ) :
    Option Nat :=
  service.handle.bind fun handle =>
    (host.launch s handle.path [Interpreter.codeFlag, source]).1.status?

namespace Result

/-- All that a result tells of success is the same, and the status that it is reported with is its
exit code wherever this can be. -/
structure Agrees (r : Result) : Prop where
  isError_iff : r.isError = true ↔ r.exitCode ≠ 0
  failure_iff : r.failure?.isSome = true ↔ r.exitCode ≠ 0
  exitStatus_iff : r.exitStatus ≠ 0 ↔ r.exitCode ≠ 0
  exitStatus_le : r.exitStatus ≤ 255
  exitStatus_eq : 0 ≤ r.exitCode → r.exitCode ≤ 255 → (r.exitStatus : Int) = r.exitCode

/-- A result tells of the status that a program ended with, or that there was none. -/
structure Reports (r : Result) (status : Option Nat) : Prop where
  agrees : r.Agrees
  of_some : ∀ n, status = some n → r.exitCode = n
  of_none : status = none → r.exitCode = -1 ∧ r.exitStatus = 1

variable {r : Result}

theorem exitStatus_eq_zero_iff (r : Result) : r.exitStatus = 0 ↔ r.exitCode = 0 := by
  rw [exitStatus]
  split <;> omega

/-- A result whose error mark follows its exit code agrees in everything. -/
theorem agrees_of_isError_iff (h : r.isError = true ↔ r.exitCode ≠ 0) : r.Agrees := by
  refine ⟨h, ?_, (exitStatus_eq_zero_iff r).not, exitStatus_le r, ?_⟩
  · rw [Option.isSome_iff_ne_none, ne_eq, failure?_eq_none_iff]
  · intro hlow hhigh
    rw [exitStatus, if_pos ⟨hlow, hhigh⟩, Int.toNat_of_nonneg hlow]

/-- A program that ran to its end leaves a result that agrees, whatever its exit code. -/
theorem agrees_completed (output : String) (code : Int) : (completed output code).Agrees :=
  agrees_of_isError_iff (completed_isError output code)

theorem agrees_ofProblem (p : Problem) : (ofProblem p).Agrees :=
  agrees_of_isError_iff (by simp [ofProblem, noExitCode])

theorem reports_ofProblem (p : Problem) : (ofProblem p).Reports none :=
  ⟨agrees_ofProblem p, by simp, fun _ => ⟨rfl, rfl⟩⟩

end Result

theorem Ending.reports_completed (output : String) (ending : Ending) :
    (Result.completed output ending.exitCode).Reports ending.status? := by
  refine ⟨Result.agrees_completed output ending.exitCode, ?_, ?_⟩
  · intro n hn
    cases ending with
    | exited status =>
      obtain rfl := Option.some.inj hn
      rfl
    | killed signal => exact absurd hn (by simp [Ending.status?])
  · intro hnone
    cases ending with
    | exited status => exact absurd hnone (by simp [Ending.status?])
    | killed signal => exact ⟨rfl, rfl⟩

theorem Launch.reports_result (launch : Launch) : launch.result.Reports launch.status? := by
  cases launch with
  | notStarted cause => exact Result.reports_ofProblem _
  | notCaptured cause => exact Result.reports_ofProblem _
  | finished writes ending => exact ending.reports_completed (outputOf writes)

theorem Service.reports_execute {σ : Type} (host : Host σ) (service : Service) (source : String)
    (s : σ) : (service.execute host source s).1.Reports (service.status? host source s) := by
  obtain ⟨handle⟩ := service
  cases handle with
  | none => exact Result.reports_ofProblem _
  | some handle => exact Launch.reports_result _

/-- A result reports success exactly for a program that exited with status zero. -/
theorem Result.Reports.exitStatus_eq_zero_iff {r : Result} {status : Option Nat}
    (h : r.Reports status) : r.exitStatus = 0 ↔ status = some 0 := by
  rw [r.exitStatus_eq_zero_iff]
  cases status with
  | none => simp [(h.of_none rfl).1]
  | some n => simp [h.of_some n rfl]

end Execution

namespace Command

/-- The command ends with status zero exactly if there was something to run, and the program that ran
it exited with status zero. -/
theorem exists_run_eq_zero_iff {σ : Type} (host : Host σ) (service : Service)
    (options : RunOptions) (colour : Bool) (s : σ) :
    (∃ text, (run host service options colour s).1 = .ok (0, text)) ↔
      ∃ source, sourceOf host options s = .ok source ∧ service.status? host source s = some 0 := by
  rw [run]
  cases hsource : sourceOf host options s with
  | error p => simp
  | ok source =>
    have hzero := (service.reports_execute host source s).exitStatus_eq_zero_iff
    simpa using hzero

end Command

namespace Execution

/-- Whatever becomes of a run, the result tells the same of it everywhere: whether no interpreter was
found, the program could not be started or its output not be collected, it was killed, or it exited
with any status, and in whatever order its output came. A result without a status has the exit code
minus one and is reported with status one, and the command that runs a script ends with status zero
exactly if the script did. -/
theorem reports_every_result :
    (∀ output code, (Result.completed output code).Agrees) ∧
      (∀ problem, (Result.ofProblem problem).Reports none) ∧
      (∀ launch : Launch, launch.result.Reports launch.status?) ∧
      (∀ capacity writes ending r, Capture.Returns capacity writes ending r →
        r.Reports ending.status?) ∧
      (∀ {σ : Type} (host : Host σ) (service : Service) (source : String) (s : σ),
        (service.execute host source s).1.Reports (service.status? host source s)) ∧
      ∀ {σ : Type} (host : Host σ) (service : Service) (options : RunOptions) (colour : Bool) (s : σ),
        (∃ text, (Command.run host service options colour s).1 = .ok (0, text)) ↔
          ∃ source, Command.sourceOf host options s = .ok source ∧
            service.status? host source s = some 0 := by
  refine ⟨Result.agrees_completed, Result.reports_ofProblem, Launch.reports_result, ?_,
    Service.reports_execute, Command.exists_run_eq_zero_iff⟩
  intro capacity writes ending r hr
  rw [Capture.returns_iff.1 hr]
  exact Launch.reports_result (.finished writes ending)

example : (Result.completed "" 256).exitStatus = 1 := rfl

end Execution

end Scratchpad
