import Scratchpad.Interpreter.Handle

/-!
# Running snippets

A service runs snippets with the interpreter that was found, if one was. Every run gives a result;
without an interpreter the result says so.
-/

namespace Scratchpad.Execution

open Scratchpad.Interpreter

/-- The interpreter that snippets are run with, if there is one. -/
structure Service where
  handle : Option Handle
  deriving DecidableEq, Repr

namespace Service

/-- Whether there is an interpreter. -/
def isAvailable (service : Service) : Bool := service.handle.isSome

/-- Runs a snippet. -/
def execute {σ : Type} (host : Host σ) (service : Service) (source : String) (s : σ) : Result × σ :=
  match service.handle with
  | none => (.ofProblem .notInstalled, s)
  | some handle =>
    let (launch, s) := host.launch s handle.path [codeFlag, source]
    (launch.result, s)

/-- Runs snippets one after the other. -/
def executeAll {σ : Type} (host : Host σ) (service : Service) : List String → σ → List Result × σ
  | [], s => ([], s)
  | source :: rest, s =>
    let (result, s) := service.execute host source s
    let (results, s) := service.executeAll host rest s
    (result :: results, s)

@[simp] theorem execute_none {σ : Type} (host : Host σ) (source : String) (s : σ) :
    execute host ⟨none⟩ source s = (.ofProblem .notInstalled, s) := rfl

@[simp] theorem executeAll_nil {σ : Type} (host : Host σ) (service : Service) (s : σ) :
    executeAll host service [] s = ([], s) := rfl

end Service

end Scratchpad.Execution
