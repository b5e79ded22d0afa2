import Scratchpad.Editor.Edit
import Scratchpad.Execution.Service

/-!
# Sessions

A session of the editor: the text under edit, the search for an interpreter, and the result of the
last run. The search is finished once, by whatever comes first, and a run may start only when none
is under way, an interpreter was found, and the text holds something to run.
-/

namespace Scratchpad

open Scratchpad.Execution Scratchpad.Interpreter

/-- How far the search for an interpreter has come. -/
inductive Discovery where
  | pending
  | unavailable
  | ready
  deriving DecidableEq, Repr

/-- What the status line tells. -/
inductive Status where
  /-- The search is under way. -/
  | searching
  | notInstalled
  /-- Nothing special: how to go on. -/
  | idle
  /-- The last result was an error with this exit code. -/
  | failed (exitCode : Int)
  | executing
  /-- A run was refused: another one is under way. -/
  | alreadyRunning
  /-- A run was refused: there is no interpreter. -/
  | notReady
  /-- A run was refused: there is nothing to run. -/
  | nothingToRun
  deriving DecidableEq, Repr

/-- The text of the status line. -/
def Status.message : Status → String
  | searching => "Looking for PHP..."
  | notInstalled => "PHP is not installed | q quit"
  | idle => "ctrl+r execute | F1 help | ctrl+c quit"
  | failed exitCode => "Exit code " ++ toString exitCode ++ " | ctrl+r execute | F1 help"
  | executing => "Executing..."
  | alreadyRunning => "Already running, wait for the current script to finish"
  | notReady => "PHP is not available yet"
  | nothingToRun => "Nothing to execute"

/-- A session of the editor. -/
structure Session where
  discovery : Discovery
  /-- What runs snippets; there is none before the search is finished. -/
  service : Option Service
  /-- The candidates that were searched. -/
  searched : List String
  editor : Editor
  /-- The last result, until it is cleared or a new run starts. -/
  result : Option Result
  isExecuting : Bool
  status : Status
  showsHelp : Bool
  /-- How many rows of the result are scrolled out of sight. -/
  scroll : Nat
  /-- Counts the beats of the moving sign that shows work in progress. -/
  tick : UInt64
  deriving DecidableEq, Repr

namespace Session

/-- The farthest that the result can be scrolled. -/
def farthestScroll : Nat := 65535

/-- A session with a text, and the candidates that are being searched. -/
def start (source : String) (searched : List String) : Session where
  discovery := .pending
  service := none
  searched
  editor := .ofText source.toList
  result := none
  isExecuting := false
  status := .searching
  showsHelp := false
  scroll := 0
  tick := 0

/-- The interpreter that was found. -/
def handle? (s : Session) : Option Handle := s.service.bind Service.handle

/-- The version of the interpreter that was found. -/
def version? (s : Session) : Option String := s.handle?.map Handle.version

/-- The status that follows from the search and the result. -/
def usualStatus (s : Session) : Status :=
  match s.discovery, s.result with
  | .pending, _ => .searching
  | .unavailable, _ => .notInstalled
  | .ready, some r => if r.isError then .failed r.exitCode else .idle
  | .ready, none => .idle

/-- The session with the status that follows from the rest of it. -/
def withUsualStatus (s : Session) : Session := { s with status := s.usualStatus }

/-- Takes the outcome of the search; only the first one counts. -/
def finishDiscovery (handle : Option Handle) (s : Session) : Session :=
  if s.discovery = .pending then
    withUsualStatus
      { s with
        discovery := if handle.isSome then .ready else .unavailable
        service := some ⟨handle⟩ }
  else s

/-- The session with a new text in the status line. -/
def withStatus (status : Status) (s : Session) : Session := { s with status }

/-- What runs snippets, once an interpreter was found. -/
def readyService? (s : Session) : Option Service :=
  if s.discovery = .ready then s.service else none

/-- Starts a run if one may start now. The answer holds what has to run which snippet; without it
the run was refused, and the status tells why. -/
def beginExecution (s : Session) : Session × Option (Service × String) :=
  if s.isExecuting then (s.withStatus .alreadyRunning, none)
  else
    match s.readyService? with
    | none => (s.withStatus .notReady, none)
    | some service =>
      if s.editor.isBlank then (s.withStatus .nothingToRun, none)
      else
        ({ s with isExecuting := true, result := none, scroll := 0, status := .executing },
          some (service, String.ofList s.editor.text))

/-- Takes the result of a run. -/
def finishExecution (result : Result) (s : Session) : Session :=
  withUsualStatus { s with isExecuting := false, result := some result }

/-- Drops the result, unless a run is under way. -/
def clearResult (s : Session) : Session :=
  if s.isExecuting then s else { s with result := none, scroll := 0 }

/-- Shows or hides the help. -/
def toggleHelp (s : Session) : Session := { s with showsHelp := !s.showsHelp }

/-- Scrolls the result one row back. -/
def scrollUp (s : Session) : Session := { s with scroll := s.scroll - 1 }

/-- Scrolls the result one row on. -/
def scrollDown (s : Session) : Session := { s with scroll := min (s.scroll + 1) farthestScroll }

/-- Carries out an edit of the text. -/
def edit (e : Edit) (s : Session) : Session := { s with editor := s.editor.edit e }

/-- One beat of the moving sign. -/
def beat (s : Session) : Session := { s with tick := s.tick + 1 }

@[simp] theorem finishDiscovery_of_ne_pending (handle : Option Handle) (s : Session)
    (h : s.discovery ≠ .pending) : s.finishDiscovery handle = s := by
  simp [finishDiscovery, h]

@[simp] theorem beginExecution_of_executing (s : Session) (h : s.isExecuting = true) :
    s.beginExecution = (s.withStatus .alreadyRunning, none) := by
  simp [beginExecution, h]

@[simp] theorem clearResult_of_executing (s : Session) (h : s.isExecuting = true) :
    s.clearResult = s := by
  simp [clearResult, h]

end Session

end Scratchpad
