import Scratchpad.Shell.State

/-!
# Jobs

The commands that run beside a shell, and waiting for processes. The end of a process that a signal
killed is told on the error stream if the shell waits for it, unless the signal is a usual way to
end.
-/

namespace Scratchpad.Shell

open Scratchpad.Machine Scratchpad.Execution

namespace Job

/-- Whether all processes of a job have ended. -/
def isDone (j : Job) : Bool := j.processes.all fun p => p.2.isSome

/-- The status that stands for the ending of a process. -/
def statusOf : Ending → Nat
  | .exited n => n
  | .killed s => 128 + s

/-- The status of a job, which is the one of its last process. -/
def status (j : Job) : Nat := ((j.processes.getLast?.bind Prod.snd).map statusOf).getD 0

/-- The job with the ending of a process. -/
def note (j : Job) (id : Nat) (e : Ending) : Job :=
  { j with processes := j.processes.map fun p => if p.1 == id then (id, some e) else p }

/-- How the state of a job is described. -/
def described (j : Job) : Bytes :=
  if !j.isDone then "Running".toList
  else
    match j.processes.getLast?.bind Prod.snd with
    | some (.exited 0) => "Done".toList
    | some (.exited n) => "Done(".toList ++ Bytes.ofNat n ++ [')']
    | some (.killed s) => Signal.description s
    | none => []

@[simp] theorem note_waited (j : Job) (id : Nat) (e : Ending) :
    (j.note id e).waited = j.waited := rfl

end Job

namespace State

/-- The shell with a job changed. -/
def updateJob (sh : State) (number : Nat) (f : Job → Job) : State :=
  { sh with jobs := sh.jobs.map fun j => if j.number == number then f j else j }

/-- The shell with the ending of a process noted. -/
def noteEnding (sh : State) (id : Nat) (e : Ending) : State :=
  { sh with jobs := sh.jobs.map fun j => j.note id e }

/-- The shell with room for one more job: one that was waited for to its end is forgotten. -/
def roomier (sh : State) : State :=
  match (sh.jobs.filter fun j => j.waited && j.isDone).map Job.number |>.min? with
  | some n => { sh with jobs := sh.jobs.filter fun j => j.number != n }
  | none => sh

/-- The lowest number that no job has. -/
def freeJobNumber (sh : State) : Nat :=
  ((List.range (sh.jobs.length + 1)).find? fun n =>
    !(sh.jobs.any fun j => j.number == n + 1)).getD 0 + 1

/-- The shell with a new job, which becomes the current one. -/
def withJob (sh : State) (processes : List Nat) : State :=
  let sh := sh.roomier
  { sh with
    jobs := ⟨sh.freeJobNumber, processes.map (·, none), false⟩ :: sh.jobs
    lastBackground := processes.getLast? }

end State

/-- Tells that a process was killed. -/
def tellEnding : Ending → Action Unit
  | .exited _ => pure ()
  | .killed s => do
    if s = 2 || s = 13 then pure ()
    else
      let _ ← Action.write 2 (Signal.description s ++ ['\n'])

/-- Waits for the end of some processes, and tells which of them were killed. -/
def awaitAll (fuel : Nat) (left : List Nat) (endings : List (Nat × Ending)) :
    Action (List (Nat × Ending)) :=
  match fuel with
  | 0 => pure endings
  | fuel + 1 =>
    if left.isEmpty then pure endings
    else do
      match ← Action.ask (.await none .untilEnd) with
      | .ended id e =>
        if left.contains id then
          tellEnding e
          awaitAll fuel (left.erase id) ((id, e) :: endings)
        else
          modify fun sh => sh.noteEnding id e
          awaitAll fuel left endings
      | _ => pure endings

/-- Waits for the processes of a command, and yields the status of the last one. -/
def awaitCommand (processes : List Nat) : Action Nat := do
  modify State.roomier
  let endings ← awaitAll Routine.patience processes []
  pure (((processes.getLast?.bind fun id => endings.lookup id).map Job.statusOf).getD 0)

/-- The signals that came since they were asked for; they stay to be heeded. -/
def receiveSignals : Action (List Signal) := do
  let new ← Action.ask .caught
  modify fun sh => { sh with pending := sh.pending ++ new }
  pure (← get).pending

/-- Waits for jobs that are still running, until they have ended or a signal comes. The answer is
the signal. `told` gives the job whose killed processes are told of. -/
def awaitJobs (fuel : Nat) (told : Option Nat) (isRunning : State → Bool) :
    Action (Option Signal) :=
  match fuel with
  | 0 => pure none
  | fuel + 1 => do
    if !isRunning (← get) then pure none
    else
      match ← Action.ask (.await none .untilSignal) with
      | .ended id e =>
        let sh ← get
        let isTold := sh.jobs.any fun j =>
          some j.number == told && j.processes.any fun p => p.1 == id
        if isTold then tellEnding e
        modify fun sh => sh.noteEnding id e
        awaitJobs fuel told isRunning
      | .interrupted => do pure (← receiveSignals).getLast?
      | _ => pure none

/-- Notes which processes have ended. -/
def noteEndings (fuel : Nat) : Action Unit :=
  match fuel with
  | 0 => pure ()
  | fuel + 1 => do
    match ← Action.ask (.await none .notAtAll) with
    | .ended id e =>
      modify fun sh => sh.noteEnding id e
      noteEndings fuel
    | _ => pure ()

/-- The job that a name such as `%1` stands for. `controlled` tells that it has to be under control
of a terminal, which no job is. -/
def jobOf (controlled : Bool) (name : Bytes) : Action Job := do
  let sh ← get
  let found : Except String Job := match name with
    | [] => sh.jobs.head?.elim (.error "No current job") .ok
    | '%' :: [] => sh.jobs.head?.elim (.error "No current job") .ok
    | '%' :: '+' :: [] => sh.jobs.head?.elim (.error "No current job") .ok
    | '%' :: '%' :: [] => sh.jobs.head?.elim (.error "No current job") .ok
    | '%' :: '-' :: [] => (sh.jobs.drop 1).head?.elim (.error "No previous job") .ok
    | '%' :: digits =>
      (sh.jobs.find? fun j => Bytes.toNat? digits == some j.number).elim (.error "") .ok
    | _ => .error ""
  match found with
  | .error "" => Action.fail ("No such job: ".toList ++ name)
  | .error e => Action.fail e.toList
  | .ok j =>
    if controlled then
      Action.fail ("job ".toList ++ (if name.isEmpty then "(null)".toList else name) ++
        " not created under job control".toList)
    else pure j

end Scratchpad.Shell
