import Scratchpad.Proofs.Session.Change

/-!
# The loop around a session

The loop of the editor takes messages from a queue, one at a time. Three kinds of tasks fill the
queue: one reads the input, one searches for an interpreter and reports once, and every run that the
session demands reports its result. They work beside the loop, so their messages come in any order
and may wait while the session goes on.

The state also keeps the runs in the order in which they were started and the results that the
session took, each with the number of its run.
-/

namespace Scratchpad

open Scratchpad.Execution Scratchpad.Interpreter

/-- A run that was started: what runs which snippet, and the result once there is one. -/
structure Run where
  service : Service
  source : String
  outcome : Option Result
  deriving DecidableEq, Repr

/-- The run that a demand starts. -/
def Demand.run? : Demand → Option Run
  | execute service source => some ⟨service, source, none⟩
  | _ => none

/-- What waits in the queue. A result carries the number of its run, which the session is not
told. -/
inductive Message where
  | input (i : Input)
  | discovered (handle : Option Handle)
  | executed (number : Nat) (result : Result)
  deriving DecidableEq, Repr

namespace Message

def event : Message → Event
  | input i => i.event
  | discovered handle => .discovered handle
  | executed _ result => .executed result

def report? : Message → Option (Nat × Result)
  | executed number result => some (number, result)
  | _ => none

end Message

/-- One step of the loop or of a task beside it: an input is read, the search or a run comes to its
end, or the loop takes the first message of the queue. -/
inductive Move where
  | input (i : Input)
  | search (handle : Option Handle)
  | finish (number : Nat) (result : Result)
  | take
  deriving DecidableEq, Repr

/-- The loop with its queue and its tasks. The runs stand in the order in which they were started,
and the results in the order in which the session took them. -/
structure Loop where
  session : Session
  isSearching : Bool
  queue : List Message
  runs : List Run
  taken : List (Nat × Result)
  deriving DecidableEq, Repr

namespace Loop

/-- The loop before anything has happened: the search is under way. -/
def start (source : String) (searched : List String) : Loop :=
  ⟨.start source searched, true, [], [], []⟩

def send (message : Message) (l : Loop) : Loop := { l with queue := l.queue ++ [message] }

/-- The session takes a message, and the run that it demands is started; absent if it is told to
quit. -/
def receive? (message : Message) (l : Loop) : Option Loop :=
  let next := l.session.handle message.event
  if next.2 = .quit then none
  else
    some
      { l with
        session := next.1
        runs := l.runs ++ next.2.run?.toList
        taken := l.taken ++ message.report?.toList }

/-- Run number `n` comes to its end and sends its result; absent if it does not run. -/
def finish? (n : Nat) (result : Result) (l : Loop) : Option Loop :=
  l.runs[n]?.bind fun run =>
    if run.outcome = none then
      some { l.send (.executed n result) with
        runs := l.runs.set n { run with outcome := some result } }
    else none

/-- Makes a move; absent if it cannot be made. -/
def move? (l : Loop) : Move → Option Loop
  | .input i => some (l.send (.input i))
  | .search handle =>
    if l.isSearching then some { l.send (.discovered handle) with isSearching := false } else none
  | .finish n result => l.finish? n result
  | .take =>
    match l.queue with
    | [] => none
    | message :: queue => { l with queue }.receive? message

/-- Makes one move after the other; absent if one cannot be made. -/
def moveAll? (l : Loop) (moves : List Move) : Option Loop := moves.foldlM move? l

/-- The results that wait in the queue. -/
def waiting (l : Loop) : List (Nat × Result) := l.queue.filterMap Message.report?

variable {l l' : Loop}

theorem waiting_send (message : Message) :
    (l.send message).waiting = l.waiting ++ message.report?.toList := by
  cases message with
  | input i => simp [waiting, send, Message.report?]
  | discovered handle => simp [waiting, send, Message.report?]
  | executed n r => simp [waiting, send, Message.report?]

theorem eq_of_receive? {message : Message} (hl : l.receive? message = some l') :
    l' = { l with
      session := (l.session.handle message.event).1
      runs := l.runs ++ (l.session.handle message.event).2.run?.toList
      taken := l.taken ++ message.report?.toList } := by
  simp only [receive?] at hl
  by_cases hquit : (l.session.handle message.event).2 = .quit
  · rw [if_pos hquit] at hl
    exact absurd hl (by simp)
  · rw [if_neg hquit] at hl
    exact (Option.some.inj hl).symm

end Loop

end Scratchpad
