import Scratchpad.Execution.Launch
import Scratchpad.Machine.FileTree
import Scratchpad.Machine.Signal

/-!
# Requests of a process

A process is what it asks the system for: each request comes with what the process does with the
answer. `Routine` writes such processes down step by step; the rest of the process is what follows a
step.
-/

namespace Scratchpad.Machine

open Scratchpad.Execution

/-- What a file is opened for. -/
inductive Access where
  | read
  /-- Writing; the file is made empty first. -/
  | write
  /-- Writing at the end. -/
  | append
  /-- Reading, and writing where the reading stands. -/
  | both
  deriving DecidableEq, Repr

namespace Access

/-- Whether a file that is opened for this can be read. -/
def reads (a : Access) : Bool := a == read || a == both

/-- Whether a file that is opened for this can be written to. -/
def writes (a : Access) : Bool := a != read

/-- Whether what is written always comes at the end. -/
def appends (a : Access) : Bool := a == append

end Access

/-- What a process wants a signal to do. -/
inductive Reaction where
  | usual
  | ignored
  | caught
  deriving DecidableEq, Repr

/-- How long a process waits for the end of a child. -/
inductive Waiting where
  | untilEnd
  /-- Or until it catches a signal. -/
  | untilSignal
  | notAtAll
  deriving DecidableEq, Repr

/-- The outcome of waiting for children. -/
inductive Waited where
  | ended (id : Nat) (ending : Ending)
  | noChild
  /-- None has ended yet. -/
  | running
  /-- A signal was caught in the meantime. -/
  | interrupted
  deriving DecidableEq, Repr

/-- The variables that are handed to a program. -/
abbrev Bindings := List (Bytes × Bytes)

/-- What a process can ask for. -/
inductive Request where
  /-- At most so many bytes; none at all means the end. -/
  | read (descriptor count : Nat)
  /-- Writes some of the bytes, and tells how many. -/
  | write (descriptor : Nat) (bytes : Bytes)
  /-- Goes back so many bytes in a file, so that they can be read again. -/
  | goBack (descriptor count : Nat)
  /-- Whether what is written to a descriptor may still be read from another one. -/
  | feeds (output input : Nat)
  | openFile (path : Bytes) (access : Access)
  /-- Makes the second descriptor a copy of the first one. -/
  | copy (descriptor target : Nat)
  /-- A copy that programs do not inherit. -/
  | keep (descriptor : Nat)
  | close (descriptor : Nat)
  /-- The two ends of a new pipe, the one that is read first. -/
  | pipe
  /-- Becomes another program; it goes on only if that fails. -/
  | execute (path name : Bytes) (arguments : List Bytes) (environment : Bindings)
  /-- Waits for the end of one of some children, or of any. -/
  | await (children : Option (List Nat)) (waiting : Waiting)
  | signal (process : Int) (signal : Signal)
  | react (signal : Signal) (reaction : Reaction)
  | reaction (signal : Signal)
  /-- The signals that were caught and not yet asked for. -/
  | caught
  | sleepUntil (time : Nat)
  | time
  | identity
  | enter (path : Bytes)
  | here
  | look (path : Bytes)
  /-- Whether two paths lead to the same thing. -/
  | isSame (path other : Bytes)
  | entries (path : Bytes)
  | makeDirectory (path : Bytes)
  | removeFile (path : Bytes)
  | removeDirectory (path : Bytes)
  | rename (path target : Bytes)
  | setExecutable (path : Bytes) (executable : Bool)

/-- The answer to a request. -/
abbrev Request.Reply : Request → Type
  | read _ _ => Except Fault Bytes
  | write _ _ => Except Fault Nat
  | goBack _ _ => Except Fault Unit
  | feeds _ _ => Bool
  | openFile _ _ => Except Fault Nat
  | copy _ _ => Except Fault Unit
  | keep _ => Except Fault Nat
  | close _ => Except Fault Unit
  | pipe => Nat × Nat
  | execute _ _ _ _ => Fault
  | await _ _ => Waited
  | signal _ _ => Except Fault Unit
  | react _ _ => Unit
  | reaction _ => Reaction
  | caught => List Signal
  | sleepUntil _ => Unit
  | time => Nat
  | identity => Nat × Nat
  | enter _ => Except Fault Unit
  | here => Place
  | look _ => Except Fault Node
  | isSame _ _ => Bool
  | entries _ => Except Fault (List Bytes)
  | makeDirectory _ => Except Fault Unit
  | removeFile _ => Except Fault Unit
  | removeDirectory _ => Except Fault Unit
  | rename _ _ => Except Fault Unit
  | setExecutable _ _ => Except Fault Unit

/-- What a process still has to do. -/
inductive Program where
  | exit (status : Nat)
  | ask (r : Request) (next : r.Reply → Program)
  /-- Starts a process, whose number it gets. -/
  | fork (child : Program) (next : Nat → Program)

/-- A step of a process that yields a value. -/
def Routine (α : Type) : Type := (α → Program) → Program

namespace Routine

instance : Monad Routine where
  pure a := fun k => k a
  bind t f := fun k => t fun a => f a k

/-- Asks for something. -/
def ask (r : Request) : Routine r.Reply := fun k => .ask r k

/-- Starts a process that goes its own way, and yields its number. -/
def fork (child : Routine Nat) : Routine Nat := fun k => .fork (child .exit) k

/-- Ends the process. -/
def exit {α : Type} (status : Nat) : Routine α := fun _ => .exit status

/-- The process that does a routine and ends with the status that it yields. -/
def program (t : Routine Nat) : Program := t .exit

/-- Repeats a step until it yields a result; `fuel` bounds how often. -/
def loop {σ β : Type} (fuel : Nat) (step : σ → Routine (σ ⊕ β)) (exhausted : σ → β) (s : σ) :
    Routine β :=
  match fuel with
  | 0 => pure (exhausted s)
  | fuel + 1 => do
    match ← step s with
    | .inl s => loop fuel step exhausted s
    | .inr b => pure b

/-- How often a step may be repeated. -/
def patience : Nat := 1000000000

/-- How many bytes are read at a time. -/
def chunk : Nat := 65536

/-- Writes all bytes; the fault is that of the first write that fails. -/
def writeAll (descriptor : Nat) (bytes : Bytes) : Routine (Except Fault Unit) :=
  loop (bytes.length + 1) (fun rest =>
    if rest.isEmpty then pure (.inr (.ok ()))
    else do
      match ← ask (.write descriptor rest) with
      | .ok n => pure (.inl (rest.drop n))
      | .error f => pure (.inr (.error f)))
    (fun _ => .ok ()) bytes

/-- Reads all bytes up to the end. -/
def readAll (descriptor : Nat) : Routine (Except Fault Bytes) :=
  loop patience (fun (got : List Bytes) => do
    match ← ask (.read descriptor chunk) with
    | .ok [] => pure (.inr (.ok got.reverse.flatten))
    | .ok bytes => pure (.inl (bytes :: got))
    | .error f => pure (.inr (.error f)))
    (fun got => .ok got.reverse.flatten) []

/-- Takes a step back to the system for each value. -/
def forEach {β : Type} (xs : List β) (f : β → Routine Unit) : Routine Unit :=
  match xs with
  | [] => pure ()
  | x :: xs => do
    f x
    forEach xs f

@[simp] theorem bind_pure {α β : Type} (a : α) (f : α → Routine β) :
    (pure a : Routine α) >>= f = f a := rfl

@[simp] theorem program_pure (status : Nat) :
    (pure status : Routine Nat).program = .exit status := rfl

@[simp] theorem program_exit (status : Nat) :
    (exit status : Routine Nat).program = .exit status := rfl

@[simp] theorem program_ask (r : Request) (f : r.Reply → Routine Nat) :
    (ask r >>= f).program = .ask r fun a => (f a).program := rfl

end Routine

end Scratchpad.Machine
