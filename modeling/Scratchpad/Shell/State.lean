import Scratchpad.Machine.Request
import Scratchpad.Shell.Arithmetic
import Scratchpad.Shell.Grammar

/-!
# The state of a shell

What a shell remembers between commands: variables, functions, arguments, options and the like.
Files, descriptors and other processes belong to the system; a shell only knows the numbers of the
processes that it started.
-/

namespace Scratchpad.Shell

open Scratchpad.Machine Scratchpad.Execution

/-- A variable of a shell; one that is only marked has no value. -/
structure Variable where
  name : Bytes
  value : Option Bytes
  exported : Bool
  constant : Bool
  deriving DecidableEq, Repr

/-- What a shell leaves, and skips commands until it is out of it. -/
inductive Leaving where
  | nothing
  | loops (n : Nat)
  /-- All loops but the last, which goes on with its next round. -/
  | rounds (n : Nat)
  /-- The function or the script; `given` tells whether a status was given. -/
  | function (given : Bool)
  deriving DecidableEq, Repr

/-- A command that runs beside the shell, as the processes of its stages with their endings. -/
structure Job where
  number : Nat
  processes : List (Nat × Option Ending)
  /-- Whether its ending was asked for. -/
  waited : Bool
  deriving DecidableEq, Repr

/-- A program that was found by its name. -/
structure Finding where
  name : Bytes
  path : Bytes
  /-- Whether the working directory has changed since. -/
  stale : Bool
  deriving DecidableEq, Repr

/-- The state of a shell. -/
structure State where
  bindings : List Variable
  /-- What local variables hide, for each function that is being carried out. -/
  hidden : List (List (Bytes × Option Variable))
  functions : List (Bytes × Command)
  aliases : List (Bytes × Bytes)
  /-- The name under which the shell or its script was called. -/
  name : Bytes
  arguments : List Bytes
  /-- The path by which the working directory is known. -/
  directory : Bytes
  id : Nat
  lastBackground : Option Nat
  status : Nat
  /-- The status of the last command whose output a word of the current command stood for. -/
  outputStatus : Nat
  options : List Char
  /-- The command that messages are about, if it is not the whole script. -/
  context : Option Bytes
  line : Nat
  /-- The line up to which the script was read. -/
  readTo : Nat
  loops : Nat
  /-- How many functions call each other. -/
  calls : Nat
  leaving : Leaving
  traps : List (Signal × Bytes)
  /-- The signals that came, and whose commands are still to be carried out. -/
  pending : List Signal
  /-- The status from before the command of a signal. -/
  saved : Option Nat
  /-- Signals that were ignored when the shell started, and stay so. -/
  deaf : List Signal
  jobs : List Job
  /-- The argument in which the next option is looked for, and where in it, if it is a group. -/
  optionIndex : Nat
  optionOffset : Option Nat
  found : List Finding
  /-- Whether the current command could not write its output. -/
  mute : Bool
  mask : Nat
  /-- The copy of the error stream that commands are shown on. -/
  shownOn : Nat

namespace State

/-- A variable by its name. -/
def lookUp? (sh : State) (name : Bytes) : Option Variable :=
  sh.bindings.find? fun v => v.name == name

/-- The value of a variable. -/
def get? (sh : State) (name : Bytes) : Option Bytes := (sh.lookUp? name).bind Variable.value

/-- The value of a variable, or nothing. -/
def get (sh : State) (name : String) : Bytes := (sh.get? name.toList).getD []

/-- The shell with a variable put in the place of the one of its name. -/
def put (sh : State) (v : Variable) : State :=
  if (sh.lookUp? v.name).isSome then
    { sh with bindings := sh.bindings.map fun w => if w.name == v.name then v else w }
  else { sh with bindings := sh.bindings ++ [v] }

/-- The shell without a variable. -/
def remove (sh : State) (name : Bytes) : State :=
  { sh with bindings := sh.bindings.filter fun v => v.name != name }

/-- The variable of a name, or one without a value. -/
def binding (sh : State) (name : Bytes) : Variable :=
  (sh.lookUp? name).getD ⟨name, none, false, false⟩

/-- The shell with a value for a variable, which keeps its marks. -/
def set (sh : State) (name value : Bytes) : State :=
  let sh := sh.put { sh.binding name with value := some value }
  if name = "OPTIND".toList then
    { sh with optionIndex := max 1 ((Bytes.toNat? value).getD 1), optionOffset := none }
  else if name = "PATH".toList then { sh with found := [] }
  else sh

/-- Whether a variable must not be changed. -/
def isConstant (sh : State) (name : Bytes) : Bool := (sh.lookUp? name).any Variable.constant

/-- Whether an option is on. -/
def has (sh : State) (o : Char) : Bool := sh.options.contains o

/-- Whether a signal, or the end of the shell, leads to a command. -/
def hasTraps (sh : State) : Bool := sh.traps.any fun t => !t.2.isEmpty

/-- The place of a name among others where they are not sorted: names with the same remainder stand
together. -/
def bucket (count : Nat) (name : Bytes) : Nat :=
  ((name.head?.map fun c => 16 * c.toNat).getD 0 + name.foldr (fun c n => c.toNat + n) 0) % count

/-- The variables that programs get. -/
def environment (sh : State) : Bindings :=
  let marked := sh.bindings.filter fun v => v.exported && v.value.isSome
  (marked.mergeSort fun v w => bucket 39 v.name ≤ bucket 39 w.name).map fun v =>
    (v.name, v.value.getD [])

/-- The characters that separate fields. -/
def separators (sh : State) : Bytes := (sh.get? "IFS".toList).getD [' ', '\t', '\n']

/-- The options, each with its letter if it has one. -/
def optionNames : List (String × Option Char) :=
  [("errexit", some 'e'), ("noglob", some 'f'), ("ignoreeof", some 'I'), ("interactive", some 'i'),
   ("monitor", some 'm'), ("noexec", some 'n'), ("stdin", some 's'), ("xtrace", some 'x'),
   ("verbose", some 'v'), ("vi", some 'V'), ("emacs", some 'E'), ("noclobber", some 'C'),
   ("allexport", some 'a'), ("notify", some 'b'), ("nounset", some 'u'), ("privileged", some 'p'),
   ("nolog", none), ("debug", none)]

/-- The letters of the options, in the order in which they are shown. -/
def optionLetters : Bytes := (optionNames.filterMap Prod.snd).reverse

/-- The shell with an option on or off. -/
def withOption (sh : State) (o : Char) (on : Bool) : State :=
  let others := sh.options.filter (· != o)
  { sh with options := if on then o :: others else others }

/-- The value of a parameter that is not all arguments; absent if it has none. -/
def parameter? (sh : State) (name : Bytes) : Option Bytes :=
  match name with
  | ['#'] => some (Bytes.ofNat sh.arguments.length)
  | ['?'] => some (Bytes.ofNat sh.status)
  | ['-'] => some (optionLetters.filter sh.has)
  | ['$'] => some (Bytes.ofNat sh.id)
  | ['!'] => sh.lastBackground.map Bytes.ofNat
  | _ =>
    match Bytes.toNat? name with
    | some 0 => some sh.name
    | some (n + 1) => sh.arguments[n]?
    | none => sh.get? name

/-- The start of a message: the name of the script, the line, and the command at fault. -/
def messageStart (sh : State) : Bytes :=
  sh.name ++ ": ".toList ++ Bytes.ofNat sh.line ++ ": ".toList ++
    match sh.context with
    | some c => c ++ ": ".toList
    | none => []

@[simp] theorem messageStart_of_context_none (sh : State) (h : sh.context = none) :
    sh.messageStart = sh.name ++ ": ".toList ++ Bytes.ofNat sh.line ++ ": ".toList := by
  simp [messageStart, h]

end State

/-- Why a shell breaks off what it is doing. -/
inductive Stop where
  /-- It ends. -/
  | exit
  /-- Something is wrong, which ends it unless a command takes it as its own failure. -/
  | fault
  deriving DecidableEq, Repr

/-- What a shell does: it may break off, and keeps its state when it does. -/
abbrev Action := ExceptT Stop (StateT State Routine)

namespace Action

/-- Asks the system for something. -/
def ask (r : Request) : Action r.Reply := fun sh k => Routine.ask r fun a => k (.ok a, sh)

/-- Does a routine that knows nothing of the shell. -/
def lift {α : Type} (t : Routine α) : Action α := fun sh k => t fun a => k (.ok a, sh)

/-- Breaks off. -/
def stop {α : Type} (s : Stop) : Action α := fun sh k => k (.error s, sh)

/-- The outcome of an action, also if it breaks off. -/
def outcome {α : Type} (a : Action α) : Action (Except Stop α) := fun sh k =>
  a sh fun r => k (.ok r.1, r.2)

/-- Starts a process that goes its own way, knowing what the shell knows; yields its number. -/
def fork (child : State → Routine Nat) : Action Nat := fun sh k =>
  Routine.fork (child sh) fun id => k (.ok id, sh)

/-- Sets the status. -/
def setStatus (status : Nat) : Action Unit := modify fun sh => { sh with status }

/-- Writes to a descriptor, and tells whether that was possible. -/
def write (descriptor : Nat) (bytes : Bytes) : Action Bool := do
  match ← lift (Routine.writeAll descriptor bytes) with
  | .ok _ => pure true
  | .error _ => pure false

/-- Writes a message to the error stream. -/
def complain (message : Bytes) : Action Unit := do
  let sh ← get
  let _ ← write 2 (sh.messageStart ++ message ++ ['\n'])

/-- Complains and breaks off. -/
def fail {α : Type} (message : Bytes) : Action α := do
  complain message
  setStatus 2
  stop .fault

/-- Writes output of a command of the shell. -/
def put (out : Bytes) : Action Unit := do
  if out.isEmpty then pure ()
  else if ← write 1 out then pure ()
  else modify fun sh => { sh with mute := true }

/-- Gives a variable a value, unless it must not be changed. -/
def assign (name value : Bytes) : Action Unit := do
  let sh ← get
  if !isName name then fail (name ++ ": bad variable name".toList)
  else if sh.isConstant name then fail (name ++ ": is read only".toList)
  else modify fun sh =>
    let sh := sh.set name value
    if sh.has 'a' then sh.put { sh.binding name with exported := true } else sh

/-- Carries out an action under the name of a command. -/
def named {α : Type} (name : Bytes) (a : Action α) : Action α := do
  let outer := (← get).context
  modify fun sh => { sh with context := some name }
  let r ← outcome a
  modify fun sh => { sh with context := outer }
  match r with
  | .ok v => pure v
  | .error s => stop s

/-- Does something for each value. -/
def forEach {β : Type} (xs : List β) (f : β → Action Unit) : Action Unit :=
  match xs with
  | [] => pure ()
  | x :: xs => do
    f x
    forEach xs f

/-- The values of an action for each of some values. -/
def collect {α β : Type} (xs : List β) (f : β → Action α) : Action (List α) :=
  match xs with
  | [] => pure []
  | x :: xs => do
    let y ← f x
    pure (y :: (← collect xs f))

@[simp] theorem outcome_stop {α : Type} (s : Stop) :
    outcome (stop s : Action α) = pure (.error s) := rfl

end Action

end Scratchpad.Shell
