import Scratchpad.Arguments.Level

/-!
# Reading a level

The words of a level are read from left to right. A value is not taken over when its word is met but
when the next option or file comes, or at the end; that decides which of two faults is reported.
`scan` reads the words of a level up to the command that ends it.
-/

namespace Scratchpad.Arguments

/-- An option or a file whose value has not been taken over yet. -/
inductive Pending where
  | none
  /-- An option that still needs its value. -/
  | awaits (s : Slot)
  /-- An option or a file with its value. -/
  | holds (s : Slot) (value : List Char)
  deriving DecidableEq, Repr

/-- What was read of a level so far. -/
structure Values where
  interpreter : Option (List Char)
  code : Option (List Char)
  file : Option (List Char)
  json : Bool
  /-- Whether a file was met, taken over or not. -/
  fileMet : Bool
  pending : Pending
  deriving DecidableEq, Repr

namespace Values

/-- Nothing was read yet. -/
def empty : Values := ⟨none, none, none, false, false, .none⟩

/-- Takes a value over. No option may come twice, and a path may not be empty. -/
def assign (vs : Values) (s : Slot) (value : List Char) : Except Reply Values :=
  match s with
  | .interpreter =>
    if vs.interpreter.isSome then .error .conflict
    else if value.isEmpty then .error .invalidValue
    else .ok { vs with interpreter := some value }
  | .code =>
    if vs.code.isSome then .error .conflict else .ok { vs with code := some value }
  | .file =>
    if value.isEmpty then .error .invalidValue else .ok { vs with file := some value }

/-- Takes the pending value over, if there is one; an option without its value is refused. -/
def settle (vs : Values) : Except Reply Values :=
  match vs.pending with
  | .none => .ok vs
  | .awaits _ => .error .invalidValue
  | .holds s value => { vs with pending := .none }.assign s value

/-- An option met with a value attached to it, or without. -/
def give (vs : Values) (s : Slot) (attached : Option (List Char)) : Except Reply Values := do
  let vs ← vs.settle
  match attached with
  | some value => vs.assign s value
  | none => .ok { vs with pending := .awaits s }

/-- A switch met. -/
def switch (vs : Values) (s : Switch) : Except Reply Values := do
  let vs ← vs.settle
  match s with
  | .help => .error .help
  | .version => .error .version
  | .json => if vs.json then .error .conflict else .ok { vs with json := true }

/-- An option met by its long name. -/
def long (vs : Values) (l : Level) (name : List Char) (value : Option (List Char)) :
    Except Reply Values :=
  match l.long? name with
  | none => .error .unknownArgument
  | some (.valued s) => vs.give s value
  | some (.switch s) => if value.isSome then .error .unwantedValue else vs.switch s

/-- Options met by letters: the first that takes a value has the other letters for it, if there are
any; an equals sign in front of them does not count. -/
def short (vs : Values) (l : Level) : List Char → Except Reply Values
  | [] => .ok vs
  | c :: cs =>
    match l.short? c with
    | none => .error .unknownArgument
    | some (.switch s) => do (← vs.switch s).short l cs
    | some (.valued s) =>
      match cs with
      | [] => vs.give s none
      | '=' :: value => vs.give s (some value)
      | value => vs.give s (some value)

/-- A word met that is no option: the path of a file, if the level takes one and has none yet. -/
def word (vs : Values) (l : Level) (afterDashes : Bool) (w : List Char) : Except Reply Values :=
  match l with
  | .top =>
    if afterDashes && ((Verb.ofWord? w).isSome || w == helpWord) then .error .unknownArgument
    else .error .unknownCommand
  | .under _ =>
    if l.takesFile && !vs.fileMet then do
      let vs ← vs.settle
      .ok { vs with fileMet := true, pending := .holds .file w }
    else .error .unknownArgument

/-- Whether an option is still without its value. -/
def isAwaiting (vs : Values) : Bool :=
  match vs.pending with
  | .awaits _ => true
  | _ => false

/-- One word met, before the two dashes. -/
def read (vs : Values) (l : Level) (w : List Char) : Except Reply Values :=
  match shape w with
  | .long name value => vs.long l name value
  | .short letters => vs.short l letters
  | _ =>
    match vs.pending with
    | .awaits s => .ok { vs with pending := .holds s w }
    | _ => vs.word l false w

end Values

/-- What the words after the request for help lead to: help, or, if they are not the name of one
command, a refusal. -/
def helpFor : List (List Char) → Reply
  | [] => .help
  | [w] => if (Verb.ofWord? w).isSome || w == helpWord then .help else .unknownCommand
  | _ => .unknownCommand

/-- Reads the words of a level. The answer holds what was read and, if the level ended at a command,
the command and the words after it. -/
def scan (l : Level) (afterDashes : Bool) (vs : Values) :
    List (List Char) → Except Reply (Values × Option (Verb × List (List Char)))
  | [] => .ok (vs, none)
  | w :: ws =>
    if afterDashes then do
      scan l true (← vs.word l true w) ws
    else if l = .top ∧ vs.isAwaiting = false ∧ w = helpWord then .error (helpFor ws)
    else
      match (if l = .top ∧ vs.isAwaiting = false then Verb.ofWord? w else none) with
      | some v => .ok (vs, some (v, ws))
      | none =>
        match shape w with
        | .endOfOptions => scan l true vs ws
        | _ => do scan l false (← vs.read l w) ws

/-- The command that the words after it describe. `run` needs a file or a snippet, and not both. -/
def Values.command (vs : Values) : Verb → Except Reply Command
  | .edit => .ok (.edit (vs.file.map String.ofList))
  | .which => .ok .which
  | .highlight =>
    match vs.file with
    | some f => .ok (.highlight (String.ofList f) vs.json)
    | none => .error .missingArgument
  | .run =>
    if vs.file.isSome && vs.code.isSome then .error .conflict
    else if vs.file.isNone && vs.code.isNone then .error .missingArgument
    else .ok (.run ⟨vs.file.map String.ofList, vs.code.map String.ofList, vs.json⟩)

/-- Reads the words after a command. -/
def readCommand (v : Verb) (ws : List (List Char)) :
    Except Reply (Command × Option (List Char)) := do
  let (vs, _) ← scan (.under v) false .empty ws
  let vs ← vs.settle
  let c ← vs.command v
  .ok (c, vs.interpreter)

/-- Reads the words of a command line. An interpreter named after the command wins over one named
before it. -/
def readWords (ws : List (List Char)) : Except Reply Invocation := do
  let (top, rest) ← scan .top false .empty ws
  match rest with
  | none =>
    let top ← top.settle
    .ok ⟨top.interpreter.map String.ofList, none⟩
  | some (v, ws) =>
    let (c, inner) ← readCommand v ws
    let top ← top.settle
    .ok ⟨(inner <|> top.interpreter).map String.ofList, some c⟩

/-- Understands the arguments of the program. -/
def parse (arguments : List String) : Except Reply Invocation :=
  readWords (arguments.map String.toList)

end Scratchpad.Arguments
