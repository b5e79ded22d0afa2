import Scratchpad.Machine.Bytes

/-!
# Shell programs

The words and commands of a shell script. A word is a list of parts, which say what is to be put in
their place when the word is expanded; a part can hold a command, whose output it stands for.
-/

namespace Scratchpad.Shell

open Scratchpad.Machine

/-- What is taken of a parameter. -/
inductive Selection where
  /-- Its value. -/
  | value
  /-- The length of its value. -/
  | length
  /-- Its value, or else a word. -/
  | orElse
  /-- Its value, or else a word that is also assigned to it. -/
  | orAssign
  /-- A word if it has a value, or else nothing. -/
  | ifSet
  /-- Its value, or else the script fails with a word. -/
  | orFail
  /-- Its value without what a pattern matches at the start or the end of it. -/
  | without (atEnd longest : Bool)
  /-- Something that is not known; only the expansion fails. -/
  | unknown
  deriving DecidableEq, Repr

/-- What happens to a file descriptor. -/
inductive Opening where
  | read
  | write
  /-- Writing, also where files are protected. -/
  | replace
  | append
  | both
  /-- It becomes a copy of another one, or is closed. -/
  | copy
  /-- It reads the text itself. -/
  | document
  deriving DecidableEq, Repr

mutual

/-- A part of a word. What is quoted is neither split nor a pattern. -/
inductive Part where
  | text (quoted : Bool) (cs : Bytes)
  /-- A parameter; `nonempty` tells whether an empty value counts as none. -/
  | parameter (quoted : Bool) (name : Bytes) (selection : Selection) (nonempty : Bool)
      (word : List Part)
  /-- The output of a command. -/
  | output (quoted : Bool) (command : Command)
  /-- The value of an arithmetic expression. -/
  | number (quoted : Bool) (expression : List Part)

/-- A change of one file descriptor. -/
inductive Redirection where
  | mk (descriptor : Nat) (opening : Opening) (target : List Part)

/-- A command. -/
inductive Command where
  | nothing
  /-- Assignments, words and redirections, on the given line. -/
  | simple (line : Nat) (assignments : List (Bytes × List Part)) (words : List (List Part))
      (redirections : List Redirection)
  | negated (c : Command)
  | pipeline (stages : List Command)
  /-- The second command only if the first succeeds. -/
  | andThen (a b : Command)
  /-- The second command only if the first fails. -/
  | orElse (a b : Command)
  | sequence (a b : Command)
  /-- Beside the commands after it. -/
  | background (c : Command)
  | subshell (line : Nat) (c : Command) (redirections : List Redirection)
  | redirected (line : Nat) (c : Command) (redirections : List Redirection)
  | branch (condition yes no : Command)
  /-- The body as long as the condition has the given outcome. -/
  | loop (outcome : Bool) (condition body : Command)
  /-- The body for each word. -/
  | each (line : Nat) (name : Bytes) (words : List (List Part)) (body : Command)
  | choose (line : Nat) (word : List Part) (arms : List (List (List Part) × Command))
  | define (name : Bytes) (body : Command)

end

/-- A word before its expansion. -/
abbrev Word := List Part

/-- A word that has no part but text without quotes is that text. -/
def bare? : Word → Option Bytes
  | [] => some []
  | [.text false cs] => some cs
  | _ => none

/-- Whether a word has a quoted part. -/
def hasQuotes (w : Word) : Bool :=
  w.any fun p => match p with
    | .text q _ => q
    | .parameter q _ _ _ _ => q
    | .output q _ => q
    | .number q _ => q

/-- The text of a word without its quotes. -/
def plainText (w : Word) : Bytes :=
  w.flatMap fun p => match p with
    | .text _ cs => cs
    | _ => []

/-- Puts text in front of the parts of a word. -/
def onto (quoted : Bool) (cs : Bytes) (w : Word) : Word :=
  match w with
  | .text q ds :: rest => if q = quoted then .text q (cs ++ ds) :: rest else .text quoted cs :: w
  | _ => .text quoted cs :: w

/-- Whether a character can start a name. -/
def startsName (c : Char) : Bool := c.isAlpha || c == '_'

/-- Whether a character can stand in a name. -/
def inName (c : Char) : Bool := c.isAlphanum || c == '_'

/-- Whether a text is a name. -/
def isName (cs : Bytes) : Bool := cs.head?.any startsName && cs.all inName

/-- The assignment that a word makes, if it is one: a name and an equals sign without quotes. -/
def assignmentOf? (w : Word) : Option (Bytes × Word) :=
  match w with
  | .text false cs :: rest =>
    let name := cs.takeWhile inName
    match cs.drop name.length with
    | '=' :: value =>
      if isName name then some (name, if value.isEmpty then rest else .text false value :: rest)
      else none
    | _ => none
  | _ => none

/-- The parameters whose names are single characters. -/
def isSpecialParameter (c : Char) : Bool :=
  c == '@' || c == '*' || c == '#' || c == '?' || c == '-' || c == '$' || c == '!' || c.isDigit

/-- The word that stands for all arguments, each on its own. -/
def allArguments : Word := [.parameter true ['@'] .value false []]

/-- One command after the other. -/
def joined (c d : Command) : Command :=
  match d with
  | .nothing => c
  | d => .sequence c d

/-- The commands of the shell whose names functions cannot have. Assignments in front of them stay,
and their faults end a script. -/
def specialCommands : List Bytes :=
  [".", ":", "break", "continue", "eval", "exec", "exit", "export", "local", "readonly", "return",
    "set", "shift", "times", "trap", "unset"].map String.toList

@[simp] theorem bare?_nil : bare? [] = some [] := rfl

end Scratchpad.Shell
