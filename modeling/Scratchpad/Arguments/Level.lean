import Scratchpad.Arguments.Invocation
import Scratchpad.Text.Split

/-!
# Levels of a command line

A command line has two levels: the words before the command, and those after it. Each level knows
which options it has, whether it takes the path of a file, and which words are commands there.
-/

namespace Scratchpad.Arguments

open Scratchpad.Text

/-- The commands by name. -/
inductive Verb where
  | edit
  | run
  | highlight
  | which
  deriving DecidableEq, Repr

namespace Verb

/-- The word for a command. -/
def word : Verb → List Char
  | edit => ['e', 'd', 'i', 't']
  | run => ['r', 'u', 'n']
  | highlight => ['h', 'i', 'g', 'h', 'l', 'i', 'g', 'h', 't']
  | which => ['w', 'h', 'i', 'c', 'h']

/-- The command that a word names. -/
def ofWord? (w : List Char) : Option Verb :=
  [edit, run, highlight, which].find? fun v => v.word == w

@[simp] theorem ofWord?_word (v : Verb) : ofWord? v.word = some v := by cases v <;> rfl

end Verb

/-- The word that asks for help in the place of a command. -/
def helpWord : List Char := ['h', 'e', 'l', 'p']

/-- Where in a command line a word stands: before the command, or after a given one. -/
inductive Level where
  | top
  | under (v : Verb)
  deriving DecidableEq, Repr

/-- The options that take a value, and the path of a file, which is given without a name. -/
inductive Slot where
  | interpreter
  | code
  | file
  deriving DecidableEq, Repr

/-- The options that take no value. -/
inductive Switch where
  | json
  | help
  | version
  deriving DecidableEq, Repr

/-- A named option. -/
inductive Named where
  | valued (s : Slot)
  | switch (s : Switch)
  deriving DecidableEq, Repr

namespace Level

/-- The commands whose result can be printed as JSON. -/
def hasJson : Level → Bool
  | under .run => true
  | under .highlight => true
  | _ => false

/-- Whether a level takes the path of a file. -/
def takesFile : Level → Bool
  | top => false
  | under .which => false
  | _ => true

/-- The option with a long name. -/
def long? (l : Level) (name : List Char) : Option Named :=
  if name = "interpreter".toList then some (.valued .interpreter)
  else if name = "help".toList then some (.switch .help)
  else if name = "version".toList ∧ l = top then some (.switch .version)
  else if name = "eval".toList ∧ l = under .run then some (.valued .code)
  else if name = "json".toList ∧ l.hasJson then some (.switch .json)
  else none

/-- The option with a name of one letter. -/
def short? (l : Level) (name : Char) : Option Named :=
  if name = 'h' then some (.switch .help)
  else if name = 'V' ∧ l = top then some (.switch .version)
  else if name = 'e' ∧ l = under .run then some (.valued .code)
  else none

end Level

/-- How a word looks. -/
inductive Shape where
  /-- Two dashes: no option follows. -/
  | endOfOptions
  /-- An option by its long name, perhaps with a value behind an equals sign. -/
  | long (name : List Char) (value : Option (List Char))
  /-- Options by letters behind one dash. -/
  | short (letters : List Char)
  /-- Anything else; a dash alone is a word. -/
  | word

/-- How a word looks. -/
def shape : List Char → Shape
  | ['-', '-'] => .endOfOptions
  | '-' :: '-' :: rest =>
    match cutAt? '=' rest with
    | some (name, value) => .long name (some value)
    | none => .long rest none
  | ['-'] => .word
  | '-' :: letters => .short letters
  | _ => .word

end Scratchpad.Arguments
