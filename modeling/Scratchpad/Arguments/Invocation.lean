/-!
# Invocations

What the words of a command line ask for, once they are understood: a command with its own options,
and an interpreter to prefer. Words that cannot be understood are answered by a `Reply`; so are
requests for help and for the version.
-/

namespace Scratchpad.Arguments

/-- What `run` is asked to run, and how to print the result. -/
structure RunOptions where
  file : Option String
  code : Option String
  json : Bool
  deriving DecidableEq, Repr

/-- A command with its options. -/
inductive Command where
  /-- Opens the editor, with a script if one is named. -/
  | edit (file : Option String)
  /-- Runs a script or a snippet once. -/
  | run (options : RunOptions)
  /-- Prints a script with colours, or its spans. -/
  | highlight (file : String) (json : Bool)
  /-- Shows which interpreter would be used. -/
  | which
  deriving DecidableEq, Repr

/-- A whole command line: without a command, the editor is meant. -/
structure Invocation where
  interpreter : Option String
  command : Option Command
  deriving DecidableEq, Repr

/-- Why a command line does not lead to a command. -/
inductive Reply where
  | help
  | version
  /-- An option that does not exist here, or a word too many. -/
  | unknownArgument
  /-- A word that is no command where a command is due. -/
  | unknownCommand
  /-- Something that has to be given is not. -/
  | missingArgument
  /-- An option given twice, or two that exclude each other. -/
  | conflict
  /-- An option without its value, or an empty path. -/
  | invalidValue
  /-- A value for an option that takes none. -/
  | unwantedValue
  deriving DecidableEq, Repr

/-- The status with which a program ends that only replies. -/
def Reply.exitStatus : Reply → Nat
  | help => 0
  | version => 0
  | _ => 2

end Scratchpad.Arguments
