import Scratchpad.Host
import Scratchpad.Path
import Scratchpad.Php.OpenTag
import Scratchpad.Report

/-!
# Reading scripts

A script is read from a file, or from the standard input if the path is a single dash. Its open tag
is taken off, so that what is left can be handed to the interpreter as a snippet.
-/

namespace Scratchpad.Command

/-- Why a script cannot be read. -/
inductive ScriptProblem where
  /-- The path leads nowhere. -/
  | missing (path : String)
  /-- The path leads to something that is no file. -/
  | notFile (path : String)
  /-- The file cannot be read, or holds no text. -/
  | unreadable (path cause : String)
  /-- The standard input holds no text. -/
  | standardInput (cause : String)
  deriving DecidableEq, Repr

/-- The report of a file that cannot be read. -/
def unreadableReport (path cause : String) : Report :=
  ⟨"Failed to read file '" ++ path ++ "'", some cause⟩

/-- What is reported for a problem. -/
def ScriptProblem.report : ScriptProblem → Report
  | missing path => ⟨"Script file '" ++ path ++ "' does not exist", none⟩
  | notFile path => ⟨"'" ++ path ++ "' is not a file", none⟩
  | unreadable path cause => unreadableReport path cause
  | standardInput cause => ⟨"failed to read script from stdin", some cause⟩

/-- The path that stands for the standard input. -/
def standardInputPath : List Char := ['-']

/-- Reads a script, without its open tag. -/
def readScript {σ : Type} (host : Host σ) (path : String) (s : σ) : Except ScriptProblem String :=
  if Path.same path.toList standardInputPath then
    match host.inputText s with
    | .ok text => .ok (Php.snippetOf text)
    | .error cause => .error (.standardInput cause)
  else if !host.hasEntry s path then .error (.missing path)
  else if !host.hasFile s path then .error (.notFile path)
  else
    match host.readText s path with
    | .ok text => .ok (Php.snippetOf text)
    | .error cause => .error (.unreadable path cause)

end Scratchpad.Command
