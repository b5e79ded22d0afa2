import Scratchpad.Interpreter.Handle
import Scratchpad.Interpreter.Notice
import Scratchpad.Terminal.Colour

/-!
# Telling which interpreter is used

The path and the version of the interpreter, or else how to get one and where it was looked for.
-/

namespace Scratchpad.Command

open Scratchpad.Interpreter Scratchpad.Terminal

/-- Lines as text. -/
def ended (lines : List (List Char)) : String :=
  String.ofList (lines.flatMap fun line => line ++ ['\n'])

/-- The exit status and the text that is printed for what the search among the candidates found. -/
def which (handle : Option Handle) (searched : List String) : Nat × String :=
  match handle with
  | some h => (0, ended [h.path.toList, h.version.toList])
  | none =>
    (1, ended
      ([painted (some .yellow) missingNotice.toList,
        [],
        "Install with Homebrew:  ".toList ++ bold installCommand.toList,
        "Or download from:       ".toList ++ downloadAddress.toList,
        [],
        "Searched:".toList] ++
        searched.map fun path => ' ' :: ' ' :: path.toList))

end Scratchpad.Command
