import Scratchpad.Text.Blank
import Scratchpad.Text.Lines

/-!
# The settings file

A settings file assigns one value a line, as `key = value`. The blanks around a line, its key and
its value do not count; empty lines, lines that start with `#` and lines without an equals sign
assign nothing.
-/

namespace Scratchpad.Settings

open Scratchpad.Text

/-- The key and the value that a line assigns; absent if it assigns none. -/
def assignment? (line : List Char) : Option (List Char × List Char) :=
  let line := trim line
  if line.head? = some '#' then none
  else (cutAt? '=' line).map fun p => (trim p.1, trim p.2)

/-- The assignments of a settings file, in order. -/
def assignments (file : List Char) : List (String × String) :=
  (lines file).filterMap fun line =>
    (assignment? line).map fun p => (String.ofList p.1, String.ofList p.2)

/-- An empty line assigns nothing. -/
@[simp] theorem assignment?_nil : assignment? [] = none := rfl

end Scratchpad.Settings
