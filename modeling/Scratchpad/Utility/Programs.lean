import Scratchpad.Machine.System
import Scratchpad.Shell.Start
import Scratchpad.Utility.Columns
import Scratchpad.Utility.Count
import Scratchpad.Utility.Difference
import Scratchpad.Utility.Display
import Scratchpad.Utility.Dump
import Scratchpad.Utility.Ends
import Scratchpad.Utility.Exchange
import Scratchpad.Utility.Expression
import Scratchpad.Utility.Files
import Scratchpad.Utility.Gathering
import Scratchpad.Utility.Listing
import Scratchpad.Utility.Numbering
import Scratchpad.Utility.Order
import Scratchpad.Utility.Repetition
import Scratchpad.Utility.Search
import Scratchpad.Utility.Selection
import Scratchpad.Utility.Sequence
import Scratchpad.Utility.Stream.Editing
import Scratchpad.Utility.Transfer

/-!
# The programs of a machine

The utilities by their names, and what a program does that was loaded.
-/

namespace Scratchpad.Utility

open Scratchpad.Machine

/-- The utilities, besides the shell. -/
def utilities : List (Bytes × (Call → Routine Nat)) :=
  [("true", fun _ => pure 0), ("false", fun _ => pure 1), ("[", test true), ("base64", base64),
   ("basename", basename), ("cat", cat), ("chmod", chmod), ("cmp", cmp), ("cp", cp), ("cut", cut),
   ("dd", dd), ("dirname", dirname), ("echo", echo), ("egrep", egrep), ("env", env),
   ("expr", expr), ("fgrep", fgrep), ("fold", fold), ("grep", grep), ("head", head),
   ("id", showUser), ("ls", ls), ("mkdir", mkdir), ("mv", mv), ("nl", nl), ("nohup", nohup),
   ("od", od), ("paste", paste), ("printenv", printenv), ("printf", printf), ("pwd", pwd),
   ("rev", rev), ("rm", rm), ("rmdir", rmdir), ("sed", sed), ("seq", seq), ("sleep", sleep), ("sort", sort),
   ("tac", tac), ("tail", tail), ("tee", tee), ("test", test false), ("timeout", timeout),
   ("touch", touch), ("tr", tr), ("tty", tty), ("uname", uname), ("uniq", uniq), ("wc", wc),
   ("which", which), ("whoami", whoami), ("xargs", xargs), ("yes", yes)].map fun u =>
    (u.1.toList, u.2)

/-- The names of the shell. -/
def shellNames : List Bytes := ["sh", "dash"].map String.toList

/-- The names of all programs. -/
def programNames : List Bytes := shellNames ++ utilities.map Prod.fst

/-- What a program does once it is loaded. -/
def main (image : Image) (environment : Bindings) : Routine Nat :=
  if shellNames.contains image.utility then
    Shell.start image.name image.arguments environment
  else
    match utilities.lookup image.utility with
    | some f => f ⟨image.name, image.arguments, environment⟩
    | none => pure 127

/-- What a program does. -/
def start (image : Image) (environment : Bindings) : Program :=
  (do
    let list := (environment.lookup Loader.librariesKey).getD []
    let _ ← Routine.writeAll 2 (Loader.complaints list)
    main image environment : Routine Nat).program

end Scratchpad.Utility
