import Scratchpad.Text.Split

/-!
# Lines

Two ways to cut a text into lines. `pieces` cuts at every line feed, so a text always has one piece
more than line feeds, and the pieces joined with line feeds give it back. `lines` lists the lines of
a finished output: a line feed ends a line, and neither it nor one carriage return before it belongs
to the line.
-/

namespace Scratchpad.Text

/-- The pieces of a text between its line feeds. -/
abbrev pieces (cs : List Char) : List (List Char) := cs.splitOn '\n'

/-- The pieces of a text joined with line feeds. -/
abbrev joinLines (ps : List (List Char)) : List Char := ['\n'].intercalate ps

/-- A line without the carriage return at its end, if it has one. -/
def dropCarriageReturn (line : List Char) : List Char :=
  if line.getLast? = some '\r' then line.dropLast else line

/-- The lines that the pieces of an output stand for: every piece but the last was ended by a line
feed, and the last is a line only if it holds something. -/
def linesOfPieces : List (List Char) → List (List Char)
  | [] => []
  | [p] => if p.isEmpty then [] else [p]
  | p :: q :: ps => dropCarriageReturn p :: linesOfPieces (q :: ps)

/-- The lines of an output. -/
def lines (cs : List Char) : List (List Char) := linesOfPieces (pieces cs)

/-- The first line of an output; of an empty output, the empty line. -/
def firstLine (cs : List Char) : List Char := (lines cs).headD []

end Scratchpad.Text
