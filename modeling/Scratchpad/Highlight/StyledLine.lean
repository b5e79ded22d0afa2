import Scratchpad.Highlight.Span
import Scratchpad.Text.Lines

/-!
# Styled lines

For a screen a source text is a list of lines, and a line is a list of segments of one category. A
span that reaches over a line feed becomes a segment on each of its lines; the line feed itself
belongs to no segment, and a segment is never empty.
-/

namespace Scratchpad.Highlight

open Scratchpad.Text

/-- A part of one line, with its category. -/
structure Segment where
  text : List Char
  category : Category
  deriving DecidableEq, Repr

namespace Segment

/-- The segments for a piece of a line: one, or none for an empty piece. -/
def ofPiece (k : Category) (piece : List Char) : List Segment :=
  if piece.isEmpty then [] else [⟨piece, k⟩]

/-- Puts the pieces of a span in front of the lines that follow; its last piece joins the first of
them. -/
def onto (k : Category) : (pieces : List (List Char)) → List (List Segment) → List (List Segment)
  | [], lines => lines
  | [p], [] => [ofPiece k p]
  | [p], line :: lines => (ofPiece k p ++ line) :: lines
  | p :: ps, lines => ofPiece k p :: onto k ps lines

end Segment

/-- The styled lines of texts with their categories, joined. -/
def styledLines (runs : List (List Char × Category)) : List (List Segment) :=
  runs.foldr (fun run lines => Segment.onto run.2 (pieces run.1) lines) [[]]

/-- The styled lines of a source text. -/
def highlightedLines (source : String) : List (List Segment) :=
  styledLines ((highlight source).map fun s => ((s.text source).toList, s.category))

end Scratchpad.Highlight
