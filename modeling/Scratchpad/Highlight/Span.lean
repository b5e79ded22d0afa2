import Scratchpad.Highlight.Painting
import Scratchpad.Text.Offset

/-!
# Spans

A span is a longest run of characters of one category, given by the byte offsets of its ends.
`highlight` cuts a source text into its spans.
-/

namespace Scratchpad.Highlight

open Scratchpad.Text

/-- The bytes from `start` up to `stop`, with their category. -/
structure Span where
  start : Nat
  stop : Nat
  category : Category
  deriving DecidableEq, Repr

namespace Span

/-- The part of `source` that a span covers; empty if the ends are no places of that text, or
reversed. -/
def text (s : Span) (source : String) : String :=
  String.ofList ((slice? source.toList s.start s.stop).getD [])

/-- The spans of characters with their categories, where the first character has byte offset
`start`. -/
def ofCategories (start : Nat) : List (Char × Category) → List Span
  | [] => []
  | (c, k) :: rest =>
    match ofCategories (start + c.utf8Size) rest with
    | [] => [⟨start, start + c.utf8Size, k⟩]
    | s :: spans =>
      if s.category = k then ⟨start, s.stop, k⟩ :: spans
      else ⟨start, start + c.utf8Size, k⟩ :: s :: spans

end Span

/-- The spans of a source text, in order; they cover all of it. -/
def highlight (source : String) : List Span :=
  Span.ofCategories 0 (source.toList.zip (categories source.toList))

end Scratchpad.Highlight
