import Scratchpad.Highlight.Span

/-!
# Coloured text

A source text as it is printed: in colour, every span stands between the escape sequences of its
colour, and plain spans stand as they are; without colour, the text itself.
-/

namespace Scratchpad.Highlight

open Scratchpad.Terminal

/-- The printed form of a source text. -/
def coloured (colour : Bool) (source : String) : String :=
  if colour then
    String.ofList ((highlight source).flatMap fun s =>
      painted s.category.colour (s.text source).toList)
  else source

end Scratchpad.Highlight
