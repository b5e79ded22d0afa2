import Scratchpad.Command.Script
import Scratchpad.Highlight.ColouredText
import Scratchpad.Json

/-!
# Printing a script with its categories

The text of a file, coloured for a terminal, or its spans as JSON.
-/

namespace Scratchpad

/-- A span as a JSON value. -/
def Highlight.Span.toJson (s : Highlight.Span) : Json.Value :=
  .object [("start", .int s.start), ("end", .int s.stop), ("category", .string s.category.name)]

/-- The spans of a text as a JSON value. -/
def Highlight.spansJson (source : String) : Json.Value :=
  .list ((Highlight.highlight source).map Highlight.Span.toJson)

namespace Command

/-- The text that is printed for a file. -/
def highlight {σ : Type} (host : Host σ) (file : String) (json colour : Bool) (s : σ) :
    Except Report String :=
  match host.readText s file with
  | .error cause => .error (unreadableReport file cause)
  | .ok source =>
    .ok (if json then (Highlight.spansJson source).text ++ "\n"
      else Highlight.coloured colour source)

end Command

end Scratchpad
