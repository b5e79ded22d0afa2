/-!
# Reports

What the user is told when a command cannot be carried out: a message, and the cause behind it if
there is one.
-/

namespace Scratchpad

/-- A message, and the cause behind it. -/
structure Report where
  message : String
  cause : Option String
  deriving DecidableEq, Repr

namespace Report

/-- A report on one line. -/
def line (r : Report) : String :=
  match r.cause with
  | none => r.message
  | some cause => r.message ++ ": " ++ cause

/-- A report as the last thing that a program says. -/
def text (r : Report) : String :=
  "Error: " ++ r.message ++
    match r.cause with
    | none => "\n"
    | some cause => "\n\nCaused by:\n    " ++ cause ++ "\n"

end Report

end Scratchpad
