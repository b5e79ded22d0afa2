import Scratchpad.Settings.Layers

/-!
# Candidates for the interpreter

The paths at which an interpreter is looked for, in the order in which they are tried: a path given
on the command line, the paths of the settings, and the places where package managers put one.
-/

namespace Scratchpad.Interpreter

/-- The paths that are tried without being asked for: package managers first, and newer versions
before older ones. -/
def builtIn : List String :=
  ["/opt/homebrew/bin/php",
   "/opt/homebrew/opt/php/bin/php",
   "/opt/homebrew/opt/php@8.4/bin/php",
   "/opt/homebrew/opt/php@8.3/bin/php",
   "/opt/homebrew/opt/php@8.2/bin/php",
   "/opt/homebrew/opt/php@8.1/bin/php",
   "/usr/local/bin/php",
   "/usr/local/opt/php/bin/php",
   "/usr/bin/php",
   "/Applications/MAMP/bin/php/php8.2.0/bin/php",
   "/Applications/XAMPP/bin/php"]

/-- Candidates with the nonempty ones of other paths in front of them. -/
def preferring (extra candidates : List String) : List String :=
  (extra.filter fun p => !p.isEmpty) ++ candidates

/-- The candidates under the given settings, with a path from the command line first. -/
def candidates (s : Settings) (override : Option String) : List String :=
  preferring override.toList (preferring s.interpreterPaths builtIn)

@[simp] theorem preferring_nil (candidates : List String) :
    preferring [] candidates = candidates := rfl

end Scratchpad.Interpreter
