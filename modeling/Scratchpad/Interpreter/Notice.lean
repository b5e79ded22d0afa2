/-!
# Notices about a missing interpreter

What a user is told when no interpreter was found: that there is none, and how to get one.
-/

namespace Scratchpad.Interpreter

/-- The command that installs an interpreter. -/
def installCommand : String := "brew install php"

/-- Where an interpreter can be had. -/
def downloadAddress : String := "https://www.php.net/downloads"

/-- The notice that there is no interpreter. -/
def missingNotice : String := "PHP is not installed"

end Scratchpad.Interpreter
