import Scratchpad.Settings.Directories
import Scratchpad.Settings.File

/-!
# Settings

Three layers give the settings their values: built-in defaults, a settings file, and the environment
variables whose name starts with `GOBI_`. A later layer wins over an earlier one, and in a layer the
last assignment wins.
-/

namespace Scratchpad

open Scratchpad.Text

/-- The settings in effect, and the path of the settings file. -/
structure Settings where
  path : String
  table : Table
  deriving DecidableEq, Repr

namespace Settings

def interpreterPathsKey : String := "GOBI_INTERPRETER_PATHS"

def defaultSourceKey : String := "GOBI_DEFAULT_SOURCE"

def logFilterKey : String := "GOBI_LOG"

def logDirectoryKey : String := "GOBI_LOG_DIR"

/-- The beginning of the names of the environment variables that are settings. -/
def variableStart : List Char := ['G', 'O', 'B', 'I', '_']

/-- The values that hold when nothing else is said. -/
def defaults : Table :=
  [(defaultSourceKey, "echo \"Hello, World!\";"), (logFilterKey, "info"), (interpreterPathsKey, "")]

/-- Whether an environment variable is a setting. -/
def isVariable (name : String) : Bool := variableStart.isPrefixOf name.toList

/-- The settings from the text of a settings file, if there is one, and the environment. -/
def ofSources (path : String) (file : Option String) (env : Environment) : Settings where
  path
  table :=
    (defaults.putAll ((file.map fun f => assignments f.toList).getD [])).putAll
      (env.filter fun p => isVariable p.1)

/-- The value of a key. -/
def get? (s : Settings) (key : String) : Option String := s.table.get? key

/-- The value of a key as a path, which cannot be empty. -/
def path? (s : Settings) (key : String) : Option String := (s.get? key).filter fun v => !v.isEmpty

/-- The interpreters to try before the built-in ones: the parts of a setting between colons, without
empty ones. -/
def interpreterPaths (s : Settings) : List String :=
  ((((s.get? interpreterPathsKey).getD "").toList.splitOn ':').filter fun p => !p.isEmpty).map
    String.ofList

/-- The snippet that a new editor starts with. -/
def defaultSource (s : Settings) : String := (s.get? defaultSourceKey).getD ""

/-- Which records are worth keeping. -/
def logFilter (s : Settings) : String := (s.get? logFilterKey).getD "info"

/-- The directory for records; without a setting, a directory in the cache. -/
def logDirectory (s : Settings) (dirs : Directories) : String :=
  (s.path? logDirectoryKey).getD (String.ofList (Path.join dirs.cache.toList ['g', 'o', 'b', 'i']))

/-- Where the settings file of a user is. -/
def defaultPath (dirs : Directories) : String :=
  String.ofList (Path.join (Path.join dirs.settings.toList ['g', 'o', 'b', 'i']) ".gobirc".toList)

end Settings

end Scratchpad
