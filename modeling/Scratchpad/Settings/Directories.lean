import Scratchpad.Path
import Scratchpad.Table

/-!
# The directories of a user

Where settings and temporary records of a user are kept: under a directory that the environment
names, if it names it by an absolute path, and else in a fixed place of the home directory.
-/

namespace Scratchpad

/-- The environment variables of a process, each with its value. -/
abbrev Environment := Table

namespace Settings

/-- The directories of a user. -/
structure Directories where
  settings : String
  cache : String
  deriving DecidableEq, Repr

/-- The home directory that belongs to the account when the environment names none. -/
def accountHome : String := "/root"

/-- The home directory: the value of `HOME` unless that is empty. -/
def home (env : Environment) : String :=
  match Table.get? "HOME" env with
  | some h => if h.isEmpty then accountHome else h
  | none => accountHome

/-- The directory that variable `name` holds if it is an absolute path, else `part` of the home
directory. -/
def directory (env : Environment) (name part : String) : String :=
  let fallback := String.ofList (Path.join (home env).toList part.toList)
  match Table.get? name env with
  | some d => if Path.isAbsolute d.toList then d else fallback
  | none => fallback

/-- The directories that an environment names. -/
def Directories.ofEnvironment (env : Environment) : Directories where
  settings := directory env "XDG_CONFIG_HOME" ".config"
  cache := directory env "XDG_CACHE_HOME" ".cache"

end Settings

end Scratchpad
