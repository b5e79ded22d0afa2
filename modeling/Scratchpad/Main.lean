import Scratchpad.Machine.Host
import Scratchpad.Program

/-!
# The command line

Carries out one call of the program. Its surroundings are a machine in memory, on which the settings
file and the files that the arguments name are put before; the program itself decides everything
else.
-/

namespace Scratchpad.CommandLine

open Scratchpad.Machine

/-- The environment variables that are looked at. -/
def consulted : List String :=
  ["HOME", "PATH", "XDG_CONFIG_HOME", "XDG_CACHE_HOME", "RUST_LOG", Program.workersKey,
    Settings.interpreterPathsKey, Settings.defaultSourceKey, Settings.logFilterKey,
    Settings.logDirectoryKey]

/-- The machine with a file at a path. -/
def addFile (m : Machine) (path : String) (content : ByteArray) : Machine :=
  let bytes := Bytes.ofText path
  let parts := FileTree.partsOf bytes
  let place := if bytes.head? = some '/' then parts else m.cwd ++ parts
  let above : Bytes := place.dropLast.flatMap fun name => '/' :: name
  let (files, _) := m.files.makeDirectories [] above
  { m with files := files.put place (.file (Bytes.ofList content.toList) true) }

/-- The machine with the files that can be read among some paths. -/
def withFiles (m : Machine) (paths : List String) : IO Machine :=
  paths.foldlM (fun m (path : String) => do
    let content ← (IO.FS.readBinFile path).toBaseIO
    return content.toOption.elim m (addFile m path)) m

/-- The values of the environment variables that are set. -/
def environment : IO Environment :=
  consulted.filterMapM fun name => do
    return (← IO.getEnv name).map fun value => (name, value)

/-- Whether the standard input is asked for. -/
def asksForInput (arguments : List String) : Bool :=
  arguments.any fun a => Path.same a.toList Command.standardInputPath

/-- The bytes of the standard input. -/
def readInput : IO ByteArray := do (← IO.getStdin).readBinToEnd

end Scratchpad.CommandLine

open Scratchpad Scratchpad.CommandLine

/-- Prints what a call of the program with the arguments prints, and ends with its status. -/
def main (arguments : List String) : IO UInt32 := do
  let env ← environment
  let input ← if asksForInput arguments then readInput else pure .empty
  let settingsPath := Settings.defaultPath (.ofEnvironment env)
  let empty : Machine := ⟨Machine.systemFiles, Machine.startPlace, env, input.toList⟩
  let m ← withFiles empty (settingsPath :: arguments)
  let (outcome, _) := Program.run Machine.host env arguments m
  IO.print outcome.output
  IO.eprint outcome.report
  return outcome.status.toUInt32
