import Scratchpad.Host
import Scratchpad.Table
import Scratchpad.Utility.Programs

/-!
# Machines

A machine in memory: a file tree, a working directory, an environment and a standard input. It runs
programs in a system of its own, and is a host.
-/

namespace Scratchpad

open Scratchpad.Machine Scratchpad.Execution

/-- A machine. -/
structure Machine where
  files : FileTree
  cwd : Place
  environment : Table
  input : List UInt8

namespace Machine

/-- The files that every machine has. -/
def systemFiles : FileTree :=
  let place (path : String) : Place := FileTree.partsOf path.toList
  ⟨(["/bin", "/boot", "/dev", "/dev/fd", "/etc", "/home", "/lib", "/media", "/mnt", "/opt", "/proc",
      "/proc/self", "/proc/self/fd", "/root", "/run", "/sbin", "/srv", "/sys", "/tmp", "/usr",
      "/usr/bin", "/usr/lib", "/usr/local", "/usr/local/bin", "/usr/sbin", "/usr/share", "/var",
      "/var/tmp", "/work"].map fun d =>
        (place d, Node.directory)) ++
    ([("/etc/group", "root:x:0:\n"), ("/etc/hosts", "127.0.0.1\tlocalhost\n"),
        ("/etc/passwd", "root:x:0:0:root:/root:/bin/sh\n")].map fun f =>
          (place f.1, Node.file f.2.toList false)) ++
    ([("/dev/null", Device.void), ("/dev/zero", .zeroes), ("/dev/random", .zeroes),
        ("/dev/urandom", .zeroes), ("/dev/full", .full), ("/dev/tty", .terminal),
        ("/dev/stdin", .descriptor 0), ("/dev/stdout", .descriptor 1),
        ("/dev/stderr", .descriptor 2)].map fun d => (place d.1, Node.device d.2)) ++
    ((["/dev/fd", "/proc/self/fd"].map place).flatMap fun d =>
      (List.range 20).map fun n => (d ++ [Bytes.ofNat n], Node.device (.descriptor n))) ++
    ((["/bin", "/usr/bin"].map place).flatMap fun d =>
      Utility.programNames.map fun name => (d ++ [name], Node.utility name))⟩

/-- The directory that a machine starts in. -/
def startPlace : Place := FileTree.partsOf "/work".toList

/-- The directories that are searched when the environment names none. -/
def usualPath : Bytes := "/bin:/usr/bin".toList

/-- How many steps the processes of a system may take together. -/
def fuel : Nat := 1000000000

/-- The number of the first process. -/
def firstProcess : Nat := 4711

/-- The number of the process, outside of the system, that started the first one. -/
def outside : Nat := 4710

/-- The environment as bytes. -/
def bindings (m : Machine) : Bindings :=
  m.environment.map fun v => (Bytes.ofText v.1, Bytes.ofText v.2)

/-- A system with one process, which runs a program: it has nothing to read, and writes to the two
streams. -/
def system (m : Machine) (image : Image) : System where
  files := m.files
  clock := 0
  processes :=
    [{ id := firstProcess
       parent := outside
       program := Utility.start image m.bindings
       ending := none
       descriptors := [(0, 0), (1, 1), (2, 2)]
       cwd := m.cwd
       reactions := []
       caught := []
       stopped := false }]
  openFiles :=
    [(0, ⟨.device .void, true, false, false, 0⟩), (1, ⟨.stream .standard, false, true, false, 0⟩),
     (2, ⟨.stream .error, false, true, false, 0⟩)]
  pipes := []
  written := []
  nextProcess := firstProcess + 1
  nextFile := 3
  nextPipe := 0

/-- How the first process of a system ended. -/
def endingIn (s : System) : Ending :=
  ((s.process? firstProcess).bind Process.ending).getD (.exited 0)

/-- The directories, with colons between them, in which programs are looked for. -/
def searchPath (m : Machine) : Bytes := (m.bindings.lookup "PATH".toList).getD usualPath

/-- Runs a program that was loaded to its end. -/
def run (m : Machine) (image : Image) : Launch × Machine :=
  let s := System.run Utility.start firstProcess fuel 0 0 (m.system image)
  (.finished s.written.reverse (endingIn s), { m with files := s.files })

/-- Runs a program with arguments. -/
def launch (m : Machine) (program : String) (arguments : List String) : Launch × Machine :=
  match Loader.find m.files m.cwd m.searchPath (Bytes.ofText program)
      (arguments.map Bytes.ofText) with
  | .error f => (.notStarted f.message, m)
  | .ok image => m.run image

/-- What a path leads to. -/
def lookUp (m : Machine) (path : String) : Except Fault Node :=
  m.files.lookUp m.cwd (Bytes.ofText path)

/-- The bytes of a file. The first descriptor is for the standard input. -/
def read (m : Machine) (path : String) : Except Fault (List UInt8) := do
  match ← m.lookUp path with
  | .device (.descriptor 0) => .ok m.input
  | .device .terminal => .error .noDevice
  | _ => (m.files.read m.cwd (Bytes.ofText path)).map Bytes.toList

/-- Whether something is a regular file. -/
def isRegular : Node → Bool
  | .file _ _ => true
  | .utility _ => true
  | _ => false

/-- The machine with a file at a path, if it was missing. -/
def makeFile (m : Machine) (path : Bytes) : Except Fault Machine := do
  let p ← m.files.resolveNew m.cwd path
  match m.files.node? p with
  | some .directory => .error .isDirectory
  | some _ => .ok m
  | none => .ok { m with files := m.files.append p [] }

/-- A machine as a host. -/
def host : Host Machine where
  hasEntry m path := (m.lookUp path).toBool
  hasFile m path := (m.lookUp path).toOption.any isRegular
  read m path := (m.read path).mapError Fault.message
  standardInput m := m.input
  launch := launch
  makeDirectory m path :=
    let (files, fault) := m.files.makeDirectories m.cwd (Bytes.ofText path)
    (fault.map Fault.message, { m with files })
  makeFile m path := (m.makeFile (Bytes.ofText path)).mapError Fault.message

end Machine

end Scratchpad
