import Scratchpad.Machine.Bytes
import Scratchpad.Machine.Fault
import Scratchpad.Text.Split

/-!
# File trees

The files of a machine, each at its place, which is the list of names from the root. `resolve` finds
the place that a path leads to: every part but the last has to be a directory, a dot stays, two dots
go up, and after a slash at the end only a directory will do.
-/

namespace Scratchpad.Machine

open Scratchpad.Text

/-- The names on the way from the root. -/
abbrev Place := List Bytes

/-- The devices of a machine. -/
inductive Device where
  /-- It is always empty. -/
  | void
  /-- It never ends. -/
  | zeroes
  /-- It has room for nothing. -/
  | full
  /-- A terminal that is not there. -/
  | terminal
  /-- What the process that opens it has at a descriptor. -/
  | descriptor (n : Nat)
  deriving DecidableEq, Repr

/-- What can be at a place. -/
inductive Node where
  | directory
  | file (content : Bytes) (executable : Bool)
  /-- A program of the system, by its name. -/
  | utility (name : Bytes)
  | device (d : Device)
  /-- One end of a pipe. -/
  | pipe
  deriving DecidableEq, Repr

/-- Whether a file can be executed. -/
def Node.isExecutable : Node → Bool
  | file _ executable => executable
  | utility _ => true
  | _ => false

/-- The files of a machine. -/
structure FileTree where
  nodes : List (Place × Node)
  deriving DecidableEq, Repr

namespace FileTree

/-- What is at a place; the root is a directory. -/
def node? (t : FileTree) (p : Place) : Option Node :=
  if p.isEmpty then some .directory else t.nodes.lookup p

/-- The tree with a node at a place, in the place of what was there. -/
def put (t : FileTree) (p : Place) (n : Node) : FileTree :=
  if (t.nodes.lookup p).isSome then
    ⟨t.nodes.map fun e => if e.1 = p then (p, n) else e⟩
  else ⟨t.nodes ++ [(p, n)]⟩

/-- The tree without a place and what is under it. -/
def remove (t : FileTree) (p : Place) : FileTree := ⟨t.nodes.filter fun e => !p.isPrefixOf e.1⟩

/-- The longest name of a file. -/
def longestName : Nat := 255

/-- The longest path. -/
def longestPath : Nat := 4095

/-- Goes from a directory along the parts of a path. -/
def walk (t : FileTree) (toDirectory : Bool) : Place → List Bytes → Except Fault Place
  | here, [] => .ok here
  | here, part :: rest =>
    if part = ['.'] then t.walk toDirectory here rest
    else if part = ['.', '.'] then t.walk toDirectory here.dropLast rest
    else if longestName < part.length then .error .nameTooLong
    else
      let next := here ++ [part]
      match t.node? next with
      | none => .error .noEntry
      | some .directory => t.walk toDirectory next rest
      | some _ => if rest.isEmpty && !toDirectory then .ok next else .error .notDirectory

/-- Whether only a directory can be meant by a path. -/
def meansDirectory (path : Bytes) : Bool := path.getLast? = some '/'

/-- The parts of a path. -/
def partsOf (path : Bytes) : List Bytes := (path.splitOn '/').filter fun p => !p.isEmpty

/-- The place that a path leads to, from the directory `cwd`. -/
def resolve (t : FileTree) (cwd : Place) (path : Bytes) : Except Fault Place :=
  if path.isEmpty then .error .noEntry
  else if path.contains '\x00' then .error .zeroByteInPath
  else if longestPath < path.length then .error .nameTooLong
  else t.walk (meansDirectory path) (if path.head? = some '/' then [] else cwd) (partsOf path)

/-- What a path leads to. -/
def lookUp (t : FileTree) (cwd : Place) (path : Bytes) : Except Fault Node := do
  let p ← t.resolve cwd path
  match t.node? p with
  | some n => .ok n
  | none => .error .noEntry

/-- The place of something new in a directory. Nothing can be added to the directories in which the
system shows itself. -/
def newPlace (parent : Place) (name : Bytes) : Except Fault Place :=
  if parent.head? = some "proc".toList then .error .noEntry
  else if parent.head? = some "sys".toList then .error .readOnly
  else .ok (parent ++ [name])

/-- The place that a path leads to, where the last part may be missing yet. -/
def resolveNew (t : FileTree) (cwd : Place) (path : Bytes) : Except Fault Place :=
  match t.resolve cwd path with
  | .ok p => .ok p
  | .error .noEntry =>
    let parts := partsOf path
    match parts.getLast? with
    | none => .error .noEntry
    | some name =>
      if meansDirectory path then .error .isDirectory
      else do
        let parent ← t.walk true (if path.head? = some '/' then [] else cwd) parts.dropLast
        newPlace parent name
  | .error f => .error f

/-- What the file of a utility holds; it is no text. -/
def machineCode : Bytes := ['\x7f', 'E', 'L', 'F', '\xff']

/-- The bytes of a file. -/
def read (t : FileTree) (cwd : Place) (path : Bytes) : Except Fault Bytes := do
  match ← t.lookUp cwd path with
  | .directory => .error .isDirectory
  | .file content _ => .ok content
  | .utility _ => .ok machineCode
  | _ => .ok []

/-- Puts bytes at the end of a file, which is made if it is missing. -/
def append (t : FileTree) (p : Place) (bytes : Bytes) : FileTree :=
  match t.node? p with
  | some (.file content executable) => t.put p (.file (content ++ bytes) executable)
  | none => t.put p (.file bytes false)
  | some _ => t

/-- The file at a place as it was written to from a position on; a gap before it holds zeroes. -/
def overwrite (t : FileTree) (p : Place) (position : Nat) (bytes : Bytes) : FileTree :=
  match t.node? p with
  | some (.file content executable) =>
    let front := content.take position
    let gap := List.replicate (position - front.length) '\x00'
    t.put p (.file (front ++ gap ++ bytes ++ content.drop (position + bytes.length)) executable)
  | none => t.put p (.file (List.replicate position '\x00' ++ bytes) false)
  | some _ => t

/-- Makes a file at a place empty; it is made if it is missing. -/
def truncate (t : FileTree) (p : Place) : FileTree :=
  match t.node? p with
  | some (.file _ executable) => t.put p (.file [] executable)
  | none => t.put p (.file [] false)
  | some _ => t

/-- The names in the directory at a place. -/
def entries (t : FileTree) (p : Place) : List Bytes :=
  t.nodes.filterMap fun e =>
    if e.1.length = p.length + 1 && p.isPrefixOf e.1 then e.1.getLast? else none

/-- The place of something new: its parent is there, and it is not. -/
def vacant (t : FileTree) (cwd : Place) (path : Bytes) : Except Fault Place :=
  match t.resolve cwd path with
  | .ok _ => .error .alreadyThere
  | .error .noEntry => do
    let parts := partsOf path
    match parts.getLast? with
    | none => .error .noEntry
    | some name =>
      let parent ← t.walk true (if path.head? = some '/' then [] else cwd) parts.dropLast
      newPlace parent name
  | .error f => .error f

/-- Adds one directory. -/
def makeDirectory (t : FileTree) (cwd : Place) (path : Bytes) : Except Fault FileTree := do
  let p ← t.vacant cwd path
  .ok (t.put p .directory)

/-- Adds one directory, or leaves the one that is there. -/
def ensureDirectory (t : FileTree) (cwd : Place) (path : Bytes) : Except Fault FileTree :=
  match t.makeDirectory cwd path with
  | .ok t => .ok t
  | .error f =>
    match t.lookUp cwd path with
    | .ok .directory => .ok t
    | _ => .error f

/-- The parts of a path that name something: dots count only at the front of a relative path. -/
def namingParts (path : Bytes) : List Bytes :=
  match path.splitOn '/' with
  | ['.'] :: parts => ['.'] :: parts.filter fun p => !p.isEmpty && p != ['.']
  | parts => parts.filter fun p => !p.isEmpty && p != ['.']

/-- The tree after a directory was added, or the fault that it was not. -/
def withDirectory (t : FileTree) (cwd : Place) (path : Bytes) : FileTree × Option Fault :=
  match t.ensureDirectory cwd path with
  | .ok t => (t, none)
  | .error f => (t, some f)

/-- Adds a directory; where something above it is missing, that is added first, and it stays even
where the directory itself cannot be added. `above` are the parts of the path above it, the last one
first, and `front` is what stands before the first one. -/
def makeDirectoriesUnder (t : FileTree) (cwd : Place) (front path : Bytes) :
    (above : List Bytes) → FileTree × Option Fault
  | [] => t.withDirectory cwd path
  | name :: above =>
    match t.withDirectory cwd path with
    | (_, some .noEntry) =>
      let parent := front ++ ((name :: above).reverse.intersperse ['/']).flatten
      match t.makeDirectoriesUnder cwd front parent above with
      | (t, none) => t.withDirectory cwd path
      | r => r
    | r => r

/-- Adds the directory that a path leads to and those above it, where there is nothing yet. -/
def makeDirectories (t : FileTree) (cwd : Place) (path : Bytes) : FileTree × Option Fault :=
  if path.isEmpty then (t, none)
  else
    t.makeDirectoriesUnder cwd (if path.head? = some '/' then ['/'] else []) path
      (namingParts path).dropLast.reverse

/-- Removes what is no directory. -/
def removeFile (t : FileTree) (cwd : Place) (path : Bytes) : Except Fault FileTree := do
  let p ← t.resolve cwd path
  if t.node? p = some .directory then .error .isDirectory else .ok (t.remove p)

/-- Removes an empty directory. -/
def removeDirectory (t : FileTree) (cwd : Place) (path : Bytes) : Except Fault FileTree := do
  let p ← t.resolve cwd path
  if t.node? p ≠ some .directory then .error .notDirectory
  else if p.isEmpty then .error .busy
  else if partsOf path |>.getLast? |>.any (· = ['.']) then .error .invalid
  else if (t.entries p).isEmpty then .ok (t.remove p)
  else .error .notEmpty

/-- A path without the slashes at its end, unless it is the root. -/
def withoutSlashes (path : Bytes) : Bytes :=
  match (path.reverse.dropWhile (· == '/')).reverse with
  | [] => path
  | short => short

/-- Moves what one path leads to to the place of another one. -/
def rename (t : FileTree) (cwd : Place) (path target : Bytes) : Except Fault FileTree := do
  let p ← t.resolve cwd path
  let q ← t.resolveNew cwd (withoutSlashes target)
  let directory := some Node.directory
  if meansDirectory target && t.node? p ≠ directory && t.node? q ≠ directory then
    .error .notDirectory
  else if p = q then .ok t
  else if p.isPrefixOf q then .error .invalid
  else
    match t.node? p, t.node? q with
    | some .directory, some .directory =>
      if (t.entries q).isEmpty then .ok (moved p q) else .error .notEmpty
    | some .directory, some _ => .error .notDirectory
    | some _, some .directory => .error .isDirectory
    | _, _ => .ok (moved p q)
where
  moved (p q : Place) : FileTree :=
    ⟨(t.remove q).nodes.map fun e =>
      if p.isPrefixOf e.1 then (q ++ e.1.drop p.length, e.2) else e⟩

/-- Makes a file executable, or not. -/
def setExecutable (t : FileTree) (cwd : Place) (path : Bytes) (executable : Bool) :
    Except Fault FileTree := do
  let p ← t.resolve cwd path
  match t.node? p with
  | some (.file content _) => .ok (t.put p (.file content executable))
  | _ => .ok t

@[simp] theorem node?_root (t : FileTree) : t.node? [] = some .directory := rfl

@[simp] theorem walk_nil (t : FileTree) (d : Bool) (here : Place) :
    t.walk d here [] = .ok here := rfl

end FileTree

end Scratchpad.Machine
