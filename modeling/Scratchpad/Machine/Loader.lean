import Scratchpad.Machine.FileTree
import Scratchpad.Text.Blank

/-!
# Loading programs

`load` finds out what a path means as a program: a utility, with the arguments that it gets. A
script names its interpreter in its first line, after a number sign and an exclamation mark, and the
interpreter gets the path of the script. Only the first bytes of a script are looked at: an
interpreter that is not known to end within them is none, while its argument may be cut off. A name
without a slash is looked for in the directories of a search path.
-/

namespace Scratchpad.Machine

open Scratchpad.Text

/-- A program that can be run: a utility, the name under which it was called, and its arguments. -/
structure Image where
  utility : Bytes
  name : Bytes
  arguments : List Bytes
  deriving DecidableEq, Repr

namespace Loader

/-- How many programs may be loaded for one: scripts, each the interpreter of the one before, and a
utility. -/
def deepest : Nat := 6

/-- The longest argument. -/
def longestArgument : Nat := 131071

/-- How many bytes of a script are looked at for its interpreter. -/
def lineLimit : Nat := 256

/-- Whether a character separates an interpreter from its argument. -/
def isSpace (c : Char) : Bool := c == ' ' || c == '\t'

/-- The characters that a script has for its interpreter, after the mark at its start: those before
the end of the first line, or all that are looked at, filled up with zeroes; absent if there an
interpreter may have been cut off. -/
def interpreterLine? (content : Bytes) : Option Bytes :=
  let seen := content.take lineLimit
  let body := (seen ++ List.replicate (lineLimit - seen.length) '\x00').drop 2
  let line := body.takeWhile fun c => c != '\n' && c != '\x00'
  if body[line.length]? = some '\n' then some line
  else if (body.dropWhile isSpace).any fun c => isSpace c || c == '\x00' then some body.dropLast
  else none

/-- The interpreter that the first line of a script names, and the one argument that it may give it;
absent if the file is no script. -/
def interpreter? (content : Bytes) : Option (Bytes × Option Bytes) :=
  match content with
  | '#' :: '!' :: _ => do
    let line ← interpreterLine? content
    let line := ((line.reverse.dropWhile isSpace).reverse).dropWhile isSpace
    if line.isEmpty then none
    else
      let ends (c : Char) : Bool := isSpace c || c == '\x00'
      let rest := line.dropWhile fun c => !ends c
      some (line.takeWhile fun c => !ends c,
        if rest.head?.any isSpace then some ((rest.dropWhile isSpace).takeWhile (· != '\x00'))
        else none)
  | _ => none

/-- What a path means as a program. -/
def load (t : FileTree) (cwd : Place) : (depth : Nat) → (path name : Bytes) → List Bytes →
    Except Fault Image
  | depth, path, name, arguments => do
    match ← t.lookUp cwd path with
    | .utility u => if depth = 0 then .error .tooManyLinks else .ok ⟨u, name, arguments⟩
    | .file content true =>
      match depth with
      | 0 => .error .tooManyLinks
      | depth + 1 =>
        match interpreter? content with
        | none => .error .notExecutableFormat
        | some (i, argument) => load t cwd depth i i (argument.toList ++ path :: arguments)
    | _ => .error .denied

/-- Looks for a program in directories: a directory without it is passed over, and one whose file
cannot be run is remembered. -/
def search (t : FileTree) (cwd : Place) (name : Bytes) (arguments : List Bytes) :
    (denied : Bool) → List Bytes → Except Fault Image
  | denied, [] => .error (if denied then .denied else .noEntry)
  | denied, d :: ds =>
    let path := if d.isEmpty then name else d ++ '/' :: name
    match load t cwd deepest path name arguments with
    | .ok image => .ok image
    | .error .noEntry => search t cwd name arguments denied ds
    | .error .notDirectory => search t cwd name arguments denied ds
    | .error .denied => search t cwd name arguments true ds
    | .error f => .error f

/-- The variable that names libraries which are loaded with every program. -/
def librariesKey : Bytes := "LD_PRELOAD".toList

/-- The names in a list of libraries; blanks and colons are between them. -/
def libraries (list : Bytes) : List Bytes :=
  ((list.splitOn ':').flatMap (·.splitOn ' ')).filter fun name => !name.isEmpty

/-- What is complained when libraries are to be loaded of which there are none. -/
def complaints (list : Bytes) : Bytes :=
  (libraries list).flatMap fun name =>
    "ERROR: ld.so: object '".toList ++ name ++
      ("' from LD_PRELOAD cannot be preloaded (cannot open shared object file): ignored." ++
        "\n").toList

/-- What a program name means: a path if it has a slash, and else a name to look for. -/
def find (t : FileTree) (cwd : Place) (searchPath name : Bytes) (arguments : List Bytes) :
    Except Fault Image :=
  if (name :: arguments).any fun a => a.contains '\x00' then .error .zeroByte
  else if (name :: arguments).any fun a => longestArgument < a.length then .error .argumentsTooLong
  else if name.isEmpty then .error .noEntry
  else if name.contains '/' then load t cwd deepest name name arguments
  else search t cwd name arguments false (searchPath.splitOn ':')

end Loader

end Scratchpad.Machine
