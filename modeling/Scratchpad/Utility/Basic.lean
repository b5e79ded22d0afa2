import Scratchpad.Machine.Request
import Scratchpad.Utility.Options

/-!
# Utilities

What the programs of a machine have in common: the names of files in their messages, and their
input and output. A message starts with the name under which the program was called.
-/

namespace Scratchpad.Utility

open Scratchpad.Machine Scratchpad.Text

/-- A utility as it is called. -/
structure Call where
  name : Bytes
  arguments : List Bytes
  environment : Bindings

/-- Whether a name needs no quotes. -/
def isPlain (name : Bytes) : Bool :=
  !name.isEmpty && name != ['\x7b'] && name != ['\x7d'] &&
    name.head? != some '#' && name.head? != some '~' &&
    name.all fun c => c.isAlphanum || "%+,-./@]_#~\x7b\x7d".toList.contains c

/-- Whether a byte can be shown as it is. -/
def isShown (c : Char) : Bool := ' ' ≤ c && c ≤ '~'

/-- A byte that cannot be shown, as an escape. -/
def escaped (c : Char) : Bytes :=
  match c with
  | '\x07' => ['\\', 'a']
  | '\x08' => ['\\', 'b']
  | '\x0c' => ['\\', 'f']
  | '\n' => ['\\', 'n']
  | '\r' => ['\\', 'r']
  | '\t' => ['\\', 't']
  | '\x0b' => ['\\', 'v']
  | c =>
    let digits := Nat.toDigits 8 c.toNat
    '\\' :: List.replicate (3 - digits.length) '0' ++ digits

/-- A text between quotes, so that a shell reads it as it is. -/
def quoted (text : Bytes) : Bytes :=
  if text.contains '\'' && text.all fun c => isShown c && !"\"$\x60\\!".toList.contains c then
    '"' :: text ++ ['"']
  else
    let groups := text.splitBy fun a b => isShown a == isShown b
    let part (g : Bytes) : Bytes :=
      if g.all isShown then
        '\'' :: g.flatMap (fun c => if c = '\'' then "'\\''".toList else [c]) ++ ['\'']
      else "$'".toList ++ g.flatMap escaped ++ ['\'']
    match groups with
    | [] => "''".toList
    | g :: _ => (if g.all isShown then [] else "''".toList) ++ groups.flatMap part

/-- A name as it is shown in a message, with quotes only where it needs them. -/
def shownName (name : Bytes) : Bytes :=
  if isPlain name then name else quoted name

/-- A text between single quotes, as messages have it. -/
def cited (text : Bytes) : Bytes :=
  '\'' :: text.flatMap (fun c =>
    if c = '\'' || c = '\\' then ['\\', c] else if isShown c then [c] else escaped c) ++ ['\'']

namespace Call

/-- Writes a message. -/
def complain (c : Call) (message : Bytes) : Routine Unit := do
  let _ ← Routine.writeAll 2 (c.name ++ ": ".toList ++ message ++ ['\n'])

/-- Writes a message about a file. -/
def complainOf (c : Call) (path : Bytes) (f : Fault) : Routine Unit :=
  c.complain (shownName path ++ ": ".toList ++ f.text.toList)

/-- Writes a message and ends. -/
def fail {α : Type} (c : Call) (message : Bytes) (status : Nat) : Routine α := do
  c.complain message
  Routine.exit status

/-- Writes where help can be found, and ends. -/
def refuse {α : Type} (c : Call) (status : Nat) : Routine α := do
  let _ ← Routine.writeAll 2
    ("Try '".toList ++ c.name ++ " --help' for more information.\n".toList)
  Routine.exit status

/-- Writes a message and where help can be found, and ends. -/
def misused {α : Type} (c : Call) (message : Bytes) (status : Nat) : Routine α := do
  c.complain message
  c.refuse status

/-- The options among the arguments, and the other arguments. -/
def options (c : Call) (o : Options) (status : Nat) : Routine (List (Char × Bytes) × List Bytes) :=
  match o.read c.arguments with
  | .ok r => pure r
  | .error e => c.misused e status

/-- What a word means for an option: one of some names, which may be cut off as long as only one
thing can be meant. -/
def choice {α : Type} [BEq α] (c : Call) (option : String) (names : List (String × α))
    (status : Nat) (word : Bytes) : Routine α :=
  let exact := names.find? fun n => n.1.toList = word
  let all := match exact with
    | some n => [n]
    | none => names.filter fun n => word.isPrefixOf n.1.toList
  match all with
  | n :: rest => if rest.all fun m => m.2 == n.2 then pure n.2 else wrong "ambiguous argument "
  | [] => wrong "invalid argument "
where
  wrong (what : String) : Routine α := do
    c.complain (what.toList ++ cited word ++ " for ".toList ++ cited option.toList)
    let rows := (names.splitBy fun a b => a.2 == b.2).map fun group =>
      "  - ".toList ++ ((group.map fun n => cited n.1.toList).intersperse ", ".toList).flatten
    let _ ← Routine.writeAll 2
      ("Valid arguments are:\n".toList ++ rows.flatMap fun row => row ++ ['\n'])
    c.refuse status

/-- Writes output; if that is impossible, the utility ends. -/
def put (c : Call) (bytes : Bytes) : Routine Unit := do
  if bytes.isEmpty then pure ()
  else
    match ← Routine.writeAll 1 bytes with
    | .ok _ => pure ()
    | .error f => c.fail ("write error: ".toList ++ f.text.toList) 1

end Call

/-- Opens a file for reading; a dash means the input. -/
def openInput (path : Bytes) : Routine (Except Fault Nat) :=
  if path = ['-'] then pure (.ok 0) else Routine.ask (.openFile path .read)

/-- Closes a file that was opened. -/
def closeInput (d : Nat) : Routine Unit := do
  if d = 0 then pure ()
  else
    let _ ← Routine.ask (.close d)

/-- All that a file holds; a dash means the input. -/
def readFile (path : Bytes) : Routine (Except Fault Bytes) := do
  match ← openInput path with
  | .error f => pure (.error f)
  | .ok d =>
    let r ← Routine.readAll d
    closeInput d
    pure r

/-- The records of a text, each of which has an end, without the ends; and whether the last one has
one. -/
def recordsOf (ending : Char) (text : Bytes) : List Bytes × Bool :=
  match (text.splitOn ending).reverse with
  | [] :: rest => (rest.reverse, true)
  | records => (records.reverse, false)

/-- The lines of a text without their ends, and whether the last one has one. -/
def linesOf (text : Bytes) : List Bytes × Bool := recordsOf '\n' text

/-- The character that ends records: a zero byte if the option for it was given. -/
def endingBy (os : List (Char × Bytes)) : Char := if given os 'z' then '\x00' else '\n'

/-- The words after each other, with blanks between them. -/
def spaced (words : List Bytes) : Bytes := (words.intersperse [' ']).flatten

/-- The number in a field of a width, with blanks before it. -/
def aligned (width n : Nat) : Bytes :=
  let digits := Bytes.ofNat n
  List.replicate (width - digits.length) ' ' ++ digits

end Scratchpad.Utility
