import Scratchpad.Utility.Quantity

/-!
# Beginnings and ends of files

`head` and `tail` show a part of each file: so many bytes or lines from one end, or all but so many
from the other.
-/

namespace Scratchpad.Utility

open Scratchpad.Machine Scratchpad.Text

/-- Which part of files is shown. -/
structure Part where
  bytes : Bool
  /-- Whether the count is from the other end. -/
  opposite : Bool
  count : Nat
  deriving DecidableEq, Repr

/-- The first `n` records of a text, how many ends those have, and what follows. -/
def splitRecords (ending : Char) : Nat → Bytes → Bytes × Nat × Bytes
  | 0, cs => ([], 0, cs)
  | _ + 1, [] => ([], 0, [])
  | n + 1, cs =>
    let record := cs.takeWhile (· != ending)
    match cs.dropWhile (· != ending) with
    | [] => (record, 0, [])
    | e :: rest =>
      let (more, k, rest) := splitRecords ending n rest
      (record ++ e :: more, k + 1, rest)

/-- A text without its last `n` records. -/
def withoutLastRecords (ending : Char) (n : Nat) (cs : Bytes) : Bytes :=
  let (records, ended) := recordsOf ending cs
  let kept := records.take (records.length - n)
  if n = 0 then cs
  else if kept.length = records.length && !ended then cs
  else kept.flatMap (· ++ [ending])

/-- The last `n` records of a text. -/
def lastRecords (ending : Char) (n : Nat) (cs : Bytes) : Bytes :=
  let (records, ended) := recordsOf ending cs
  let kept := records.drop (records.length - n)
  if kept.isEmpty then []
  else [ending].intercalate kept ++ if ended then [ending] else []

/-- Does something with each of some files, with a title before each if there are several; yields
the status. -/
def eachTitled (c : Call) (titled : Bool) (f : Bytes → Nat → Routine Bool) (paths : List Bytes) :
    Routine Nat :=
  go true 0 paths
where
  go (first : Bool) (status : Nat) : List Bytes → Routine Nat
    | [] => pure status
    | path :: paths => do
      match ← openInput path with
      | .error e =>
        c.complain ("cannot open ".toList ++ quoted path ++ " for reading: ".toList ++
          e.text.toList)
        go first 1 paths
      | .ok d =>
        if titled then
          let name := if path = ['-'] then "standard input".toList else path
          c.put ((if first then [] else ['\n']) ++ "==> ".toList ++ name ++ " <==\n".toList)
        let fine ← f path d
        closeInput d
        go false (if fine then status else 1) paths

/-- Complains that a file cannot be read. -/
def complainReading (c : Call) (path : Bytes) (f : Fault) : Routine Unit :=
  let name := if path = ['-'] then "standard input".toList else quoted path
  c.complain ("error reading ".toList ++ name ++ ": ".toList ++ f.text.toList)

/-- How many bytes are read at a time where only the front of a file is wanted. -/
def blockSize : Nat := 8192

/-- Shows the first bytes of a file. -/
def headBytes (c : Call) (path : Bytes) (d : Nat) (n : Nat) : Routine Bool :=
  Routine.loop Routine.patience (fun (left : Nat) => do
    if left = 0 then pure (.inr true)
    else
      match ← Routine.ask (.read d (min blockSize left)) with
      | .ok [] => pure (.inr true)
      | .ok bytes =>
        c.put bytes
        pure (.inl (left - bytes.length))
      | .error f =>
        complainReading c path f
        pure (.inr false)) (fun _ => true) n

/-- Shows the first records of a file. What was read after them is left to others. -/
def headRecords (c : Call) (ending : Char) (path : Bytes) (d : Nat) (n : Nat) : Routine Bool :=
  Routine.loop Routine.patience (fun (left : Nat) => do
    if left = 0 then pure (.inr true)
    else
      match ← Routine.ask (.read d blockSize) with
      | .ok [] => pure (.inr true)
      | .ok bytes =>
        let (front, k, rest) := splitRecords ending left bytes
        if k = left && !rest.isEmpty then
          let _ ← Routine.ask (.goBack d rest.length)
        c.put front
        pure (if k = left then .inr true else .inl (left - k))
      | .error f =>
        complainReading c path f
        pure (.inr false)) (fun _ => true) n

/-- Shows a part of a file that can only be told when all of it is read. -/
def showPart (c : Call) (path : Bytes) (d : Nat) (f : Bytes → Bytes) : Routine Bool := do
  match ← Routine.readAll d with
  | .ok text =>
    c.put (f text)
    pure true
  | .error e =>
    complainReading c path e
    pure false

/-- The letters for factors of a count. -/
def partUnits : String := "bkKmMGTPEZYRQ0"

/-- What is wrong with the count of an option. -/
def countComplaint (letter : Char) : String :=
  if letter = 'n' then "invalid number of lines" else "invalid number of bytes"

/-- Whether titles are shown. -/
def titledBy (os : List (Char × Bytes)) (paths : List Bytes) : Bool :=
  match lastAmong os "qv" with
  | some letter => letter = 'v'
  | none => 1 < paths.length

/-- The files that are meant: the input, if there are none. -/
def orInput (paths : List Bytes) : List Bytes := if paths.isEmpty then [['-']] else paths

/-- The part that the options of `head` tell: a minus before the count turns it around. -/
def headPart (c : Call) (p : Part) : Char × Bytes → Routine Part
  | (letter, text) =>
    if letter = 'c' || letter = 'n' then do
      let turned := text.head? = some '-'
      let n ← c.count (countComplaint letter) partUnits 0 1 (if turned then text.drop 1 else text)
      pure ⟨letter = 'c', turned, n⟩
    else if letter.isDigit then
      c.misused ("invalid trailing option -- ".toList ++ [letter]) 1
    else pure p

/-- The arguments of `head` where the first one is a count with letters behind it: the letters are
options, and the last one about the count is that of its unit. -/
def headArguments (c : Call) : Routine (List Bytes) :=
  match c.arguments with
  | ('-' :: d :: cs) :: rest =>
    if d.isDigit then
      let digits := (d :: cs).takeWhile Char.isDigit
      let letters := (d :: cs).drop digits.length
      match letters.find? fun l => !("cbkmlqvz".toList.contains l) with
      | some l => c.misused ("invalid trailing option -- ".toList ++ [l]) 1
      | none =>
        let bytes := (letters.filter fun l => "cbkml".toList.contains l).getLast?.any (· != 'l')
        let unit := (letters.filter fun l => "cbkm".toList.contains l).getLast?.filter (· != 'c')
        let others := (letters.filter fun l => "qvz".toList.contains l).map fun l => ['-', l]
        pure (others ++ [['-', if bytes then 'c' else 'n'], digits ++ unit.toList] ++ rest)
    else pure c.arguments
  | args => pure args

/-- The long options of both utilities. -/
def partNames : List (String × Char) :=
  [("bytes", 'c'), ("lines", 'n'), ("quiet", 'q'), ("silent", 'q'), ("verbose", 'v'),
    ("zero-terminated", 'z')]

/-- Shows the beginning of files. -/
def head (c : Call) : Routine Nat := do
  let args ← headArguments c
  let (os, paths) ← { c with arguments := args }.options (.among "c:n:qvz0123456789" partNames) 1
  let part ← os.foldlM (headPart c) ⟨false, false, 10⟩
  let ending := endingBy os
  let paths := orInput paths
  eachTitled c (titledBy os paths) (fun path d =>
    if part.opposite then
      showPart c path d fun text =>
        if part.bytes then text.take (text.length - part.count)
        else withoutLastRecords ending part.count text
    else if part.bytes then headBytes c path d part.count
    else headRecords c ending path d part.count) paths

/-- What a lone first argument of `tail` means that is a sign, a count and letters; absent if it is
something else. -/
def tailCount? (c : Call) (word : Bytes) : Option (Routine Part) :=
  match word with
  | sign :: body =>
    let digits := body.takeWhile Char.isDigit
    let (bytes, unit, rest) : Bool × Nat × Bytes := match body.drop digits.length with
      | 'b' :: rest => (true, 512, rest)
      | 'c' :: rest => (true, 1, rest)
      | 'l' :: rest => (false, 1, rest)
      | rest => (false, 1, rest)
    let n := unit * ((Bytes.toNat? digits).getD 10)
    if sign != '+' && sign != '-' then none
    else if sign = '-' && (body.isEmpty || body = ['c']) then none
    else if !(rest.isEmpty || rest = ['f']) then none
    else if largestCount < n then
      some (c.fail ("invalid number: ".toList ++ cited word ++
        ": Numerical result out of range".toList) 1)
    else some (pure ⟨bytes, sign = '+', n⟩)
  | [] => none

/-- The part that the options of `tail` tell: a plus before a count turns it around, and those of
the options after it. -/
def tailPart (c : Call) (p : Part) : Char × Bytes → Routine Part
  | (letter, text) =>
    if letter = 'c' || letter = 'n' then do
      let text := if text.head? = some '-' then text.drop 1 else text
      let n ← c.count (countComplaint letter) partUnits 0 1 text
      pure ⟨letter = 'c', p.opposite || text.head? = some '+', n⟩
    else if letter.isDigit then
      c.fail ("option used in invalid context -- ".toList ++ [letter]) 1
    else pure p

/-- Whether the arguments can begin with a count that is no option: at most one file follows. -/
def beginsWithCount (args : List Bytes) : Bool :=
  match args with
  | [_] => true
  | [_, file] => file.head? != some '-' || file.length = 1 || file = "--".toList
  | [_, second, _] => second = "--".toList
  | _ => false

/-- Shows the end of files. -/
def tail (c : Call) : Routine Nat := do
  let first := if beginsWithCount c.arguments then c.arguments.head?.bind (tailCount? c) else none
  let (usual, args) ← match first with
    | some part => do pure (← part, c.arguments.drop 1)
    | none => pure (⟨false, false, 10⟩, c.arguments)
  let (os, paths) ← { c with arguments := args }.options
    (.among "c:n:fqvz0123456789" (partNames ++ [("follow", 'f')])) 1
  let part ← os.foldlM (tailPart c) usual
  let ending := endingBy os
  let paths := orInput paths
  if part.count = 0 && !part.opposite then pure 0
  else
    eachTitled c (titledBy os paths) (fun path d =>
      showPart c path d fun text =>
        match part.bytes, part.opposite with
        | true, true => text.drop (part.count - 1)
        | true, false => text.drop (text.length - part.count)
        | false, true => (splitRecords ending (part.count - 1) text).2.2
        | false, false => lastRecords ending part.count text) paths

end Scratchpad.Utility
