import Scratchpad.Shell.Pattern
import Scratchpad.Utility.Quantity
import Scratchpad.Utility.Version
import Scratchpad.Utility.Words

/-!
# Listing directories

`ls` shows what is in directories: the names that are wanted, in an order, one on a line or in
columns.
-/

namespace Scratchpad.Utility

open Scratchpad.Machine Scratchpad.Text

/-- How names are put on lines. -/
inductive Layout where
  | single
  /-- In columns, from the top to the bottom. -/
  | downwards
  /-- In columns, from the left to the right. -/
  | across
  | commas
  | zeroEnded
  deriving DecidableEq, Repr

namespace Layout

/-- The least width of a column. -/
def leastWidth : Nat := 3

/-- The widths of `n` columns for names with some lengths; all but the last column have room for two
blanks. -/
def widths (downwards : Bool) (n : Nat) (lengths : List Nat) : List Nat :=
  let rows := (lengths.length + n - 1) / n
  lengths.zipIdx.foldl (fun ws l =>
    let column := if downwards then l.2 / rows else l.2 % n
    ws.modify column fun w => max w (l.1 + if column + 1 = n then 0 else 2))
    (List.replicate n leastWidth)

/-- The most columns that fit on a line, no more than `n`. -/
def columns (downwards : Bool) (line : Nat) (lengths : List Nat) : Nat → List Nat
  | 0 => widths downwards 1 lengths
  | 1 => widths downwards 1 lengths
  | n + 2 =>
    let ws := widths downwards (n + 2) lengths
    if ws.foldl (· + ·) 0 < line || line = 0 then ws else columns downwards line lengths (n + 1)

/-- Blanks from one column to another; a tab is used where it saves one. -/
def indent (start target : Nat) : (fuel : Nat) → Bytes
  | 0 => []
  | fuel + 1 =>
    if target ≤ start then []
    else if (start + 1) / 8 < target / 8 then
      '\t' :: indent (start + 8 - start % 8) target fuel
    else ' ' :: indent (start + 1) target fuel

/-- A line of names in columns. -/
def row (position : Nat) : List (Bytes × Nat) → Bytes
  | [] => ['\n']
  | [(name, _)] => name ++ ['\n']
  | (name, width) :: rest =>
    name ++ indent (position + name.length) (position + width) (width + 1) ++
      row (position + width) rest

/-- Names with commas between them. -/
def withCommas (line position : Nat) : List Bytes → Bytes
  | [] => ['\n']
  | [name] => name ++ ['\n']
  | name :: next :: rest =>
    let position := position + name.length + 2
    if line = 0 || position + next.length + (if rest.isEmpty then 0 else 1) < line then
      name ++ ',' :: ' ' :: withCommas line position (next :: rest)
    else name ++ ',' :: '\n' :: withCommas line 0 (next :: rest)

/-- The text of names on lines of a width. -/
def text (l : Layout) (line : Nat) (names : List Bytes) : Bytes :=
  let lengths := names.map List.length
  let most := min names.length (line / leastWidth + if line % leastWidth = 0 then 0 else 1)
  let most := if line = 0 then names.length else most
  if names.isEmpty then []
  else
    match l with
    | single => names.flatMap (· ++ ['\n'])
    | zeroEnded => names.flatMap (· ++ ['\x00'])
    | commas => withCommas line 0 names
    | across =>
      let ws := columns false line lengths most
      rows ws names (fun i => i / ws.length) fun i => i % ws.length
    | downwards =>
      let ws := columns true line lengths most
      let height := (names.length + ws.length - 1) / ws.length
      rows ws names (fun i => i % height) fun i => i / height
where
  rows (ws : List Nat) (names : List Bytes) (rowOf columnOf : Nat → Nat) : Bytes :=
    (List.range names.length).flatMap fun r =>
      match names.zipIdx.filter fun e => rowOf e.2 = r with
      | [] => []
      | found => row 0 (found.map fun e => (e.1, ws.getD (columnOf e.2) 0))

@[simp] theorem text_nil (l : Layout) (line : Nat) : l.text line [] = [] := rfl

end Layout

/-- By what names are ordered. -/
inductive NameOrder where
  | name
  | size
  | suffix
  | version
  | width
  /-- They are left as they are. -/
  | none
  deriving DecidableEq, Repr

/-- How names are listed. -/
structure Listing where
  layout : Layout
  line : Nat
  order : NameOrder
  backwards : Bool
  directoriesFirst : Bool
  /-- Whether names that begin with a point are shown, and then also those of the directory and of
  the one above. -/
  hidden : Option Bool
  /-- The names that are left out. -/
  ignored : List (List Shell.Glob)
  /-- How a name is written. -/
  written : Bytes → Bytes
  classified : Bool
  slashed : Bool

namespace Listing

/-- What is put behind a name. -/
def mark (l : Listing) : Node → Bytes
  | .directory => if l.classified || l.slashed then ['/'] else []
  | .file _ true => if l.classified then ['*'] else []
  | .utility _ => if l.classified then ['*'] else []
  | .pipe => if l.classified then ['|'] else []
  | _ => []

/-- How large a file is. -/
def sizeOf : Node → Nat
  | .directory => 4096
  | .file content _ => content.length
  | .utility _ => FileTree.machineCode.length
  | _ => 0

/-- The suffix of a name, with its point. -/
def suffixOf (name : Bytes) : Bytes :=
  let back := name.reverse.takeWhile (· != '.')
  if back.length < name.length then '.' :: back.reverse else []

/-- Whether a name comes before another one, or at the same place. -/
def precedes (l : Listing) (a b : Bytes × Node) : Bool :=
  let isLess (x y : Bytes) : Bool := x < y
  let byName := !isLess b.1 a.1
  let first := match l.order with
    | .size => compare (sizeOf b.2) (sizeOf a.2)
    | .suffix => if isLess (suffixOf a.1) (suffixOf b.1) then .lt
      else if isLess (suffixOf b.1) (suffixOf a.1) then .gt else .eq
    | .version => Version.compareNames a.1 b.1
    | .width => compare a.1.length b.1.length
    | _ => .eq
  match first with
  | .lt => true
  | .gt => false
  | .eq => byName

/-- The names in their order. -/
def sorted (l : Listing) (names : List (Bytes × Node)) : List (Bytes × Node) :=
  let list := if l.order = .none then names else names.mergeSort l.precedes
  let list := if l.backwards then list.reverse else list
  if l.directoriesFirst then
    list.filter (fun e => e.2 == .directory) ++ list.filter (fun e => e.2 != .directory)
  else list

/-- The text of some names. -/
def text (l : Listing) (names : List (Bytes × Node)) : Bytes :=
  l.layout.text l.line ((l.sorted names).map fun e => l.written e.1 ++ l.mark e.2)

/-- The names of a directory that are shown. -/
def chosen (l : Listing) (names : List Bytes) : List Bytes :=
  let names := match l.hidden with
    | some true => ['.'] :: ['.', '.'] :: names
    | some false => names
    | none => names.filter fun n => n.head? != some '.'
  names.filter fun n => !l.ignored.any fun g => Shell.Glob.fits g n

end Listing

/-- A name in double quotes. -/
def doubleQuoted (name : Bytes) : Bytes :=
  '"' :: name.flatMap (fun c =>
    if c = '"' || c = '\\' then ['\\', c] else if isShown c then [c] else escaped c) ++ ['"']

/-- A name with escapes. -/
def escapedName (name : Bytes) : Bytes :=
  name.flatMap fun c =>
    if c = ' ' || c = '\\' then ['\\', c] else if isShown c then [c] else escaped c

/-- A name in which what cannot be shown is replaced. -/
def maskedName (name : Bytes) : Bytes := name.map fun c => if isShown c then c else '?'

/-- The options of `ls`; those that have only a long name get control characters for letters. -/
def listingOptions : Options :=
  .among "1aAbBcCdfFgGhHiI:kLlmnNopqQrRsStT:uUvw:xXZ\x01\x02\x03:\x04::\x05:"
    [("all", 'a'), ("almost-all", 'A'), ("directory", 'd'), ("escape", 'b'), ("reverse", 'r'),
      ("recursive", 'R'), ("quote-name", 'Q'), ("literal", 'N'), ("hide-control-chars", 'q'),
      ("ignore-backups", 'B'), ("ignore", 'I'), ("width", 'w'), ("zero", '\x01'),
      ("group-directories-first", '\x02'), ("sort", '\x03'), ("color", '\x04'),
      ("format", '\x05'), ("classify", 'F')]

/-- The order that options ask for. -/
def orderBy (c : Call) (os : List (Char × Bytes)) : Routine NameOrder :=
  os.foldlM (fun o e => match e.1 with
    | 'S' => pure .size
    | 'X' => pure .suffix
    | 'v' => pure .version
    | 'U' => pure .none
    | 'f' => pure .none
    | '\x03' => c.choice "--sort" [("none", .none), ("time", .name), ("size", .size),
      ("extension", .suffix), ("version", .version), ("width", .width)] 1 e.2
    | _ => pure o) .name

/-- The layout that options ask for. -/
def layoutBy (os : List (Char × Bytes)) : Layout :=
  os.foldl (fun l e => match e.1 with
    | '1' => .single
    | 'C' => .downwards
    | 'x' => .across
    | 'm' => .commas
    | '\x01' => .zeroEnded
    | '\x05' =>
      match String.ofList e.2 with
      | "commas" => .commas
      | "horizontal" => .across
      | "across" => .across
      | "vertical" => .downwards
      | _ => .single
    | _ => l) .single

/-- Does something for each of some values, and yields what comes of that. -/
def collect {α β : Type} (xs : List α) (f : α → Routine β) : Routine (List β) :=
  match xs with
  | [] => pure []
  | x :: xs => do
    let y ← f x
    pure (y :: (← collect xs f))

/-- Shows directories one after the other; `deep` tells whether those in them are shown too, and
`depth` bounds how deep that is. -/
def listDirectories (c : Call) (l : Listing) (detailed titled deep first : Bool) (depth : Nat)
    (paths : List Bytes) : Routine Unit :=
  match depth with
  | 0 => pure ()
  | depth + 1 =>
    match paths with
    | [] => pure ()
    | path :: rest => do
      if titled then c.put ((if first then [] else ['\n']) ++ path ++ ":\n".toList)
      let names ← match ← Routine.ask (.entries path) with
        | .ok names => pure (l.chosen names)
        | .error _ => pure []
      let nodes ← collect names fun n => do
        match ← Routine.ask (.look (path ++ '/' :: n)) with
        | .ok node => pure (n, node)
        | .error _ => pure (n, .directory)
      if detailed then c.put "total 0\n".toList
      c.put (l.text nodes)
      let inner := if !deep then [] else (l.sorted nodes).filterMap fun e =>
        if e.2 = .directory && e.1 != ['.'] && e.1 != ['.', '.'] then
          some ((if path.getLast? = some '/' then path else path ++ ['/']) ++ e.1)
        else none
      listDirectories c l detailed titled deep false depth inner
      listDirectories c l detailed titled deep false (depth + 1) rest
termination_by (depth, paths.length)

/-- How deep directories may stand in each other. -/
def deepestListing : Nat := 64

/-- Shows directories. -/
def ls (c : Call) : Routine Nat := do
  let (os, paths) ← c.options listingOptions 2
  let line ← match lastOf os 'w' with
    | none => pure 80
    | some text => do
      match countOf "" text with
      | .ok n => pure n
      | .error _ => c.fail ("invalid line width: ".toList ++ cited text) 2
  let l : Listing :=
    { layout := layoutBy os
      line
      order := ← orderBy c os
      backwards := given os 'r'
      directoriesFirst := given os '\x02'
      hidden := match lastAmong os "aAf" with
        | some 'A' => some false
        | some _ => some true
        | none => none
      ignored := ((os.filter fun o => o.1 = 'I').map Prod.snd ++
        if given os 'B' then ["*~".toList] else []).map fun g =>
          Shell.Glob.ofText (g.map fun c => (c, false))
      written := match lastAmong os "QbNq" with
        | some 'Q' => doubleQuoted
        | some 'b' => escapedName
        | some 'q' => maskedName
        | _ => id
      classified := given os 'F'
      slashed := given os 'p' }
  let paths := if paths.isEmpty then [['.']] else paths
  let looked ← collect paths fun p => do
    match ← Routine.ask (.look p) with
    | .ok node => pure (some (p, node))
    | .error f =>
      c.complain ("cannot access ".toList ++ quoted p ++ ": ".toList ++ f.text.toList)
      pure none
  let there := looked.filterMap id
  let isDirectory (e : Bytes × Node) : Bool := !given os 'd' && e.2 == .directory
  let files := there.filter fun e => !isDirectory e
  c.put (l.text files)
  let titled := 1 < paths.length || given os 'R'
  let directories := (l.sorted (there.filter isDirectory)).map Prod.fst
  listDirectories c l ("lng".toList.any (given os ·)) titled (given os 'R') files.isEmpty
    deepestListing directories
  pure (if there.length = looked.length then 0 else 2)

end Scratchpad.Utility
