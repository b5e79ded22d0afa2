import Scratchpad.Utility.Lines
import Scratchpad.Utility.Quantity

/-!
# Lines and columns

`paste` puts the lines of files beside each other, and `fold` cuts lines to a width.
-/

namespace Scratchpad.Utility

open Scratchpad.Machine Scratchpad.Text

/-- What stands between the lines that are put beside each other, in turn; absent if the list ends
with a lone backslash. -/
def delimitersOf? : Bytes → Option (List Bytes)
  | [] => some []
  | ['\\'] => none
  | '\\' :: c :: cs => (delimitersOf? cs).map (delimiter c :: ·)
  | c :: cs => (delimitersOf? cs).map ([c] :: ·)
where
  delimiter (c : Char) : Bytes :=
    match c with
    | '0' => []
    | 'b' => ['\x08']
    | 'f' => ['\x0c']
    | 'n' => ['\n']
    | 'r' => ['\r']
    | 't' => ['\t']
    | 'v' => ['\x0b']
    | c => [c]

/-- Texts with delimiters between them, which are used in turn; `ds` are those that come next. -/
def interleaved (delimiters ds : List Bytes) : List Bytes → Bytes
  | [] => []
  | [w] => w
  | w :: v :: ws =>
    let ds := if ds.isEmpty then delimiters else ds
    w ++ ds.headD [] ++ interleaved delimiters (ds.drop 1) (v :: ws)

@[simp] theorem interleaved_singleton (delimiters ds : List Bytes) (w : Bytes) :
    interleaved delimiters ds [w] = w := rfl

namespace Pasting

/-- A file whose lines are put beside others; several can be the input. -/
inductive Column where
  | input
  | file (path : Bytes) (source : LineSource)
  | closed

/-- Where pasting stands. -/
structure Standing where
  /-- The input, which the columns share. -/
  input : LineSource
  columns : List Column
  failed : Bool

/-- Opens files. -/
def opened (c : Call) (ending : Char) : List Bytes → Routine (List Column)
  | [] => pure []
  | ['-'] :: paths => do pure (.input :: (← opened c ending paths))
  | path :: paths => do
    match ← Routine.ask (.openFile path .read) with
    | .ok d => do pure (.file path (.ofDescriptor d ending) :: (← opened c ending paths))
    | .error f => c.fail (shownName path ++ ": ".toList ++ f.text.toList) 1

/-- What a column gives. -/
structure Given where
  line : Option Bytes
  column : Column
  input : LineSource
  failed : Bool

/-- The next line of a column. -/
def Column.next (c : Call) (input : LineSource) : Column → Routine Given
  | .closed => pure ⟨none, .closed, input, false⟩
  | .input => do
    match ← input.next with
    | (.ok (some l), s) => pure ⟨some l.text, .input, s, false⟩
    | (.ok none, s) => pure ⟨none, .closed, s, false⟩
    | (.error f, s) =>
      c.complainOf ['-'] f
      pure ⟨none, .closed, s, true⟩
  | .file path source => do
    match ← source.next with
    | (.ok (some l), s) => pure ⟨some l.text, .file path s, input, false⟩
    | (.ok none, _) =>
      closeInput source.descriptor
      pure ⟨none, .closed, input, false⟩
    | (.error f, _) =>
      c.complainOf path f
      pure ⟨none, .closed, input, true⟩

/-- The next lines of all columns. -/
def row (c : Call) (s : Standing) : Routine (List (Option Bytes) × Standing) := do
  let (lines, s) ← s.columns.foldlM (fun (acc : List (Option Bytes) × Standing) k => do
    let g ← k.next c acc.2.input
    pure (g.line :: acc.1,
      ⟨g.input, g.column :: acc.2.columns, acc.2.failed || g.failed⟩))
    ([], { s with columns := [] })
  pure (lines.reverse, { s with columns := s.columns.reverse })

/-- Puts the lines of columns beside each other until there are none. -/
def rows (c : Call) (ending : Char) (delimiters : List Bytes) (s : Standing) : Routine Nat :=
  Routine.loop Routine.patience (fun (s : Standing) => do
    let (lines, s) ← row c s
    if lines.all Option.isNone then pure (.inr (if s.failed then 1 else 0))
    else
      c.put (interleaved delimiters [] (lines.map fun l => l.getD []) ++ [ending])
      pure (.inl s)) (fun _ => 0) s

/-- Puts the lines of each file beside each other. -/
def serial (c : Call) (ending : Char) (delimiters : List Bytes) (status : Nat) :
    List Bytes → Routine Nat
  | [] => pure status
  | path :: paths => do
    match ← readFile path with
    | .ok text =>
      c.put (interleaved delimiters [] (recordsOf ending text).1 ++ [ending])
      serial c ending delimiters status paths
    | .error f =>
      c.complainOf path f
      if f = .isDirectory then c.put [ending]
      serial c ending delimiters 1 paths

end Pasting

/-- Puts the lines of files beside each other. -/
def paste (c : Call) : Routine Nat := do
  let (os, paths) ← c.options (.among "d:sz"
    [("delimiters", 'd'), ("serial", 's'), ("zero-terminated", 'z')]) 1
  let list := (lastOf os 'd').getD ['\t']
  let list := if list.isEmpty then ['\\', '0'] else list
  let ending := endingBy os
  let paths := if paths.isEmpty then [['-']] else paths
  match delimitersOf? list with
  | none =>
    c.fail ("delimiter list ends with an unescaped backslash: ".toList ++ list) 1
  | some delimiters =>
    if given os 's' then Pasting.serial c ending delimiters 0 paths
    else
      let columns ← Pasting.opened c ending paths
      Pasting.rows c ending delimiters ⟨.ofDescriptor 0 ending, columns, false⟩

/-- How lines are cut to a width. -/
structure Folding where
  width : Nat
  /-- Whether a line is cut behind a blank where there is one. -/
  atBlanks : Bool
  /-- Whether bytes are counted and not columns. -/
  bytes : Bool
  deriving DecidableEq, Repr

namespace Folding

/-- The column after a character. -/
def advance (f : Folding) (column : Nat) (c : Char) : Nat :=
  if f.bytes then column + 1
  else
    match c with
    | '\x08' => column - 1
    | '\r' => 0
    | '\t' => column + 8 - column % 8
    | _ => column + 1

/-- The column after a text that is turned around. -/
def columnOf (f : Folding) (line : Bytes) : Nat := line.reverse.foldl f.advance 0

/-- Puts a character behind a line that is turned around and stands at a column; yields what is
cut off before it, the line, and the column. -/
def place (f : Folding) (line : Bytes) (column : Nat) (c : Char) : Bytes × Bytes × Nat :=
  let column' := f.advance column c
  if column' ≤ f.width then ([], c :: line, column')
  else
    let isBlank (d : Char) : Bool := d == ' ' || d == '\t'
    let tail := line.takeWhile fun d => !isBlank d
    if f.atBlanks && line.any isBlank then
      let front := (line.drop tail.length).reverse ++ ['\n']
      let column := f.advance (f.columnOf tail) c
      if column ≤ f.width || tail.isEmpty then (front, c :: tail, column)
      else (front ++ tail.reverse ++ ['\n'], [c], f.advance 0 c)
    else if line.isEmpty then ([], [c], column')
    else (line.reverse ++ ['\n'], [c], f.advance 0 c)

/-- A text with its lines cut, the last pieces first. -/
def fold (f : Folding) (out : List Bytes) (line : Bytes) (column : Nat) : Bytes → List Bytes
  | [] => line.reverse :: out
  | '\n' :: cs => fold f ((line.reverse ++ ['\n']) :: out) [] 0 cs
  | c :: cs =>
    let (cut, line, column) := f.place line column c
    fold f (cut :: out) line column cs

/-- A text with its lines cut. -/
def text (f : Folding) (cs : Bytes) : Bytes := (f.fold [] [] 0 cs).reverse.flatten

@[simp] theorem text_nil (f : Folding) : f.text [] = [] := rfl

end Folding

/-- Cuts long lines. -/
def fold (c : Call) : Routine Nat := do
  let (os, paths) ← c.options
    (.among "bsw:0::1::2::3::4::5::6::7::8::9::" [("bytes", 'b'), ("spaces", 's'), ("width", 'w')])
    1
  let widths := os.filterMap fun o =>
    if o.1 = 'w' then some o.2 else if o.1.isDigit then some (o.1 :: o.2) else none
  let width ← widths.foldlM
    (fun _ text => c.integer "invalid number of columns" "" 1 (largestCount - 9) 1 text) (80 : Int)
  let f : Folding := ⟨width.toNat, given os 's', given os 'b'⟩
  each f 0 (if paths.isEmpty then [['-']] else paths)
where
  each (f : Folding) (status : Nat) : List Bytes → Routine Nat
    | [] => pure status
    | path :: paths => do
      match ← readFile path with
      | .error e =>
        c.complainOf path e
        each f 1 paths
      | .ok text =>
        c.put (f.text text)
        each f status paths

end Scratchpad.Utility
