import Scratchpad.Regular.Reading
import Scratchpad.Utility.Basic

/-!
# Rows of a search

What is searched for in lines, and how the lines that are found are shown: with the name of their
file, their number and their place before them, and with the parts that match in colour.
-/

namespace Scratchpad.Utility.Search

open Scratchpad.Machine Scratchpad.Text

/-- What is shown of the lines that are found. -/
inductive Shown where
  | lines
  /-- The parts that match. -/
  | parts
  | count
  /-- The names of the files in which there are some. -/
  | files
  /-- The names of the files in which there are none. -/
  | otherFiles
  | nothing
  deriving DecidableEq, Repr

/-- What is done with files that are no text. -/
inductive Binaries where
  /-- It is only told that they match. -/
  | told
  | asText
  | passedOver
  deriving DecidableEq, Repr

/-- What is done with directories. -/
inductive Directories where
  | read
  | searched
  | passedOver
  deriving DecidableEq, Repr

/-- What stands before lines that are shown. -/
structure Heading where
  named : Bool
  /-- Whether a zero byte ends names. -/
  zeroEnded : Bool
  numbered : Bool
  placed : Bool
  /-- Whether a tab brings the lines to a column. -/
  tabbed : Bool
  coloured : Bool
  deriving DecidableEq, Repr

/-- What is searched for, and how it is shown. -/
structure Order where
  pattern : Regular
  folded : Bool
  /-- Whether the lines are meant that do not match. -/
  inverted : Bool
  shown : Shown
  heading : Heading
  /-- Whether names are never shown. -/
  nameless : Bool
  /-- The character that ends lines. -/
  ending : Char
  /-- How many lines are shown around those that are found; absent if that was not asked for. -/
  around : Option (Nat × Nat)
  /-- What stands between groups of lines. -/
  between : Option Bytes
  most : Option Nat
  silent : Bool
  binaries : Binaries
  directories : Directories
  /-- The name of the input. -/
  label : Bytes
  /-- Whether a file, or a directory, is searched that has a name. -/
  chosen : Bool → Bytes → Bool

/-- How many lines are shown before one that is found. -/
def Order.before (o : Order) : Nat := (o.around.map Prod.fst).getD 0

/-- How many lines are shown after one that is found. -/
def Order.after (o : Order) : Nat := (o.around.map Prod.snd).getD 0

/-- A text in a colour, unless there is none. -/
def painted (coloured : Bool) (colour : String) (text : Bytes) : Bytes :=
  if coloured then
    "\x1b[".toList ++ colour.toList ++ "m\x1b[K".toList ++ text ++ "\x1b[m\x1b[K".toList
  else text

@[simp] theorem painted_plain (colour : String) (text : Bytes) :
    painted false colour text = text := rfl

/-- The parts of a line that match, each after what stands between it and the one before. `gap` is
what was passed over since then, the last character first. -/
def partsFrom (o : Order) (fuel : Nat) (gap passed line : Bytes) : List (Bytes × Bytes) :=
  match fuel with
  | 0 => []
  | fuel + 1 =>
    match o.pattern.searchFrom? o.folded passed line with
    | none => []
    | some m =>
      let front := m.before.drop passed.length
      match m.text, m.after with
      | [], [] => []
      | [], c :: rest =>
        partsFrom o fuel (c :: front.reverse ++ gap) (c :: m.before.reverse) rest
      | text, rest =>
        (gap.reverse ++ front, text) ::
          partsFrom o fuel [] (text.reverse ++ m.before.reverse) rest

/-- The parts of a line that match, each after what stands between it and the one before. -/
def partsOf (o : Order) (line : Bytes) : List (Bytes × Bytes) :=
  partsFrom o (line.length + 2) [] [] line

/-- A line with the parts that match in colour. -/
def highlighted (o : Order) (line : Bytes) : Bytes :=
  let parts := partsOf o line
  let behind := (parts.map fun p => p.1.length + p.2.length).foldr (· + ·) 0
  parts.flatMap (fun p => p.1 ++ painted true "01;31" p.2) ++ line.drop behind

/-- What stands before a line; `mark` follows each part of that. -/
def Heading.text (h : Heading) (name : Bytes) (number place : Nat) (mark : Char)
    (line : Bytes) : Bytes :=
  let mark := painted h.coloured "36" [mark]
  let counted (n : Nat) : Bytes := painted h.coloured "32" (Bytes.ofNat n) ++ mark
  (if h.named then
      painted h.coloured "35" name ++ (if h.zeroEnded then ['\x00'] else mark) else []) ++
    (if h.numbered then counted number else []) ++
    (if h.placed then counted place else []) ++
    (if h.tabbed && (h.named || h.numbered || h.placed) && !line.isEmpty then ['\t'] else [])

/-- A line as it is shown; the mark is a colon if it was found. -/
def row (o : Order) (name : Bytes) (number place : Nat) (mark : Char) (line : Bytes) : Bytes :=
  let text :=
    if o.heading.coloured && (mark = ':') != o.inverted then highlighted o line else line
  o.heading.text name number place mark line ++ text ++ [o.ending]

/-- The parts of a line that match, on lines of their own. -/
def partRows (o : Order) (name : Bytes) (number place : Nat) (line : Bytes) : Bytes :=
  (go place (partsOf o line)).flatten
where
  go (place : Nat) : List (Bytes × Bytes) → List Bytes
    | [] => []
    | (gap, part) :: rest =>
      let place := place + gap.length
      (o.heading.text name number place ':' part ++ painted o.heading.coloured "01;31" part ++
        [o.ending]) :: go (place + part.length) rest

end Scratchpad.Utility.Search
