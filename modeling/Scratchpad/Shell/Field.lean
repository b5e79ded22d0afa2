import Scratchpad.Shell.Pattern

/-!
# Fields

An expanded word is a list of pieces, and each piece tells whether fields may end in it. `fields`
finds the fields: blanks around them do not count, any other separator ends exactly one field. The
same rule, with a limit on the number of fields, gives the words of a line that is read into
variables.
-/

namespace Scratchpad.Shell

open Scratchpad.Machine

/-- A sign of an expanded word. -/
inductive Sign where
  | char (c : Char) (quoted : Bool)
  /-- Nothing, but in quotes: a field is there even if it stays empty. -/
  | mark
  /-- The border between two arguments. -/
  | gap
  deriving DecidableEq, Repr

/-- Where fields may end in a piece. -/
inductive Region where
  | nowhere
  /-- At separators. -/
  | separators
  /-- Between arguments. -/
  | arguments
  deriving DecidableEq, Repr

/-- A piece of an expanded word. -/
structure Piece where
  region : Region
  signs : List Sign
  deriving DecidableEq, Repr

namespace Sign

/-- The characters of a text as signs. -/
def ofText (quoted : Bool) (cs : Bytes) : List Sign := cs.map fun c => char c quoted

/-- The text of signs. -/
def text (signs : List Sign) : Bytes :=
  signs.flatMap fun s => match s with
    | char c _ => [c]
    | mark => []
    | gap => [' ']

/-- The characters of signs, each with whether it is quoted. -/
def characters (signs : List Sign) : List (Char × Bool) :=
  signs.filterMap fun s => match s with
    | char c q => some (c, q)
    | _ => none

/-- The pattern that signs stand for. -/
def glob (signs : List Sign) : List Glob := Glob.ofText (characters signs)

/-- Whether there is a character that is special in patterns. -/
def isPattern (signs : List Sign) : Bool :=
  signs.any fun s => match s with
    | char c false => c == '*' || c == '?' || c == '['
    | _ => false

@[simp] theorem text_ofText (quoted : Bool) (cs : Bytes) : text (ofText quoted cs) = cs := by
  induction cs with
  | nil => rfl
  | cons c cs ih => simpa [text, ofText] using ih

end Sign

/-- How far fields have been found: those that have ended, the last one first; the signs of the
current one, the last one first; whether it comes right after a blank; how many more may end, if
that is limited; and the length that the last one has without the blanks at its end. -/
structure Cutting where
  ended : List (List Sign)
  current : List Sign
  afterBlank : Bool
  left : Option Nat
  kept : Option Nat

namespace Cutting

/-- A sign that belongs to the current field. -/
def take (k : Cutting) (s : Sign) : Cutting :=
  { k with current := s :: k.current, afterBlank := false }

/-- A sign that may end a field. -/
def cut (k : Cutting) (blank counts : Bool) (s : Sign) : Cutting :=
  let afterBlank := if counts then blank else k.afterBlank
  if k.current.isEmpty && afterBlank then { k with afterBlank := false }
  else
    match k.left with
    | some 1 =>
      { k with
        left := some 0
        kept := some k.current.length
        current := s :: k.current
        afterBlank }
    | left =>
      { k with
        ended := k.current.reverse :: k.ended
        current := []
        left := left.map fun n => n - 1
        afterBlank }

/-- A sign of a piece in which fields may end; `counts` tells whether blanks count in it. -/
def step (separators : Bytes) (onlyGaps counts : Bool) (k : Cutting) (s : Sign) : Cutting :=
  let (separator, blank) := match s with
    | .gap => (true, true)
    | .mark => (false, false)
    | .char c _ =>
      let separator := !onlyGaps && separators.contains c
      (separator, separator && (c == ' ' || c == '\t' || c == '\n'))
  if k.left = some 0 then
    if blank then
      { k with kept := some (k.kept.getD k.current.length), current := s :: k.current }
    else
      { k with
        kept := if separator && k.afterBlank then k.kept else none
        afterBlank := false
        current := s :: k.current }
  else if k.afterBlank then
    if blank then k
    else if separator then { k with afterBlank := false }
    else k.take s
  else if separator then k.cut blank counts s
  else k.take s

/-- A piece of an expanded word. -/
def piece (separators : Bytes) (k : Cutting × Bool) (p : Piece) : Cutting × Bool :=
  match p.region with
  | .nowhere => ({ k.1 with current := p.signs.reverse ++ k.1.current }, k.2)
  | .separators =>
    (p.signs.foldl (step separators false (!k.2)) { k.1 with afterBlank := false }, false)
  | .arguments => (p.signs.foldl (step [] true false) { k.1 with afterBlank := false }, true)

/-- All fields, after the last sign; the last one counts also if it is empty when it is an
argument. -/
def finish (k : Cutting × Bool) : List (List Sign) :=
  let last := k.1.current.reverse
  let last := match k.1.kept with
    | some n => last.take n
    | none => last
  (if last.isEmpty && !k.2 then k.1.ended else last :: k.1.ended).reverse

end Cutting

/-- The fields of an expanded word, at most `limit` if there is a limit. -/
def fields (separators : Bytes) (limit : Option Nat) (pieces : List Piece) : List (List Sign) :=
  Cutting.finish (pieces.foldl (Cutting.piece separators) (⟨[], [], false, limit, none⟩, false))

/-- A word without a character in it has no field. -/
@[simp] theorem fields_nil (separators : Bytes) (limit : Option Nat) :
    fields separators limit [] = [] := rfl

end Scratchpad.Shell
