import Scratchpad.Screen.Area
import Scratchpad.Screen.Cell

/-!
# Screens

A screen is a grid of cells. It is drawn by changes to single cells, and `cell?` says what each
change does. What a terminal shows of it is told by `shown`, `texts` and `styleRuns`: a wide symbol
covers the cell after it, which then shows nothing of its own.
-/

namespace Scratchpad

open Scratchpad.Screen

/-- A grid of cells, row by row. -/
structure Screen where
  rows : Array (Array Cell)
  deriving DecidableEq, Repr

namespace Screen

/-- A screen with nothing on it. -/
def blank (width height : Nat) : Screen :=
  ⟨.replicate height (.replicate width .blank)⟩

/-- The cell in a column and a row. -/
def cell? (s : Screen) (x y : Nat) : Option Cell := s.rows[y]?.bind fun row => row[x]?

/-- The screen with one cell changed; nothing happens outside of the screen. -/
def change (x y : Nat) (f : Cell → Cell) (s : Screen) : Screen :=
  ⟨s.rows.modify y fun row => row.modify x f⟩

/-- A change reaches its own cell and no other. -/
theorem cell?_change (s : Screen) (x y : Nat) (f : Cell → Cell) (x' y' : Nat) :
    (s.change x y f).cell? x' y' =
      if x = x' ∧ y = y' then (s.cell? x' y').map f else s.cell? x' y' := by
  simp only [change, cell?, Array.getElem?_modify]
  by_cases hy : y = y'
  · subst hy
    by_cases hx : x = x'
    · subst hx
      cases s.rows[y]? <;> simp [Array.getElem?_modify]
    · cases s.rows[y]? <;> simp [Array.getElem?_modify, hx]
  · simp [hy]

/-- The screen with the cells at some places changed. -/
def changeAll (places : List (Nat × Nat)) (f : Cell → Cell) (s : Screen) : Screen :=
  places.foldl (fun s p => s.change p.1 p.2 f) s

/-- The screen with a style laid over the cells of an area. -/
def restyle (a : Area) (style : Style) (s : Screen) : Screen :=
  s.changeAll a.places (Cell.restyle style)

/-- The screen with nothing in an area. -/
def clear (a : Area) (s : Screen) : Screen := s.changeAll a.places fun _ => .blank

/-- The screen with one symbol in the cells at some places. -/
def fill (places : List (Nat × Nat)) (symbol : Char) (s : Screen) : Screen :=
  s.changeAll places (Cell.write [symbol] .plain)

/-- The cells of a row as they are shown after the cell `before`: the cell after a wide symbol is
covered by it. -/
def shownRow (before : Cell) : List Cell → List Cell
  | [] => []
  | c :: cs => (if 2 ≤ before.width then .blank else c) :: shownRow c cs

/-- The rows as they are shown: a wide symbol at the end of a row covers the first cell of the next.
-/
def shownRows (before : Cell) : List (List Cell) → List (List Cell)
  | [] => []
  | row :: rows => shownRow before row :: shownRows (row.getLastD before) rows

/-- The rows of a screen as they are shown. -/
def shown (s : Screen) : List (List Cell) := shownRows .blank (s.rows.toList.map Array.toList)

/-- The symbols of a row, where `covered` of its cells lie under a wide symbol. -/
def symbols (covered : Nat) : List Cell → List Char
  | [] => []
  | c :: cs =>
    (if covered = 0 then c.symbol else []) ++ symbols (max covered c.width - 1) cs

/-- The text of a row without the spaces at its end. -/
def textOf (row : List Cell) : List Char :=
  ((symbols 0 row).reverse.dropWhile (· == ' ')).reverse

/-- The texts of the rows. -/
def texts (s : Screen) : List (List Char) := s.shown.map textOf

/-- A longest run of cells of one style in a row. -/
structure StyleRun where
  row : Nat
  start : Nat
  stop : Nat
  style : Style
  deriving DecidableEq, Repr

/-- The runs of a row from column `x` on, where `start` is the column in which the run of style
`style` began. -/
def runsFrom (row start : Nat) (style : Style) (x : Nat) : List Cell → List StyleRun
  | [] => [⟨row, start, x, style⟩]
  | c :: cs =>
    if c.style = style then runsFrom row start style (x + 1) cs
    else ⟨row, start, x, style⟩ :: runsFrom row x c.style (x + 1) cs

/-- The runs of a row. -/
def runsOf (row : Nat) : List Cell → List StyleRun
  | [] => []
  | c :: cs => runsFrom row 0 c.style 1 cs

/-- The runs of styled cells, row by row. -/
def styleRuns (s : Screen) : List StyleRun :=
  (s.shown.mapIdx fun y row => (runsOf y row).filter fun r => r.style ≠ .plain).flatten

end Screen

end Scratchpad
