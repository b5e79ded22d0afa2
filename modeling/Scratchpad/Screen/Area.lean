/-!
# Areas of a screen

An area is a rectangle of cells, counted from the upper left corner of the screen. This module holds
the areas that the program draws in: the part inside a border, an area centred in the screen, and
the four rows of panes of the workspace.
-/

namespace Scratchpad.Screen

/-- A rectangle of cells. -/
structure Area where
  left : Nat
  top : Nat
  width : Nat
  height : Nat
  deriving DecidableEq, Repr

namespace Area

/-- The first column to the right of an area. -/
def right (a : Area) : Nat := a.left + a.width

/-- The first row below an area. -/
def bottom (a : Area) : Nat := a.top + a.height

/-- Whether an area holds no cell. -/
def isEmpty (a : Area) : Bool := a.width == 0 || a.height == 0

/-- The columns of an area. -/
def columns (a : Area) : List Nat := List.range' a.left a.width

/-- The rows of an area. -/
def rows (a : Area) : List Nat := List.range' a.top a.height

/-- The column and the row of every cell of an area. -/
def places (a : Area) : List (Nat × Nat) :=
  a.rows.flatMap fun y => a.columns.map fun x => (x, y)

/-- An area without the outermost cells on each side. -/
def inside (a : Area) : Area := ⟨a.left + 1, a.top + 1, a.width - 2, a.height - 2⟩

/-- A place is one of an area's if its column and its row are. -/
theorem mem_places {a : Area} {x y : Nat} :
    (x, y) ∈ a.places ↔ (a.left ≤ x ∧ x < a.right) ∧ (a.top ≤ y ∧ y < a.bottom) := by
  simp only [places, rows, columns, right, bottom, List.mem_flatMap, List.mem_map,
    List.mem_range'_1, Prod.mk.injEq]
  constructor
  · rintro ⟨_, hy, _, hx, rfl, rfl⟩
    exact ⟨hx, hy⟩
  · rintro ⟨hx, hy⟩
    exact ⟨y, hy, x, hx, rfl, rfl⟩

/-- A percentage of a length, rounded to the nearest number of cells, a half upwards. -/
def portion (length percent : Nat) : Nat := (length * percent + 50) / 100

@[simp] theorem portion_zero (length : Nat) : portion length 0 = 0 := by simp [portion]

@[simp] theorem portion_hundred (length : Nat) : portion length 100 = length := by
  rw [portion]
  omega

/-- A larger share is not fewer cells. -/
theorem portion_le_portion {length p q : Nat} (h : p ≤ q) :
    portion length p ≤ portion length q := by
  have := Nat.mul_le_mul_left length h
  simp only [portion]
  omega

/-- Where the middle part of a length begins, and how long it is, if it takes `percent` of the
length and the rest is left before and after it. -/
def middle (length percent : Nat) : Nat × Nat :=
  let before := (100 - percent) / 2
  let start := portion length before
  (start, portion length (before + percent) - start)

/-- The area that takes a share of a screen in each direction and lies in its middle. -/
def centred (across down width height : Nat) : Area :=
  let (left, w) := middle width across
  let (top, h) := middle height down
  ⟨left, top, w, h⟩

end Area

/-- The four panes of the workspace, each as wide as the screen. -/
structure Workspace where
  header : Area
  editor : Area
  result : Area
  status : Area
  deriving DecidableEq, Repr

/-- The fewest rows that the editor is drawn in. -/
def Workspace.editorRows : Nat := 5

/-- The row below the editor on a screen with room for all panes: about two thirds down, but never
so high that the editor loses one of its fewest rows. -/
def Workspace.editorEnd (height : Nat) : Nat :=
  max (1 + editorRows) ((65 * height - 50) / 100)

/-- The panes of a screen. The header and the status line take one row each. If there is no room for
all, the editor comes first, then the header. -/
def Workspace.ofSize (width height : Nat) : Workspace :=
  if height < editorRows + 2 then
    let top := height - editorRows
    { header := ⟨0, 0, width, top⟩
      editor := ⟨0, top, width, height - top⟩
      result := ⟨0, height, width, 0⟩
      status := ⟨0, height, width, 0⟩ }
  else
    let stop := editorEnd height
    { header := ⟨0, 0, width, 1⟩
      editor := ⟨0, 1, width, stop - 1⟩
      result := ⟨0, stop, width, height - 1 - stop⟩
      status := ⟨0, height - 1, width, 1⟩ }

end Scratchpad.Screen
