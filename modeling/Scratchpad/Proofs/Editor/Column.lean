import Scratchpad.Proofs.Editor.Bounds

/-!
# The column under moves between lines

A cursor that is moved up and down keeps its column as far as the lines allow. The column counts
characters, while the buffer counts bytes, and on its way the cursor may stand at quite other byte
offsets. `Vertical.walk` and `Vertical.entered` follow the row alone. The main statement is
`column?_after_vertical`: each line that is entered can make the column smaller, and nothing makes
it larger again.
-/

namespace Scratchpad

open Scratchpad.Text

/-- A move from line to line. -/
inductive Vertical where
  | up
  | down
  deriving DecidableEq, Repr

namespace Vertical

/-- A move as an edit. -/
def edit : Vertical → Edit
  | up => .up
  | down => .down

/-- The row that a move leads to among `count` rows; it stops at the first and at the last one. -/
def next (count row : Nat) : Vertical → Nat
  | up => row - 1
  | down => min (row + 1) (count - 1)

/-- The row that moves lead to. -/
def walk (count : Nat) : Nat → List Vertical → Nat
  | row, [] => row
  | row, m :: ms => walk count (m.next count row) ms

/-- The rows that moves enter on their way; a move that is stopped enters none. -/
def entered (count : Nat) : Nat → List Vertical → List Nat
  | _, [] => []
  | row, m :: ms =>
    if m.next count row = row then entered count row ms
    else m.next count row :: entered count (m.next count row) ms

end Vertical

namespace Editor

/-- The number of characters before the cursor in its line. -/
def column? (e : Editor) : Option Nat := e.split?.map fun p => p.1.length

/-- The number of characters in a row. -/
def lengthAt (e : Editor) (row : Nat) : Nat := (e.lines[row]?.getD []).length

variable {e e' : Editor} {above below : List (List Char)} {left right upper lower : List Char}
  {column : Nat}

theorem edit_up_around :
    (around (above ++ [upper]) left right below).edit .up =
      around above (upper.take left.length) (upper.drop left.length) ((left ++ right) :: below) :=
  edit_of_run? up?_around

theorem edit_up_first : (around [] left right below).edit .up = around [] left right below :=
  rfl

theorem edit_down_around :
    (around above left right (lower :: below)).edit .down =
      around (above ++ [left ++ right]) (lower.take left.length) (lower.drop left.length) below :=
  edit_of_run? down?_around

theorem edit_down_last : (around above left right []).edit .down = around above left right [] :=
  edit_of_run? down?_last

@[simp] theorem column?_around : (around above left right below).column? = some left.length := by
  rw [column?, split?_around]
  rfl

/-- A place is told by its row and its column. -/
theorem Sound.eq_of_column? (h : e.Sound) (h' : e'.Sound) (hlines : e'.lines = e.lines)
    (hrow : e'.row = e.row) (hcolumn : e'.column? = e.column?) : e' = e := by
  obtain ⟨above, left, right, below, rfl⟩ := h.exists_around
  obtain ⟨above', left', right', below', rfl⟩ := h'.exists_around
  have hlength : left'.length = left.length := by simpa using hcolumn
  have hline : left' ++ right' = left ++ right := by
    have hget : (around above' left' right' below').line? =
        (around above left right below).line? := by
      rw [line?, line?, hlines, hrow]
    simpa using hget
  obtain ⟨rfl, rfl⟩ := List.append_inj hline hlength
  exact congrArg₂ (fun lines row => Editor.mk lines row (byteLength left')) hlines hrow

/-- One move leaves the lines as they are, and a line that it enters bounds the column. -/
theorem Sound.vertical (h : e.Sound) (hcolumn : e.column? = some column) (m : Vertical) :
    (e.edit m.edit).lines = e.lines ∧
      (e.edit m.edit).row = m.next e.lines.length e.row ∧
      (e.edit m.edit).column? =
        some (if m.next e.lines.length e.row = e.row then column
          else min column (e.lengthAt (m.next e.lines.length e.row))) := by
  obtain ⟨above, left, right, below, rfl⟩ := h.exists_around
  obtain rfl : left.length = column := by simpa using hcolumn
  cases m with
  | up =>
    rcases List.eq_nil_or_concat' above with rfl | ⟨above, upper, rfl⟩
    · rw [Vertical.edit, edit_up_first, column?_around]
      simp [Vertical.next, around]
    · rw [Vertical.edit, edit_up_around, column?_around]
      simp [Vertical.next, around, lengthAt]
  | down =>
    cases below with
    | nil =>
      rw [Vertical.edit, edit_down_last, column?_around]
      simp [Vertical.next, around]
    | cons lower below =>
      rw [Vertical.edit, edit_down_around, column?_around]
      simp [Vertical.next, around, lengthAt]

/-- Moves leave the lines as they are and lead along the walk; the column that is left is the
smallest length on the way. -/
theorem Sound.column?_verticals (h : e.Sound) (hcolumn : e.column? = some column)
    (moves : List Vertical) :
    (e.editAll (moves.map Vertical.edit)).lines = e.lines ∧
      (e.editAll (moves.map Vertical.edit)).row = Vertical.walk e.lines.length e.row moves ∧
      (e.editAll (moves.map Vertical.edit)).column? =
        (column :: (Vertical.entered e.lines.length e.row moves).map e.lengthAt).min? := by
  induction moves generalizing e column with
  | nil => exact ⟨rfl, rfl, hcolumn⟩
  | cons m moves ih =>
    obtain ⟨hlines, hrow, hnext⟩ := h.vertical hcolumn m
    obtain ⟨hlines', hrow', hcolumn'⟩ := ih (h.edit m.edit) hnext
    have hlength : (e.edit m.edit).lengthAt = e.lengthAt := by
      funext row
      rw [lengthAt, lengthAt, hlines]
    rw [hlines, hrow] at hrow' hcolumn'
    rw [hlength] at hcolumn'
    refine ⟨hlines'.trans hlines, hrow', hcolumn'.trans ?_⟩
    rw [Vertical.entered]
    split
    · next hstay => rw [hstay]
    · rw [List.map_cons, List.min?_cons', List.min?_cons', List.foldl_cons]

theorem Sound.column_le (h : e.Sound) (hcolumn : e.column? = some column) :
    column ≤ e.lengthAt e.row := by
  obtain ⟨above, left, right, below, rfl⟩ := h.exists_around
  obtain rfl : left.length = column := by simpa using hcolumn
  simp [lengthAt, around]

/-- Up and down again leads through the line above and back into the line itself. -/
theorem entered_up_down {count row : Nat} (hrow : row ≠ 0) (hlt : row < count) :
    Vertical.walk count row [.up, .down] = row ∧
      Vertical.entered count row [.up, .down] = [row - 1, row] := by
  have hback : min (row - 1 + 1) (count - 1) = row := by omega
  have hup : row - 1 ≠ row := by omega
  simp [Vertical.walk, Vertical.entered, Vertical.next, hback, hup, hup.symm]

/-- Up and down again leads back to the same place exactly if the line above has room for the
column. -/
theorem Sound.up_down_eq_iff (h : e.Sound) (hcolumn : e.column? = some column) (hrow : e.row ≠ 0) :
    (e.edit .up).edit .down = e ↔ column ≤ e.lengthAt (e.row - 1) := by
  have hback : e.editAll ([Vertical.up, .down].map Vertical.edit) = (e.edit .up).edit .down := rfl
  obtain ⟨hwalk, hentered⟩ := entered_up_down hrow (sound_iff_inBounds.1 h).row_lt
  obtain ⟨hlines, hrow', hcolumn'⟩ := h.column?_verticals hcolumn [.up, .down]
  have hmin : [column, e.lengthAt (e.row - 1), e.lengthAt e.row].min? =
      some (min column (e.lengthAt (e.row - 1))) := by
    have hle := h.column_le hcolumn
    rw [List.min?_cons', List.foldl_cons, List.foldl_cons, List.foldl_nil]
    congr 1
    omega
  rw [hback] at hlines hrow' hcolumn'
  rw [hentered] at hcolumn'
  constructor
  · intro heq
    rw [heq, hcolumn] at hcolumn'
    have hsame := Option.some.inj (hcolumn'.trans hmin)
    omega
  · intro hle
    refine h.eq_of_column? ((h.edit .up).edit .down) hlines (hrow'.trans hwalk) ?_
    rw [hcolumn, hcolumn']
    refine hmin.trans ?_
    rw [Nat.min_eq_left hle]

/-- However the cursor is moved up and down, the text stays, the row follows the moves and stops at
the first and the last line, and the column, counted in characters, becomes the smallest of what it
was and the lengths of the lines that were entered. So up and down again leads back to the same
place exactly if the line above is long enough. -/
theorem column?_after_vertical (text : List Char) (steps : List Edit) :
    let e := (ofText text).editAll steps
    ∃ column, e.column? = some column ∧
      (∀ moves : List Vertical,
        (e.editAll (moves.map Vertical.edit)).text = e.text ∧
          (e.editAll (moves.map Vertical.edit)).row = Vertical.walk e.lines.length e.row moves ∧
          (e.editAll (moves.map Vertical.edit)).column? =
            (column :: (Vertical.entered e.lines.length e.row moves).map e.lengthAt).min?) ∧
      (e.row ≠ 0 → ((e.edit .up).edit .down = e ↔ column ≤ e.lengthAt (e.row - 1))) := by
  intro e
  have hsound : e.Sound := (sound_ofText text).editAll steps
  obtain ⟨column, hcolumn⟩ : ∃ column, e.column? = some column := by
    obtain ⟨above, left, right, below, heq⟩ := hsound.exists_around
    exact ⟨left.length, by rw [heq, column?_around]⟩
  refine ⟨column, hcolumn, fun moves => ?_, hsound.up_down_eq_iff hcolumn⟩
  obtain ⟨hlines, hrow, hleft⟩ := hsound.column?_verticals hcolumn moves
  exact ⟨congrArg joinLines hlines, hrow, hleft⟩

/-- The line above has one character, of two bytes, so the third column of the line below is not
found again. -/
theorem column?_after_vertical_short :
    let e := ofText ['é', '\n', 'a', 'b', 'c']
    e.row ≠ 0 ∧ (e.edit .up).edit .down ≠ e := by
  intro e
  obtain ⟨column, hcolumn, -, hback⟩ := column?_after_vertical ['é', '\n', 'a', 'b', 'c'] []
  have hthree : e.column? = some 3 := by decide
  obtain rfl : column = 3 := Option.some.inj (hcolumn.symm.trans hthree)
  have hrow : e.row ≠ 0 := by decide
  refine ⟨hrow, fun heq => ?_⟩
  exact absurd ((hback hrow).1 heq) (by decide)

end Editor

end Scratchpad
