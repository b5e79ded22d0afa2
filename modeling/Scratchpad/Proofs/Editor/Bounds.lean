import Scratchpad.Proofs.Editor.FlatText
import Scratchpad.Proofs.Text.Boundary

/-!
# Where the cursor stands

`InBounds` says of a buffer, in rows and byte offsets, that its cursor stands in one of its lines and
between two characters of it, and that no line holds a line end. These are the sound buffers
(`sound_iff_inBounds`), so edits preserve it. The checked look-ups of an edit are absent elsewhere
(`isSome_split?_iff`); in bounds they never are, and a list of edits can be carried out with all
checks made. The main statement is `inBounds_editAll`.
-/

namespace Scratchpad.Editor

open Scratchpad.Text

/-- The cursor stands at a boundary of one of the lines, and every line is one line. -/
structure InBounds (e : Editor) : Prop where
  lines_ne_nil : e.lines ≠ []
  row_lt : e.row < e.lines.length
  col_le : e.col ≤ byteLength e.line
  isBoundary : IsBoundary e.line e.col
  isLine : ∀ line ∈ e.lines, '\n' ∉ line ∧ '\r' ∉ line

/-- One character back from the cursor, and one character on, is a boundary of its line too. -/
def NeighboursInBounds (e : Editor) : Prop :=
  ∃ left right, e.split? = some (left, right) ∧
    (∀ c ∈ left.getLast?, c.utf8Size ≤ e.col ∧ IsBoundary e.line (e.col - c.utf8Size)) ∧
    ∀ c ∈ right.head?, IsBoundary e.line (e.col + c.utf8Size)

variable {e : Editor} {above below : List (List Char)} {left right : List Char}

theorem line?_eq_some (h : e.row < e.lines.length) : e.line? = some e.line := by
  rw [line, line?, List.getElem?_eq_getElem h]
  rfl

/-- The cursor's line can be cut exactly if the cursor stands in a line, at a boundary of it. -/
theorem isSome_split?_iff :
    e.split?.isSome ↔ e.row < e.lines.length ∧ IsBoundary e.line e.col := by
  by_cases hrow : e.row < e.lines.length
  · rw [split?, line?_eq_some hrow, Option.bind_some, isBoundary_iff_cut?]
    exact ⟨fun h => ⟨hrow, h⟩, fun h => h.2⟩
  · have hnone : e.line? = none := List.getElem?_eq_none (Nat.le_of_not_lt hrow)
    rw [split?, hnone]
    simp [hrow]

theorem inBounds_around (h : (around above left right below).Sound) :
    (around above left right below).InBounds where
  lines_ne_nil := by simp [around]
  row_lt := by simp [around]
  col_le := by
    rw [line, line?_around, Option.getD_some]
    exact (isBoundary_append left right).le_byteLength
  isBoundary := by
    rw [line, line?_around, Option.getD_some]
    exact isBoundary_append left right
  isLine := h.isLine

/-- A buffer is made of four parts around its cursor exactly if the cursor is in bounds. -/
theorem sound_iff_inBounds : e.Sound ↔ e.InBounds := by
  constructor
  · intro h
    obtain ⟨above, left, right, below, rfl⟩ := h.exists_around
    exact inBounds_around h
  · intro h
    obtain ⟨left, right, hline, hcol⟩ := h.isBoundary
    have hget : e.lines[e.row]? = some (left ++ right) := hline ▸ line?_eq_some h.row_lt
    obtain ⟨hlt, hcur⟩ := List.getElem?_eq_some_iff.1 hget
    refine ⟨⟨e.lines.take e.row, left, right, e.lines.drop (e.row + 1), ?_⟩, h.isLine⟩
    have hlines : e.lines = e.lines.take e.row ++ (left ++ right) :: e.lines.drop (e.row + 1) := by
      rw [← hcur, List.getElem_cons_drop, List.take_append_drop]
    have hrow : (e.lines.take e.row).length = e.row := by
      rw [List.length_take, Nat.min_eq_left (Nat.le_of_lt h.row_lt)]
    rw [around, ← hlines, hrow, hcol]

/-- The characters next to the cursor end where its line can be cut. -/
theorem Sound.neighboursInBounds (h : e.Sound) : e.NeighboursInBounds := by
  obtain ⟨above, left, right, below, rfl⟩ := h.exists_around
  have hline : (around above left right below).line = left ++ right := by simp [line]
  have hcol : (around above left right below).col = byteLength left := rfl
  refine ⟨left, right, split?_around, ?_, ?_⟩
  · intro c hc
    obtain ⟨front, rfl⟩ := List.getLast?_eq_some_iff.1 hc
    have hlen : byteLength (front ++ [c]) = byteLength front + c.utf8Size := by simp
    rw [hline, hcol, hlen, Nat.add_sub_cancel, List.append_assoc]
    exact ⟨Nat.le_add_left _ _, isBoundary_append _ _⟩
  · intro c hc
    obtain ⟨rest, rfl⟩ := List.head?_eq_some_iff.1 hc
    have hlen : byteLength (left ++ [c]) = byteLength left + c.utf8Size := by simp
    rw [hline, hcol, ← hlen, List.append_cons]
    exact isBoundary_append _ _

/-- Of a sound buffer every edit can be carried out. -/
theorem Sound.run?_eq_some (h : e.Sound) (step : Edit) : step.run? e = some (e.edit step) := by
  obtain ⟨e', v, v', hrun, -⟩ := h.commutes step
  rw [hrun, edit_of_run? hrun]

/-- Edits carried out one after the other with all checks made give what they give without. -/
theorem Sound.foldlM_run? (h : e.Sound) (steps : List Edit) :
    steps.foldlM (fun e step => step.run? e) e = some (e.editAll steps) := by
  induction steps generalizing e with
  | nil => rfl
  | cons step steps ih =>
    rw [List.foldlM_cons, h.run?_eq_some step]
    exact ih (h.edit step)

/-- Whatever text a buffer began with and whatever edits it went through, its cursor is in bounds.
So no edit ever reaches outside the text or into a character. -/
theorem inBounds_editAll (text : List Char) (steps : List Edit) :
    ((ofText text).editAll steps).InBounds ∧
      ((ofText text).editAll steps).NeighboursInBounds ∧
      steps.foldlM (fun e step => step.run? e) (ofText text) =
        some ((ofText text).editAll steps) ∧
      ∀ step : Edit, (step.run? ((ofText text).editAll steps)).isSome := by
  have hsound := (sound_ofText text).editAll steps
  refine ⟨sound_iff_inBounds.1 hsound, hsound.neighboursInBounds,
    (sound_ofText text).foldlM_run? steps, ?_⟩
  intro step
  rw [hsound.run?_eq_some step]
  rfl

end Scratchpad.Editor
