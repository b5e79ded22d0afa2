import Scratchpad.Editor.Edit

/-!
# Buffers around a cursor

`around above left right below` is the buffer whose cursor stands between `left` and `right`, the two
parts of one line. Every buffer that edits lead to has this form (`Editor.Sound`), and in it each
operation changes the four parts and counts nothing: the equations below have one case for the inside
of a line and one for its end.
-/

namespace Scratchpad.Editor

open Scratchpad.Text

/-- The buffer with the cursor between `left` and `right`. -/
def around (above : List (List Char)) (left right : List Char) (below : List (List Char)) :
    Editor :=
  ⟨above ++ (left ++ right) :: below, above.length, byteLength left⟩

/-- A line holds no character that would end it. -/
def IsLine (line : List Char) : Prop := '\n' ∉ line ∧ '\r' ∉ line

/-- The cursor stands between two characters of a line, and every line is one line. -/
structure Sound (e : Editor) : Prop where
  exists_around : ∃ above left right below, e = around above left right below
  isLine : ∀ line ∈ e.lines, IsLine line

variable {above below : List (List Char)} {left right upper lower : List Char}

theorem isLine_nil : IsLine [] := ⟨List.not_mem_nil, List.not_mem_nil⟩

@[simp] theorem isLine_append {as bs : List Char} :
    IsLine (as ++ bs) ↔ IsLine as ∧ IsLine bs := by
  simp only [IsLine, List.mem_append, not_or]
  exact and_and_and_comm

theorem sound_around :
    (around above left right below).Sound ↔
      (∀ line ∈ above, IsLine line) ∧ IsLine left ∧ IsLine right ∧ ∀ line ∈ below, IsLine line := by
  constructor
  · intro h
    have hline := h.isLine
    simp only [around, List.mem_append, List.mem_cons] at hline
    have hcur := isLine_append.1 (hline (left ++ right) (.inr (.inl rfl)))
    exact ⟨fun l hl => hline l (.inl hl), hcur.1, hcur.2, fun l hl => hline l (.inr (.inr hl))⟩
  · rintro ⟨habove, hleft, hright, hbelow⟩
    refine ⟨⟨above, left, right, below, rfl⟩, ?_⟩
    intro line hl
    simp only [around, List.mem_append, List.mem_cons] at hl
    rcases hl with hl | rfl | hl
    · exact habove line hl
    · exact isLine_append.2 ⟨hleft, hright⟩
    · exact hbelow line hl

/-! ### What the cursor sees -/

@[simp] theorem line?_around : (around above left right below).line? = some (left ++ right) := by
  simp [line?, around]

@[simp] theorem split?_around : (around above left right below).split? = some (left, right) := by
  rw [split?, line?_around]
  exact cut?_append left right

theorem text_around :
    (around above left right below).text =
      (above.flatMap (· ++ ['\n']) ++ left) ++ (right ++ below.flatMap ('\n' :: ·)) := by
  rw [text, around, joinLines, intercalate_append_cons]
  simp only [List.append_assoc]

@[simp] theorem withLine_around (line : List Char) :
    (around above left right below).withLine line =
      ⟨above ++ line :: below, above.length, byteLength left⟩ := by
  simp [withLine, around]

/-! ### Insertion and removal -/

theorem type?_around (cs : List Char) :
    (around above left right below).type? cs = some (around above (left ++ cs) right below) := by
  rw [type?, split?_around, Option.map_some, withLine_around]
  simp [around, atCol]

theorem newline?_around :
    (around above left right below).newline? = some (around (above ++ [left]) [] right below) := by
  simp [newline?, withLines, moveTo, around, split?, line?, cut?_append]

/-- Two lines join where they meet, wherever the cursor was. -/
theorem joinBelow?_eq {e : Editor} (h : e.lines = above ++ upper :: lower :: below) :
    e.joinBelow? above.length = some (around above upper lower below) := by
  simp [joinBelow?, withLines, moveTo, around, h]

theorem backspace?_inside (c : Char) :
    (around above (left ++ [c]) right below).backspace? =
      some (around above left right below) := by
  have hpos : 0 < byteLength left + c.utf8Size := by
    have := c.utf8Size_pos
    omega
  rw [backspace?, split?_around]
  simp [around, withLine, atCol, hpos]

theorem backspace?_atStart :
    (around (above ++ [upper]) [] right below).backspace? =
      some (around above upper right below) := by
  rw [backspace?, if_neg (by simp [around]), if_pos (by simp [around])]
  have hrow : (around (above ++ [upper]) [] right below).row - 1 = above.length := by simp [around]
  rw [hrow]
  exact joinBelow?_eq (by simp [around])

theorem delete?_inside (c : Char) :
    (around above left (c :: right) below).delete? = some (around above left right below) := by
  rw [delete?, split?_around, Option.bind_some]
  simp only [withLine_around]
  rfl

theorem delete?_atEnd :
    (around above left [] (lower :: below)).delete? = some (around above left lower below) := by
  rw [delete?, split?_around, Option.bind_some]
  rw [if_pos (by simp [around])]
  exact joinBelow?_eq (by simp [around])

theorem delete?_last : (around above left [] []).delete? = some (around above left [] []) := by
  rw [delete?, split?_around, Option.bind_some]
  rw [if_neg (by simp [around])]

/-! ### Moves -/

theorem left?_inside (c : Char) :
    (around above (left ++ [c]) right below).left? = some (around above left (c :: right) below) := by
  have hpos : 0 < byteLength left + c.utf8Size := by
    have := c.utf8Size_pos
    omega
  rw [left?, split?_around]
  simp [around, atCol, hpos]

theorem left?_atStart :
    (around (above ++ [upper]) [] right below).left? =
      some (around above upper [] (right :: below)) := by
  simp [left?, around, moveTo]

theorem right?_inside (c : Char) :
    (around above left (c :: right) below).right? =
      some (around above (left ++ [c]) right below) := by
  rw [right?, split?_around]
  simp [around, atCol]

theorem right?_atEnd :
    (around above left [] (lower :: below)).right? =
      some (around (above ++ [left]) [] lower below) := by
  rw [right?, split?_around]
  simp [around, moveTo]

theorem right?_last : (around above left [] []).right? = some (around above left [] []) := by
  rw [right?, split?_around]
  simp [around]

theorem up?_around :
    (around (above ++ [upper]) left right below).up? =
      some (around above (upper.take left.length) (upper.drop left.length)
        ((left ++ right) :: below)) := by
  rw [up?, if_pos (by simp [around]), toRow?, split?_around]
  simp [around, moveTo, byteOffset_eq_byteLength_take]

theorem down?_around :
    (around above left right (lower :: below)).down? =
      some (around (above ++ [left ++ right]) (lower.take left.length) (lower.drop left.length)
        below) := by
  rw [down?, if_pos (by simp [around]), toRow?, split?_around]
  simp [around, moveTo, byteOffset_eq_byteLength_take]

theorem down?_last : (around above left right []).down? = some (around above left right []) := by
  rw [down?, if_neg (by simp [around])]

theorem home_around :
    (around above left right below).atCol 0 = around above [] (left ++ right) below := by
  simp [around, atCol]

theorem toEnd?_around :
    (around above left right below).toEnd? = some (around above (left ++ right) [] below) := by
  rw [toEnd?, line?_around]
  simp [around, atCol]

end Scratchpad.Editor
