import Scratchpad.Proofs.Editor.Bounds
import Scratchpad.Proofs.Highlight.StyledLine
import Scratchpad.Session.View

/-!
# The cursor in sight

The pane of the editor is scrolled so that the line of the cursor is one of its rows, and the cursor
is drawn in that row. The places of a terminal are words of 16 bits, and two numbers are cut down to
them: the column of the cursor, before it is kept inside the border, and the number of lines that are
scrolled out of sight. So the row of the cursor is always right, while its column and what is drawn in
that row are right as long as these numbers fit. The main statement is `sight_editorPane`.
-/

namespace Scratchpad.Screen

open Scratchpad.Text

/-- An area of a terminal with room for text inside a border. -/
structure Area.HasRoom (a : Area) : Prop where
  width : 3 ≤ a.width
  height : 3 ≤ a.height
  right : a.right < UInt16.size
  bottom : a.bottom < UInt16.size

/-- A place lies inside the border of an area. -/
def Area.Encloses (a : Area) (x y : Nat) : Prop :=
  (a.left < x ∧ x < a.right - 1) ∧ (a.top < y ∧ y < a.bottom - 1)

section

variable {a : Area} {e : Editor}

theorem toNat_scrollOf (a : Area) (e : Editor) :
    (scrollOf a e).toNat = firstLine a e % UInt16.size :=
  UInt16.toNat_ofNat'

theorem toNat_cursorRow (h : a.HasRoom) (e : Editor) :
    (cursorRow a e).toNat = a.top + 1 + (e.row - firstLine a e) := by
  have hlt := row_lt_firstLine_add a e h.height
  have hheight := h.height
  have hbottom := h.bottom
  simp only [Area.textRows, Area.bottom, UInt16.size] at hlt hbottom
  simp only [cursorRow, UInt16.toNat_add, Nat.toUInt16_eq, UInt16.toNat_ofNat',
    UInt16.toNat_ofNat]
  omega

theorem toNat_cursorColumn (h : a.HasRoom) (e : Editor) :
    (cursorColumn a e).toNat =
      min ((a.left + 1 + displayColumn e.line e.col) % UInt16.size) (a.left + a.width - 2) := by
  have hright := h.right
  have hwidth := h.width
  simp only [Area.right, UInt16.size] at hright
  simp only [cursorColumn, UInt16.toNat_min, UInt16.toNat_add, Nat.toUInt16_eq,
    UInt16.toNat_ofNat', UInt16.toNat_ofNat, UInt16.size]
  omega

end

/-! ### Rows of a pane -/

section

variable {s t : Screen} {x y x' y' k : Nat} {line : Line}

theorem cell?_write_of_ne (h : y ≠ y') (gs : Line) :
    (write x y gs s).cell? x' y' = s.cell? x' y' := by
  induction gs generalizing x s with
  | nil => rfl
  | cons g gs ih =>
    rw [write]
    split
    · exact ih
    · rw [ih, Screen.cell?_change, if_neg (fun heq => h heq.2)]

/-- What a line leaves of its row does not depend on the other rows. -/
theorem cell?_write_congr (h : ∀ x', s.cell? x' y = t.cell? x' y) (gs : Line) :
    (write x y gs s).cell? x' y = (write x y gs t).cell? x' y := by
  induction gs generalizing x s t with
  | nil => exact h x'
  | cons g gs ih =>
    simp only [write]
    split
    · exact ih h
    · apply ih
      intro x'
      rw [Screen.cell?_change, Screen.cell?_change, h]

theorem cell?_writeLines_of_lt (h : y' < y) (lines : List Line) :
    (writeLines x y lines s).cell? x' y' = s.cell? x' y' := by
  induction lines generalizing y s with
  | nil => rfl
  | cons l lines ih => rw [writeLines, ih (Nat.lt_succ_of_lt h), cell?_write_of_ne (Nat.ne_of_gt h)]

/-- Line number `k` is written in the row with this number. -/
theorem cell?_writeLines {lines : List Line} (hk : lines[k]? = some line) :
    (writeLines x y lines s).cell? x' (y + k) = (write x (y + k) line s).cell? x' (y + k) := by
  induction lines generalizing y k s with
  | nil => simp at hk
  | cons l lines ih =>
    rw [writeLines]
    cases k with
    | zero =>
      obtain rfl := Option.some.inj hk
      exact cell?_writeLines_of_lt (Nat.lt_succ_self y) lines
    | succ k =>
      -- the first line is written in another row, so the row of line `k + 1` does not see it
      have hrow : y + (k + 1) = y + 1 + k := by omega
      rw [hrow, ih hk]
      exact cell?_write_congr (fun x' => cell?_write_of_ne (by omega) l) line

theorem Area.HasRoom.isEmpty {a : Area} (h : a.HasRoom) : a.isEmpty = false := by
  have hwidth := h.width
  have hheight := h.height
  simp only [Area.isEmpty, Bool.or_eq_false_iff, beq_eq_false_iff_ne]
  omega

theorem Area.HasRoom.isEmpty_inside {a : Area} (h : a.HasRoom) : a.inside.isEmpty = false := by
  have hwidth := h.width
  have hheight := h.height
  simp only [Area.isEmpty, Area.inside, Bool.or_eq_false_iff, beq_eq_false_iff_ne]
  omega

/-- A pane without its text. -/
def Pane.empty (p : Pane) : Pane := { p with lines := [] }

theorem draw_of_title {p : Pane} {a : Area} (h : a.HasRoom) {title : Line}
    (htitle : p.title = some title) :
    p.draw a s = writeLines (a.left + 1) (a.top + 1) (p.inSight a.inside) (p.empty.draw a s) := by
  have hempty : p.empty.inSight a.inside = [] := by
    have hlaidOut : p.empty.laidOut a.inside.width = [] := by
      rw [Pane.laidOut]
      split <;> rfl
    rw [Pane.inSight, hlaidOut, List.drop_nil, List.take_nil, ite_self]
  have htitle' : p.empty.title = some title := htitle
  simp only [Pane.draw, htitle, htitle', Pane.drawText, h.isEmpty, h.isEmpty_inside, hempty]
  rfl

/-- In row `k` inside its border a pane shows the line with this number of those in sight. -/
theorem cell?_draw {p : Pane} {a : Area} (h : a.HasRoom) {title : Line}
    (htitle : p.title = some title) (hk : (p.inSight a.inside)[k]? = some line) :
    (p.draw a s).cell? x' (a.top + 1 + k) =
      (write (a.left + 1) (a.top + 1 + k) line (p.empty.draw a s)).cell? x' (a.top + 1 + k) := by
  rw [draw_of_title h htitle]
  exact cell?_writeLines hk

end

end Scratchpad.Screen

namespace Scratchpad.Session

open Scratchpad.Highlight Scratchpad.Screen Scratchpad.Text

variable {s : Session} {a : Area}

/-- Row `y` of the screen shows a line of the text inside the border of the editor's pane: it is what
writing that line leaves of the row, in the colours of its segments and as far as there is room. -/
def RowShows (s : Session) (a : Area) (y : Nat) (line : List Char) : Prop :=
  ∃ segments, lineText segments = line ∧ ∀ screen x,
    ((s.editorPane a).draw a screen).cell? x y =
      (write (a.left + 1) y (cropped (a.width - 2) (a.width - 2) (segments.flatMap glyphsOf))
        ((s.editorPane a).empty.draw a screen)).cell? x y

theorem exists_segments (hsound : s.editor.Sound) :
    ∃ segments, (highlightedLines (String.ofList s.editor.text))[s.editor.row]? = some segments ∧
      lineText segments = s.editor.line := by
  have hline : s.editor.lines[s.editor.row]? = some s.editor.line :=
    Editor.line?_eq_some (Editor.sound_iff_inBounds.1 hsound).row_lt
  rw [← lineText_highlightedLines_text hsound, List.getElem?_map] at hline
  exact Option.map_eq_some_iff.1 hline

/-- The line of the cursor is in sight where the cursor is drawn, as long as the last line in sight
can be counted. -/
theorem rowShows_line (hsound : s.editor.Sound) (h : a.HasRoom)
    (hcount : firstLine a s.editor + a.textRows < UInt16.size) :
    s.RowShows a (a.top + 1 + (s.editor.row - firstLine a s.editor)) s.editor.line := by
  obtain ⟨segments, hget, htext⟩ := exists_segments hsound
  refine ⟨segments, htext, fun screen x => cell?_draw h rfl ?_⟩
  have hle := firstLine_le_row a s.editor
  have hlt := row_lt_firstLine_add a s.editor h.height
  have hscroll : (s.editorPane a).scroll = firstLine a s.editor := by
    refine (toNat_scrollOf a s.editor).trans (Nat.mod_eq_of_lt ?_)
    omega
  have hcountable : (s.editorPane a).scroll + a.inside.height < Pane.countable := by
    rw [hscroll]
    exact hcount
  rw [Pane.inSight, if_pos hcountable, hscroll, List.getElem?_take_of_lt, List.getElem?_drop,
    Nat.add_sub_cancel' hle]
  · simp [Pane.laidOut, editorPane, hget, Area.inside]
  · have hrows : a.inside.height = a.textRows := rfl
    omega

/-- For every text that edits lead to and every area with room for text: the pane of the editor
leaves out so many lines that the line of the cursor is one of those that it has rows for, and the
row of the cursor is the row of that line. The number of lines left out and the column of the cursor
count modulo 65536. If the last line in sight comes before number 65536, the pane shows the cursor's
line in the cursor's row, and if the column does, the cursor stands inside the border, in its column
or in the last one. -/
theorem sight_editorPane (text : List Char) (steps : List Edit) (s : Session)
    (hs : s.editor = (Editor.ofText text).editAll steps) (a : Area) (h : a.HasRoom) :
    firstLine a s.editor ≤ s.editor.row ∧
      s.editor.row < firstLine a s.editor + (a.height - 2) ∧
      (s.editorPane a).scroll = firstLine a s.editor % UInt16.size ∧
      (cursorRow a s.editor).toNat = a.top + 1 + (s.editor.row - firstLine a s.editor) ∧
      (cursorColumn a s.editor).toNat =
        min ((a.left + 1 + displayColumn s.editor.line s.editor.col) % UInt16.size)
          (a.left + a.width - 2) ∧
      (firstLine a s.editor + (a.height - 2) < UInt16.size →
        s.RowShows a (cursorRow a s.editor).toNat s.editor.line) ∧
      (a.left + 1 + displayColumn s.editor.line s.editor.col < UInt16.size →
        (cursorColumn a s.editor).toNat =
            min (a.left + 1 + displayColumn s.editor.line s.editor.col) (a.left + a.width - 2) ∧
          a.Encloses (cursorColumn a s.editor).toNat (cursorRow a s.editor).toNat) ∧
      ∀ width height, s.discovery = .ready → s.showsHelp = false →
        a = (Workspace.ofSize width height).editor →
        (s.view width height).cursor = some (cursorColumn a s.editor, cursorRow a s.editor) := by
  have hsound : s.editor.Sound := hs ▸ (Editor.sound_ofText text).editAll steps
  have hlt := row_lt_firstLine_add a s.editor h.height
  rw [toNat_cursorRow h, toNat_cursorColumn h]
  refine ⟨firstLine_le_row a s.editor, hlt, toNat_scrollOf a s.editor, rfl, rfl,
    rowShows_line hsound h, ?_, ?_⟩
  · intro hcolumn
    rw [Nat.mod_eq_of_lt hcolumn]
    have hwidth := h.width
    have hheight := h.height
    simp only [Area.textRows] at hlt
    simp only [Area.Encloses, Area.right, Area.bottom]
    refine ⟨trivial, ⟨?_, ?_⟩, ?_, ?_⟩
    all_goals omega
  · rintro width height hready hhidden rfl
    exact if_pos ⟨hready, by simp [hhidden]⟩

/-- A pane of four rows, of which the last one is the cursor's. -/
theorem sight_editorPane_fourLines :
    let s := Session.start "a\nb\nc\nd\ne" []
    let a : Area := ⟨0, 1, 20, 6⟩
    a.HasRoom ∧ firstLine a s.editor = 1 ∧ (cursorRow a s.editor).toNat = 5 ∧
      (cursorColumn a s.editor).toNat = 2 ∧ s.RowShows a 5 ['e'] := by
  intro s a
  have hroom : a.HasRoom := ⟨by decide, by decide, by decide, by decide⟩
  have hsight := sight_editorPane "a\nb\nc\nd\ne".toList [] s rfl a hroom
  have hfirst : firstLine a s.editor = 1 := by decide +kernel
  have hline : s.editor.line = ['e'] := by decide +kernel
  have hrow : (cursorRow a s.editor).toNat = 5 := by decide +kernel
  obtain ⟨-, -, -, -, -, hshows, hcolumn, -⟩ := hsight
  rw [hfirst, hrow, hline] at hshows
  refine ⟨hroom, hfirst, hrow, ?_, hshows (by decide)⟩
  rw [(hcolumn (by decide +kernel)).1]
  decide +kernel

/-! ### A long line -/

theorem measure_replicate (n : Nat) :
    measure (.replicate n 'a') = ((n : Int), Beginning.of .plain) := by
  induction n with
  | zero => rfl
  | succ n ih =>
    have hletter : addWidth 'a' (.of .plain) = (1, .of .plain) := by decide +kernel
    rw [List.replicate_succ, Text.measure, List.foldr_cons, ← Text.measure, ih, hletter]
    rfl

theorem byteLength_replicate (n : Nat) : byteLength (.replicate n 'a') = n := by
  induction n with
  | zero => rfl
  | succ n ih =>
    rw [List.replicate_succ, byteLength_cons, ih]
    exact Nat.add_comm 1 n

theorem displayColumn_replicate (n : Nat) : displayColumn (.replicate n 'a') n = n := by
  have hcut : cut? (.replicate n 'a') n = some (.replicate n 'a', []) :=
    cut?_eq_some_iff.2 ⟨(List.append_nil _).symm, byteLength_replicate n⟩
  rw [displayColumn, upTo?, byteLength_replicate, Nat.min_self, hcut]
  simp [width, measure_replicate]

theorem ofText_replicate (n : Nat) :
    Editor.ofText (.replicate n 'a') = ⟨[.replicate n 'a'], 0, n⟩ := by
  have hpieces : pieces (.replicate n 'a') = [.replicate n 'a'] :=
    List.splitOn_eq_singleton (by simp)
  have hkept : (List.replicate n 'a').filter (· != '\r') = .replicate n 'a' := by simp
  simp [Editor.ofText, hpieces, hkept, byteLength_replicate]

/-- On a pane of twenty columns, the cursor behind a line of 65536 letters belongs into column 18, and
is drawn in column 1. -/
theorem cursorColumn_of_longLine :
    let a : Area := ⟨0, 1, 20, 6⟩
    let e := Editor.ofText (.replicate 65536 'a')
    a.HasRoom ∧ (cursorColumn a e).toNat = 1 ∧
      min (a.left + 1 + displayColumn e.line e.col) (a.left + a.width - 2) = 18 := by
  intro a e
  have hroom : a.HasRoom := ⟨by decide, by decide, by decide, by decide⟩
  have hcolumn : displayColumn e.line e.col = 65536 := by
    simp only [e, ofText_replicate]
    exact displayColumn_replicate 65536
  rw [toNat_cursorColumn hroom, hcolumn]
  exact ⟨hroom, by decide, by decide⟩

end Scratchpad.Session
