import Scratchpad.Proofs.Editor.FlatText

/-!
# Loading a text and typing it

A text comes into a buffer in two ways: it is cut into lines at once, or it is inserted character by
character. Both lead to the same buffer, but for the tabs, which only insertion replaces. The reason
is that a sound buffer is determined by its view (`Sound.eq_of_view?`): the lines are the pieces of
the two parts, and the cursor stands where they meet.

The main statement is `loaded_as_typed`. Its second half is about a buffer whose text is taken out
and loaded again: its lines come back.
-/

namespace Scratchpad

open Scratchpad.Text

/-- A text with blanks for its tabs. -/
def expandTabs (text : List Char) : List Char :=
  text.flatMap fun c => if c = '\t' then tabBlanks else [c]

/-- What a buffer takes for inserted characters is what it keeps of the text without tabs. -/
theorem flatMap_normalForm (text : List Char) :
    text.flatMap normalForm = (expandTabs text).filter (· != '\r') := by
  rw [expandTabs, List.filter_flatMap]
  congr 1
  funext c
  by_cases ht : c = '\t'
  · subst ht
    decide
  · by_cases hr : c = '\r'
    · subst hr
      decide
    · simp [normalForm, ht, hr]

namespace Editor

open FlatText

variable {e e' : Editor} {above below : List (List Char)} {left right : List Char}

/-! ### Views determine buffers -/

theorem pieces_before_ofParts (h : (around above left right below).Sound) :
    pieces (ofParts above left right below).before = above ++ [left] := by
  obtain ⟨habove, hleft, -, -⟩ := sound_around.1 h
  have hjoin : (ofParts above left right below).before = joinLines (above ++ [left]) := by
    rw [joinLines, intercalate_append_cons]
    simp [ofParts]
  rw [hjoin]
  refine List.splitOn_intercalate '\n' (fun line hl => ?_) (by simp)
  rcases List.mem_append.1 hl with hl | hl
  · exact (habove line hl).1
  · obtain rfl := List.mem_singleton.1 hl
    exact hleft.1

theorem pieces_after_ofParts (h : (around above left right below).Sound) :
    pieces (ofParts above left right below).after = right :: below := by
  obtain ⟨-, -, hright, hbelow⟩ := sound_around.1 h
  have hjoin : (ofParts above left right below).after = joinLines (right :: below) := by
    have hcons := intercalate_append_cons '\n' [] right below
    simpa [ofParts] using hcons.symm
  rw [hjoin]
  refine List.splitOn_intercalate '\n' (fun line hl => ?_) (by simp)
  rcases List.mem_cons.1 hl with rfl | hl
  · exact hright.1
  · exact (hbelow line hl).1

/-- Where the text and the place of the cursor in it are the same, so are the buffers. -/
theorem Sound.eq_of_view? (h : e.Sound) (h' : e'.Sound) (hview : e.view? = e'.view?) : e = e' := by
  obtain ⟨above, left, right, below, rfl⟩ := h.exists_around
  obtain ⟨above', left', right', below', rfl⟩ := h'.exists_around
  rw [view?_around, view?_around] at hview
  have hparts := Option.some.inj hview
  have hbefore : above ++ [left] = above' ++ [left'] := by
    rw [← pieces_before_ofParts h, ← pieces_before_ofParts h', hparts]
  have hafter : right :: below = right' :: below' := by
    rw [← pieces_after_ofParts h, ← pieces_after_ofParts h', hparts]
  obtain ⟨rfl, hleft⟩ := List.append_inj' hbefore rfl
  obtain rfl := List.singleton_inj.1 hleft
  obtain ⟨rfl, rfl⟩ := List.cons.inj hafter
  rfl

/-! ### Typing -/

/-- Inserted into an empty buffer, a text is loaded. -/
theorem run?_insertText_ofText_nil (text : List Char) :
    (Edit.insertText text).run? (ofText []) = some (ofText (expandTabs text)) := by
  obtain ⟨e, v, v', hrun, hsound, hv, hv', hstep⟩ := (sound_ofText []).commutes (.insertText text)
  have hempty : v = ⟨[], []⟩ := by
    rw [view?_ofText] at hv
    exact (Option.some.inj hv).symm
  have htyped : v' = ⟨(expandTabs text).filter (· != '\r'), []⟩ := by
    rw [← flatMap_normalForm]
    subst hempty
    exact hstep
  rw [hrun, hsound.eq_of_view? (sound_ofText (expandTabs text))]
  rw [hv', htyped, view?_ofText]

/-! ### Loading again -/

theorem Sound.pieces_text (h : e.Sound) : pieces e.text = e.lines := by
  have hne : e.lines ≠ [] := by
    obtain ⟨above, left, right, below, rfl⟩ := h.exists_around
    simp [around]
  exact List.splitOn_intercalate '\n' (fun line hl => (h.isLine line hl).1) hne

/-- The lines of a buffer hold nothing that loading would drop. -/
theorem Sound.lines_ofText_text (h : e.Sound) : (ofText e.text).lines = e.lines := by
  rw [lines_ofText, h.pieces_text]
  have hfilter : ∀ line ∈ e.lines, line.filter (· != '\r') = line := by
    intro line hl
    refine List.filter_eq_self.2 fun c hc => ?_
    have hne : c ≠ '\r' := fun hcr => (h.isLine line hl).2 (hcr ▸ hc)
    simpa using hne
  rw [List.map_congr_left hfilter, List.map_id']

/-- Typing a text into an empty buffer leads to the buffer that the text is loaded into, with blanks
for its tabs. And whatever edits a buffer went through, its text can be taken out and loaded again:
the lines come back, so two buffers with the same text have the same lines. -/
theorem loaded_as_typed :
    (∀ text, (Edit.insertText text).run? (ofText []) = some (ofText (expandTabs text))) ∧
      ∀ text steps,
        (ofText ((ofText text).editAll steps).text).lines = ((ofText text).editAll steps).lines ∧
          (ofText ((ofText text).editAll steps).text).text = ((ofText text).editAll steps).text ∧
          ∀ text' steps',
            ((ofText text).editAll steps).text = ((ofText text').editAll steps').text ↔
              ((ofText text).editAll steps).lines = ((ofText text').editAll steps').lines := by
  refine ⟨run?_insertText_ofText_nil, fun text steps => ?_⟩
  have hsound := (sound_ofText text).editAll steps
  refine ⟨hsound.lines_ofText_text, congrArg joinLines hsound.lines_ofText_text, ?_⟩
  intro text' steps'
  refine ⟨fun htext => ?_, congrArg joinLines⟩
  rw [← hsound.pieces_text, htext, ((sound_ofText text').editAll steps').pieces_text]

end Editor

end Scratchpad
