import Mathlib.Data.List.Basic
import Scratchpad.Proofs.Editor.Cursor

/-!
# A buffer as one text

A buffer keeps a list of lines and counts bytes. Seen from outside it is one text that is cut in two
at the cursor. `Editor.view?` takes this view, and `FlatText.Step` says in its terms what each edit
does, where a line feed is a character like any other. Every edit of every buffer that edits lead to
does what `Step` says.
-/

namespace Scratchpad

open Scratchpad.Text

/-- A text that is cut in two at a cursor. -/
structure FlatText where
  before : List Char
  after : List Char
  deriving DecidableEq, Repr

/-- What a buffer takes for an inserted character. -/
def normalForm (c : Char) : List Char :=
  if c = '\r' then [] else if c = '\t' then tabBlanks else [c]

namespace FlatText

/-- A text with more characters before the cursor. -/
def insert (cs : List Char) (v : FlatText) : FlatText := ⟨v.before ++ cs, v.after⟩

/-- The cursor one character further back; at the start it stays. -/
def back (v : FlatText) : FlatText :=
  match v.before.getLast? with
  | some c => ⟨v.before.dropLast, c :: v.after⟩
  | none => v

/-- The cursor one character further on; at the end it stays. -/
def forth (v : FlatText) : FlatText :=
  match v.after with
  | c :: rest => ⟨v.before ++ [c], rest⟩
  | [] => v

/-- `v'` has the cursor behind the nearest line feed before the cursor of `v`, or at the start. -/
def LineStart (v v' : FlatText) : Prop :=
  ∃ part, v.before = v'.before ++ part ∧ v'.after = part ++ v.after ∧ '\n' ∉ part ∧
    (v'.before = [] ∨ v'.before.getLast? = some '\n')

/-- `v'` has the cursor in front of the nearest line feed after the cursor of `v`, or at the end. -/
def LineEnd (v v' : FlatText) : Prop :=
  ∃ part, v'.before = v.before ++ part ∧ v.after = part ++ v'.after ∧ '\n' ∉ part ∧
    (v'.after = [] ∨ v'.after.head? = some '\n')

/-- What an edit does to a text with a cursor. -/
def Step : Edit → FlatText → FlatText → Prop
  | .insert c, v, v' => v' = v.insert (normalForm c)
  | .insertText cs, v, v' => v' = v.insert (cs.flatMap normalForm)
  | .newline, v, v' => v' = v.insert ['\n']
  | .backspace, v, v' => v' = ⟨v.before.dropLast, v.after⟩
  | .delete, v, v' => v' = ⟨v.before, v.after.tail⟩
  | .left, v, v' => v' = v.back
  | .right, v, v' => v' = v.forth
  | .up, v, v' => v'.before ++ v'.after = v.before ++ v.after
  | .down, v, v' => v'.before ++ v'.after = v.before ++ v.after
  | .home, v, v' => LineStart v v'
  | .toEnd, v, v' => LineEnd v v'

/-- The text that four parts of a buffer make, with a line feed between any two lines. -/
def ofParts (above : List (List Char)) (left right : List Char) (below : List (List Char)) :
    FlatText :=
  ⟨above.flatMap (· ++ ['\n']) ++ left, right ++ below.flatMap ('\n' :: ·)⟩

variable {above below : List (List Char)} {left right : List Char}

@[simp] theorem insert_ofParts (cs : List Char) :
    (ofParts above left right below).insert cs = ofParts above (left ++ cs) right below := by
  simp [insert, ofParts]

theorem insert_insert (as bs : List Char) (v : FlatText) :
    (v.insert as).insert bs = v.insert (as ++ bs) := by
  simp [insert]

theorem insert_nil (v : FlatText) : v.insert [] = v := by
  simp [insert]

end FlatText

namespace Editor

open FlatText

/-- The text of a buffer, cut at the cursor: before it the lines above, each with a line feed behind
it, and the beginning of the cursor's line. -/
def view? (e : Editor) : Option FlatText :=
  e.split?.map fun p =>
    ofParts (e.lines.take e.row) p.1 p.2 (e.lines.drop (e.row + 1))

/-- An edit can be carried out on a buffer, leaves a sound one, and does to the text with the cursor
what `Step` says. -/
def Commutes (step : Edit) (e : Editor) : Prop :=
  ∃ e' v v', step.run? e = some e' ∧ e'.Sound ∧ e.view? = some v ∧ e'.view? = some v' ∧
    FlatText.Step step v v'

variable {above below above' below' : List (List Char)} {left right left' right' : List Char}
  {e : Editor}

@[simp] theorem view?_around :
    (around above left right below).view? = some (ofParts above left right below) := by
  rw [view?, split?_around]
  simp [around]

/-- The view cuts the text of the buffer in two. -/
theorem Sound.exists_view? (h : e.Sound) :
    ∃ v, e.view? = some v ∧ e.text = v.before ++ v.after := by
  obtain ⟨above, left, right, below, rfl⟩ := h.exists_around
  exact ⟨_, view?_around, text_around⟩

theorem commutes_around {step : Edit}
    (hrun : step.run? (around above left right below) = some (around above' left' right' below'))
    (hsound : (around above' left' right' below').Sound)
    (hstep : FlatText.Step step (ofParts above left right below)
      (ofParts above' left' right' below')) :
    Commutes step (around above left right below) :=
  ⟨_, _, _, hrun, hsound, view?_around, view?_around, hstep⟩

/-! ### Insertion -/

theorem commutes_newline (h : e.Sound) : Commutes .newline e := by
  obtain ⟨above, left, right, below, rfl⟩ := h.exists_around
  obtain ⟨habove, hleft, hright, hbelow⟩ := sound_around.1 h
  refine commutes_around newline?_around (sound_around.2 ⟨?_, isLine_nil, hright, hbelow⟩) ?_
  · intro line hl
    rcases List.mem_append.1 hl with hl | hl
    · exact habove line hl
    · obtain rfl := List.mem_singleton.1 hl
      exact hleft
  · simp [FlatText.Step, FlatText.insert, ofParts]

/-- Characters that stay in the line are put before the cursor. -/
theorem commutes_type? {step : Edit} {cs : List Char} (h : e.Sound) (hcs : IsLine cs)
    (hrun : step.run? e = e.type? cs)
    (hstep : ∀ v : FlatText, FlatText.Step step v (v.insert cs)) : Commutes step e := by
  obtain ⟨above, left, right, below, rfl⟩ := h.exists_around
  obtain ⟨habove, hleft, hright, hbelow⟩ := sound_around.1 h
  refine commutes_around (hrun.trans (type?_around cs)) ?_ ?_
  · exact sound_around.2 ⟨habove, isLine_append.2 ⟨hleft, hcs⟩, hright, hbelow⟩
  · rw [← insert_ofParts]
    exact hstep _

theorem isLine_singleton {c : Char} (hn : c ≠ '\n') (hr : c ≠ '\r') : IsLine [c] := by
  constructor
  · exact fun h => hn (List.mem_singleton.1 h).symm
  · exact fun h => hr (List.mem_singleton.1 h).symm

theorem commutes_insert (h : e.Sound) (c : Char) : Commutes (.insert c) e := by
  by_cases hn : c = '\n'
  · subst hn
    exact commutes_newline h
  · by_cases hr : c = '\r'
    · subst hr
      obtain ⟨v, hv, -⟩ := h.exists_view?
      exact ⟨e, v, v, rfl, h, hv, hv, (insert_nil v).symm⟩
    · by_cases ht : c = '\t'
      · subst ht
        exact commutes_type? h ⟨by decide, by decide⟩ rfl fun v => rfl
      · refine commutes_type? h (isLine_singleton hn hr) ?_ ?_
        · simp [Edit.run?, insert?, hn, hr, ht]
        · intro v
          simp [FlatText.Step, normalForm, hr, ht]

/-- Each character of an inserted text goes in front of the cursor, behind the ones before it. -/
theorem commutes_insertText (h : e.Sound) (cs : List Char) : Commutes (.insertText cs) e := by
  induction cs generalizing e with
  | nil =>
    obtain ⟨v, hv, -⟩ := h.exists_view?
    exact ⟨e, v, v, rfl, h, hv, hv, (insert_nil v).symm⟩
  | cons c cs ih =>
    obtain ⟨e₁, v, v₁, hrun, hsound, hv, hv₁, hstep⟩ := commutes_insert h c
    obtain ⟨e₂, v₁', v₂, hrest, hsound₂, hv₁', hv₂, hstep₂⟩ := ih hsound
    obtain rfl := Option.some.inj (hv₁.symm.trans hv₁')
    refine ⟨e₂, v, v₂, ?_, hsound₂, hv, hv₂, ?_⟩
    · have hc : e.insert? c = some e₁ := hrun
      have hcs : cs.foldlM insert? e₁ = some e₂ := hrest
      simp [Edit.run?, hc, hcs]
    · have hc : v₁ = v.insert (normalForm c) := hstep
      have hcs : v₂ = v₁.insert (cs.flatMap normalForm) := hstep₂
      simp only [FlatText.Step]
      rw [hcs, hc, insert_insert, List.flatMap_cons]

/-! ### Removal -/

theorem commutes_backspace (h : e.Sound) : Commutes .backspace e := by
  obtain ⟨above, left, right, below, rfl⟩ := h.exists_around
  obtain ⟨habove, hleft, hright, hbelow⟩ := sound_around.1 h
  rcases List.eq_nil_or_concat' left with rfl | ⟨left, c, rfl⟩
  · rcases List.eq_nil_or_concat' above with rfl | ⟨above, upper, rfl⟩
    · exact commutes_around rfl h rfl
    · obtain ⟨habove, hupper⟩ := List.forall_mem_append.1 habove
      have hline := hupper upper List.mem_cons_self
      refine commutes_around backspace?_atStart (sound_around.2 ⟨habove, hline, hright, hbelow⟩) ?_
      simp [FlatText.Step, ofParts]
  · have hline := (isLine_append.1 hleft).1
    refine commutes_around (backspace?_inside c) (sound_around.2 ⟨habove, hline, hright, hbelow⟩) ?_
    simp [FlatText.Step, ofParts, ← List.append_assoc]

theorem commutes_delete (h : e.Sound) : Commutes .delete e := by
  obtain ⟨above, left, right, below, rfl⟩ := h.exists_around
  obtain ⟨habove, hleft, hright, hbelow⟩ := sound_around.1 h
  cases right with
  | nil =>
    cases below with
    | nil => exact commutes_around delete?_last h rfl
    | cons lower below =>
      obtain ⟨hlower, hbelow⟩ := List.forall_mem_cons.1 hbelow
      refine commutes_around delete?_atEnd (sound_around.2 ⟨habove, hleft, hlower, hbelow⟩) ?_
      simp [FlatText.Step, ofParts]
  | cons c right =>
    have hline := (@isLine_append [c] right).1 hright
    refine commutes_around (delete?_inside c) (sound_around.2 ⟨habove, hleft, hline.2, hbelow⟩) ?_
    rfl

/-! ### Moves -/

/-- A move leaves the text as it is, so its lines stay lines. -/
theorem commutes_move {step : Edit} (h : (around above left right below).Sound)
    (hrun : step.run? (around above left right below) = some (around above' left' right' below'))
    (htext : (around above' left' right' below').lines = (around above left right below).lines)
    (hstep : FlatText.Step step (ofParts above left right below)
      (ofParts above' left' right' below')) :
    Commutes step (around above left right below) := by
  refine commutes_around hrun ⟨⟨above', left', right', below', rfl⟩, ?_⟩ hstep
  rw [htext]
  exact h.isLine

theorem commutes_left (h : e.Sound) : Commutes .left e := by
  obtain ⟨above, left, right, below, rfl⟩ := h.exists_around
  rcases List.eq_nil_or_concat' left with rfl | ⟨left, c, rfl⟩
  · rcases List.eq_nil_or_concat' above with rfl | ⟨above, upper, rfl⟩
    · exact commutes_around rfl h rfl
    · refine commutes_move h left?_atStart (by simp [around]) ?_
      simp [FlatText.Step, ofParts, back]
  · refine commutes_move h (left?_inside c) (by simp [around]) ?_
    simp [FlatText.Step, ofParts, back]

theorem commutes_right (h : e.Sound) : Commutes .right e := by
  obtain ⟨above, left, right, below, rfl⟩ := h.exists_around
  cases right with
  | nil =>
    cases below with
    | nil => exact commutes_around right?_last h rfl
    | cons lower below =>
      refine commutes_move h right?_atEnd (by simp [around]) ?_
      simp [FlatText.Step, ofParts, forth]
  | cons c right =>
    refine commutes_move h (right?_inside c) (by simp [around]) ?_
    simp [FlatText.Step, ofParts, forth]

/-- Where only the cursor moved, the two parts still make the same text. -/
theorem append_eq_of_lines_eq
    (h : (around above' left' right' below').lines = (around above left right below).lines) :
    (ofParts above' left' right' below').before ++ (ofParts above' left' right' below').after =
      (ofParts above left right below).before ++ (ofParts above left right below).after := by
  have htext : (around above' left' right' below').text = (around above left right below).text :=
    congrArg joinLines h
  rw [text_around, text_around] at htext
  exact htext

theorem commutes_up (h : e.Sound) : Commutes .up e := by
  obtain ⟨above, left, right, below, rfl⟩ := h.exists_around
  rcases List.eq_nil_or_concat' above with rfl | ⟨above, upper, rfl⟩
  · exact commutes_around rfl h rfl
  · refine commutes_move h up?_around ?_ (append_eq_of_lines_eq ?_)
    all_goals simp [around]

theorem commutes_down (h : e.Sound) : Commutes .down e := by
  obtain ⟨above, left, right, below, rfl⟩ := h.exists_around
  cases below with
  | nil => exact commutes_around down?_last h rfl
  | cons lower below =>
    refine commutes_move h down?_around ?_ (append_eq_of_lines_eq ?_)
    all_goals simp [around]

theorem commutes_home (h : e.Sound) : Commutes .home e := by
  obtain ⟨above, left, right, below, rfl⟩ := h.exists_around
  obtain ⟨-, hleft, -, -⟩ := sound_around.1 h
  refine commutes_move h (congrArg some home_around) (by simp [around]) ?_
  refine ⟨left, by simp [ofParts], by simp [ofParts], hleft.1, ?_⟩
  rcases List.eq_nil_or_concat' above with rfl | ⟨above, upper, rfl⟩
  · exact .inl rfl
  · exact .inr (by simp [ofParts, ← List.append_assoc])

theorem commutes_toEnd (h : e.Sound) : Commutes .toEnd e := by
  obtain ⟨above, left, right, below, rfl⟩ := h.exists_around
  obtain ⟨-, -, hright, -⟩ := sound_around.1 h
  refine commutes_move h toEnd?_around (by simp [around]) ?_
  refine ⟨right, by simp [ofParts], by simp [ofParts], hright.1, ?_⟩
  cases below with
  | nil => exact .inl rfl
  | cons lower below => exact .inr rfl

/-- Every edit of a sound buffer does what it does to the text with the cursor. -/
theorem Sound.commutes (h : e.Sound) (step : Edit) : Commutes step e := by
  cases step with
  | insert c => exact commutes_insert h c
  | insertText cs => exact commutes_insertText h cs
  | newline => exact commutes_newline h
  | backspace => exact commutes_backspace h
  | delete => exact commutes_delete h
  | left => exact commutes_left h
  | right => exact commutes_right h
  | up => exact commutes_up h
  | down => exact commutes_down h
  | home => exact commutes_home h
  | toEnd => exact commutes_toEnd h

/-! ### Runs of edits -/

theorem edit_of_run? {step : Edit} {e' : Editor} (h : step.run? e = some e') :
    e.edit step = e' := by
  rw [edit, Edit.run, h]
  rfl

theorem Sound.edit (h : e.Sound) (step : Edit) : (e.edit step).Sound := by
  obtain ⟨e', v, v', hrun, hsound, -⟩ := h.commutes step
  rw [edit_of_run? hrun]
  exact hsound

theorem Sound.editAll (h : e.Sound) (steps : List Edit) : (e.editAll steps).Sound := by
  induction steps generalizing e with
  | nil => exact h
  | cons step steps ih => exact ih (h.edit step)

/-- The lines of a fresh buffer are the last one and the ones above it. -/
theorem exists_ofText_eq_around (text : List Char) :
    ∃ above last, (pieces text).map (fun line => line.filter (· != '\r')) = above ++ [last] ∧
      ofText text = around above last [] [] := by
  rcases List.eq_nil_or_concat' ((pieces text).map fun line => line.filter (· != '\r')) with h | h
  · exact absurd h (lines_ofText_ne_nil text)
  · obtain ⟨above, last, h⟩ := h
    refine ⟨above, last, h, ?_⟩
    simp [ofText, around, h]

theorem sound_ofText (text : List Char) : (ofText text).Sound := by
  obtain ⟨above, last, -, heq⟩ := exists_ofText_eq_around text
  refine ⟨⟨above, last, [], [], heq⟩, ?_⟩
  intro line hl
  rw [lines_ofText] at hl
  obtain ⟨piece, hp, rfl⟩ := List.mem_map.1 hl
  constructor
  · intro hm
    exact not_mem_of_mem_splitOn hp (List.mem_filter.1 hm).1
  · simp

/-- A character that separates no parts can be dropped from the parts or from the whole. -/
theorem filter_intercalate {sep : Char} {p : Char → Bool} (hsep : p sep = true)
    (ps : List (List Char)) :
    [sep].intercalate (ps.map fun part => part.filter p) = ([sep].intercalate ps).filter p := by
  induction ps with
  | nil => rfl
  | cons q ps ih =>
    cases ps with
    | nil => rw [List.map_singleton, List.intercalate_singleton, List.intercalate_singleton]
    | cons r ps =>
      rw [List.map_cons, List.map_cons, List.intercalate_cons_cons, ← List.map_cons, ih,
        List.intercalate_cons_cons, List.filter_append, List.filter_append,
        List.filter_cons_of_pos hsep, List.filter_nil]

/-- A fresh buffer shows its text without carriage returns, with the cursor at the end. -/
theorem view?_ofText (text : List Char) :
    (ofText text).view? = some ⟨text.filter (· != '\r'), []⟩ := by
  obtain ⟨above, last, hlines, heq⟩ := exists_ofText_eq_around text
  have htext : text.filter (· != '\r') = above.flatMap (· ++ ['\n']) ++ last := by
    have hjoin := @filter_intercalate '\n' (· != '\r') (by decide) (pieces text)
    rw [List.intercalate_splitOn, hlines, intercalate_append_cons] at hjoin
    rw [← hjoin]
    simp
  rw [heq, view?_around, htext]
  simp [ofParts]

/-- A buffer refines one text with a cursor: it starts as the given text, its view always cuts its
text in two, and every edit can be carried out and does to the view what `Step` says. -/
theorem refines_flatText (text : List Char) :
    (ofText text).view? = some ⟨text.filter (· != '\r'), []⟩ ∧
      ∀ (steps : List Edit) (step : Edit), ∃ e' v v',
        step.run? ((ofText text).editAll steps) = some e' ∧
        (ofText text).editAll (steps ++ [step]) = e' ∧
        ((ofText text).editAll steps).view? = some v ∧
        ((ofText text).editAll steps).text = v.before ++ v.after ∧
        e'.view? = some v' ∧ e'.text = v'.before ++ v'.after ∧
        FlatText.Step step v v' := by
  refine ⟨view?_ofText text, ?_⟩
  intro steps step
  have hsound := (sound_ofText text).editAll steps
  obtain ⟨e', v, v', hrun, hsound', hv, hv', hstep⟩ := hsound.commutes step
  obtain ⟨u, hu, htext⟩ := hsound.exists_view?
  obtain ⟨u', hu', htext'⟩ := hsound'.exists_view?
  obtain rfl := Option.some.inj (hv.symm.trans hu)
  obtain rfl := Option.some.inj (hv'.symm.trans hu')
  refine ⟨e', v, v', hrun, ?_, hv, htext, hv', htext', hstep⟩
  rw [editAll_append]
  exact edit_of_run? hrun

example : ((ofText ['a', '\n', 'b']).editAll [.home, .backspace, .insert '\t']).view? =
    some ⟨['a', ' ', ' ', ' ', ' '], ['b']⟩ := by decide

end Editor

end Scratchpad
