import Scratchpad.Highlight.StyledLine
import Scratchpad.Proofs.Editor.Reload
import Scratchpad.Proofs.Highlight.Tiling
import Scratchpad.Proofs.Text.Pieces

/-!
# What the styled lines show

The styled lines of a source text are its coloured characters, cut at the line feeds: no character is
lost, moved or recoloured (`map_shown_styledLines`). A segment is a piece of one run, and neighbours
on a line come from neighbouring runs, so their colours differ. The lines of a buffer hold no line
feed, so the styled lines of its text are its own lines. The main statement is
`shows_highlightedLines`.
-/

namespace Scratchpad.Highlight

open Scratchpad.Terminal Scratchpad.Text

/-- The text of a styled line. -/
def lineText (line : List Segment) : List Char := line.flatMap Segment.text

/-- The characters of a styled line, each in the colour of its segment. -/
def shown (line : List Segment) : List (Char × Option Colour) :=
  line.flatMap fun s => s.text.map fun c => (c, s.category.colour)

/-- The characters of some runs, each in the colour of its run. -/
def colouredRuns (runs : List (List Char × Category)) : List (Char × Option Colour) :=
  runs.flatMap fun r => r.1.map fun c => (c, r.2.colour)

/-- The characters of a source text, each in the colour of its span. -/
def colouredSource (source : String) : List (Char × Option Colour) :=
  (highlight source).flatMap fun s => (s.text source).toList.map fun c => (c, s.category.colour)

theorem map_fst_shown (line : List Segment) : (shown line).map Prod.fst = lineText line := by
  simp [shown, lineText, List.map_flatMap, Function.comp_def]

theorem shown_append (as bs : List Segment) : shown (as ++ bs) = shown as ++ shown bs := by
  simp [shown]

theorem shown_ofPiece (k : Category) (piece : List Char) :
    shown (Segment.ofPiece k piece) = piece.map fun c => (c, k.colour) := by
  cases piece with
  | nil => rfl
  | cons c piece => simp [Segment.ofPiece, shown]

theorem colouredSource_eq (source : String) :
    colouredSource source = colouredRuns (sourceRuns source) := by
  rw [colouredSource, colouredRuns, ← map_text_highlight, List.flatMap_map]

theorem map_fst_colouredSource (source : String) :
    (colouredSource source).map Prod.fst = source.toList := by
  rw [colouredSource_eq, colouredRuns, List.map_flatMap, ← flatten_sourceRuns]
  simp [Function.comp_def]

/-! ### Characters -/

/-- One more character at the front of the first piece stands in front of the first line. -/
theorem map_shown_onto_cons (k : Category) (c : Char) (p : List Char) (ps : List (List Char))
    (lines : List (List Segment)) :
    (Segment.onto k ((c :: p) :: ps) lines).map shown =
      ((Segment.onto k (p :: ps) lines).map shown).modifyHead ((c, k.colour) :: ·) := by
  cases ps with
  | nil =>
    cases lines with
    | nil => simp [Segment.onto, shown_ofPiece]
    | cons line lines => simp [Segment.onto, shown_append, shown_ofPiece]
  | cons q ps => simp [Segment.onto, shown_ofPiece]

/-- The pieces of a run go in front of the lines as its characters go in front of what these show. -/
theorem map_shown_onto {k : Category} {lines : List (List Segment)}
    {rest : List (Char × Option Colour)}
    (h : lines.map shown = rest.splitOnP (·.1 == '\n')) (cs : List Char) :
    (Segment.onto k (pieces cs) lines).map shown =
      (cs.map (fun c => (c, k.colour)) ++ rest).splitOnP (·.1 == '\n') := by
  induction cs with
  | nil =>
    cases lines with
    | nil => exact absurd h.symm (List.splitOnP_ne_nil _ _)
    | cons line lines => simpa [pieces, Segment.onto, Segment.ofPiece] using h
  | cons c cs ih =>
    rw [List.map_cons, List.cons_append, List.splitOnP_cons_eq_if_modifyHead, ← ih]
    obtain ⟨p, ps, hp⟩ := List.exists_cons_of_ne_nil (List.splitOn_ne_nil '\n' cs)
    simp only [beq_iff_eq, pieces, splitOn_cons, hp]
    split
    · -- the line feed ends the first line, which shows nothing of this run before it
      rfl
    · exact map_shown_onto_cons k c p ps lines

theorem map_shown_styledLines (runs : List (List Char × Category)) :
    (styledLines runs).map shown = (colouredRuns runs).splitOnP (·.1 == '\n') := by
  induction runs with
  | nil => rfl
  | cons r runs ih => exact map_shown_onto ih r.1

theorem highlightedLines_eq (source : String) :
    highlightedLines source = styledLines (sourceRuns source) := by
  rw [highlightedLines, map_text_highlight]

theorem map_shown_highlightedLines (source : String) :
    (highlightedLines source).map shown = (colouredSource source).splitOnP (·.1 == '\n') := by
  rw [highlightedLines_eq, map_shown_styledLines, colouredSource_eq]

/-- The texts of the styled lines are the pieces of the source text. -/
theorem map_lineText_highlightedLines (source : String) :
    (highlightedLines source).map lineText = pieces source.toList := by
  have hshown := congrArg (List.map (List.map Prod.fst)) (map_shown_highlightedLines source)
  rw [← splitOnP_map Prod.fst (· == '\n'), map_fst_colouredSource, List.map_map] at hshown
  rw [pieces, List.splitOn_eq_splitOnP, ← hshown]
  exact List.map_congr_left fun line _ => (map_fst_shown line).symm

/-! ### Segments -/

/-- A segment of a run in front of some lines is one of its pieces, or stood on one of the lines. -/
theorem mem_onto {k : Category} {ps : List (List Char)} {lines : List (List Segment)}
    {line : List Segment} {s : Segment} (hl : line ∈ Segment.onto k ps lines) (hs : s ∈ line) :
    (s.text ∈ ps ∧ s.text ≠ []) ∨ ∃ line' ∈ lines, s ∈ line' := by
  have hpiece : ∀ p : List Char, s ∈ Segment.ofPiece k p → s.text = p ∧ s.text ≠ [] := by
    intro p hp
    cases p with
    | nil => simp [Segment.ofPiece] at hp
    | cons c p =>
      obtain rfl := List.mem_singleton.1 hp
      exact ⟨rfl, by simp⟩
  fun_induction Segment.onto k ps lines with
  | case1 lines => exact .inr ⟨line, hl, hs⟩
  | case2 p =>
    obtain rfl := List.mem_singleton.1 hl
    obtain ⟨htext, hne⟩ := hpiece p hs
    exact .inl ⟨by simp [htext], hne⟩
  | case3 p line₁ lines =>
    rcases List.mem_cons.1 hl with rfl | hl
    · rcases List.mem_append.1 hs with hs | hs
      · obtain ⟨htext, hne⟩ := hpiece p hs
        exact .inl ⟨by simp [htext], hne⟩
      · exact .inr ⟨line₁, List.mem_cons_self, hs⟩
    · exact .inr ⟨line, List.mem_cons_of_mem _ hl, hs⟩
  | case4 p ps lines h₁ h₂ ih =>
    rcases List.mem_cons.1 hl with rfl | hl
    · obtain ⟨htext, hne⟩ := hpiece p hs
      exact .inl ⟨by simp [htext], hne⟩
    · rcases ih hl with ⟨hmem, hne⟩ | hrest
      · exact .inl ⟨List.mem_cons_of_mem _ hmem, hne⟩
      · exact .inr hrest

/-- A segment holds something, and no line feed. -/
theorem segment_of_mem_styledLines {runs : List (List Char × Category)} {line : List Segment}
    {s : Segment} (hl : line ∈ styledLines runs) (hs : s ∈ line) : s.text ≠ [] ∧ '\n' ∉ s.text := by
  induction runs generalizing line with
  | nil =>
    obtain rfl := List.mem_singleton.1 hl
    simp at hs
  | cons r runs ih =>
    rcases mem_onto hl hs with ⟨hmem, hne⟩ | ⟨line', hl', hs'⟩
    · exact ⟨hne, not_mem_of_mem_splitOn hmem⟩
    · exact ih hl' hs'

/-- On a line no two neighbouring segments have one category. -/
def Alternating (line : List Segment) : Prop := line.IsChain fun s t => s.category ≠ t.category

theorem category_of_mem_ofPiece {k : Category} {p : List Char} {s : Segment}
    (h : s ∈ Segment.ofPiece k p) : s.category = k := by
  cases p with
  | nil => simp [Segment.ofPiece] at h
  | cons c p => rw [List.mem_singleton.1 h]

theorem alternating_ofPiece_append {k : Category} {line : List Segment} (p : List Char)
    (h : Alternating line) (hk : ∀ s ∈ line.head?, k ≠ s.category) :
    Alternating (Segment.ofPiece k p ++ line) := by
  cases p with
  | nil => exact h
  | cons c p => exact List.isChain_cons.2 ⟨hk, h⟩

/-- A run keeps the lines alternating if the segment that it meets on the first of them is not of
its category. -/
theorem alternating_onto {k : Category} {ps : List (List Char)} {lines : List (List Segment)}
    (h : ∀ line ∈ lines, Alternating line)
    (hk : ∀ line ∈ lines.head?, ∀ s ∈ line.head?, k ≠ s.category) :
    ∀ line ∈ Segment.onto k ps lines, Alternating line := by
  have hpiece : ∀ p : List Char, Alternating (Segment.ofPiece k p) := by
    intro p
    rw [← List.append_nil (Segment.ofPiece k p)]
    exact alternating_ofPiece_append p .nil (by simp)
  fun_induction Segment.onto k ps lines with
  | case1 lines => exact h
  | case2 p => exact List.forall_mem_singleton.2 (hpiece p)
  | case3 p line lines =>
    obtain ⟨hline, hlines⟩ := List.forall_mem_cons.1 h
    exact List.forall_mem_cons.2 ⟨alternating_ofPiece_append p hline (hk line rfl), hlines⟩
  | case4 p ps lines h₁ h₂ ih => exact List.forall_mem_cons.2 ⟨hpiece p, ih h hk⟩

/-- The first line begins with a segment of the first run. -/
theorem category_of_head?_onto {k : Category} {cs : List Char} (hcs : cs ≠ [])
    {lines : List (List Segment)} {line : List Segment} {s : Segment}
    (hl : line ∈ (Segment.onto k (pieces cs) lines).head?) (hs : s ∈ line.head?) :
    s.category = k := by
  have hjoin : joinLines (pieces cs) = cs := List.intercalate_splitOn '\n'
  cases hp : pieces cs with
  | nil => exact absurd hp (List.splitOn_ne_nil '\n' cs)
  | cons p ps =>
    rw [hp] at hl hjoin
    cases ps with
    | cons q ps =>
      obtain rfl : _ = line := by simpa [Segment.onto] using hl
      exact category_of_mem_ofPiece (List.mem_of_mem_head? hs)
    | nil =>
      rw [joinLines, List.intercalate_singleton] at hjoin
      subst hjoin
      obtain ⟨c, p, rfl⟩ := List.exists_cons_of_ne_nil hcs
      cases lines with
      | nil =>
        obtain rfl : _ = line := by simpa [Segment.onto] using hl
        exact category_of_mem_ofPiece (List.mem_of_mem_head? hs)
      | cons line₁ lines =>
        obtain rfl : _ = line := by simpa [Segment.onto] using hl
        obtain rfl : _ = s := by simpa [Segment.ofPiece] using hs
        rfl

theorem alternating_styledLines {runs : List (List Char × Category)}
    (hne : ∀ r ∈ runs, r.1 ≠ []) (h : runs.IsChain fun r r' => r.2 ≠ r'.2) :
    ∀ line ∈ styledLines runs, Alternating line := by
  induction runs with
  | nil => exact List.forall_mem_singleton.2 .nil
  | cons r runs ih =>
    obtain ⟨hhead, htail⟩ := List.isChain_cons.1 h
    have hrest := fun r' hr' => hne r' (List.mem_cons_of_mem r hr')
    refine alternating_onto (ih hrest htail) ?_
    intro line hl s hs
    cases runs with
    | nil =>
      obtain rfl : line = [] := by simpa [styledLines] using hl
      simp at hs
    | cons r' runs =>
      rw [category_of_head?_onto (hrest r' List.mem_cons_self) hl hs]
      exact hhead r' rfl

/-! ### Source texts and buffers -/

/-- What styled lines show of a source text: as many lines as line feeds ask for, whose texts joined
are the source, in segments that hold something and no line feed; every character in the colour of
its category; and neighbours on a line in different colours. -/
structure Shows (lines : List (List Segment)) (source : String) : Prop where
  length_eq : lines.length = source.toList.count '\n' + 1
  joinLines_eq : joinLines (lines.map lineText) = source.toList
  segment : ∀ line ∈ lines, ∀ s ∈ line, s.text ≠ [] ∧ '\n' ∉ s.text
  map_shown : lines.map shown = (colouredSource source).splitOnP (·.1 == '\n')
  isChain : ∀ line ∈ lines, line.IsChain fun s t => s.category.colour ≠ t.category.colour

theorem lineText_highlightedLines_text {e : Editor} (h : e.Sound) :
    (highlightedLines (String.ofList e.text)).map lineText = e.lines := by
  rw [map_lineText_highlightedLines, String.toList_ofList]
  exact h.pieces_text

/-- The styled lines of a source text show it, and those of the text of a buffer are its lines. -/
theorem shows_highlightedLines :
    (∀ source, Shows (highlightedLines source) source) ∧
      ∀ text steps, (highlightedLines (String.ofList
          ((Editor.ofText text).editAll steps).text)).map lineText =
        ((Editor.ofText text).editAll steps).lines := by
  refine ⟨fun source => ?_, ?_⟩
  · have htext := map_lineText_highlightedLines source
    have halt : ∀ line ∈ highlightedLines source, Alternating line := by
      rw [highlightedLines_eq]
      exact alternating_styledLines (fun r hr => ne_nil_of_mem_runsOf hr) (isChain_runsOf _)
    refine ⟨?_, ?_, ?_, map_shown_highlightedLines source, ?_⟩
    · rw [← length_splitOn, ← pieces, ← htext, List.length_map]
    · rw [htext]
      exact List.intercalate_splitOn '\n'
    · rw [highlightedLines_eq]
      exact fun line hl s hs => segment_of_mem_styledLines hl hs
    · intro line hl
      exact (halt line hl).imp fun s t hne hcolour => hne (Category.colour_injective hcolour)
  · intro text steps
    exact lineText_highlightedLines_text ((Editor.sound_ofText text).editAll steps)

end Scratchpad.Highlight
