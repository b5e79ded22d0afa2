import Mathlib.Data.List.Chain
import Scratchpad.Proofs.Highlight.Marks
import Scratchpad.Proofs.Text.Boundary

/-!
# Spans tile a text

A run is a longest piece of a text whose characters have one category. `runsOf` lists the runs of a
text and `spansOf` lays them out in bytes, one behind the other; `Span.ofCategories` does both in one
pass (`ofCategories_eq_spansOf`). So what holds of runs holds of spans: no run is empty, neighbours
differ, and together they are the text. Where a span ends a whole run ends, which is a boundary. The
main statement is `tiles_highlight`.
-/

namespace Scratchpad.Highlight

open Scratchpad.Text

/-- The longest runs of characters of one category. -/
def runsOf : List (Char × Category) → List (List Char × Category)
  | [] => []
  | (c, k) :: pairs =>
    match runsOf pairs with
    | [] => [([c], k)]
    | (cs, l) :: runs => if l = k then (c :: cs, k) :: runs else ([c], k) :: (cs, l) :: runs

/-- The spans of some runs, of which the first begins at byte `start`. -/
def spansOf (start : Nat) : List (List Char × Category) → List Span
  | [] => []
  | (cs, k) :: runs =>
    ⟨start, start + byteLength cs, k⟩ :: spansOf (start + byteLength cs) runs

/-- The runs of a source text. -/
def sourceRuns (source : String) : List (List Char × Category) :=
  runsOf (source.toList.zip (categories source.toList))

/-- The first character either begins a run of its own or joins the run behind it. -/
theorem runsOf_cons (c : Char) (k : Category) (pairs : List (Char × Category)) :
    runsOf ((c, k) :: pairs) = ([c], k) :: runsOf pairs ∧
        (∀ r ∈ (runsOf pairs).head?, k ≠ r.2) ∨
      ∃ cs runs, runsOf pairs = (cs, k) :: runs ∧
        runsOf ((c, k) :: pairs) = (c :: cs, k) :: runs := by
  rw [runsOf]
  cases runsOf pairs with
  | nil => exact .inl ⟨rfl, by simp⟩
  | cons r runs =>
    obtain ⟨cs, l⟩ := r
    by_cases hl : l = k
    · subst hl
      exact .inr ⟨cs, runs, rfl, by simp⟩
    · exact .inl ⟨by simp [hl], by simpa using Ne.symm hl⟩

theorem ofCategories_eq_spansOf (start : Nat) (pairs : List (Char × Category)) :
    Span.ofCategories start pairs = spansOf start (runsOf pairs) := by
  induction pairs generalizing start with
  | nil => rfl
  | cons p pairs ih =>
    obtain ⟨c, k⟩ := p
    rw [Span.ofCategories, ih, runsOf]
    cases runsOf pairs with
    | nil => rfl
    | cons r runs =>
      obtain ⟨cs, l⟩ := r
      by_cases hl : l = k
      · simp [spansOf, hl, Nat.add_assoc]
      · simp [spansOf, hl]

theorem highlight_eq_spansOf (source : String) : highlight source = spansOf 0 (sourceRuns source) :=
  ofCategories_eq_spansOf 0 _

/-! ### Runs -/

theorem flatMap_runsOf (pairs : List (Char × Category)) :
    (runsOf pairs).flatMap (fun r => r.1.map fun c => (c, r.2)) = pairs := by
  induction pairs with
  | nil => rfl
  | cons p pairs ih =>
    obtain ⟨c, k⟩ := p
    rcases runsOf_cons c k pairs with ⟨hruns, -⟩ | ⟨cs, runs, hrest, hruns⟩
    · rw [hruns, List.flatMap_cons, ih]
      rfl
    · rw [hrest, List.flatMap_cons] at ih
      rw [hruns, List.flatMap_cons, ← ih]
      rfl

theorem ne_nil_of_mem_runsOf {pairs : List (Char × Category)} {r : List Char × Category}
    (h : r ∈ runsOf pairs) : r.1 ≠ [] := by
  induction pairs with
  | nil => simp [runsOf] at h
  | cons p pairs ih =>
    obtain ⟨c, k⟩ := p
    rcases runsOf_cons c k pairs with ⟨hruns, -⟩ | ⟨cs, runs, hrest, hruns⟩
    · rw [hruns] at h
      rcases List.mem_cons.1 h with rfl | h
      · simp
      · exact ih h
    · rw [hruns] at h
      rcases List.mem_cons.1 h with rfl | h
      · simp
      · exact ih (hrest ▸ List.mem_cons_of_mem _ h)

/-- Two neighbouring runs differ in their categories. -/
theorem isChain_runsOf (pairs : List (Char × Category)) :
    (runsOf pairs).IsChain fun r r' => r.2 ≠ r'.2 := by
  induction pairs with
  | nil => exact .nil
  | cons p pairs ih =>
    obtain ⟨c, k⟩ := p
    rcases runsOf_cons c k pairs with ⟨hruns, hne⟩ | ⟨cs, runs, hrest, hruns⟩
    · rw [hruns]
      exact List.isChain_cons.2 ⟨hne, ih⟩
    · rw [hrest, List.isChain_cons] at ih
      rw [hruns]
      exact List.isChain_cons.2 ih

/-- The characters of the runs are those of the source text, each with its category. -/
theorem flatMap_sourceRuns (source : String) :
    (sourceRuns source).flatMap (fun r => r.1.map fun c => (c, r.2)) =
      source.toList.zip (categories source.toList) := flatMap_runsOf _

theorem flatten_sourceRuns (source : String) :
    (sourceRuns source).flatMap Prod.fst = source.toList := by
  have hmap := congrArg (List.map Prod.fst) (flatMap_sourceRuns source)
  rw [List.map_fst_zip (Nat.le_of_eq (length_categories _).symm), List.map_flatMap] at hmap
  simpa [Function.comp_def] using hmap

/-! ### Spans of runs -/

variable {start : Nat} {runs : List (List Char × Category)}

theorem start_of_mem_head?_spansOf {s : Span} (h : s ∈ (spansOf start runs).head?) :
    s.start = start := by
  cases runs with
  | nil => simp [spansOf] at h
  | cons r runs =>
    obtain rfl : _ = s := by simpa [spansOf] using h
    rfl

theorem stop_of_mem_getLast?_spansOf {s : Span} (h : s ∈ (spansOf start runs).getLast?) :
    s.stop = start + byteLength (runs.flatMap Prod.fst) := by
  induction runs generalizing start with
  | nil => simp [spansOf] at h
  | cons r runs ih =>
    obtain ⟨cs, k⟩ := r
    rw [List.flatMap_cons, byteLength_append, ← Nat.add_assoc]
    cases runs with
    | nil =>
      obtain rfl : _ = s := by simpa [spansOf] using h
      rfl
    | cons r runs => exact ih (by simpa [spansOf] using h)

theorem isChain_spansOf (h : runs.IsChain fun r r' => r.2 ≠ r'.2) :
    (spansOf start runs).IsChain fun s t => s.stop = t.start ∧ s.category ≠ t.category := by
  induction runs generalizing start with
  | nil => exact .nil
  | cons r runs ih =>
    obtain ⟨hhead, htail⟩ := List.isChain_cons.1 h
    refine List.isChain_cons.2 ⟨?_, ih htail⟩
    cases runs with
    | nil => simp [spansOf]
    | cons r' runs =>
      intro t ht
      obtain rfl : _ = t := by simpa [spansOf] using ht
      exact ⟨rfl, hhead r' rfl⟩

/-- Cut out of the text, the spans of the runs give the runs back. -/
theorem map_slice?_spansOf (before : List Char) (runs : List (List Char × Category)) :
    (spansOf (byteLength before) runs).map (fun s =>
        (slice? (before ++ runs.flatMap Prod.fst) s.start s.stop, s.category)) =
      runs.map fun r => (some r.1, r.2) := by
  induction runs generalizing before with
  | nil => rfl
  | cons r runs ih =>
    obtain ⟨cs, k⟩ := r
    have htail := ih (before ++ cs)
    rw [byteLength_append, List.append_assoc] at htail
    rw [spansOf, List.map_cons, List.map_cons, List.flatMap_cons, htail, ← List.append_assoc,
      slice?_append]

theorem map_slice?_highlight (source : String) :
    (highlight source).map (fun s => (slice? source.toList s.start s.stop, s.category)) =
      (sourceRuns source).map fun r => (some r.1, r.2) := by
  have hmap := map_slice?_spansOf [] (sourceRuns source)
  rwa [List.nil_append, byteLength_nil, flatten_sourceRuns, ← highlight_eq_spansOf] at hmap

/-- The texts of the spans, with their categories, are the runs. -/
theorem map_text_highlight (source : String) :
    (highlight source).map (fun s => ((s.text source).toList, s.category)) = sourceRuns source := by
  have hmap := congrArg (List.map fun p : Option (List Char) × Category => (p.1.getD [], p.2))
    (map_slice?_highlight source)
  simpa [Span.text, Function.comp_def] using hmap

/-- Every span of a source text is a part of it. -/
theorem exists_slice?_of_mem_highlight {source : String} {s : Span} (h : s ∈ highlight source) :
    ∃ piece, slice? source.toList s.start s.stop = some piece := by
  have hmem := List.mem_map_of_mem
    (f := fun s : Span => (slice? source.toList s.start s.stop, s.category)) h
  rw [map_slice?_highlight] at hmem
  obtain ⟨r, -, hr⟩ := List.mem_map.1 hmem
  exact ⟨r.1, (congrArg Prod.fst hr).symm⟩

/-- Joined in order, the texts of the spans are the source text. -/
theorem join_text_highlight (source : String) :
    String.join ((highlight source).map fun s => s.text source) = source := by
  have hmap := congrArg (List.flatMap Prod.fst) (map_text_highlight source)
  rw [flatten_sourceRuns, List.flatMap_map] at hmap
  rw [← String.toList_inj, String.toList_join, List.flatMap_map]
  exact hmap

/-! ### Tilings -/

/-- Spans that cover a source text without gap or overlap, from boundary to boundary, and that can
not be joined any further. -/
structure Tiles (source : String) (spans : List Span) : Prop where
  eq_nil_iff : spans = [] ↔ source = ""
  start_eq : ∀ s ∈ spans.head?, s.start = 0
  stop_eq : ∀ s ∈ spans.getLast?, s.stop = source.utf8ByteSize
  start_lt_stop : ∀ s ∈ spans, s.start < s.stop
  isChain : spans.IsChain fun s t => s.stop = t.start ∧ s.category ≠ t.category
  isValid : ∀ s ∈ spans,
    String.Pos.Raw.IsValid source ⟨s.start⟩ ∧ String.Pos.Raw.IsValid source ⟨s.stop⟩

theorem highlight_eq_nil_iff {source : String} : highlight source = [] ↔ source = "" := by
  constructor
  · intro h
    rw [← join_text_highlight source, h]
    rfl
  · rintro rfl
    rfl

/-- The spans of a source text tile it, each has a part of the text for its own, and joined these
parts are the text. -/
theorem tiles_highlight (source : String) :
    Tiles source (highlight source) ∧
      (∀ s ∈ highlight source, ∃ piece, slice? source.toList s.start s.stop = some piece) ∧
      String.join ((highlight source).map fun s => s.text source) = source := by
  refine ⟨⟨highlight_eq_nil_iff, ?_, ?_, ?_, ?_, ?_⟩, ?_, join_text_highlight source⟩
  · rw [highlight_eq_spansOf]
    exact fun s hs => start_of_mem_head?_spansOf hs
  · intro s hs
    rw [highlight_eq_spansOf] at hs
    rw [stop_of_mem_getLast?_spansOf hs, flatten_sourceRuns, byteLength_toList, Nat.zero_add]
  · exact fun s hs => Span.start_lt_stop hs
  · rw [highlight_eq_spansOf]
    exact isChain_spansOf (isChain_runsOf _)
  · intro s hs
    obtain ⟨piece, hpiece⟩ := exists_slice?_of_mem_highlight hs
    rw [isValid_iff_isBoundary, isValid_iff_isBoundary]
    exact isBoundary_of_slice? hpiece
  · exact fun s hs => exists_slice?_of_mem_highlight hs

end Scratchpad.Highlight
