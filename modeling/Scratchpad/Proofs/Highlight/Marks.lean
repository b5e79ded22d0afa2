import Scratchpad.Highlight.Span
import Scratchpad.Proofs.Highlight.Painting
import Scratchpad.Proofs.Highlight.Scan
import Scratchpad.Proofs.Text.Place

/-!
# The bytes of comments and strings

`Marked source b k` says that `highlight` puts byte `b` into a span of category `k`. A byte is marked
with the category of its character (`marked_iff_categories`). The main statement compares the bytes
of comments and strings with the scan that reads a text once from left to right: they are the bytes
of its literals.
-/

namespace Scratchpad.Highlight

open Scratchpad.Text

/-- A span covers the bytes from its start up to its stop. -/
def Span.Covers (s : Span) (b : Nat) : Prop := s.start ≤ b ∧ b < s.stop

/-- Byte `b` of a source text lies in a span of category `k`. -/
def Marked (source : String) (b : Nat) (k : Category) : Prop :=
  ∃ s ∈ highlight source, s.category = k ∧ s.Covers b

/-- Byte `b` lies in a piece of category `k`. -/
def InPiece (pieces : List (List Char × Category)) (b : Nat) (k : Category) : Prop :=
  ∃ done taken more, pieces = done ++ (taken, k) :: more ∧ LiesIn (done.flatMap Prod.fst) taken b

namespace Span

theorem start_of_ofCategories {start : Nat} {pairs : List (Char × Category)} {s : Span}
    {spans : List Span} (h : ofCategories start pairs = s :: spans) : s.start = start := by
  cases pairs with
  | nil => simp [ofCategories] at h
  | cons p pairs =>
    obtain ⟨c, k⟩ := p
    rw [ofCategories] at h
    split at h
    · rw [← (List.cons.inj h).1]
    · split at h
      · rw [← (List.cons.inj h).1]
      · rw [← (List.cons.inj h).1]

theorem start_lt_stop {start : Nat} {pairs : List (Char × Category)} {s : Span}
    (h : s ∈ ofCategories start pairs) : s.start < s.stop := by
  induction pairs generalizing start s with
  | nil => simp [ofCategories] at h
  | cons p pairs ih =>
    obtain ⟨c, k⟩ := p
    have hc : start < start + c.utf8Size := Nat.lt_add_of_pos_right c.utf8Size_pos
    rw [ofCategories] at h
    split at h
    · rw [List.mem_singleton.1 h]
      exact hc
    · next t spans heq =>
      have hstart := start_of_ofCategories heq
      have hrest : ∀ u ∈ t :: spans, u.start < u.stop := by
        intro u hu
        rw [← heq] at hu
        exact ih hu
      split at h
      · rcases List.mem_cons.1 h with rfl | h
        · have := hrest t List.mem_cons_self
          simp only
          omega
        · exact hrest s (List.mem_cons_of_mem t h)
      · rcases List.mem_cons.1 h with rfl | h
        · exact hc
        · exact hrest s h

/-- The first character adds its own bytes to what the spans cover. -/
theorem exists_covers_ofCategories_cons {start b : Nat} {c : Char} {k k' : Category}
    {pairs : List (Char × Category)} :
    (∃ s ∈ ofCategories start ((c, k) :: pairs), s.category = k' ∧ s.Covers b) ↔
      (k = k' ∧ start ≤ b ∧ b < start + c.utf8Size) ∨
        ∃ s ∈ ofCategories (start + c.utf8Size) pairs, s.category = k' ∧ s.Covers b := by
  rw [ofCategories]
  cases heq : ofCategories (start + c.utf8Size) pairs with
  | nil => simp [Covers]
  | cons t spans =>
    have hstart := start_of_ofCategories heq
    have hlt : t.start < t.stop := start_lt_stop (heq ▸ List.mem_cons_self)
    by_cases ht : t.category = k
    · -- the two runs join: the bytes of the character and those of the span behind it
      have hcov : (start ≤ b ∧ b < t.stop) ↔
          (start ≤ b ∧ b < start + c.utf8Size) ∨ (t.start ≤ b ∧ b < t.stop) := by
        rw [hstart]
        omega
      subst ht
      simp only [if_true, List.mem_cons, exists_eq_or_imp, Covers]
      rw [hcov, and_or_left, or_assoc]
    · simp only [if_neg ht, List.mem_cons, exists_eq_or_imp, Covers]

/-- The spans cover a byte with the category of its character. -/
theorem exists_covers_ofCategories {start b : Nat} {k : Category}
    {pairs : List (Char × Category)} :
    (∃ s ∈ ofCategories start pairs, s.category = k ∧ s.Covers b) ↔
      start ≤ b ∧ ∃ i, charIndex? (pairs.map Prod.fst) (b - start) = some i ∧
        (pairs.map Prod.snd)[i]? = some k := by
  induction pairs generalizing start with
  | nil => simp [ofCategories]
  | cons p pairs ih =>
    obtain ⟨c, k'⟩ := p
    rw [exists_covers_ofCategories_cons, ih, List.map_cons, List.map_cons]
    by_cases hb : b - start < c.utf8Size
    · rw [charIndex?_cons_of_lt hb]
      constructor
      · rintro (⟨rfl, hle, -⟩ | ⟨hle, -⟩)
        · exact ⟨hle, 0, rfl, rfl⟩
        · have := c.utf8Size_pos
          omega
      · rintro ⟨hle, i, hi, hk⟩
        obtain rfl := Option.some.inj hi
        exact .inl ⟨Option.some.inj hk, hle, by omega⟩
    · rw [charIndex?_cons_of_le (Nat.not_lt.1 hb), Nat.sub_sub]
      constructor
      · rintro (⟨-, hle, hlt⟩ | ⟨hle, i, hi, hk⟩)
        · omega
        · exact ⟨by omega, i + 1, by rw [hi]; rfl, hk⟩
      · rintro ⟨hle, i, hi, hk⟩
        obtain ⟨j, hj, rfl⟩ := Option.map_eq_some_iff.1 hi
        exact .inr ⟨by omega, j, hj, hk⟩

end Span

theorem length_literalCategories (text : List Char) :
    (literalCategories text).length = text.length := by
  obtain ⟨pieces, hs, hp⟩ := exists_scan text
  rw [hp, hs.length_pieceCategories]

theorem length_categories (text : List Char) : (categories text).length = text.length :=
  length_foldl_paintToken Token.all (length_literalCategories text)

/-- A byte is marked with the category of the character that it belongs to. -/
theorem marked_iff_categories {source : String} {b : Nat} {k : Category} :
    Marked source b k ↔
      ∃ i, charIndex? source.toList b = some i ∧ (categories source.toList)[i]? = some k := by
  have hlen := length_categories source.toList
  rw [Marked, highlight, Span.exists_covers_ofCategories, List.map_fst_zip (by omega),
    List.map_snd_zip (by omega)]
  simp

/-- The character with number `i` lies in the piece that gives it its category. -/
theorem getElem?_pieceCategories {pieces : List (List Char × Category)} {i : Nat} {k : Category} :
    (pieceCategories pieces)[i]? = some k ↔
      ∃ done taken more, pieces = done ++ (taken, k) :: more ∧
        Within (done.flatMap Prod.fst) taken i := by
  simp only [Within]
  induction pieces generalizing i with
  | nil => simp
  | cons p pieces ih =>
    obtain ⟨taken, k'⟩ := p
    rw [pieceCategories_cons]
    by_cases hi : i < taken.length
    · rw [List.getElem?_append_left (by simpa using hi), List.getElem?_replicate, if_pos hi]
      constructor
      · intro hk
        obtain rfl := Option.some.inj hk
        exact ⟨[], taken, pieces, rfl, Nat.zero_le i, by simpa using hi⟩
      · rintro ⟨done, taken', more, heq, hle, -⟩
        cases done with
        | nil =>
          obtain ⟨hp, -⟩ := List.cons.inj heq
          rw [(Prod.mk.inj hp).2]
        | cons q done =>
          obtain ⟨rfl, -⟩ := List.cons.inj heq
          simp only [List.flatMap_cons, List.length_append] at hle
          omega
    · rw [List.getElem?_append_right (by simpa using hi), List.length_replicate, ih]
      constructor
      · rintro ⟨done, taken', more, rfl, hle, hlt⟩
        refine ⟨(taken, k') :: done, taken', more, rfl, ?_, ?_⟩
        all_goals simp only [List.flatMap_cons, List.length_append]; omega
      · rintro ⟨done, taken', more, heq, hle, hlt⟩
        cases done with
        | nil =>
          obtain ⟨hp, -⟩ := List.cons.inj heq
          rw [← (Prod.mk.inj hp).1] at hlt
          simp at hlt
          omega
        | cons q done =>
          obtain ⟨rfl, rfl⟩ := List.cons.inj heq
          simp only [List.flatMap_cons, List.length_append] at hle hlt
          exact ⟨done, taken', more, rfl, by omega, by omega⟩

theorem inPiece_iff_pieceCategories {pieces : List (List Char × Category)} {b : Nat}
    {k : Category} :
    InPiece pieces b k ↔
      ∃ i, charIndex? (pieces.flatMap Prod.fst) b = some i ∧
        (pieceCategories pieces)[i]? = some k := by
  have hindex : ∀ done taken more, pieces = done ++ (taken, k) :: more →
      pieces.flatMap Prod.fst = done.flatMap Prod.fst ++ taken ++ more.flatMap Prod.fst := by
    rintro done taken more rfl
    rw [List.flatMap_append, List.flatMap_cons, ← List.append_assoc]
  constructor
  · rintro ⟨done, taken, more, heq, hlies⟩
    obtain ⟨i, hi, hwithin⟩ := (liesIn_iff_charIndex? (hindex done taken more heq) b).1 hlies
    exact ⟨i, hi, getElem?_pieceCategories.2 ⟨done, taken, more, heq, hwithin⟩⟩
  · rintro ⟨i, hi, hk⟩
    obtain ⟨done, taken, more, heq, hwithin⟩ := getElem?_pieceCategories.1 hk
    exact ⟨done, taken, more, heq,
      (liesIn_iff_charIndex? (hindex done taken more heq) b).2 ⟨i, hi, hwithin⟩⟩

/-- No token has the category of a comment or a string, so these are painted by literals alone. -/
theorem marked_iff_inPiece {source : String} {pieces : List (List Char × Category)} {b : Nat}
    {k : Category} (hs : Scan source.toList pieces) (hk : k = .comment ∨ k = .stringLiteral) :
    Marked source b k ↔ InPiece pieces b k := by
  obtain ⟨pieces', hs', hp⟩ := exists_scan source.toList
  obtain rfl := hs.unique hs'
  have hplain : k ≠ .plain := by rcases hk with rfl | rfl <;> decide
  have htoken : ∀ t ∈ Token.all, k ≠ t.category := by rcases hk with rfl | rfl <;> decide
  have hcat : ∀ i : Nat, (categories source.toList)[i]? = some k ↔
      (pieceCategories pieces)[i]? = some k := by
    intro i
    rw [← hp]
    exact getElem?_foldl_paintToken hplain htoken (length_literalCategories _)
  rw [marked_iff_categories, inPiece_iff_pieceCategories, hs.flatten_pieces]
  simp only [hcat]

/-- Of every source text there is exactly one scan, and the bytes that are marked as comments and
strings are those of its comments and strings. -/
theorem exists_scan_marked_iff (source : String) :
    ∃ pieces, Scan source.toList pieces ∧
      (∀ other, Scan source.toList other → other = pieces) ∧
      ∀ b, (Marked source b .comment ↔ InPiece pieces b .comment) ∧
        (Marked source b .stringLiteral ↔ InPiece pieces b .stringLiteral) := by
  obtain ⟨pieces, hs, -⟩ := exists_scan source.toList
  refine ⟨pieces, hs, fun other hother => hother.unique hs, fun b => ⟨?_, ?_⟩⟩
  · exact marked_iff_inPiece hs (.inl rfl)
  · exact marked_iff_inPiece hs (.inr rfl)

example : highlight "/* 'a'" = [⟨0, 3, .plain⟩, ⟨3, 6, .stringLiteral⟩] := by decide +kernel

end Scratchpad.Highlight
