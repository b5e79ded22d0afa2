import Scratchpad.Highlight.Painting
import Scratchpad.Proofs.Highlight.Resolution
import Scratchpad.Proofs.Text.Place

/-!
# Reading literals in one pass

`Scan text pieces` is a scanner for comments and strings that goes through a text once, from left to
right, and never looks back: a literal at the front is taken as one piece, any other character is a
piece of its own. A text has exactly one scan (`Scan.unique`, `exists_scan`), and the categories of
its pieces are those that resolution paints. `Scan.category_eq` says where the categories of two
neighbours can differ at all: only next to a delimiter.
-/

namespace Scratchpad.Highlight

open Scratchpad.Text

/-- A scan cuts a text into literals, with their categories, and single plain characters. -/
inductive Scan : (text : List Char) → (pieces : List (List Char × Category)) → Prop where
  | done : Scan [] []
  | claim {k : Category} {taken rest : List Char} {pieces : List (List Char × Category)}
      (h : IsLiteral k taken rest) (hs : Scan rest pieces) :
      Scan (taken ++ rest) ((taken, k) :: pieces)
  /-- The scanner moves on by one character only where no literal begins. -/
  | advance {c : Char} {cs : List Char} {pieces : List (List Char × Category)}
      (h : ∀ k taken rest, IsLiteral k taken rest → taken ++ rest ≠ c :: cs)
      (hs : Scan cs pieces) : Scan (c :: cs) (([c], .plain) :: pieces)

/-- The category of every character of some pieces. -/
def pieceCategories (pieces : List (List Char × Category)) : List Category :=
  pieces.flatMap fun p => List.replicate p.1.length p.2

@[simp] theorem pieceCategories_nil : pieceCategories [] = [] := rfl

@[simp] theorem pieceCategories_cons (taken : List Char) (k : Category)
    (pieces : List (List Char × Category)) :
    pieceCategories ((taken, k) :: pieces) =
      List.replicate taken.length k ++ pieceCategories pieces := rfl

namespace Scan

theorem flatten_pieces {text : List Char} {pieces : List (List Char × Category)}
    (h : Scan text pieces) : pieces.flatMap Prod.fst = text := by
  induction h with
  | done => rfl
  | claim h hs ih => rw [List.flatMap_cons, ih]
  | advance h hs ih => rw [List.flatMap_cons, ih]; rfl

theorem length_pieceCategories {text : List Char} {pieces : List (List Char × Category)}
    (h : Scan text pieces) : (pieceCategories pieces).length = text.length := by
  induction h with
  | done => rfl
  | claim h hs ih => simp [ih]
  | advance h hs ih => simp [ih]

theorem category_of_mem {text : List Char} {pieces : List (List Char × Category)}
    (h : Scan text pieces) {p : List Char × Category} (hp : p ∈ pieces) :
    p.2 = .plain ∨ p.2 = .comment ∨ p.2 = .stringLiteral := by
  induction h with
  | done => simp at hp
  | claim hl hs ih =>
    rcases List.mem_cons.1 hp with rfl | hp
    · exact .inr (by cases hl <;> simp)
    · exact ih hp
  | advance hno hs ih =>
    rcases List.mem_cons.1 hp with rfl | hp
    · exact .inl rfl
    · exact ih hp

/-- A literal at the front of a text is its first piece. -/
theorem eq_cons_of_isLiteral {k : Category} {taken rest : List Char}
    {pieces : List (List Char × Category)} (hs : Scan (taken ++ rest) pieces)
    (h : IsLiteral k taken rest) :
    ∃ more, pieces = (taken, k) :: more ∧ Scan rest more := by
  generalize htext : taken ++ rest = text at hs
  cases hs with
  | done =>
    obtain ⟨c, cs, rfl, -⟩ := h.exists_head
    simp at htext
  | claim h' hs =>
    obtain ⟨rfl, rfl, rfl⟩ := h.unique h' htext
    exact ⟨_, rfl, hs⟩
  | advance hno hs => exact absurd htext (hno k taken rest h)

/-- There is no choice in a scan. -/
theorem unique {text : List Char} {pieces pieces' : List (List Char × Category)}
    (h : Scan text pieces) (h' : Scan text pieces') : pieces = pieces' := by
  induction h generalizing pieces' with
  | done =>
    generalize htext : [] = text at h'
    cases h' with
    | done => rfl
    | claim hl hs =>
      obtain ⟨c, cs, rfl, -⟩ := hl.exists_head
      simp at htext
    | advance hno hs => simp at htext
  | claim hl hs ih =>
    obtain ⟨more, rfl, hmore⟩ := eq_cons_of_isLiteral h' hl
    rw [ih hmore]
  | @advance c cs pieces hno hs ih =>
    generalize htext : c :: cs = text at h'
    cases h' with
    | done => simp at htext
    | claim hl hs' => exact absurd htext.symm (hno _ _ _ hl)
    | advance hno' hs' =>
      obtain ⟨rfl, rfl⟩ := List.cons.inj htext
      rw [ih hs']

/-- A text that does not begin with a delimiter begins with a plain piece. -/
theorem head?_pieceCategories {c : Char} {cs : List Char} {pieces : List (List Char × Category)}
    (h : Scan (c :: cs) pieces) (hc : isDelimiter c = false) :
    (pieceCategories pieces).head? = some .plain := by
  generalize htext : c :: cs = text at h
  cases h with
  | done => simp at htext
  | claim hl hs =>
    obtain ⟨d, ds, rfl, hd⟩ := hl.exists_head
    obtain ⟨rfl, -⟩ := List.cons.inj htext
    rw [hc] at hd
    exact absurd hd Bool.false_ne_true
  | advance hno hs => rfl

/-- Two neighbours that are no delimiters lie in the same literal, or in none. -/
theorem category_eq {text : List Char} {pieces : List (List Char × Category)}
    (h : Scan text pieces) {i : Nat} {c d : Char} (hc : text[i]? = some c)
    (hd : text[i + 1]? = some d) (hcn : isDelimiter c = false) (hdn : isDelimiter d = false) :
    (pieceCategories pieces)[i]? = (pieceCategories pieces)[i + 1]? := by
  induction h generalizing i with
  | done => simp at hc
  | @claim k taken rest pieces hl hs ih =>
    rw [pieceCategories_cons]
    have hlen : (List.replicate taken.length k).length = taken.length := List.length_replicate
    rcases Nat.lt_trichotomy (i + 1) taken.length with hi | hi | hi
    · rw [List.getElem?_append_left (by omega), List.getElem?_append_left (by omega)]
      simp [hi, Nat.lt_of_succ_lt hi]
    · -- the literal would end between the two, so one of them is a delimiter
      rw [List.getElem?_append_left (by omega)] at hc
      rw [List.getElem?_append_right (by omega), hi, Nat.sub_self] at hd
      rcases hl.delimiter_at_end with ⟨cs, e, rfl, he⟩ | rfl | hr
      · have hics : i = cs.length := by simpa using hi
        rw [hics, List.getElem?_concat_length] at hc
        rw [Option.some.inj hc, hcn] at he
        exact absurd he Bool.false_ne_true
      · simp at hd
      · rw [← List.head?_eq_getElem?, hr] at hd
        rw [← Option.some.inj hd] at hdn
        exact absurd hdn (by decide)
    · rw [List.getElem?_append_right (by omega)] at hc hd
      rw [List.getElem?_append_right (by omega), List.getElem?_append_right (by omega), hlen]
      have hsub : i + 1 - taken.length = i - taken.length + 1 := by omega
      rw [hsub] at hd ⊢
      exact ih hc hd
  | @advance c' cs pieces hno hs ih =>
    cases i with
    | zero =>
      cases cs with
      | nil => simp at hd
      | cons e cs =>
        obtain rfl : e = d := by simpa using hd
        have hhead := hs.head?_pieceCategories hdn
        rw [List.head?_eq_getElem?] at hhead
        simp [hhead]
    | succ i =>
      simp only [List.getElem?_cons_succ] at hc hd
      simpa using ih hc hd

end Scan

/-- Painting goes on with a plain character if no claim begins at it. -/
theorem paintLiterals_eq_cons {size pos : Nat} {claims : List (Literal × Claim)} (hp : pos < size)
    (h : ∀ l c more, claims = (l, c) :: more → pos + 1 ≤ c.start) :
    paintLiterals size pos claims = .plain :: paintLiterals size (pos + 1) claims := by
  cases claims with
  | nil =>
    have hsub : size - pos = size - (pos + 1) + 1 := by omega
    rw [paintLiterals, paintLiterals, hsub, List.replicate_succ]
  | cons lc more =>
    obtain ⟨l, c⟩ := lc
    have hle := h l c more rfl
    have hsub : c.start - pos = c.start - (pos + 1) + 1 := by omega
    rw [paintLiterals, paintLiterals, hsub, List.replicate_succ]
    rfl

/-- Every text has a scan, and resolution paints the categories of its pieces. -/
theorem exists_scan_resolveFresh (rest : List Char) (bound pos : Nat) (h : rest.length ≤ bound) :
    ∃ pieces, Scan rest pieces ∧
      paintLiterals (pos + rest.length) pos (resolveFresh bound pos rest) =
        pieceCategories pieces := by
  induction hn : rest.length using Nat.strongRecOn generalizing rest bound pos with
  | ind n ih =>
    by_cases hclaim : ∃ (l : Literal) (m : Nat), l.claim? rest = some m
    · obtain ⟨l, m, hm⟩ := hclaim
      obtain ⟨taken, rest, rfl, rfl, hl⟩ := Literal.exists_of_claim? hm
      obtain ⟨c, cs, rfl, -⟩ := hl.exists_head
      have hlt : rest.length < n := by
        rw [← hn, List.length_append, List.length_cons]
        omega
      obtain ⟨bound, rfl⟩ : ∃ b, bound = b + 1 := ⟨bound - 1, by simp at h; omega⟩
      obtain ⟨pieces, hs, hp⟩ := ih rest.length hlt rest bound (pos + (c :: cs).length)
        (by simp at h ⊢; omega) rfl
      refine ⟨_, .claim hl hs, ?_⟩
      rw [resolveFresh_of_claim hm, List.drop_left, pieceCategories_cons, ← hp, ← hn,
        List.length_append, ← Nat.add_assoc, paintLiterals]
      simp [Claim.stop]
    · cases rest with
      | nil =>
        refine ⟨[], .done, ?_⟩
        simp [paintLiterals, ← hn]
      | cons c rest =>
        have hnone : ∀ l : Literal, l.claim? (c :: rest) = none := by
          intro l
          cases hl : l.claim? (c :: rest) with
          | none => rfl
          | some m => exact absurd ⟨l, m, hl⟩ hclaim
        have hlt : rest.length < n := by rw [← hn]; simp
        obtain ⟨pieces, hs, hp⟩ := ih rest.length hlt rest bound (pos + 1)
          (by simp at h; omega) rfl
        refine ⟨_, .advance ?_ hs, ?_⟩
        · rintro k taken rest' hl heq
          obtain ⟨l, -, hl'⟩ := isLiteral_iff_claim?.1 hl
          rw [heq, hnone l] at hl'
          simp at hl'
        · have hsize : pos + n = pos + 1 + rest.length := by rw [← hn]; simp; omega
          rw [resolveFresh_of_no_claim hnone, hsize, paintLiterals_eq_cons (by omega), hp]
          · rfl
          · exact fun l c more heq => le_start_of_resolveFresh heq

/-- The categories of the characters of a text before the tokens are painted. -/
def literalCategories (text : List Char) : List Category :=
  paintLiterals text.length 0 (literalClaims text)

/-- The scan of a text paints what resolution paints. -/
theorem exists_scan (text : List Char) :
    ∃ pieces, Scan text pieces ∧ literalCategories text = pieceCategories pieces := by
  obtain ⟨pieces, hs, hp⟩ := exists_scan_resolveFresh text text.length 0 (Nat.le_refl _)
  rw [Nat.zero_add] at hp
  rw [literalCategories, literalClaims_eq]
  exact ⟨pieces, hs, hp⟩

/-- A piece of text without delimiters lies in a literal as a whole or not at all. -/
theorem literalCategories_eq_of_run {before piece after : List Char}
    (hp : ∀ c ∈ piece, isDelimiter c = false) {i j : Nat} (hi : Within before piece i)
    (hj : Within before piece j) :
    (literalCategories (before ++ piece ++ after))[i]? =
      (literalCategories (before ++ piece ++ after))[j]? := by
  obtain ⟨pieces, hs, hcat⟩ := exists_scan (before ++ piece ++ after)
  rw [hcat]
  have hfirst : ∀ m, m < piece.length →
      (pieceCategories pieces)[before.length + m]? = (pieceCategories pieces)[before.length]? := by
    intro m hm
    induction m with
    | zero => rfl
    | succ m ih =>
      have hwithin : Within before piece (before.length + m) := ⟨by omega, by omega⟩
      have hwithin' : Within before piece (before.length + m + 1) := ⟨by omega, by omega⟩
      obtain ⟨c, hc, hget⟩ := @getElem?_of_within before piece after _ hwithin
      obtain ⟨d, hd, hget'⟩ := @getElem?_of_within before piece after _ hwithin'
      rw [← ih (by omega)]
      exact (hs.category_eq hget hget' (hp c hc) (hp d hd)).symm
  have hi' : i = before.length + (i - before.length) := by have := hi.1; omega
  have hj' : j = before.length + (j - before.length) := by have := hj.1; omega
  have := hi.2
  have := hj.2
  rw [hi', hj', hfirst _ (by omega), hfirst _ (by omega)]

/-- Before the tokens a character is plain, or it belongs to a comment or a string. -/
theorem category_of_literalCategories {text : List Char} {i : Nat} {k : Category}
    (h : (literalCategories text)[i]? = some k) :
    k = .plain ∨ k = .comment ∨ k = .stringLiteral := by
  obtain ⟨pieces, hs, hcat⟩ := exists_scan text
  rw [hcat] at h
  obtain ⟨p, hp, hk⟩ := List.mem_flatMap.1 (List.mem_of_getElem? h)
  rw [List.eq_of_mem_replicate hk]
  exact hs.category_of_mem hp

end Scratchpad.Highlight
