import Scratchpad.Highlight.Painting
import Scratchpad.Proofs.Highlight.Token

/-!
# Painting one character

What `paintToken` does to the character with number `i`: it gets the category of the token if one of
the claims covers it and all of that claim was plain (`Painted`), and else it keeps its category. So
a character that is not plain keeps its category through all tokens.
-/

namespace Scratchpad.Highlight

namespace Claim

/-- Every character that a claim covers is plain. -/
def AllPlain (c : Claim) (categories : List Category) : Prop :=
  ∀ i, c.Covers i → categories[i]? = some .plain

end Claim

theorem length_paintRun (k : Category) (run : List Category) :
    (paintRun k run).length = run.length := by
  rw [paintRun]
  split <;> simp

theorem length_paintClaims (k : Category) (pos : Nat) (cs : List Claim)
    (categories : List Category) : (paintClaims k pos cs categories).length = categories.length := by
  induction cs generalizing pos categories with
  | nil => rfl
  | cons c cs ih =>
    simp only [paintClaims, List.length_append, ih, length_paintRun, List.length_take,
      List.length_drop]
    omega

theorem paintRun_of_plain {k : Category} {run : List Category}
    (h : ∀ i < run.length, run[i]? = some .plain) : paintRun k run = List.replicate run.length k := by
  rw [paintRun, if_pos]
  rw [List.all_eq_true]
  intro x hx
  obtain ⟨i, hi, rfl⟩ := List.mem_iff_getElem.1 hx
  have hplain := h i hi
  rw [List.getElem?_eq_getElem hi] at hplain
  simpa using hplain

theorem paintRun_of_not_plain {k : Category} {run : List Category} {i : Nat} (hi : i < run.length)
    (h : run[i]? ≠ some .plain) : paintRun k run = run := by
  rw [paintRun, if_neg]
  intro hall
  rw [List.all_eq_true] at hall
  have hplain := hall run[i] (List.getElem_mem hi)
  rw [List.getElem?_eq_getElem hi] at h
  exact h (by simpa using hplain)

/-- Painting the first of some claims leaves the text before it, paints the claim as a whole, and
goes on behind it. -/
theorem getElem?_paintClaims_cons {k : Category} {pos i : Nat} {c : Claim} {cs : List Claim}
    {categories : List Category} (hle : pos ≤ c.start)
    (hstop : c.stop ≤ pos + categories.length) :
    (paintClaims k pos (c :: cs) categories)[i]? =
      if pos + i < c.start then categories[i]?
      else if pos + i < c.stop then
        (paintRun k ((categories.drop (c.start - pos)).take c.length))[pos + i - c.start]?
      else (paintClaims k c.stop cs (categories.drop (c.stop - pos)))[pos + i - c.stop]? := by
  have hs : c.stop = c.start + c.length := rfl
  have htake : (categories.take (c.start - pos)).length = c.start - pos := by
    rw [List.length_take]; omega
  have hrun : (paintRun k ((categories.drop (c.start - pos)).take c.length)).length = c.length := by
    rw [length_paintRun, List.length_take, List.length_drop]; omega
  have hdrop : (categories.drop (c.start - pos)).drop c.length =
      categories.drop (c.stop - pos) := by
    rw [List.drop_drop]
    congr 1
    omega
  simp only [paintClaims]
  rw [hdrop, List.append_assoc]
  split
  · next hi =>
    rw [List.getElem?_append_left (by omega), List.getElem?_take_of_lt (by omega)]
  · next hi =>
    rw [List.getElem?_append_right (by omega), htake]
    split
    · next hi' =>
      rw [List.getElem?_append_left (by omega)]
      congr 1
      omega
    · next hi' =>
      rw [List.getElem?_append_right (by omega), hrun]
      congr 1
      omega

/-- A character that no claim covers keeps its category. -/
theorem getElem?_paintClaims_of_not_covers {k : Category} {pos i : Nat} {cs : List Claim}
    {categories : List Category} (ha : Claim.Ascending pos cs)
    (hstop : ∀ c ∈ cs, c.stop ≤ pos + categories.length) (h : ∀ c ∈ cs, ¬ c.Covers (pos + i)) :
    (paintClaims k pos cs categories)[i]? = categories[i]? := by
  induction cs generalizing pos i categories with
  | nil => rfl
  | cons c cs ih =>
    obtain ⟨hle, hlen, htail⟩ := ha
    have hc := hstop c List.mem_cons_self
    have hs : c.stop = c.start + c.length := rfl
    rw [getElem?_paintClaims_cons hle hc]
    split
    · rfl
    · next hi =>
      have hnot : ¬ pos + i < c.stop := fun hlt =>
        h c List.mem_cons_self ⟨Nat.le_of_not_lt hi, hlt⟩
      have hpos : c.stop + (pos + i - c.stop) = pos + i := by omega
      rw [if_neg hnot, ih htail, List.getElem?_drop]
      · congr 1
        omega
      · intro d hd
        have := hstop d (List.mem_cons_of_mem c hd)
        rw [List.length_drop]
        omega
      · intro d hd
        rw [hpos]
        exact h d (List.mem_cons_of_mem c hd)

/-- The first of some claims is painted if all of it is plain, and else it keeps its categories. -/
theorem getElem?_paintClaims_of_head_covers {k : Category} {pos i : Nat} {c : Claim}
    {cs : List Claim} {categories : List Category} (hle : pos ≤ c.start)
    (hstop : c.stop ≤ pos + categories.length) (hi : c.Covers (pos + i)) :
    ((∀ j, c.Covers (pos + j) → categories[j]? = some .plain) →
        (paintClaims k pos (c :: cs) categories)[i]? = some k) ∧
      ∀ j, c.Covers (pos + j) → categories[j]? ≠ some .plain →
        (paintClaims k pos (c :: cs) categories)[i]? = categories[i]? := by
  have hs : c.stop = c.start + c.length := rfl
  have hrun : ((categories.drop (c.start - pos)).take c.length).length = c.length := by
    rw [List.length_take, List.length_drop]; omega
  have hget : ∀ j, c.Covers (pos + j) →
      ((categories.drop (c.start - pos)).take c.length)[pos + j - c.start]? = categories[j]? := by
    rintro j ⟨hlo, hhi⟩
    rw [List.getElem?_take_of_lt (by omega), List.getElem?_drop]
    congr 1
    omega
  obtain ⟨hlo, hhi⟩ := hi
  rw [getElem?_paintClaims_cons hle hstop, if_neg (Nat.not_lt.2 hlo), if_pos hhi]
  constructor
  · intro hall
    rw [paintRun_of_plain, hrun, List.getElem?_replicate, if_pos (by omega)]
    intro m hm
    rw [hrun] at hm
    have hm' : pos + (c.start - pos + m) - c.start = m := by omega
    have hcov : c.Covers (pos + (c.start - pos + m)) := ⟨by omega, by omega⟩
    rw [← hm', hget _ hcov]
    exact hall _ hcov
  · rintro j ⟨hjlo, hjhi⟩ hne
    rw [← hget j ⟨hjlo, hjhi⟩] at hne
    rw [paintRun_of_not_plain (by rw [hrun]; omega) hne, hget i ⟨hlo, hhi⟩]

/-- A character that a claim covers gets the claim's category if all of the claim is plain, and else
keeps its own. -/
theorem getElem?_paintClaims_of_covers {k : Category} {pos i : Nat} {cs : List Claim} {c : Claim}
    {categories : List Category} (ha : Claim.Ascending pos cs)
    (hstop : ∀ c ∈ cs, c.stop ≤ pos + categories.length) (hc : c ∈ cs) (hi : c.Covers (pos + i)) :
    ((∀ j, c.Covers (pos + j) → categories[j]? = some .plain) →
        (paintClaims k pos cs categories)[i]? = some k) ∧
      ∀ j, c.Covers (pos + j) → categories[j]? ≠ some .plain →
        (paintClaims k pos cs categories)[i]? = categories[i]? := by
  induction cs generalizing pos i categories with
  | nil => simp at hc
  | cons d cs ih =>
    obtain ⟨hle, hlen, htail⟩ := ha
    have hd := hstop d List.mem_cons_self
    rcases List.mem_cons.1 hc with rfl | hc
    · exact getElem?_paintClaims_of_head_covers hle hd hi
    · -- a later claim begins behind the first one, in what is left of the text
      have hdc := htail.le_start hc
      have hds := d.start_le_stop
      have hget : ∀ j, c.Covers (pos + j) → d.stop + (pos + j - d.stop) = pos + j ∧
          (categories.drop (d.stop - pos))[pos + j - d.stop]? = categories[j]? := by
        rintro j ⟨hlo, -⟩
        have hj : d.stop - pos + (pos + j - d.stop) = j := by omega
        rw [List.getElem?_drop, hj]
        exact ⟨by omega, rfl⟩
      have hrest : ∀ e ∈ cs, e.stop ≤ d.stop + (categories.drop (d.stop - pos)).length := by
        intro e he
        have := hstop e (List.mem_cons_of_mem d he)
        rw [List.length_drop]
        omega
      obtain ⟨hpos, hi'⟩ := hget i hi
      have hcov : c.Covers (d.stop + (pos + i - d.stop)) := by rw [hpos]; exact hi
      have hlo : ¬ pos + i < d.stop := Nat.not_lt.2 (Nat.le_trans hdc hi.1)
      obtain ⟨hplain, hkept⟩ := ih htail hrest hc hcov
      rw [getElem?_paintClaims_cons hle hd, if_neg (by omega), if_neg hlo]
      constructor
      · intro hall
        apply hplain
        intro j hj
        have hj' : pos + (d.stop + j - pos) = d.stop + j := by omega
        have hsub : pos + (d.stop + j - pos) - d.stop = j := by omega
        rw [← hj'] at hj
        rw [← hsub, (hget _ hj).2]
        exact hall _ hj
      · intro j hj hne
        rw [← (hget j hj).2] at hne
        rw [hkept _ (by rw [(hget j hj).1]; exact hj) hne, hi']

/-- The token colours character `i`: a claim covers it, and all of that claim is plain. -/
def Painted (t : Token) (text : List Char) (categories : List Category) (i : Nat) : Prop :=
  ∃ c ∈ t.claims text, c.Covers i ∧ c.AllPlain categories

section

variable {t : Token} {text : List Char} {categories : List Category} {i : Nat}

theorem getElem?_paintToken_of_painted (hlen : categories.length = text.length)
    (h : Painted t text categories i) : (paintToken text categories t)[i]? = some t.category := by
  obtain ⟨c, hc, hi, hplain⟩ := h
  have hstop : ∀ c ∈ t.claims text, c.stop ≤ 0 + categories.length := by
    intro c hc
    rw [Nat.zero_add, hlen]
    exact Token.stop_le_of_mem_claims hc
  have hi' : c.Covers (0 + i) := by rwa [Nat.zero_add]
  refine (getElem?_paintClaims_of_covers (t.ascending_claims text) hstop hc hi').1 ?_
  intro j hj
  rw [Nat.zero_add] at hj
  exact hplain j hj

theorem getElem?_paintToken_of_not_painted (hlen : categories.length = text.length)
    (h : ¬ Painted t text categories i) :
    (paintToken text categories t)[i]? = categories[i]? := by
  have hstop : ∀ c ∈ t.claims text, c.stop ≤ 0 + categories.length := by
    intro c hc
    rw [Nat.zero_add, hlen]
    exact Token.stop_le_of_mem_claims hc
  by_cases hcov : ∃ c ∈ t.claims text, c.Covers (0 + i)
  · obtain ⟨c, hc, hi⟩ := hcov
    have hnot : ¬ c.AllPlain categories := fun hplain =>
      h ⟨c, hc, by rwa [Nat.zero_add] at hi, hplain⟩
    obtain ⟨j, hnot⟩ := Classical.not_forall.1 hnot
    obtain ⟨hj, hne⟩ := Classical.not_imp.1 hnot
    rw [← Nat.zero_add j] at hj
    exact (getElem?_paintClaims_of_covers (t.ascending_claims text) hstop hc hi).2 j hj hne
  · exact getElem?_paintClaims_of_not_covers (t.ascending_claims text) hstop
      fun c hc hi => hcov ⟨c, hc, hi⟩

theorem getElem?_paintToken_of_not_covers (hlen : categories.length = text.length)
    (h : ∀ c ∈ t.claims text, ¬ c.Covers i) :
    (paintToken text categories t)[i]? = categories[i]? :=
  getElem?_paintToken_of_not_painted hlen fun ⟨c, hc, hi, _⟩ => h c hc hi

theorem length_paintToken (hlen : categories.length = text.length) :
    (paintToken text categories t).length = text.length := by
  rw [paintToken, length_paintClaims, hlen]

theorem painted_plain (h : Painted t text categories i) : categories[i]? = some .plain := by
  obtain ⟨c, -, hi, hplain⟩ := h
  exact hplain i hi

/-- A token colours only what is plain. -/
theorem getElem?_paintToken_of_ne_plain (hlen : categories.length = text.length) {k : Category}
    (hk : k ≠ .plain) (h : categories[i]? = some k) :
    (paintToken text categories t)[i]? = some k := by
  rw [getElem?_paintToken_of_not_painted hlen, h]
  intro hp
  have hplain := painted_plain hp
  rw [h] at hplain
  exact hk (Option.some.inj hplain)

/-- What a token has not coloured has kept its category. -/
theorem getElem?_of_paintToken (hlen : categories.length = text.length) {k : Category}
    (hk : k ≠ t.category) (h : (paintToken text categories t)[i]? = some k) :
    categories[i]? = some k := by
  by_cases hp : Painted t text categories i
  · rw [getElem?_paintToken_of_painted hlen hp] at h
    exact absurd (Option.some.inj h).symm hk
  · rwa [getElem?_paintToken_of_not_painted hlen hp] at h

/-- Where a token's category is new, it stands on what the token colours. -/
theorem getElem?_paintToken_eq_category_iff (hlen : categories.length = text.length)
    (hnew : categories[i]? ≠ some t.category) :
    (paintToken text categories t)[i]? = some t.category ↔ Painted t text categories i := by
  constructor
  · intro h
    by_cases hp : Painted t text categories i
    · exact hp
    · rw [getElem?_paintToken_of_not_painted hlen hp] at h
      exact absurd h hnew
  · exact getElem?_paintToken_of_painted hlen

theorem length_foldl_paintToken (order : List Token) (hlen : categories.length = text.length) :
    (order.foldl (paintToken text) categories).length = text.length := by
  induction order generalizing categories with
  | nil => exact hlen
  | cons t order ih => exact ih (length_paintToken hlen)

/-- A category that is neither plain nor that of a token comes and goes with no token. -/
theorem getElem?_foldl_paintToken {order : List Token} {k : Category} (hk : k ≠ .plain)
    (hko : ∀ t ∈ order, k ≠ t.category) (hlen : categories.length = text.length) :
    (order.foldl (paintToken text) categories)[i]? = some k ↔ categories[i]? = some k := by
  induction order generalizing categories with
  | nil => rfl
  | cons t order ih =>
    rw [List.foldl_cons, ih (fun u hu => hko u (List.mem_cons_of_mem t hu))
      (length_paintToken hlen)]
    constructor
    · exact getElem?_of_paintToken hlen (hko t List.mem_cons_self)
    · exact getElem?_paintToken_of_ne_plain hlen hk

end

end Scratchpad.Highlight
