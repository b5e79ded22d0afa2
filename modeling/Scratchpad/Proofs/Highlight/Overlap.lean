import Scratchpad.Proofs.Highlight.Literal
import Scratchpad.Proofs.Highlight.Token
import Scratchpad.Proofs.Text.Place

/-!
# What tokens have in common

Two whole words of a text are one or have no character in common. A variable meets a whole word only
if its dollar sign stands before that word, and it never meets a number. The statements are about
characters by their numbers in the text, as claims are. Names hold no delimiters, so no token but a
number can touch a literal at all.
-/

namespace Scratchpad.Highlight

open Scratchpad.Text

namespace IsWord

variable {before word after : List Char} {i j : Nat}

theorem wordGoesOn_within (h : IsWord before word after) (hi : Within before word i) :
    wordGoesOn (before ++ word ++ after)[i]? = true := by
  obtain ⟨c, hc, hget⟩ := @getElem?_of_within before word after i hi
  rw [hget]
  exact h.isWordCharacter c hc

theorem wordGoesOn_before (h : IsWord before word after) (hj : j + 1 = before.length) :
    wordGoesOn (before ++ word ++ after)[j]? = false := by
  rw [List.append_assoc, ← getLast?_eq_getElem?_append hj]
  exact h.starts

theorem wordGoesOn_after (h : IsWord before word after) :
    wordGoesOn (before ++ word ++ after)[before.length + word.length]? = false := by
  rw [← List.length_append, List.getElem?_append_right (Nat.le_refl _), Nat.sub_self,
    ← List.head?_eq_getElem?]
  exact h.ends

/-- Two whole words of a text with a character in common begin at the same place. -/
theorem length_before_le {before' word' after' : List Char} (h : IsWord before word after)
    (h' : IsWord before' word' after') (heq : before ++ word ++ after = before' ++ word' ++ after')
    (hi : Within before word i) (hi' : Within before' word' i) :
    before'.length ≤ before.length := by
  refine Nat.le_of_not_lt fun hlt => ?_
  obtain ⟨j, hj⟩ : ∃ j, j + 1 = before'.length := ⟨before'.length - 1, by omega⟩
  have hfalse := h'.wordGoesOn_before hj
  have hle := hi.2
  have hle' := hi'.1
  rw [← heq, h.wordGoesOn_within ⟨by omega, by omega⟩] at hfalse
  exact absurd hfalse.symm Bool.false_ne_true

theorem stop_le {before' word' after' : List Char} (h : IsWord before word after)
    (h' : IsWord before' word' after') (heq : before ++ word ++ after = before' ++ word' ++ after')
    (hi : Within before word i) (hi' : Within before' word' i) :
    before.length + word.length ≤ before'.length + word'.length := by
  refine Nat.le_of_not_lt fun hlt => ?_
  have hfalse := h'.wordGoesOn_after
  have hle := hi.1
  have hle' := hi'.2
  rw [← heq, h.wordGoesOn_within ⟨by omega, hlt⟩] at hfalse
  exact absurd hfalse.symm Bool.false_ne_true

/-- Two whole words of a text with a character in common are one. -/
theorem unique {before' word' after' : List Char} (h : IsWord before word after)
    (h' : IsWord before' word' after') (heq : before ++ word ++ after = before' ++ word' ++ after')
    (hi : Within before word i) (hi' : Within before' word' i) : word = word' := by
  have hstart := h.length_before_le h' heq hi hi'
  have hstart' := h'.length_before_le h heq.symm hi' hi
  have hstop := h.stop_le h' heq hi hi'
  have hstop' := h'.stop_le h heq.symm hi' hi
  rw [List.append_assoc, List.append_assoc] at heq
  obtain ⟨-, heq⟩ := List.append_inj heq (by omega)
  exact (List.append_inj heq (by omega)).1

end IsWord

namespace IsVariable

variable {before name after : List Char} {i : Nat}

theorem getElem?_dollar (h : IsVariable name after) :
    (before ++ name ++ after)[before.length]? = some '$' := by
  obtain ⟨c, rest, rfl, -⟩ := h.exists_name
  rw [List.append_assoc, List.getElem?_append_right (Nat.le_refl _), Nat.sub_self]
  rfl

theorem getElem?_nameStart (h : IsVariable name after) :
    ∃ c, (before ++ name ++ after)[before.length + 1]? = some c ∧ Token.isNameStart c = true := by
  obtain ⟨c, rest, rfl, hc, -⟩ := h.exists_name
  refine ⟨c, ?_, hc⟩
  rw [List.append_assoc, List.getElem?_append_right (Nat.le_add_right _ _), Nat.add_sub_cancel_left]
  rfl

/-- Behind its dollar sign a variable holds characters of names only. -/
theorem getElem?_namePart (h : IsVariable name after) (hi : Within before name i)
    (hne : before.length < i) :
    ∃ c, (before ++ name ++ after)[i]? = some c ∧ Token.isNamePart c = true := by
  obtain ⟨c, rest, rfl, hc, hrest⟩ := h.exists_name
  have hassoc : before ++ ('$' :: c :: rest) ++ after =
      (before ++ ['$']) ++ (c :: rest) ++ after := by simp
  have hwithin : Within (before ++ ['$']) (c :: rest) i := by
    have := hi.2
    simp only [List.length_cons] at this
    constructor
    all_goals simp only [List.length_append, List.length_cons, List.length_nil]; omega
  obtain ⟨d, hd, hget⟩ := @getElem?_of_within _ _ after i hwithin
  refine ⟨d, by rw [hassoc, hget], ?_⟩
  rcases List.mem_cons.1 hd with rfl | hd
  · exact Token.isNamePart_of_isNameStart hc
  · exact hrest d hd

theorem wordGoesOn_name (h : IsVariable name after) (hi : Within before name i)
    (hne : before.length < i) : wordGoesOn (before ++ name ++ after)[i]? = true := by
  obtain ⟨c, hget, hc⟩ := h.getElem?_namePart hi hne
  rw [hget]
  exact Token.isWordCharacter_of_isNamePart hc

/-- Only a word behind a dollar sign has characters in common with a variable. -/
theorem getLast?_eq_dollar {before' word after' : List Char} (h : IsVariable name after)
    (hword : IsWord before' word after')
    (heq : before ++ name ++ after = before' ++ word ++ after') (hi : Within before name i)
    (hi' : Within before' word i) : before'.getLast? = some '$' := by
  have hdollar := @getElem?_dollar before name after h
  have hlt : before.length < before'.length := by
    refine Nat.lt_of_not_le fun hle => ?_
    have hon := hword.wordGoesOn_within ⟨hle, Nat.lt_of_le_of_lt hi.1 hi'.2⟩
    rw [← heq, hdollar] at hon
    exact absurd hon (by decide)
  obtain ⟨j, hj⟩ : ∃ j, j + 1 = before'.length := ⟨before'.length - 1, by omega⟩
  have hlast : before'.getLast? = (before ++ name ++ after)[j]? := by
    rw [heq, List.append_assoc]
    exact getLast?_eq_getElem?_append hj
  by_cases hjd : j = before.length
  · rw [hlast, hjd, hdollar]
  · -- the character before the word would be one of the name
    have hfalse := hword.wordGoesOn_before hj
    have hle := hi.2
    have hle' := hi'.1
    rw [← heq, h.wordGoesOn_name ⟨by omega, by omega⟩ (by omega)] at hfalse
    exact absurd hfalse.symm Bool.false_ne_true

end IsVariable

namespace Token

theorem isDelimiter_of_isNamePart {c : Char} (h : isNamePart c = true) : isDelimiter c = false := by
  cases hd : isDelimiter c with
  | false => rfl
  | true =>
    simp only [isDelimiter, decide_eq_true_eq, List.mem_cons, List.not_mem_nil, or_false] at hd
    rcases hd with rfl | rfl | rfl | rfl | rfl <;> exact absurd h (by decide)

theorem isDigit_of_isNameStart {c : Char} (h : isNameStart c = true) : c.isDigit = false := by
  cases hd : c.isDigit with
  | false => rfl
  | true =>
    have hdigit := (Char.isDigit_iff_toNat.1 hd).2
    have hgap : '9'.toNat < 'A'.toNat := by decide
    rcases Bool.or_eq_true_iff.1 h with halpha | hlow
    · have hletter := (toNat_of_isAlpha halpha).1
      omega
    · rw [beq_iff_eq.1 hlow] at hd
      exact absurd hd (by decide)

/-- A claimed number begins with a digit, behind no word character, and holds digits and points. -/
theorem getElem?_of_number_claim {text : List Char} {c : Claim} (h : c ∈ number.claims text) :
    (∃ d, text[c.start]? = some d ∧ d.isDigit = true) ∧
      (∀ j, j + 1 = c.start → wordGoesOn text[j]? = false) ∧
      ∀ i, c.Covers i → ∃ d, text[i]? = some d ∧ (d.isDigit = true ∨ d = '.') := by
  obtain ⟨before, rest, rfl, hstart, hclaim⟩ := exists_of_mem_claims h
  simp only [claim?] at hclaim
  split at hclaim
  · simp at hclaim
  · next hbefore =>
    obtain ⟨d, ds, after, rfl, hlen, hd, hds⟩ := numberLength?_eq_some hclaim
    rw [← List.append_assoc]
    refine ⟨⟨d, ?_, hd⟩, ?_, ?_⟩
    · rw [hstart, List.append_assoc, List.getElem?_append_right (Nat.le_refl _), Nat.sub_self]
      rfl
    · intro j hj
      rw [List.append_assoc, ← getLast?_eq_getElem?_append (hj.trans hstart)]
      simpa using hbefore
    · rintro i ⟨hle, hlt⟩
      have hwithin : Within before (d :: ds) i := by
        rw [Claim.stop, hlen] at hlt
        exact ⟨by omega, by omega⟩
      obtain ⟨e, he, hget⟩ := @getElem?_of_within before (d :: ds) after i hwithin
      refine ⟨e, hget, ?_⟩
      rcases List.mem_cons.1 he with rfl | he
      · exact .inl hd
      · exact hds e he

/-- A number has no character in common with a variable. -/
theorem not_covers_of_isVariable {before name after : List Char} {i : Nat} {c : Claim}
    (h : IsVariable name after) (hi : Within before name i)
    (hc : c ∈ number.claims (before ++ name ++ after)) : ¬ c.Covers i := by
  intro hcov
  obtain ⟨⟨d, hget, hd⟩, hbefore, hchars⟩ := getElem?_of_number_claim hc
  rcases Nat.lt_trichotomy c.start (before.length + 1) with hlt | heq | hgt
  · -- the number would hold the dollar sign
    obtain ⟨e, hget', he⟩ := hchars before.length
      ⟨by omega, Nat.lt_of_le_of_lt hi.1 hcov.2⟩
    rw [h.getElem?_dollar] at hget'
    obtain rfl := Option.some.inj hget'
    rcases he with he | he <;> exact absurd he (by decide)
  · -- a name does not begin with a digit
    obtain ⟨e, hget', he⟩ := @IsVariable.getElem?_nameStart before name after h
    rw [heq, hget'] at hget
    obtain rfl := Option.some.inj hget
    rw [isDigit_of_isNameStart he] at hd
    exact absurd hd Bool.false_ne_true
  · -- no number begins in the middle of a name
    obtain ⟨j, hj⟩ : ∃ j, j + 1 = c.start := ⟨c.start - 1, by omega⟩
    have hle := hcov.1
    have hlt := hi.2
    have hfalse := hbefore j hj
    rw [h.wordGoesOn_name ⟨by omega, by omega⟩ (by omega)] at hfalse
    exact absurd hfalse.symm Bool.false_ne_true

end Token

end Scratchpad.Highlight
