import Scratchpad.Proofs.Highlight.Overlap

/-!
# Where numbers stand

A numeral is a whole word of digits. A number is a numeral, or two of them with a point between:
`IsNumber` says which of these stands at a place, and `Token.claim?_number_eq_some_iff` that this is
what is found there.

Unlike other tokens a number can begin inside another one, so not every place at which one is found
is listed. But every numeral belongs to a claim: it begins one, or stands behind the point of one
(`Token.exists_claim_of_isNumeral`).
-/

namespace Scratchpad.Highlight

open Scratchpad.Text

/-- Between `before` and `after`, `numeral` is a whole word of digits. -/
structure IsNumeral (before numeral after : List Char) : Prop where
  isWord : IsWord before numeral after
  isDigit : ∀ c ∈ numeral, c.isDigit = true

/-- Between `before` and `after`, `number` is what a search finds that begins with it: a numeral goes
on with a point if a second numeral follows. -/
inductive IsNumber (before : List Char) : (number after : List Char) → Prop where
  | whole {numeral after : List Char} (isNumeral : IsNumeral before numeral after)
      (alone : ∀ fraction rest, after = '.' :: (fraction ++ rest) →
        ¬ IsNumeral (before ++ numeral ++ ['.']) fraction rest) :
      IsNumber before numeral after
  | pointed {numeral fraction after : List Char}
      (isNumeral : IsNumeral before numeral ('.' :: (fraction ++ after)))
      (isFraction : IsNumeral (before ++ numeral ++ ['.']) fraction after) :
      IsNumber before (numeral ++ '.' :: fraction) after

theorem isWordCharacter_point : isWordCharacter '.' = false := by decide

theorem Token.isNamePart_of_isDigit {c : Char} (h : c.isDigit = true) : isNamePart c = true := by
  simp [isNamePart, Char.isAlphanum, h]

theorem IsNumeral.isDelimiter_eq_false {before numeral after : List Char}
    (h : IsNumeral before numeral after) : ∀ c ∈ numeral, isDelimiter c = false :=
  fun c hc => Token.isDelimiter_of_isNamePart (Token.isNamePart_of_isDigit (h.isDigit c hc))

/-- A number holds no delimiters. -/
theorem IsNumber.isDelimiter_eq_false {before number after : List Char}
    (h : IsNumber before number after) : ∀ c ∈ number, isDelimiter c = false := by
  cases h with
  | whole hnumeral alone => exact hnumeral.isDelimiter_eq_false
  | pointed hnumeral hfraction =>
    refine List.forall_mem_append.2 ⟨hnumeral.isDelimiter_eq_false, ?_⟩
    exact List.forall_mem_cons.2 ⟨rfl, hfraction.isDelimiter_eq_false⟩

namespace IsNumeral

variable {before numeral after : List Char}

theorem isWordCharacter_of_isDigit {c : Char} (h : c.isDigit = true) :
    isWordCharacter c = true :=
  Token.isWordCharacter_of_isNamePart (Token.isNamePart_of_isDigit h)

theorem of_digits (hne : numeral ≠ [])
    (hdigits : ∀ c ∈ numeral, c.isDigit = true) (hstarts : wordGoesOn before.getLast? = false)
    (hends : wordGoesOn after.head? = false) : IsNumeral before numeral after :=
  ⟨⟨hne, fun c hc => isWordCharacter_of_isDigit (hdigits c hc), hstarts, hends⟩, hdigits⟩

theorem length_pos (h : IsNumeral before numeral after) : 0 < numeral.length :=
  List.length_pos_iff.2 h.isWord.ne_nil

/-- A numeral is as many digits as stand at the front of the text from it on. -/
theorem takeWhile_isDigit (h : IsNumeral before numeral after) :
    (numeral ++ after).takeWhile Char.isDigit = numeral := by
  apply Token.takeWhile_append_of_head h.isDigit
  intro c hc
  cases hdigit : c.isDigit with
  | false => rfl
  | true =>
    have hends := h.isWord.ends
    rw [hc, wordGoesOn_some, isWordCharacter_of_isDigit hdigit] at hends
    exact absurd hends.symm Bool.false_ne_true

/-- Every numeral begins a number. -/
theorem exists_isNumber (h : IsNumeral before numeral after) :
    ∃ claimed rest, numeral ++ after = claimed ++ rest ∧ IsNumber before claimed rest := by
  by_cases hpoint : ∃ fraction rest, after = '.' :: (fraction ++ rest) ∧
      IsNumeral (before ++ numeral ++ ['.']) fraction rest
  · obtain ⟨fraction, rest, rfl, hfraction⟩ := hpoint
    exact ⟨numeral ++ '.' :: fraction, rest, by simp, .pointed h hfraction⟩
  · refine ⟨numeral, after, rfl, .whole h ?_⟩
    intro fraction rest hafter hfraction
    exact hpoint ⟨fraction, rest, hafter, hfraction⟩

end IsNumeral

namespace Token

variable {before numeral fraction after rest : List Char} {n : Nat}

theorem digitsLength_of_isNumeral (h : IsNumeral before numeral after) :
    digitsLength (numeral ++ after) = numeral.length := by
  rw [digitsLength, h.takeWhile_isDigit]

theorem fractionLength?_of_isNumeral (h : IsNumeral before fraction after) :
    fractionLength? ('.' :: (fraction ++ after)) = some (1 + fraction.length) := by
  have hpos := h.length_pos
  rw [fractionLength?, digitsLength_of_isNumeral h, if_neg (Nat.ne_of_gt hpos)]

theorem numberLength?_of_pointed (h : IsNumeral before numeral ('.' :: (fraction ++ after)))
    (hf : IsNumeral (before ++ numeral ++ ['.']) fraction after) :
    numberLength? (numeral ++ '.' :: (fraction ++ after)) =
      some (numeral.length + (1 + fraction.length)) := by
  have hpos := h.length_pos
  have hends : wordEndsBefore after = true := by
    rw [wordEndsBefore, hf.isWord.ends]
    rfl
  have hdrop : ('.' :: (fraction ++ after)).drop (1 + fraction.length) = after := by
    rw [Nat.add_comm, List.drop_succ_cons, List.drop_left]
  simp only [numberLength?, digitsLength_of_isNumeral h, List.drop_left,
    fractionLength?_of_isNumeral hf, hdrop, hends, if_neg (Nat.ne_of_gt hpos), if_true]

theorem numberLength?_of_whole (h : IsNumeral before numeral after)
    (alone : ∀ fraction rest, after = '.' :: (fraction ++ rest) →
      ¬ IsNumeral (before ++ numeral ++ ['.']) fraction rest) :
    numberLength? (numeral ++ after) = some numeral.length := by
  have hpos := h.length_pos
  have hends : wordEndsBefore after = true := by
    rw [wordEndsBefore, h.isWord.ends]
    rfl
  simp only [numberLength?, digitsLength_of_isNumeral h, List.drop_left, hends,
    if_neg (Nat.ne_of_gt hpos), if_true]
  cases hfraction : fractionLength? after with
  | none => rfl
  | some m =>
    obtain ⟨digits, rest, rfl, rfl, hdigits⟩ := fractionLength?_eq_some hfraction
    have hne : digits ≠ [] := by
      rintro rfl
      rw [List.nil_append, fractionLength?] at hfraction
      split at hfraction
      · cases hfraction
      · have hone := Option.some.inj hfraction
        simp only [List.length_nil] at hone
        omega
    have hgoes : wordEndsBefore rest = false := by
      cases hrest : wordGoesOn rest.head? with
      | true => rw [wordEndsBefore, hrest]; rfl
      | false =>
        refine absurd (.of_digits hne hdigits ?_ hrest) (alone digits rest rfl)
        rw [List.getLast?_concat]
        exact isWordCharacter_point
    simp only [List.drop_succ_cons, List.drop_left, hgoes, Bool.false_eq_true, if_false]

/-- What a number claims begins with a numeral. -/
theorem exists_isNumeral_of_numberLength? {text : List Char}
    (hstarts : wordGoesOn before.getLast? = false) (h : numberLength? text = some n) :
    ∃ numeral after, text = numeral ++ after ∧ IsNumeral before numeral after := by
  have hsplit : text.takeWhile Char.isDigit ++ text.dropWhile Char.isDigit = text :=
    List.takeWhile_append_dropWhile
  have hdrop : text.drop (digitsLength text) = text.dropWhile Char.isDigit := by
    have hleft := @List.drop_left _ (text.takeWhile Char.isDigit) (text.dropWhile Char.isDigit)
    rwa [hsplit] at hleft
  simp only [numberLength?, hdrop] at h
  split at h
  · cases h
  · next hne =>
    have hends : wordEndsBefore (text.dropWhile Char.isDigit) = true := by
      split at h
      · next m hm =>
        obtain ⟨digits, rest, hrest, -⟩ := fractionLength?_eq_some hm
        rw [hrest]
        exact congrArg (!·) isWordCharacter_point
      · split at h
        · next hends => exact hends
        · cases h
    refine ⟨text.takeWhile Char.isDigit, text.dropWhile Char.isDigit, hsplit.symm, ?_⟩
    apply IsNumeral.of_digits (fun hnil => hne (by rw [digitsLength, hnil]; rfl))
      (List.all_eq_true.1 List.all_takeWhile) hstarts
    simpa [wordEndsBefore] using hends

theorem claim?_of_isNumber {claimed : List Char} (h : IsNumber before claimed after) :
    number.claim? before.getLast? (claimed ++ after) = some claimed.length := by
  cases h with
  | whole hnumeral alone =>
    rw [claim?, if_neg (Bool.eq_false_iff.1 hnumeral.isWord.starts),
      numberLength?_of_whole hnumeral alone]
  | @pointed numeral fraction _ hnumeral hfraction =>
    rw [claim?, if_neg (Bool.eq_false_iff.1 hnumeral.isWord.starts), List.append_assoc,
      List.cons_append, numberLength?_of_pointed hnumeral hfraction, List.length_append,
      List.length_cons, Nat.add_comm 1]

/-- What is found as a number at a place is the number that stands there. -/
theorem claim?_number_eq_some_iff {text : List Char} :
    number.claim? before.getLast? text = some n ↔
      ∃ claimed after, text = claimed ++ after ∧ n = claimed.length ∧
        IsNumber before claimed after := by
  constructor
  · intro h
    obtain ⟨numeral, after, htext, hnumeral⟩ : ∃ numeral after, text = numeral ++ after ∧
        IsNumeral before numeral after := by
      rw [claim?] at h
      split at h
      · cases h
      · next hstarts => exact exists_isNumeral_of_numberLength? (Bool.eq_false_iff.2 hstarts) h
    obtain ⟨claimed, rest, heq, hnumber⟩ := hnumeral.exists_isNumber
    rw [htext, heq, claim?_of_isNumber hnumber] at h
    exact ⟨claimed, rest, htext.trans heq, (Option.some.inj h).symm, hnumber⟩
  · rintro ⟨claimed, after, rfl, rfl, hnumber⟩
    exact claim?_of_isNumber hnumber

theorem exists_isNumber_of_mem_claims {text : List Char} {c : Claim} (h : c ∈ number.claims text) :
    ∃ before claimed after, text = before ++ claimed ++ after ∧
      c = ⟨before.length, claimed.length⟩ ∧ IsNumber before claimed after := by
  obtain ⟨before, rest, rfl, hstart, hclaim⟩ := exists_of_mem_claims h
  obtain ⟨claimed, after, rfl, hlength, hnumber⟩ := claim?_number_eq_some_iff.1 hclaim
  refine ⟨before, claimed, after, (List.append_assoc _ _ _).symm, ?_, hnumber⟩
  rw [← hstart, ← hlength]

end Token

/-! ### Numbers and the numerals they meet -/

namespace IsNumeral

variable {before numeral after before' numeral' after' : List Char} {i : Nat}

/-- Two numerals of a text with a character in common are one, at one place. -/
theorem unique (h : IsNumeral before numeral after) (h' : IsNumeral before' numeral' after')
    (heq : before ++ numeral ++ after = before' ++ numeral' ++ after')
    (hi : Within before numeral i) (hi' : Within before' numeral' i) :
    before = before' ∧ numeral = numeral' ∧ after = after' := by
  have hle := h.isWord.length_before_le h'.isWord heq hi hi'
  have hle' := h'.isWord.length_before_le h.isWord heq.symm hi' hi
  obtain rfl := h.isWord.unique h'.isWord heq hi hi'
  rw [List.append_assoc, List.append_assoc] at heq
  obtain ⟨rfl, hrest⟩ := List.append_inj heq (Nat.le_antisymm hle' hle)
  exact ⟨rfl, rfl, List.append_cancel_left hrest⟩

/-- A point is no part of a numeral. -/
theorem getElem?_ne_point (h : IsNumeral before numeral after) (hi : Within before numeral i) :
    (before ++ numeral ++ after)[i]? ≠ some '.' := by
  intro hpoint
  have hgoes := h.isWord.wordGoesOn_within hi
  rw [hpoint] at hgoes
  exact absurd hgoes (by decide)

end IsNumeral

/-- A number that meets a numeral begins with it, or has it behind its point. -/
theorem IsNumber.meets {before claimed after front numeral back : List Char} {i : Nat}
    (h : IsNumber before claimed after) (hnumeral : IsNumeral front numeral back)
    (heq : before ++ claimed ++ after = front ++ numeral ++ back) (hi : Within before claimed i)
    (hi' : Within front numeral i) :
    (before = front ∧ ∃ more, claimed = numeral ++ more) ∨
      ∃ first, front = before ++ first ++ ['.'] ∧ claimed = first ++ '.' :: numeral ∧
        IsNumeral before first ('.' :: (numeral ++ back)) := by
  cases h with
  | whole hfirst alone =>
    obtain ⟨rfl, rfl, -⟩ := hfirst.unique hnumeral heq hi hi'
    exact .inl ⟨rfl, [], by simp⟩
  | @pointed first fraction _ hfirst hfraction =>
    have heq' : before ++ first ++ '.' :: (fraction ++ after) = front ++ numeral ++ back := by
      rw [← heq]
      simp
    have heq'' : before ++ first ++ ['.'] ++ fraction ++ after = front ++ numeral ++ back := by
      rw [← heq]
      simp
    obtain ⟨hle, hlt⟩ := hi
    rw [List.length_append, List.length_cons] at hlt
    rcases Nat.lt_trichotomy i (before.length + first.length) with hbelow | hpoint | habove
    · obtain ⟨rfl, rfl, -⟩ := hfirst.unique hnumeral heq' ⟨hle, hbelow⟩ hi'
      exact .inl ⟨rfl, _, rfl⟩
    · -- the numeral would hold the point
      refine absurd ?_ (hnumeral.getElem?_ne_point hi')
      rw [← heq', hpoint, ← List.length_append, List.getElem?_append_right (Nat.le_refl _),
        Nat.sub_self]
      rfl
    · have hwithin : Within (before ++ first ++ ['.']) fraction i := by
        simp only [Within, List.length_append, List.length_singleton]
        omega
      obtain ⟨rfl, rfl, rfl⟩ := hfraction.unique hnumeral heq'' hwithin hi'
      exact .inr ⟨first, rfl, rfl, hfirst⟩

namespace Token

variable {text front numeral back : List Char}

/-- A numeral is covered by a claim that begins with it, or by one that has it behind its point. -/
theorem exists_claim_of_isNumeral (h : IsNumeral front numeral back)
    (htext : text = front ++ numeral ++ back) :
    (∃ c ∈ number.claims text, c.start = front.length ∧ numeral.length ≤ c.length) ∨
      ∃ before first, front = before ++ first ++ ['.'] ∧
        IsNumeral before first ('.' :: (numeral ++ back)) ∧
        ⟨before.length, first.length + 1 + numeral.length⟩ ∈ number.claims text := by
  have hpos := h.length_pos
  obtain ⟨found, rest, hrest, hfound⟩ := h.exists_isNumber
  obtain ⟨c, hc, hcov⟩ := exists_claim_covers (claim?_of_isNumber hfound)
  rw [← hrest, ← List.append_assoc, ← htext] at hc
  obtain ⟨before, claimed, after, heq, rfl, hnumber⟩ := exists_isNumber_of_mem_claims hc
  rw [htext] at heq
  rcases hnumber.meets h heq.symm hcov ⟨Nat.le_refl _, by omega⟩ with
    ⟨rfl, more, rfl⟩ | ⟨first, rfl, rfl, hfirst⟩
  · refine .inl ⟨_, hc, rfl, ?_⟩
    rw [List.length_append]
    exact Nat.le_add_right _ _
  · refine .inr ⟨before, first, rfl, hfirst, ?_⟩
    rw [List.length_append, List.length_cons] at hc
    rwa [Nat.add_assoc, Nat.add_comm 1]

end Token

end Scratchpad.Highlight
