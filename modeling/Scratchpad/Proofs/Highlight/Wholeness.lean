import Mathlib.Data.List.Basic
import Scratchpad.Proofs.Highlight.Numeral
import Scratchpad.Proofs.Highlight.Selection
import Scratchpad.Proofs.Highlight.Words

/-!
# Tokens are coloured as a whole or not at all

A token colours nothing unless all of it is plain. This never takes away a part of one: what is not
all plain lies inside one comment or string, or, if it is a keyword or a constant, inside one
variable (`whole_or_hidden`). A token holds no delimiter, so it cannot reach over the end of a
literal; and of tokens only a word and a variable have characters in common, where the word is the
name of the variable.

So the kinds of tokens may colour a text in any order that has variables before the words. The main
statement is `ofCategories_inOrder`.
-/

namespace Scratchpad.Highlight

open Scratchpad.Text

namespace Claim

/-- All characters of a claim are characters of another one. -/
def Inside (c d : Claim) : Prop := d.start ≤ c.start ∧ c.stop ≤ d.stop

/-- No character of a claim is plain. -/
def NonePlain (c : Claim) (categories : List Category) : Prop :=
  ∀ i, c.Covers i → categories[i]? ≠ some .plain

theorem Inside.covers {c d : Claim} {i : Nat} (h : c.Inside d) (hi : c.Covers i) : d.Covers i :=
  ⟨Nat.le_trans h.1 hi.1, Nat.lt_of_lt_of_le hi.2 h.2⟩

end Claim

namespace Token

variable {text : List Char} {t : Token} {c : Claim}

/-- Whether a token is a word, which can be the name of a variable too. -/
def IsName (t : Token) : Prop := t = keyword ∨ t = constant

/-! ### The pieces that tokens claim -/

/-- What a token claims holds no delimiter. -/
theorem exists_piece_of_mem_claims (h : c ∈ t.claims text) :
    ∃ before piece after, text = before ++ piece ++ after ∧ c = ⟨before.length, piece.length⟩ ∧
      ∀ d ∈ piece, isDelimiter d = false := by
  have hname : t.IsName → ∃ before piece after, text = before ++ piece ++ after ∧
      c = ⟨before.length, piece.length⟩ ∧ ∀ d ∈ piece, isDelimiter d = false := by
    intro ht
    obtain ⟨before, word, after, htext, hc, hmem, -⟩ := exists_isWord_of_mem_claims ht h
    refine ⟨before, word, after, htext, hc, ?_⟩
    intro d hd
    exact isDelimiter_of_isNamePart (isNamePart_of_isNameStart
      (isNameStart_of_mem_vocabulary hmem d hd))
  cases t with
  | number =>
    obtain ⟨before, claimed, after, htext, hc, hnumber⟩ := exists_isNumber_of_mem_claims h
    exact ⟨before, claimed, after, htext, hc, hnumber.isDelimiter_eq_false⟩
  | variableName =>
    obtain ⟨before, name, after, htext, hc, hvariable⟩ := exists_isVariable_of_mem_claims h
    exact ⟨before, name, after, htext, hc, hvariable.isDelimiter⟩
  | keyword => exact hname (.inl rfl)
  | constant => exact hname (.inr rfl)

/-! ### Tokens with characters in common -/

theorem not_covers_of_number {d : Claim} {i : Nat} (ht : t ≠ number) (hc : c ∈ number.claims text)
    (hd : d ∈ t.claims text) (hi : c.Covers i) : ¬ d.Covers i := by
  intro hdi
  have hname : ¬ t.IsName := by
    intro hname
    obtain ⟨before, word, after, rfl, rfl, hmem, -⟩ := exists_isWord_of_mem_claims hname hd
    obtain ⟨e, he, hget⟩ := @getElem?_of_within before word after i hdi
    obtain ⟨e', hget', hdigit⟩ := (getElem?_of_number_claim hc).2.2 i hi
    obtain rfl := Option.some.inj (hget.symm.trans hget')
    have hstart := isNameStart_of_mem_vocabulary hmem e he
    rcases hdigit with hdigit | rfl
    · rw [isDigit_of_isNameStart hstart] at hdigit
      cases hdigit
    · exact absurd hstart (by decide)
  cases t with
  | number => exact ht rfl
  | variableName =>
    obtain ⟨before, name, after, rfl, rfl, hvariable⟩ := exists_isVariable_of_mem_claims hd
    exact not_covers_of_isVariable hvariable hdi hc hi
  | keyword => exact hname (.inl rfl)
  | constant => exact hname (.inr rfl)

theorem not_covers_of_keyword {d : Claim} {i : Nat} (hc : c ∈ keyword.claims text)
    (hd : d ∈ constant.claims text) (hi : c.Covers i) : ¬ d.Covers i := by
  intro hdi
  obtain ⟨before, word, after, rfl, rfl, hmem, hword⟩ := exists_isWord_of_mem_claims (.inl rfl) hc
  obtain ⟨before', word', after', heq, rfl, hmem', hword'⟩ :=
    exists_isWord_of_mem_claims (.inr rfl) hd
  obtain rfl := hword.unique hword' heq hi hdi
  exact keywords_ne_constants hmem hmem'

/-- Of two kinds of tokens with a character in common, one is the variable and the other a word. -/
theorem eq_variableName_of_covers {u : Token} {d : Claim} {i : Nat} (hne : t ≠ u)
    (hc : c ∈ t.claims text) (hd : d ∈ u.claims text) (hi : c.Covers i) (hdi : d.Covers i) :
    t = variableName ∧ u.IsName ∨ u = variableName ∧ t.IsName := by
  by_cases ht : t = number
  · subst ht
    exact absurd hdi (not_covers_of_number hne.symm hc hd hi)
  by_cases hu : u = number
  · subst hu
    exact absurd hi (not_covers_of_number ht hd hc hdi)
  cases t with
  | number => exact absurd rfl ht
  | variableName =>
    cases u with
    | number => exact absurd rfl hu
    | variableName => exact absurd rfl hne
    | keyword => exact .inl ⟨rfl, .inl rfl⟩
    | constant => exact .inl ⟨rfl, .inr rfl⟩
  | keyword =>
    cases u with
    | number => exact absurd rfl hu
    | variableName => exact .inr ⟨rfl, .inl rfl⟩
    | keyword => exact absurd rfl hne
    | constant => exact absurd hdi (not_covers_of_keyword hc hd hi)
  | constant =>
    cases u with
    | number => exact absurd rfl hu
    | variableName => exact .inr ⟨rfl, .inr rfl⟩
    | keyword => exact absurd hi (not_covers_of_keyword hd hc hdi)
    | constant => exact absurd rfl hne

/-- A word that meets a variable is its name. -/
theorem inside_variable {d : Claim} {i : Nat} (ht : t.IsName) (hc : c ∈ t.claims text)
    (hd : d ∈ variableName.claims text) (hi : c.Covers i) (hdi : d.Covers i) : c.Inside d := by
  obtain ⟨before, word, after, rfl, rfl, hmem, hword⟩ := exists_isWord_of_mem_claims ht hc
  obtain ⟨before', name, after', heq, rfl, hvariable⟩ := exists_isVariable_of_mem_claims hd
  have hdollar := hvariable.getLast?_eq_dollar hword heq.symm hdi hi
  obtain ⟨front, rfl⟩ := List.getLast?_eq_some_iff.1 hdollar
  have hname := hword.isVariable_cons_dollar (isNameStart_of_mem_vocabulary hmem)
  have hclaim : variableName.claim? front.getLast? ('$' :: word ++ after) =
      some ('$' :: word).length :=
    variableLength?_eq_some_iff.2 ⟨_, after, rfl, rfl, hname⟩
  have hfound := mem_claims_of_claim? (by decide) hclaim
  have htext : front ++ ('$' :: word ++ after) = front ++ ['$'] ++ word ++ after := by simp
  rw [htext] at hfound
  have hinside : Claim.Inside ⟨(front ++ ['$']).length, word.length⟩
      ⟨front.length, ('$' :: word).length⟩ := by
    simp only [Claim.Inside, Claim.stop, List.length_append, List.length_cons, List.length_nil]
    omega
  rw [(ascending_claims variableName _).unique hd hfound hdi (hinside.covers hi)]
  exact hinside

end Token

/-! ### Tokens and literals -/

section

variable {text : List Char} {t : Token} {c : Claim}

/-- What is painted before the tokens belongs to the claim of a literal. -/
theorem exists_of_paintLiterals {size pos i : Nat} {claims : List (Literal × Claim)}
    {k : Category} (ha : Claim.Ascending pos (claims.map Prod.snd)) (hk : k ≠ .plain)
    (h : (paintLiterals size pos claims)[i]? = some k) :
    ∃ l d, (l, d) ∈ claims ∧ l.category = k ∧ d.Covers (pos + i) := by
  induction claims generalizing pos i with
  | nil => exact absurd (List.eq_of_mem_replicate (List.mem_of_getElem? h)) hk
  | cons lc claims ih =>
    obtain ⟨l, d⟩ := lc
    obtain ⟨hle, -, htail⟩ := (Claim.ascending_cons pos d _).1 ha
    rw [paintLiterals, List.append_assoc] at h
    rcases Nat.lt_or_ge i (d.start - pos) with hbefore | hbehind
    · rw [List.getElem?_append_left (by simpa using hbefore)] at h
      exact absurd (List.eq_of_mem_replicate (List.mem_of_getElem? h)) hk
    · rw [List.getElem?_append_right (by simpa using hbehind), List.length_replicate] at h
      rcases Nat.lt_or_ge (i - (d.start - pos)) d.length with hinside | hpast
      · rw [List.getElem?_append_left (by simpa using hinside)] at h
        have hcategory := List.eq_of_mem_replicate (List.mem_of_getElem? h)
        refine ⟨l, d, List.mem_cons_self, hcategory.symm, ?_⟩
        rw [Claim.Covers, Claim.stop]
        omega
      · rw [List.getElem?_append_right (by simpa using hpast), List.length_replicate] at h
        obtain ⟨m, e, he, hm, hcovers⟩ := ih htail h
        refine ⟨m, e, List.mem_cons_of_mem _ he, hm, ?_⟩
        have hpos : pos + i = d.stop + (i - (d.start - pos) - d.length) := by
          rw [Claim.stop]
          omega
        rwa [hpos]

/-- A piece without delimiters that meets a literal lies inside it. -/
theorem IsLiteral.inside {before piece after front taken back : List Char} {k : Category} {i : Nat}
    (h : IsLiteral k taken back) (hpiece : ∀ d ∈ piece, isDelimiter d = false)
    (heq : before ++ piece ++ after = front ++ taken ++ back) (hi : Within before piece i)
    (hi' : Within front taken i) :
    Claim.Inside ⟨before.length, piece.length⟩ ⟨front.length, taken.length⟩ := by
  have hfree : ∀ j e, Within before piece j → (front ++ taken ++ back)[j]? = some e →
      isDelimiter e = false := by
    intro j e hj hget
    obtain ⟨d, hd, hget'⟩ := @getElem?_of_within before piece after j hj
    rw [heq, hget] at hget'
    obtain rfl := Option.some.inj hget'
    exact hpiece e hd
  constructor
  · refine Nat.le_of_not_lt fun hlt => ?_
    -- the literal would begin inside the piece
    obtain ⟨d, ds, rfl, hd⟩ := h.exists_head
    have hget : (front ++ d :: ds ++ back)[front.length]? = some d := by
      rw [List.append_assoc, List.getElem?_append_right (Nat.le_refl _), Nat.sub_self]
      rfl
    have hwithin : Within before piece front.length :=
      ⟨Nat.le_of_lt hlt, Nat.lt_of_le_of_lt hi'.1 hi.2⟩
    rw [hfree _ d hwithin hget] at hd
    cases hd
  · refine Nat.le_of_not_lt fun hlt => ?_
    -- the literal would end inside the piece
    have hlt : front.length + taken.length < before.length + piece.length := hlt
    obtain ⟨hle, -⟩ := hi
    obtain ⟨-, hlt'⟩ := hi'
    rcases h.delimiter_at_end with ⟨cs, d, rfl, hd⟩ | rfl | hback
    · rw [List.length_append, List.length_singleton] at hlt hlt'
      have hget : (front ++ (cs ++ [d]) ++ back)[front.length + cs.length]? = some d := by
        rw [← List.append_assoc, List.append_assoc, List.getElem?_append_right (by simp)]
        simp
      rw [hfree _ d ⟨by omega, by omega⟩ hget] at hd
      cases hd
    · have hlength := congrArg List.length heq
      simp only [List.length_append, List.length_nil] at hlength
      omega
    · have hget : (front ++ taken ++ back)[front.length + taken.length]? = some '\n' := by
        rw [List.getElem?_append_right (by simp), List.length_append, Nat.sub_self,
          ← List.head?_eq_getElem?, hback]
      have hdelimiter := hfree _ '\n' ⟨by omega, by omega⟩ hget
      exact absurd hdelimiter (by decide)

theorem ascending_literalClaims (text : List Char) :
    Claim.Ascending 0 ((literalClaims text).map Prod.snd) := by
  obtain ⟨last, hlast, -⟩ := exists_selects_literalClaims text
  exact hlast.ascending.1

/-- A token lies in no literal, or all of it in one. -/
theorem allPlain_or_inside_literal (hc : c ∈ t.claims text) :
    c.AllPlain (literalCategories text) ∨ ∃ l d, (l, d) ∈ literalClaims text ∧ c.Inside d ∧
      ∀ i, c.Covers i → (literalCategories text)[i]? = some l.category := by
  have hlength : 0 < c.length := (t.ascending_claims text).length_pos hc
  obtain ⟨before, piece, after, rfl, rfl, hpiece⟩ := Token.exists_piece_of_mem_claims hc
  have hfirst : Within before piece before.length :=
    ⟨Nat.le_refl _, Nat.lt_add_of_pos_right hlength⟩
  have hsame : ∀ i, Within before piece i →
      (literalCategories (before ++ piece ++ after))[i]? =
        (literalCategories (before ++ piece ++ after))[before.length]? :=
    fun i hi => literalCategories_eq_of_run hpiece hi hfirst
  obtain ⟨k, hk⟩ : ∃ k, (literalCategories (before ++ piece ++ after))[before.length]? = some k := by
    refine ⟨_, List.getElem?_eq_getElem ?_⟩
    rw [length_literalCategories]
    exact hfirst.lt_length rfl
  by_cases hplain : k = .plain
  · left
    intro i hi
    rw [hsame i hi, hk, hplain]
  · right
    obtain ⟨l, d, hmem, rfl, hcovers⟩ :=
      exists_of_paintLiterals (ascending_literalClaims _) hplain hk
    obtain ⟨front, taken, back, heq, rfl, hliteral⟩ := exists_isLiteral_of_mem hmem
    rw [Nat.zero_add] at hcovers
    refine ⟨l, _, hmem, hliteral.inside hpiece heq hfirst hcovers, ?_⟩
    intro i hi
    rw [hsame i hi, hk]

end

/-! ### One kind of token after the other -/

section

variable {text : List Char} {categories : List Category} {i : Nat}

theorem categoriesInOrder_eq_foldl (order : List Token) (text : List Char) :
    categoriesInOrder order text = order.foldl (paintToken text) (literalCategories text) := rfl

/-- What no token covers is left as it was. -/
theorem getElem?_foldl_of_not_covers {order : List Token} (hlen : categories.length = text.length)
    (h : ∀ t ∈ order, ∀ c ∈ t.claims text, ¬ c.Covers i) :
    (order.foldl (paintToken text) categories)[i]? = categories[i]? := by
  induction order generalizing categories with
  | nil => rfl
  | cons t order ih =>
    obtain ⟨ht, horder⟩ := List.forall_mem_cons.1 h
    rw [List.foldl_cons, ih (length_paintToken hlen) horder,
      getElem?_paintToken_of_not_covers hlen ht]

theorem getElem?_foldl_of_ne_plain {order : List Token} {k : Category} (hk : k ≠ .plain)
    (hlen : categories.length = text.length) (h : categories[i]? = some k) :
    (order.foldl (paintToken text) categories)[i]? = some k := by
  induction order generalizing categories with
  | nil => exact h
  | cons t order ih =>
    exact ih (length_paintToken hlen) (getElem?_paintToken_of_ne_plain hlen hk h)

theorem Token.category_ne_plain (t : Token) : t.category ≠ .plain := by
  cases t <;> decide

theorem Literal.category_ne_plain (l : Literal) : l.category ≠ .plain := by
  cases l <;> decide

/-- What is all plain when its turn comes has the category of the token at the end. -/
theorem getElem?_foldl_of_allPlain {done later : List Token} {t : Token} {c : Claim}
    (hlen : categories.length = text.length) (hc : c ∈ t.claims text) (hi : c.Covers i)
    (hplain : c.AllPlain (done.foldl (paintToken text) categories)) :
    ((done ++ t :: later).foldl (paintToken text) categories)[i]? = some t.category := by
  have hdone := length_foldl_paintToken done hlen
  rw [List.foldl_append, List.foldl_cons]
  apply getElem?_foldl_of_ne_plain t.category_ne_plain (length_paintToken hdone)
  exact getElem?_paintToken_of_painted hdone ⟨c, hc, hi, hplain⟩

end

/-- An order of the kinds of tokens in which variables come before keywords and constants. -/
structure VariablesFirst (order : List Token) : Prop where
  perm : order.Perm Token.all
  before_keyword : order.idxOf .variableName < order.idxOf .keyword
  before_constant : order.idxOf .variableName < order.idxOf .constant

theorem variablesFirst_all : VariablesFirst Token.all := ⟨.refl _, by decide, by decide⟩

namespace VariablesFirst

variable {order done later : List Token} {t : Token}

theorem before_name (h : VariablesFirst order) (ht : t.IsName) :
    order.idxOf .variableName < order.idxOf t := by
  rcases ht with rfl | rfl
  · exact h.before_keyword
  · exact h.before_constant

theorem mem (h : VariablesFirst order) (t : Token) : t ∈ order := by
  rw [h.perm.mem_iff]
  cases t <;> decide

theorem not_mem (h : VariablesFirst (done ++ t :: later)) : t ∉ done := by
  have hnodup : (done ++ t :: later).Nodup := h.perm.nodup_iff.2 (by decide)
  intro ht
  exact (List.nodup_append.1 hnodup).2.2 t ht t List.mem_cons_self rfl

theorem idxOf_eq (h : VariablesFirst (done ++ t :: later)) :
    (done ++ t :: later).idxOf t = done.length := by
  rw [List.idxOf_append_of_notMem h.not_mem, List.idxOf_cons_self, Nat.add_zero]

/-- When the turn of a word comes, the variables have been coloured. -/
theorem variableName_mem (h : VariablesFirst (done ++ t :: later)) (ht : t.IsName) :
    .variableName ∈ done := by
  have hlt := h.before_name ht
  rw [h.idxOf_eq] at hlt
  by_contra hnot
  rw [List.idxOf_append_of_notMem hnot] at hlt
  exact absurd hlt (Nat.not_lt.2 (Nat.le_add_right _ _))

/-- When the turn of the variables comes, no word has been coloured. -/
theorem not_isName (h : VariablesFirst (done ++ .variableName :: later)) (ht : t ∈ done) :
    ¬ t.IsName := by
  intro hname
  have hlt := h.before_name hname
  rw [h.idxOf_eq, List.idxOf_append_of_mem ht] at hlt
  exact absurd (List.idxOf_lt_length_of_mem ht) (Nat.lt_asymm hlt)

end VariablesFirst

/-- All of a claim lies inside one comment or string, or it is a word inside one variable, and what
it lies inside is coloured. -/
inductive Claim.IsHidden (text : List Char) (categories : List Category) (t : Token) (c : Claim) :
    Prop where
  | literal {l : Literal} {d : Claim} (mem : (l, d) ∈ literalClaims text) (inside : c.Inside d)
      (coloured : ∀ i, c.Covers i → categories[i]? = some l.category)
  | variableName {d : Claim} (isName : t.IsName) (mem : d ∈ Token.variableName.claims text)
      (inside : c.Inside d) (coloured : ∀ i, d.Covers i → categories[i]? = some .variableName)

theorem Claim.IsHidden.nonePlain {text : List Char} {categories : List Category} {t : Token}
    {c : Claim} (h : c.IsHidden text categories t) : c.NonePlain categories := by
  intro i hi hplain
  cases h with
  | @literal l d mem inside coloured =>
    rw [coloured i hi] at hplain
    exact l.category_ne_plain (Option.some.inj hplain)
  | variableName isName mem inside coloured =>
    rw [coloured i (inside.covers hi)] at hplain
    cases hplain

section

variable {text : List Char} {order done later : List Token} {t : Token} {c : Claim}

/-- Outside the literals, what a token claims is all plain when its turn comes, but for a word that
meets a variable. -/
theorem allPlain_of_not_covers (h : VariablesFirst (done ++ t :: later)) (hc : c ∈ t.claims text)
    (hplain : c.AllPlain (literalCategories text))
    (hmeet : t.IsName → ∀ d ∈ Token.variableName.claims text, ∀ i, c.Covers i → ¬ d.Covers i) :
    c.AllPlain (categoriesInOrder done text) := by
  intro i hi
  rw [categoriesInOrder_eq_foldl, getElem?_foldl_of_not_covers (length_literalCategories text),
    hplain i hi]
  intro u hu d hd hdi
  have hne : t ≠ u := by
    rintro rfl
    exact h.not_mem hu
  rcases Token.eq_variableName_of_covers hne hc hd hi hdi with ⟨rfl, hname⟩ | ⟨rfl, hname⟩
  · exact h.not_isName hu hname
  · exact hmeet hname d hd i hi hdi

/-- When the turn of a kind of tokens comes, each of them is all plain or not plain at all, and then
it lies inside one comment, one string, or, if it is a word, one variable. -/
theorem whole_or_hidden (h : VariablesFirst (done ++ t :: later)) (hc : c ∈ t.claims text) :
    c.AllPlain (categoriesInOrder done text) ∨ c.IsHidden text (categoriesInOrder done text) t := by
  have hlen := length_literalCategories text
  rcases allPlain_or_inside_literal hc with hplain | ⟨l, d, hd, hinside, hcategory⟩
  · by_cases hmeet : t.IsName → ∀ d ∈ Token.variableName.claims text, ∀ i, c.Covers i → ¬ d.Covers i
    · exact .inl (allPlain_of_not_covers h hc hplain hmeet)
    · right
      push Not at hmeet
      obtain ⟨hname, d, hd, i, hi, hdi⟩ := hmeet
      have hinside := Token.inside_variable hname hc hd hi hdi
      refine .variableName hname hd hinside ?_
      intro j hj
      obtain ⟨first, second, rfl⟩ := List.append_of_mem (h.variableName_mem hname)
      rw [List.append_assoc, List.cons_append] at h
      -- the variable is plain where the word is, so it is all plain
      have hdplain : d.AllPlain (literalCategories text) := by
        rcases allPlain_or_inside_literal hd with hdplain | ⟨l, e, -, -, hcategory⟩
        · exact hdplain
        · have hcoloured := hcategory i hdi
          rw [hplain i hi] at hcoloured
          exact absurd (Option.some.inj hcoloured).symm l.category_ne_plain
      have hdone := allPlain_of_not_covers h hd hdplain fun hvariable => by
        rcases hvariable with hvariable | hvariable <;> cases hvariable
      exact getElem?_foldl_of_allPlain hlen hd hj hdone
  · right
    refine .literal hd hinside ?_
    intro i hi
    exact getElem?_foldl_of_ne_plain l.category_ne_plain hlen (hcategory i hi)

/-- Where no literal is and no variable takes precedence, a claimed character gets the category of
its token. -/
theorem getElem?_inOrder_of_covers {i : Nat} (h : VariablesFirst order) (hc : c ∈ t.claims text)
    (hi : c.Covers i) (hplain : (literalCategories text)[i]? = some .plain)
    (hmeet : t.IsName → ∀ d ∈ Token.variableName.claims text, ¬ d.Covers i) :
    (categoriesInOrder order text)[i]? = some t.category := by
  obtain ⟨done, later, rfl⟩ := List.append_of_mem (h.mem t)
  rcases whole_or_hidden h hc with hwhole | hhidden
  · exact getElem?_foldl_of_allPlain (length_literalCategories text) hc hi hwhole
  · cases hhidden with
    | @literal l d mem inside coloured =>
      have htokens : ∀ u ∈ done, l.category ≠ u.category := fun u _ => by
        cases l <;> cases u <;> decide
      have hcoloured := (getElem?_foldl_paintToken l.category_ne_plain htokens
        (length_literalCategories text)).1 (coloured i hi)
      rw [hplain] at hcoloured
      exact absurd (Option.some.inj hcoloured).symm l.category_ne_plain
    | variableName isName mem inside coloured =>
      exact absurd (inside.covers hi) (hmeet isName _ mem)

/-- The order of the kinds of tokens makes no difference, as long as variables come before words. -/
theorem categoriesInOrder_eq (h : VariablesFirst order) (text : List Char) :
    categoriesInOrder order text = categories text := by
  have hlen := length_literalCategories text
  apply List.ext_getElem?
  intro i
  cases hliteral : (literalCategories text)[i]? with
  | none =>
    have hbehind : text.length ≤ i := hlen ▸ List.getElem?_eq_none_iff.1 hliteral
    have hnone : ∀ order : List Token, (categoriesInOrder order text)[i]? = none := by
      intro order
      rw [List.getElem?_eq_none_iff, categoriesInOrder_eq_foldl,
        length_foldl_paintToken order hlen]
      exact hbehind
    rw [hnone, categories, hnone]
  | some k =>
    by_cases hk : k = .plain
    · subst hk
      by_cases hvariable : ∃ d ∈ Token.variableName.claims text, d.Covers i
      · obtain ⟨d, hd, hi⟩ := hvariable
        have hname : ¬ Token.variableName.IsName := by rintro (h | h) <;> cases h
        rw [getElem?_inOrder_of_covers h hd hi hliteral fun hvariable => absurd hvariable hname]
        exact (getElem?_inOrder_of_covers variablesFirst_all hd hi hliteral
          fun hvariable => absurd hvariable hname).symm
      · push Not at hvariable
        by_cases hclaim : ∃ (t : Token) (c : Claim), c ∈ t.claims text ∧ c.Covers i
        · obtain ⟨t, c, hc, hi⟩ := hclaim
          rw [getElem?_inOrder_of_covers h hc hi hliteral fun _ => hvariable]
          exact (getElem?_inOrder_of_covers variablesFirst_all hc hi hliteral
            fun _ => hvariable).symm
        · push Not at hclaim
          have hleft : ∀ order : List Token, (categoriesInOrder order text)[i]? =
              (literalCategories text)[i]? := fun order =>
            getElem?_foldl_of_not_covers hlen fun t _ c hc => hclaim t c hc
          rw [hleft, categories, hleft]
    · have hkept : ∀ order : List Token, (categoriesInOrder order text)[i]? = some k :=
        fun order => getElem?_foldl_of_ne_plain hk hlen hliteral
      rw [hkept, categories, hkept]

end

/-- In every order of the kinds of tokens that has variables before keywords and constants, each
token is all plain when the turn of its kind comes, or it has no plain character at all and lies
inside one comment, one string or, if it is a keyword or a constant, one variable. The spans are the
same in every such order. -/
theorem ofCategories_inOrder (source : String) :
    (∀ done t later, VariablesFirst (done ++ t :: later) → ∀ c ∈ t.claims source.toList,
      c.AllPlain (categoriesInOrder done source.toList) ∨
        c.NonePlain (categoriesInOrder done source.toList) ∧
          c.IsHidden source.toList (categoriesInOrder done source.toList) t) ∧
      VariablesFirst Token.all ∧
      ∀ order, VariablesFirst order →
        Span.ofCategories 0 (source.toList.zip (categoriesInOrder order source.toList)) =
          highlight source := by
  refine ⟨?_, variablesFirst_all, ?_⟩
  · intro done t later h c hc
    rcases whole_or_hidden h hc with hwhole | hhidden
    · exact .inl hwhole
    · exact .inr ⟨hhidden.nonePlain, hhidden⟩
  · intro order h
    rw [categoriesInOrder_eq h, highlight]

/-- The keyword in the name of this variable, and the number in this comment, with the words last. -/
theorem ofCategories_inOrder_hidden :
    VariablesFirst ([.variableName, .number] ++ .keyword :: [.constant]) ∧
      ⟨1, 2⟩ ∈ Token.keyword.claims "$if#1".toList ∧
      (Claim.AllPlain ⟨1, 2⟩ (categoriesInOrder [.variableName, .number] "$if#1".toList) ∨
        Claim.NonePlain ⟨1, 2⟩ (categoriesInOrder [.variableName, .number] "$if#1".toList) ∧
          Claim.IsHidden "$if#1".toList (categoriesInOrder [.variableName, .number] "$if#1".toList)
            .keyword ⟨1, 2⟩) ∧
      Span.ofCategories 0 ("$if#1".toList.zip
        (categoriesInOrder [.variableName, .number, .keyword, .constant] "$if#1".toList)) =
          highlight "$if#1" := by
  have horder : VariablesFirst ([.variableName, .number] ++ .keyword :: [.constant]) :=
    ⟨.swap _ _ _, by decide, by decide⟩
  have hclaim : ⟨1, 2⟩ ∈ Token.keyword.claims "$if#1".toList := by decide +kernel
  obtain ⟨hwhole, -, hspans⟩ := ofCategories_inOrder "$if#1"
  exact ⟨horder, hclaim, hwhole _ _ _ horder _ hclaim, hspans _ horder⟩

/-- With the words before the variables, the name of a variable is a keyword. -/
example : categoriesInOrder [.keyword, .variableName, .number, .constant] "$if".toList =
    [.plain, .keyword, .keyword] := by decide +kernel

end Scratchpad.Highlight
