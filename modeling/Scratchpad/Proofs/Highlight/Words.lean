import Scratchpad.Proofs.Highlight.Marks
import Scratchpad.Proofs.Highlight.Overlap

/-!
# The bytes of words and variables

A keyword, a constant or a variable is coloured wherever it stands outside comments and strings, and
nowhere else. A token without delimiters lies in a literal as a whole or not at all, and the tokens
before it colour none of its characters; only a word behind a dollar sign is a part of a variable. So
the rule that a token must be all plain never takes away a part of one. The main statement is
`marked_words_iff`.
-/

namespace Scratchpad.Highlight

open Scratchpad.Text

/-- Byte `b` lies in neither a comment nor a string. -/
def IsFree (source : String) (b : Nat) : Prop :=
  ¬ Marked source b .comment ∧ ¬ Marked source b .stringLiteral

/-- Between `before` and `after`, `word` is a whole word of `vocabulary` with no dollar sign in
front of it. -/
structure IsWordOf (vocabulary : List (List Char)) (before word after : List Char) : Prop where
  isWord : IsWord before word after
  mem : word ∈ vocabulary
  no_dollar : before.getLast? ≠ some '$'

/-- Byte `b` lies in a whole word of `vocabulary` with no dollar sign in front of it. -/
def InWordOf (vocabulary : List (List Char)) (source : String) (b : Nat) : Prop :=
  ∃ before word after, source.toList = before ++ word ++ after ∧
    IsWordOf vocabulary before word after ∧ LiesIn before word b

/-- Byte `b` lies in a variable. -/
def InVariable (source : String) (b : Nat) : Prop :=
  ∃ before name after, source.toList = before ++ name ++ after ∧ IsVariable name after ∧
    LiesIn before name b

/-- The categories after the numbers and the variables have been painted. -/
def namedCategories (text : List Char) : List Category :=
  [Token.number, .variableName].foldl (paintToken text) (literalCategories text)

/-- A token's category is new until the token is painted. -/
theorem getElem?_foldl_paintToken_ne {text : List Char} {i : Nat} {order : List Token}
    {k : Category} (hk : k ≠ .plain) (hkl : k ≠ .comment ∧ k ≠ .stringLiteral)
    (hko : ∀ t ∈ order, k ≠ t.category) :
    (order.foldl (paintToken text) (literalCategories text))[i]? ≠ some k := by
  rw [Ne, getElem?_foldl_paintToken hk hko (length_literalCategories text)]
  intro h
  rcases category_of_literalCategories h with rfl | rfl | rfl
  · exact hk rfl
  · exact hkl.1 rfl
  · exact hkl.2 rfl

theorem length_namedCategories (text : List Char) :
    (namedCategories text).length = text.length :=
  length_foldl_paintToken _ (length_literalCategories text)

section

variable {text before piece after : List Char} {i : Nat}

/-- Before its dollar sign and behind it a variable holds no delimiter. -/
theorem IsVariable.isDelimiter (h : IsVariable piece after) :
    ∀ c ∈ piece, isDelimiter c = false := by
  obtain ⟨c, rest, rfl, hc, hrest⟩ := h.exists_name
  intro d hd
  rcases List.mem_cons.1 hd with rfl | hd
  · rfl
  · rcases List.mem_cons.1 hd with rfl | hd
    · exact Token.isDelimiter_of_isNamePart (Token.isNamePart_of_isNameStart hc)
    · exact Token.isDelimiter_of_isNamePart (hrest d hd)

/-- A variable is coloured where it is plain before the tokens are painted. -/
theorem getElem?_namedCategories_of_variable (h : IsVariable piece after)
    (htext : text = before ++ piece ++ after) (hi : Within before piece i)
    (hplain : (literalCategories text)[i]? = some .plain) :
    (namedCategories text)[i]? = some .variableName := by
  subst htext
  have hclaim : Token.variableName.claim? before.getLast? (piece ++ after) = some piece.length :=
    Token.variableLength?_eq_some_iff.2 ⟨piece, after, rfl, rfl, h⟩
  have hmem := Token.mem_claims_of_claim? (by decide) hclaim
  rw [← List.append_assoc] at hmem
  have hlen := length_literalCategories (before ++ piece ++ after)
  refine getElem?_paintToken_of_painted (length_paintToken hlen) ⟨_, hmem, hi, ?_⟩
  intro j hj
  rw [getElem?_paintToken_of_not_covers hlen fun c hc =>
      Token.not_covers_of_isVariable h hj hc,
    literalCategories_eq_of_run h.isDelimiter hj hi, hplain]

/-- What is coloured as a variable is a part of one. -/
theorem exists_variable_of_namedCategories (h : (namedCategories text)[i]? = some .variableName) :
    (literalCategories text)[i]? = some .plain ∧
      ∃ before name after, text = before ++ name ++ after ∧ IsVariable name after ∧
        Within before name i := by
  have hlen := length_literalCategories text
  by_cases hp : Painted .variableName text (paintToken text (literalCategories text) .number) i
  · refine ⟨getElem?_of_paintToken hlen (by decide) (painted_plain hp), ?_⟩
    obtain ⟨c, hc, hi, -⟩ := hp
    obtain ⟨before, name, after, htext, rfl, hname⟩ := Token.exists_isVariable_of_mem_claims hc
    exact ⟨before, name, after, htext, hname, hi⟩
  · have hkept := getElem?_paintToken_of_not_painted (length_paintToken hlen) hp
    have hnew := @getElem?_foldl_paintToken_ne text i [.number] .variableName (by decide)
      (by decide) (by decide)
    exact absurd (hkept.symm.trans h) hnew

/-- Numbers and variables leave a word alone that stands behind no dollar sign. -/
theorem getElem?_namedCategories_of_word (h : IsWord before piece after)
    (hstart : ∀ c ∈ piece, Token.isNameStart c = true) (hdollar : before.getLast? ≠ some '$')
    (htext : text = before ++ piece ++ after) (hi : Within before piece i) :
    (namedCategories text)[i]? = (literalCategories text)[i]? := by
  subst htext
  have hlen := length_literalCategories (before ++ piece ++ after)
  have hnumber : ∀ c ∈ Token.number.claims (before ++ piece ++ after), ¬ c.Covers i := by
    intro c hc hcov
    obtain ⟨d, hget, hd⟩ := (Token.getElem?_of_number_claim hc).2.2 i hcov
    obtain ⟨e, he, hget'⟩ := @getElem?_of_within before piece after i hi
    obtain rfl := Option.some.inj (hget.symm.trans hget')
    rcases hd with hd | rfl
    · rw [Token.isDigit_of_isNameStart (hstart d he)] at hd
      exact absurd hd Bool.false_ne_true
    · exact absurd (hstart '.' he) (by decide)
  have hvariable : ∀ c ∈ Token.variableName.claims (before ++ piece ++ after), ¬ c.Covers i := by
    intro c hc hcov
    obtain ⟨before', name, after', heq, rfl, hname⟩ := Token.exists_isVariable_of_mem_claims hc
    exact hdollar (hname.getLast?_eq_dollar h heq.symm hcov hi)
  rw [namedCategories, List.foldl_cons, List.foldl_cons, List.foldl_nil,
    getElem?_paintToken_of_not_covers (length_paintToken hlen) hvariable,
    getElem?_paintToken_of_not_covers hlen hnumber]

/-- Behind a dollar sign a word that may begin a name is the whole name. -/
theorem IsWord.isVariable_cons_dollar (h : IsWord before piece after)
    (hstart : ∀ c ∈ piece, Token.isNameStart c = true) : IsVariable ('$' :: piece) after := by
  obtain ⟨d, ds, rfl⟩ := List.exists_cons_of_ne_nil h.ne_nil
  constructor
  · refine ⟨d, ds, rfl, hstart d List.mem_cons_self, ?_⟩
    intro e he
    exact Token.isNamePart_of_isNameStart (hstart e (List.mem_cons_of_mem d he))
  · intro e he
    have hends := h.ends
    rw [he, wordGoesOn_some] at hends
    cases hpart : Token.isNamePart e with
    | false => rfl
    | true =>
      rw [Token.isWordCharacter_of_isNamePart hpart] at hends
      exact absurd hends.symm Bool.false_ne_true

/-- A word that is still plain after the variables stands behind no dollar sign. -/
theorem getLast?_ne_dollar_of_plain (h : IsWord before piece after)
    (hstart : ∀ c ∈ piece, Token.isNameStart c = true) (htext : text = before ++ piece ++ after)
    (hi : Within before piece i) (hfree : (literalCategories text)[i]? = some .plain)
    (hnamed : (namedCategories text)[i]? = some .plain) : before.getLast? ≠ some '$' := by
  intro hdollar
  obtain ⟨front, rfl⟩ := List.getLast?_eq_some_iff.1 hdollar
  have hwithin : Within front ('$' :: piece) i := by
    obtain ⟨hle, hlt⟩ := hi
    rw [List.length_append, List.length_singleton] at hle hlt
    refine ⟨by omega, ?_⟩
    rw [List.length_cons]
    omega
  have hcoloured := getElem?_namedCategories_of_variable (h.isVariable_cons_dollar hstart)
    (by rw [htext]; simp) hwithin hfree
  rw [hnamed] at hcoloured
  cases hcoloured

/-- Keywords and constants colour the whole words of their vocabularies, where these are plain and
stand behind no dollar sign. The hypotheses on `categories` say that painting has come as far as the
variables, and has not yet touched such a word. -/
theorem painted_word_iff {t : Token} (ht : t = .keyword ∨ t = .constant)
    {categories : List Category}
    (hplain : ∀ j : Nat, categories[j]? = some .plain → (namedCategories text)[j]? = some .plain)
    (hword : ∀ before word after, text = before ++ word ++ after →
      IsWordOf t.vocabulary before word after → ∀ j, Within before word j →
        (namedCategories text)[j]? = some .plain → categories[j]? = some .plain) :
    Painted t text categories i ↔
      (literalCategories text)[i]? = some .plain ∧
        ∃ before word after, text = before ++ word ++ after ∧
          IsWordOf t.vocabulary before word after ∧ Within before word i := by
  have hlen := length_literalCategories text
  constructor
  · intro hp
    have hnamed := hplain i (painted_plain hp)
    have hfree : (literalCategories text)[i]? = some .plain :=
      getElem?_of_paintToken hlen (by decide)
        (getElem?_of_paintToken (length_paintToken hlen) (by decide) hnamed)
    obtain ⟨c, hc, hi, -⟩ := hp
    obtain ⟨before, word, after, heq, rfl, hmem, hisWord⟩ :=
      Token.exists_isWord_of_mem_claims ht hc
    have hstarts := Token.isNameStart_of_mem_vocabulary hmem
    exact ⟨hfree, before, word, after, heq,
      ⟨hisWord, hmem, getLast?_ne_dollar_of_plain hisWord hstarts heq hi hfree hnamed⟩, hi⟩
  · rintro ⟨hfree, before, word, after, rfl, hof, hi⟩
    obtain ⟨hisWord, hmem, hdollar⟩ := hof
    have hclaim := (Token.claim?_word_eq_some_iff ht).2 ⟨word, after, rfl, rfl, hmem, hisWord⟩
    have hmemc := Token.mem_claims_of_claim? (by rcases ht with rfl | rfl <;> decide) hclaim
    rw [← List.append_assoc] at hmemc
    refine ⟨_, hmemc, hi, fun j hj => ?_⟩
    have hstarts := Token.isNameStart_of_mem_vocabulary hmem
    have hd : ∀ c ∈ word, isDelimiter c = false := fun c hc =>
      Token.isDelimiter_of_isNamePart (Token.isNamePart_of_isNameStart (hstarts c hc))
    apply hword before word after rfl ⟨hisWord, hmem, hdollar⟩ j hj
    rw [getElem?_namedCategories_of_word hisWord hstarts hdollar rfl hj,
      literalCategories_eq_of_run hd hj hi, hfree]

/-- No keyword is a constant, so the keywords leave the words of the constants alone. -/
theorem getElem?_paintToken_keyword_of_constant {before word after : List Char}
    (htext : text = before ++ word ++ after) (h : IsWord before word after)
    (hmem : word ∈ Token.constant.vocabulary) {j : Nat} (hj : Within before word j) :
    (paintToken text (namedCategories text) .keyword)[j]? = (namedCategories text)[j]? := by
  refine getElem?_paintToken_of_not_covers (length_namedCategories text) ?_
  intro c hc hcov
  obtain ⟨before', word', after', rfl, rfl, hmem', hword'⟩ :=
    Token.exists_isWord_of_mem_claims (.inl rfl) hc
  obtain rfl := hword'.unique h htext hcov hj
  exact Token.keywords_ne_constants hmem' hmem

theorem getElem?_categories_variableName :
    (categories text)[i]? = some .variableName ↔
      (literalCategories text)[i]? = some .plain ∧
        ∃ before name after, text = before ++ name ++ after ∧ IsVariable name after ∧
          Within before name i := by
  have hlast : (categories text)[i]? = some .variableName ↔
      (namedCategories text)[i]? = some .variableName :=
    @getElem?_foldl_paintToken text (namedCategories text) i [.keyword, .constant] .variableName
      (by decide) (by decide) (length_namedCategories text)
  rw [hlast]
  constructor
  · exact exists_variable_of_namedCategories
  · rintro ⟨hplain, before, name, after, htext, hname, hi⟩
    exact getElem?_namedCategories_of_variable hname htext hi hplain

theorem getElem?_categories_keyword :
    (categories text)[i]? = some .keyword ↔
      (literalCategories text)[i]? = some .plain ∧
        ∃ before word after, text = before ++ word ++ after ∧
          IsWordOf Php.keywords before word after ∧ Within before word i := by
  have hlen := length_namedCategories text
  have hlast : (categories text)[i]? = some .keyword ↔
      (paintToken text (namedCategories text) .keyword)[i]? = some .keyword :=
    @getElem?_foldl_paintToken text _ i [.constant] .keyword (by decide) (by decide)
      (length_paintToken hlen)
  have hnew : (namedCategories text)[i]? ≠ some .keyword :=
    getElem?_foldl_paintToken_ne (by decide) (by decide) (by decide)
  rw [hlast]
  refine (getElem?_paintToken_eq_category_iff hlen hnew).trans ?_
  exact painted_word_iff (.inl rfl) (fun _ h => h) (fun _ _ _ _ _ _ _ h => h)

theorem getElem?_categories_constant :
    (categories text)[i]? = some .constant ↔
      (literalCategories text)[i]? = some .plain ∧
        ∃ before word after, text = before ++ word ++ after ∧
          IsWordOf Php.constants before word after ∧ Within before word i := by
  have hlen := length_namedCategories text
  have hnew : (paintToken text (namedCategories text) .keyword)[i]? ≠ some .constant :=
    @getElem?_foldl_paintToken_ne text i [.number, .variableName, .keyword] .constant
      (by decide) (by decide) (by decide)
  refine (getElem?_paintToken_eq_category_iff (length_paintToken hlen) hnew).trans ?_
  refine painted_word_iff (.inr rfl) ?_ ?_
  · intro j h
    exact getElem?_of_paintToken hlen (by decide) h
  · intro before word after htext h j hj hplain
    rw [getElem?_paintToken_keyword_of_constant htext h.isWord h.mem hj, hplain]

end

/-- A byte is free exactly if its character is plain before the tokens are painted. -/
theorem isFree_iff_of_charIndex? {source : String} {b i : Nat}
    (h : charIndex? source.toList b = some i) (hi : i < source.toList.length) :
    IsFree source b ↔ (literalCategories source.toList)[i]? = some .plain := by
  have hlen := length_literalCategories source.toList
  have hmarked : ∀ k, k ≠ .plain → (∀ t ∈ Token.all, k ≠ t.category) →
      (Marked source b k ↔ (literalCategories source.toList)[i]? = some k) := by
    intro k hk hkt
    rw [marked_iff_categories, ← getElem?_foldl_paintToken hk hkt hlen, h]
    constructor
    · rintro ⟨j, hj, hcat⟩
      obtain rfl := Option.some.inj hj
      exact hcat
    · exact fun hcat => ⟨i, rfl, hcat⟩
  obtain ⟨k, hk⟩ : ∃ k, (literalCategories source.toList)[i]? = some k :=
    ⟨_, List.getElem?_eq_getElem (by omega)⟩
  rw [IsFree, hmarked .comment (by decide) (by decide), hmarked .stringLiteral (by decide)
    (by decide), hk]
  rcases category_of_literalCategories hk with rfl | rfl | rfl <;> simp

/-- What holds of the characters of a text by where they stand holds of the bytes. -/
theorem marked_iff_isFree {source : String} {b : Nat} {k : Category}
    {P : (before piece after : List Char) → Prop}
    (h : ∀ i : Nat, (categories source.toList)[i]? = some k ↔
      (literalCategories source.toList)[i]? = some .plain ∧
        ∃ before piece after, source.toList = before ++ piece ++ after ∧ P before piece after ∧
          Within before piece i) :
    Marked source b k ↔ IsFree source b ∧
      ∃ before piece after, source.toList = before ++ piece ++ after ∧ P before piece after ∧
        LiesIn before piece b := by
  rw [marked_iff_categories]
  constructor
  · rintro ⟨i, hi, hcat⟩
    obtain ⟨hplain, before, piece, after, heq, hp, hwithin⟩ := (h i).1 hcat
    have hfree := (isFree_iff_of_charIndex? hi (hwithin.lt_length heq)).2 hplain
    exact ⟨hfree, before, piece, after, heq, hp,
      (liesIn_iff_charIndex? heq b).2 ⟨i, hi, hwithin⟩⟩
  · rintro ⟨hfree, before, piece, after, heq, hp, hb⟩
    obtain ⟨i, hi, hwithin⟩ := (liesIn_iff_charIndex? heq b).1 hb
    have hplain := (isFree_iff_of_charIndex? hi (hwithin.lt_length heq)).1 hfree
    exact ⟨i, hi, (h i).2 ⟨hplain, before, piece, after, heq, hp, hwithin⟩⟩

/-- The marked keywords, constants and variables are all those that lie outside comments and
strings, as whole words or whole names. -/
theorem marked_words_iff (source : String) (b : Nat) :
    (Marked source b .keyword ↔ IsFree source b ∧ InWordOf Php.keywords source b) ∧
      (Marked source b .constant ↔ IsFree source b ∧ InWordOf Php.constants source b) ∧
      (Marked source b .variableName ↔ IsFree source b ∧ InVariable source b) := by
  refine ⟨?_, ?_, ?_⟩
  · exact marked_iff_isFree fun i => getElem?_categories_keyword
  · exact marked_iff_isFree fun i => getElem?_categories_constant
  · exact @marked_iff_isFree source b .variableName (fun _ name after => IsVariable name after)
      fun i => getElem?_categories_variableName

end Scratchpad.Highlight
