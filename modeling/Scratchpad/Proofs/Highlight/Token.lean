import Scratchpad.Highlight.Token

/-!
# Where tokens stand

`Token.claims` looks for each token behind the end of the one before. What it lists are claims of
`claim?` (`exists_of_mem_claims`), in ascending order and inside the text, and every place at which
`claim?` finds a token lies in a claim (`exists_claim_covers`). A variable, a keyword or a constant
never begins inside another one, so of these every occurrence is listed (`mem_claims_of_claim?`).

`IsWord` and `IsVariable` describe whole words and variables without a search, and
`variableLength?_eq_some_iff` and `wordLength?_eq_some_iff` say that these are what is found.
-/

namespace Scratchpad.Highlight

open Scratchpad.Text

/-- Between `before` and `after`, `word` is a longest run of word characters. -/
structure IsWord (before word after : List Char) : Prop where
  ne_nil : word ≠ []
  isWordCharacter : ∀ c ∈ word, isWordCharacter c = true
  starts : wordGoesOn before.getLast? = false
  ends : wordGoesOn after.head? = false

/-- In front of `after`, `name` is a dollar sign with the longest name that follows it. -/
structure IsVariable (name after : List Char) : Prop where
  exists_name : ∃ c rest, name = '$' :: c :: rest ∧ Token.isNameStart c = true ∧
    ∀ d ∈ rest, Token.isNamePart d = true
  ends : ∀ d, after.head? = some d → Token.isNamePart d = false

namespace Token

theorem isNamePart_of_isNameStart {c : Char} (h : isNameStart c = true) : isNamePart c = true := by
  simp only [isNameStart, isNamePart, Char.isAlphanum, Bool.or_eq_true] at h ⊢
  rcases h with h | h
  · exact .inl (.inl h)
  · exact .inr h

theorem toNat_of_isAlpha {c : Char} (h : c.isAlpha = true) :
    'A'.toNat ≤ c.toNat ∧ c.toNat ≤ 'z'.toNat := by
  rcases Bool.or_eq_true_iff.1 h with hupper | hlower
  · have hle : c.val ≥ 'A'.val ∧ c.val ≤ 'Z'.val := of_decide_eq_true hupper
    have hlast := UInt32.le_iff_toNat_le.1 hle.2
    exact ⟨UInt32.le_iff_toNat_le.1 hle.1, Nat.le_trans hlast (by decide)⟩
  · obtain ⟨hfirst, hlast⟩ := Bool.and_eq_true_iff.1 hlower
    have hfirst := UInt32.le_iff_toNat_le.1 (of_decide_eq_true hfirst)
    exact ⟨Nat.le_trans (by decide) hfirst, UInt32.le_iff_toNat_le.1 (of_decide_eq_true hlast)⟩

theorem isWordCharacter_of_isNamePart {c : Char} (h : isNamePart c = true) :
    isWordCharacter c = true := by
  have hascii : c.toNat < 0x80 := by
    rcases Bool.or_eq_true_iff.1 h with h | h
    · rcases Bool.or_eq_true_iff.1 h with h | h
      · exact Nat.lt_of_le_of_lt (toNat_of_isAlpha h).2 (by decide)
      · exact Nat.lt_of_le_of_lt (Char.isDigit_iff_toNat.1 h).2 (by decide)
    · rw [beq_iff_eq.1 h]
      decide
  rw [isWordCharacter_of_ascii hascii]
  exact h

/-- The text through a longest run of characters is a run of them, and then another one follows. -/
theorem takeWhile_append_of_head {p : Char → Bool} {run rest : List Char} (h : ∀ c ∈ run, p c = true)
    (hr : ∀ c, rest.head? = some c → p c = false) : (run ++ rest).takeWhile p = run := by
  rw [List.takeWhile_append_of_pos h]
  cases rest with
  | nil => simp
  | cons c rest => simp [hr c rfl]

theorem variableLength?_eq_some_iff {text : List Char} {n : Nat} :
    variableLength? text = some n ↔
      ∃ name after, text = name ++ after ∧ n = name.length ∧ IsVariable name after := by
  constructor
  · intro h
    unfold variableLength? at h
    split at h
    · next c rest =>
      split at h
      · next hc =>
        refine ⟨'$' :: c :: rest.takeWhile isNamePart, rest.dropWhile isNamePart, ?_, ?_, ?_⟩
        · simp [List.takeWhile_append_dropWhile]
        · rw [← Option.some.inj h, List.length_cons, List.length_cons]
          omega
        · refine ⟨⟨c, _, rfl, hc, List.all_eq_true.1 List.all_takeWhile⟩, ?_⟩
          intro d hd
          have hstop := List.head?_dropWhile_not isNamePart rest
          rw [hd] at hstop
          exact hstop
      · simp at h
    · simp at h
  · rintro ⟨name, after, rfl, rfl, ⟨c, rest, rfl, hc, hrest⟩, hends⟩
    have htake := takeWhile_append_of_head hrest hends
    simp only [List.cons_append, variableLength?, if_pos hc, htake, List.length_cons]
    congr 1
    omega

/-- A word matches at the front of a text if the text goes on there with no word character. -/
theorem matches_iff {word text : List Char} :
    (word.isPrefixOf text && wordEndsBefore (text.drop word.length)) = true ↔
      ∃ after, text = word ++ after ∧ wordGoesOn after.head? = false := by
  rw [Bool.and_eq_true, List.isPrefixOf_iff_prefix]
  constructor
  · rintro ⟨⟨after, rfl⟩, hends⟩
    exact ⟨after, rfl, by simpa [wordEndsBefore] using hends⟩
  · rintro ⟨after, rfl, hends⟩
    exact ⟨List.prefix_append word after, by simpa [wordEndsBefore] using hends⟩

theorem exists_of_wordLength? {vocabulary : List (List Char)} {text : List Char} {n : Nat}
    (h : wordLength? vocabulary text = some n) :
    ∃ word after, text = word ++ after ∧ n = word.length ∧ word ∈ vocabulary ∧
      wordGoesOn after.head? = false := by
  obtain ⟨word, hword, hsome⟩ := List.exists_of_findSome?_eq_some h
  split at hsome
  · next hmatches =>
    obtain ⟨after, rfl, hends⟩ := matches_iff.1 hmatches
    exact ⟨word, after, rfl, (Option.some.inj hsome).symm, hword, hends⟩
  · simp at hsome

/-- Words of which neither goes on are the same word at the front of the same text. -/
theorem eq_of_append_eq {word word' after after' : List Char}
    (heq : word ++ after = word' ++ after') (hw : ∀ c ∈ word, isWordCharacter c = true)
    (hw' : ∀ c ∈ word', isWordCharacter c = true) (hends : wordGoesOn after.head? = false)
    (hends' : wordGoesOn after'.head? = false) : word = word' := by
  have hrun : ∀ u v : List Char, (∀ c ∈ u, isWordCharacter c = true) →
      wordGoesOn v.head? = false → (u ++ v).takeWhile isWordCharacter = u := by
    intro u v hu hv
    refine takeWhile_append_of_head hu ?_
    intro c hc
    rw [hc] at hv
    exact hv
  have hword := hrun word after hw hends
  rw [heq, hrun word' after' hw' hends'] at hword
  exact hword.symm

theorem wordLength?_eq_some_iff {vocabulary : List (List Char)} {text : List Char} {n : Nat}
    (hv : ∀ w ∈ vocabulary, ∀ c ∈ w, isWordCharacter c = true) :
    wordLength? vocabulary text = some n ↔
      ∃ word after, text = word ++ after ∧ n = word.length ∧ word ∈ vocabulary ∧
        wordGoesOn after.head? = false := by
  constructor
  · exact exists_of_wordLength?
  · rintro ⟨word, after, rfl, rfl, hw, hends⟩
    cases hfind : wordLength? vocabulary (word ++ after) with
    | none =>
      have hnone := List.findSome?_eq_none_iff.1 hfind word hw
      rw [if_pos (matches_iff.2 ⟨after, rfl, hends⟩)] at hnone
      simp at hnone
    | some m =>
      obtain ⟨word', after', heq, rfl, hw', hends'⟩ := exists_of_wordLength? hfind
      rw [eq_of_append_eq heq (hv word hw) (hv word' hw') hends hends']

theorem fractionLength?_eq_some {text : List Char} {n : Nat} (h : fractionLength? text = some n) :
    ∃ digits rest, text = '.' :: (digits ++ rest) ∧ n = digits.length + 1 ∧
      ∀ c ∈ digits, c.isDigit = true := by
  unfold fractionLength? at h
  split at h
  · next rest =>
    split at h
    · simp at h
    · refine ⟨rest.takeWhile Char.isDigit, rest.dropWhile Char.isDigit, ?_, ?_, ?_⟩
      · rw [List.takeWhile_append_dropWhile]
      · rw [← Option.some.inj h, Nat.add_comm]
        rfl
      · exact List.all_eq_true.1 List.all_takeWhile
  · simp at h

/-- A number begins with digits, and what else it holds is a point and digits. -/
theorem numberLength?_eq_some {text : List Char} {n : Nat} (h : numberLength? text = some n) :
    ∃ d ds rest, text = d :: ds ++ rest ∧ n = (d :: ds).length ∧ d.isDigit = true ∧
      ∀ c ∈ ds, c.isDigit = true ∨ c = '.' := by
  have hsplit : text.takeWhile Char.isDigit ++ text.dropWhile Char.isDigit = text :=
    List.takeWhile_append_dropWhile
  have hdigits : ∀ c ∈ text.takeWhile Char.isDigit, c.isDigit = true :=
    List.all_eq_true.1 List.all_takeWhile
  have hdrop : text.drop (digitsLength text) = text.dropWhile Char.isDigit := by
    have hleft := @List.drop_left _ (text.takeWhile Char.isDigit) (text.dropWhile Char.isDigit)
    rwa [hsplit] at hleft
  unfold numberLength? at h
  simp only [hdrop] at h
  split at h
  · simp at h
  · next hne =>
    obtain ⟨d, ds, hwhole⟩ : ∃ d ds, text.takeWhile Char.isDigit = d :: ds :=
      List.exists_cons_of_length_pos (Nat.pos_of_ne_zero hne)
    have hlen : digitsLength text = (d :: ds).length := by rw [← hwhole]; rfl
    rw [hwhole] at hsplit hdigits
    have hd : d.isDigit = true := hdigits d List.mem_cons_self
    have hds : ∀ c ∈ ds, c.isDigit = true ∨ c = '.' := fun c hc =>
      .inl (hdigits c (List.mem_cons_of_mem d hc))
    have hshort : n = digitsLength text → ∃ d ds rest, text = d :: ds ++ rest ∧
        n = (d :: ds).length ∧ d.isDigit = true ∧ ∀ c ∈ ds, c.isDigit = true ∨ c = '.' := by
      intro hn
      exact ⟨d, ds, _, hsplit.symm, hn.trans hlen, hd, hds⟩
    split at h
    · next m hm =>
      split at h
      · obtain ⟨frac, rest, hrest, rfl, hfrac⟩ := fractionLength?_eq_some hm
        refine ⟨d, ds ++ '.' :: frac, rest, ?_, ?_, hd, ?_⟩
        · rw [← hsplit, hrest]
          simp
        · rw [← Option.some.inj h, hlen]
          simp only [List.length_cons, List.length_append]
          omega
        · intro c hc
          rcases List.mem_append.1 hc with hc | hc
          · exact hds c hc
          · rcases List.mem_cons.1 hc with rfl | hc
            · exact .inr rfl
            · exact .inl (hfrac c hc)
      · split at h
        · exact hshort (Option.some.inj h).symm
        · simp at h
    · split at h
      · exact hshort (Option.some.inj h).symm
      · simp at h

/-- The words of both vocabularies are not empty and hold only letters and low lines. -/
theorem vocabulary_words {word : List Char} (h : word ∈ Php.keywords ∨ word ∈ Php.constants) :
    word ≠ [] ∧ ∀ c ∈ word, isNameStart c = true := by
  have hk : Php.keywords.all (fun w => !w.isEmpty && w.all isNameStart) = true := by decide +kernel
  have hc : Php.constants.all (fun w => !w.isEmpty && w.all isNameStart) = true := by decide +kernel
  have hword : (!word.isEmpty && word.all isNameStart) = true := by
    rcases h with h | h
    · exact List.all_eq_true.1 hk word h
    · exact List.all_eq_true.1 hc word h
  rw [Bool.and_eq_true, Bool.not_eq_true', List.isEmpty_eq_false_iff, List.all_eq_true] at hword
  exact hword

theorem wordLength?_pos_le {vocabulary : List (List Char)} {text : List Char} {n : Nat}
    (hv : ∀ w ∈ vocabulary, w ≠ []) (h : wordLength? vocabulary text = some n) :
    0 < n ∧ n ≤ text.length := by
  obtain ⟨word, after, rfl, rfl, hword, -⟩ := exists_of_wordLength? h
  refine ⟨List.length_pos_iff.2 (hv word hword), ?_⟩
  rw [List.length_append]
  exact Nat.le_add_right _ _

/-- A token takes a character at least, and no more than there are. -/
theorem claim?_pos_le {t : Token} {before : Option Char} {text : List Char} {n : Nat}
    (h : t.claim? before text = some n) : 0 < n ∧ n ≤ text.length := by
  cases t with
  | number =>
    simp only [claim?] at h
    split at h
    · simp at h
    · obtain ⟨d, ds, rest, rfl, rfl, -⟩ := numberLength?_eq_some h
      simp
  | variableName =>
    obtain ⟨name, after, rfl, rfl, ⟨c, rest, rfl, -⟩, -⟩ := variableLength?_eq_some_iff.1 h
    simp
  | keyword =>
    simp only [claim?] at h
    split at h
    · simp at h
    · exact wordLength?_pos_le (fun w hw => (vocabulary_words (.inl hw)).1) h
  | constant =>
    simp only [claim?] at h
    split at h
    · simp at h
    · exact wordLength?_pos_le (fun w hw => (vocabulary_words (.inr hw)).1) h

/-- What is listed was found: here the text before is `done`, of which the last `busy` characters
are still to come. -/
theorem exists_of_mem_claimsFrom {t : Token} {done text : List Char} {busy : Nat} {c : Claim}
    (h : c ∈ t.claimsFrom done.getLast? done.length busy text) :
    ∃ before rest, done ++ text = before ++ rest ∧ c.start = before.length ∧
      t.claim? before.getLast? rest = some c.length := by
  induction text generalizing done busy with
  | nil => simp [claimsFrom] at h
  | cons d text ih =>
    have hnext := @ih (done ++ [d])
    simp only [List.getLast?_concat, List.length_append, List.length_singleton, List.append_assoc,
      List.singleton_append] at hnext
    cases busy with
    | succ k => exact hnext h
    | zero =>
      rw [claimsFrom] at h
      split at h
      · next n hn =>
        rcases List.mem_cons.1 h with rfl | h
        · exact ⟨done, d :: text, rfl, rfl, hn⟩
        · exact hnext h
      · exact hnext h

theorem exists_of_mem_claims {t : Token} {text : List Char} {c : Claim} (h : c ∈ t.claims text) :
    ∃ before rest, text = before ++ rest ∧ c.start = before.length ∧
      t.claim? before.getLast? rest = some c.length :=
  @exists_of_mem_claimsFrom t [] text 0 c h

theorem stop_le_of_mem_claims {t : Token} {text : List Char} {c : Claim} (h : c ∈ t.claims text) :
    c.stop ≤ text.length := by
  obtain ⟨before, rest, rfl, hstart, hclaim⟩ := exists_of_mem_claims h
  have hle := (claim?_pos_le hclaim).2
  rw [Claim.stop, List.length_append]
  omega

theorem ascending_claimsFrom (t : Token) (before : Option Char) (pos busy : Nat)
    (text : List Char) : Claim.Ascending (pos + busy) (t.claimsFrom before pos busy text) := by
  induction text generalizing before pos busy with
  | nil => trivial
  | cons c text ih =>
    cases busy with
    | succ k =>
      have hk : pos + (k + 1) = pos + 1 + k := by omega
      rw [hk]
      exact ih (some c) (pos + 1) k
    | zero =>
      rw [claimsFrom]
      split
      · next n hn =>
        have hpos := (claim?_pos_le hn).1
        have hk : pos + 1 + (n - 1) = pos + n := by omega
        have htail := ih (some c) (pos + 1) (n - 1)
        rw [hk] at htail
        exact ⟨Nat.le_refl pos, hpos, htail⟩
      · exact (ih (some c) (pos + 1) 0).mono (Nat.le_succ pos)

theorem ascending_claims (t : Token) (text : List Char) : Claim.Ascending 0 (t.claims text) :=
  ascending_claimsFrom t none 0 0 text

/-- A place at which a token is found is passed over only inside an earlier claim. -/
theorem exists_covers_of_claimsFrom {t : Token} {done middle rest : List Char} {busy n : Nat}
    (h : t.claim? (done ++ middle).getLast? rest = some n) :
    (∃ c ∈ t.claimsFrom done.getLast? done.length busy (middle ++ rest),
        c.Covers (done ++ middle).length) ∨ middle.length < busy := by
  induction middle generalizing done busy with
  | nil =>
    cases rest with
    | nil =>
      have := claim?_pos_le h
      simp at this
      omega
    | cons d rest =>
      cases busy with
      | succ k => exact .inr (Nat.succ_pos k)
      | zero =>
        rw [List.append_nil] at h
        refine .inl ⟨⟨done.length, n⟩, ?_, ?_⟩
        · rw [List.nil_append, claimsFrom, h]
          exact List.mem_cons_self
        · rw [List.append_nil]
          exact ⟨Nat.le_refl _, Nat.lt_add_of_pos_right (claim?_pos_le h).1⟩
  | cons d middle ih =>
    have hassoc : done ++ d :: middle = done ++ [d] ++ middle := by simp
    have hlen : done.length + 1 = (done ++ [d]).length := by simp
    rw [hassoc] at h ⊢
    have hlast : (done ++ [d]).getLast? = some d := List.getLast?_concat
    cases busy with
    | succ k =>
      rcases @ih (done ++ [d]) k h with hc | hlt
      · left
        rw [hlast] at hc
        simpa only [List.cons_append, claimsFrom, hlen] using hc
      · exact .inr (Nat.succ_lt_succ hlt)
    | zero =>
      left
      rw [List.cons_append, claimsFrom, ← hlast, hlen]
      split
      · next m hm =>
        rcases @ih (done ++ [d]) (m - 1) h with ⟨c, hc, hcov⟩ | hlt
        · exact ⟨c, List.mem_cons_of_mem _ hc, hcov⟩
        · refine ⟨⟨done.length, m⟩, List.mem_cons_self, ?_, ?_⟩
          · simp only [List.length_append]
            omega
          · simp only [Claim.stop, List.length_append, List.length_singleton]
            omega
      · rcases @ih (done ++ [d]) 0 h with hc | hlt
        · exact hc
        · exact absurd hlt (Nat.not_lt_zero _)

theorem exists_claim_covers {t : Token} {before rest : List Char} {n : Nat}
    (h : t.claim? before.getLast? rest = some n) :
    ∃ c ∈ t.claims (before ++ rest), c.Covers before.length := by
  rcases @exists_covers_of_claimsFrom t [] before rest 0 n h with hc | hlt
  · exact hc
  · exact absurd hlt (Nat.not_lt_zero _)

/-- The words of the vocabulary of a token; numbers and variables have none. -/
def vocabulary : Token → List (List Char)
  | keyword => Php.keywords
  | constant => Php.constants
  | number => []
  | variableName => []

theorem vocabulary_ne_nil {t : Token} {word : List Char} (h : word ∈ t.vocabulary) : word ≠ [] := by
  cases t with
  | number => simp [vocabulary] at h
  | variableName => simp [vocabulary] at h
  | keyword => exact (vocabulary_words (.inl h)).1
  | constant => exact (vocabulary_words (.inr h)).1

theorem isNameStart_of_mem_vocabulary {t : Token} {word : List Char} (h : word ∈ t.vocabulary) :
    ∀ c ∈ word, isNameStart c = true := by
  cases t with
  | number => simp [vocabulary] at h
  | variableName => simp [vocabulary] at h
  | keyword => exact (vocabulary_words (.inl h)).2
  | constant => exact (vocabulary_words (.inr h)).2

theorem isWordCharacter_of_mem_vocabulary {t : Token} {word : List Char} (h : word ∈ t.vocabulary) :
    ∀ c ∈ word, isWordCharacter c = true := by
  intro c hc
  have hstart := isNameStart_of_mem_vocabulary h c hc
  exact isWordCharacter_of_isNamePart (isNamePart_of_isNameStart hstart)

theorem keywords_ne_constants {word : List Char} (h : word ∈ keyword.vocabulary) :
    word ∉ constant.vocabulary := by
  have hdisjoint : ∀ w ∈ Php.keywords, w ∉ Php.constants := by decide +kernel
  exact hdisjoint word h

/-- What a keyword or a constant claims is a whole word of its vocabulary. -/
theorem claim?_word_eq_some_iff {t : Token} (ht : t = keyword ∨ t = constant)
    {before text : List Char} {n : Nat} :
    t.claim? before.getLast? text = some n ↔
      ∃ word after, text = word ++ after ∧ n = word.length ∧ word ∈ t.vocabulary ∧
        IsWord before word after := by
  have hv : ∀ w ∈ t.vocabulary, ∀ c ∈ w, isWordCharacter c = true :=
    fun w hw => isWordCharacter_of_mem_vocabulary hw
  have hclaim : t.claim? before.getLast? text =
      if wordGoesOn before.getLast? then none else wordLength? t.vocabulary text := by
    rcases ht with rfl | rfl <;> rfl
  have hlen := @wordLength?_eq_some_iff t.vocabulary text n hv
  rw [hclaim]
  cases hb : wordGoesOn before.getLast? with
  | true =>
    simp only [if_true, reduceCtorEq, false_iff]
    rintro ⟨word, after, -, -, -, hword⟩
    rw [hword.starts] at hb
    exact absurd hb Bool.false_ne_true
  | false =>
    simp only [Bool.false_eq_true, if_false, hlen]
    constructor
    · rintro ⟨word, after, htext, hn, hw, hends⟩
      exact ⟨word, after, htext, hn, hw, vocabulary_ne_nil hw, hv word hw, hb, hends⟩
    · rintro ⟨word, after, htext, hn, hw, hword⟩
      exact ⟨word, after, htext, hn, hw, hword.ends⟩

theorem exists_isVariable_of_mem_claims {text : List Char} {c : Claim}
    (h : c ∈ variableName.claims text) :
    ∃ before name after, text = before ++ name ++ after ∧ c = ⟨before.length, name.length⟩ ∧
      IsVariable name after := by
  obtain ⟨before, rest, rfl, hstart, hclaim⟩ := exists_of_mem_claims h
  obtain ⟨name, after, rfl, hlength, hname⟩ := variableLength?_eq_some_iff.1 hclaim
  refine ⟨before, name, after, (List.append_assoc _ _ _).symm, ?_, hname⟩
  rw [← hstart, ← hlength]

theorem exists_isWord_of_mem_claims {t : Token} (ht : t = keyword ∨ t = constant)
    {text : List Char} {c : Claim} (h : c ∈ t.claims text) :
    ∃ before word after, text = before ++ word ++ after ∧ c = ⟨before.length, word.length⟩ ∧
      word ∈ t.vocabulary ∧ IsWord before word after := by
  obtain ⟨before, rest, rfl, hstart, hclaim⟩ := exists_of_mem_claims h
  obtain ⟨word, after, rfl, hlength, hmem, hword⟩ := (claim?_word_eq_some_iff ht).1 hclaim
  refine ⟨before, word, after, (List.append_assoc _ _ _).symm, ?_, hmem, hword⟩
  rw [← hstart, ← hlength]

/-- A piece that reaches past `front` goes on behind it. -/
theorem exists_of_length_lt {front back piece after : List Char}
    (heq : front ++ back = piece ++ after) (h : front.length < piece.length) :
    ∃ d ds, piece = front ++ d :: ds ∧ back = d :: (ds ++ after) := by
  rcases List.append_eq_append_iff.1 heq with ⟨as, rfl, rfl⟩ | ⟨cs, rfl, -⟩
  · cases as with
    | nil => simp at h
    | cons d ds => exact ⟨d, ds, rfl, rfl⟩
  · rw [List.length_append] at h
    omega

/-- Behind its first character a variable holds no dollar sign, and so no other variable. -/
theorem variableName_inside_eq_none {before front back : List Char} {n : Nat}
    (h : variableName.claim? before.getLast? (front ++ back) = some n) (hf : front ≠ [])
    (hn : front.length < n) : variableName.claim? (before ++ front).getLast? back = none := by
  obtain ⟨name, after, heq, rfl, ⟨c, rest, hname, hc, hrest⟩, -⟩ :=
    variableLength?_eq_some_iff.1 h
  obtain ⟨d, ds, hd, rfl⟩ := exists_of_length_lt heq hn
  cases hclaim : variableName.claim? (before ++ front).getLast? (d :: (ds ++ after)) with
  | none => rfl
  | some m =>
    obtain ⟨name', after', heq', -, ⟨c', rest', hname', -⟩, -⟩ :=
      variableLength?_eq_some_iff.1 hclaim
    rw [hname', List.cons_append] at heq'
    obtain ⟨rfl, -⟩ := List.cons.inj heq'
    cases front with
    | nil => exact absurd rfl hf
    | cons f front =>
      rw [hname, List.cons_append] at hd
      have hmem : '$' ∈ c :: rest := by
        rw [(List.cons.inj hd).2]
        simp
      rcases List.mem_cons.1 hmem with rfl | hmem
      · exact absurd hc (by decide)
      · exact absurd (hrest '$' hmem) (by decide)

/-- Behind the first character of a word stands a word character, so no other word begins there. -/
theorem word_inside_eq_none {t : Token} (ht : t = keyword ∨ t = constant)
    {before front back : List Char} {n : Nat}
    (h : t.claim? before.getLast? (front ++ back) = some n) (hf : front ≠ [])
    (hn : front.length < n) : t.claim? (before ++ front).getLast? back = none := by
  obtain ⟨word, after, heq, rfl, -, hword⟩ := (claim?_word_eq_some_iff ht).1 h
  obtain ⟨d, ds, rfl, rfl⟩ := exists_of_length_lt heq hn
  cases hclaim : t.claim? (before ++ front).getLast? (d :: (ds ++ after)) with
  | none => rfl
  | some m =>
    obtain ⟨_, _, _, _, _, hword'⟩ := (claim?_word_eq_some_iff ht).1 hclaim
    have hlast : isWordCharacter (front.getLast hf) = true :=
      hword.isWordCharacter _ (List.mem_append_left _ (List.getLast_mem hf))
    have hstarts := hword'.starts
    rw [List.getLast?_append, List.getLast?_eq_some_getLast hf, Option.some_or, wordGoesOn_some,
      hlast] at hstarts
    exact absurd hstarts.symm Bool.false_ne_true

/-- Inside a variable, a keyword or a constant no other one of its kind begins. -/
theorem claim?_inside_eq_none {t : Token} (ht : t ≠ number) {before front back : List Char} {n : Nat}
    (h : t.claim? before.getLast? (front ++ back) = some n) (hf : front ≠ [])
    (hn : front.length < n) : t.claim? (before ++ front).getLast? back = none := by
  cases t with
  | number => exact absurd rfl ht
  | variableName => exact variableName_inside_eq_none h hf hn
  | keyword => exact word_inside_eq_none (.inl rfl) h hf hn
  | constant => exact word_inside_eq_none (.inr rfl) h hf hn

/-- Of variables, keywords and constants every occurrence is listed. -/
theorem mem_claims_of_claim? {t : Token} (ht : t ≠ number) {before rest : List Char} {n : Nat}
    (h : t.claim? before.getLast? rest = some n) :
    ⟨before.length, n⟩ ∈ t.claims (before ++ rest) := by
  obtain ⟨c, hc, hle, hlt⟩ := exists_claim_covers h
  obtain ⟨before', rest', htext, hstart, hclaim⟩ := exists_of_mem_claims hc
  have hsplit : ∃ front, before = before' ++ front ∧ rest' = front ++ rest := by
    rcases List.append_eq_append_iff.1 htext with ⟨as, rfl, rfl⟩ | ⟨front, rfl, rfl⟩
    · have : as = [] := by
        rw [hstart, List.length_append] at hle
        exact List.length_eq_zero_iff.1 (by omega)
      subst this
      exact ⟨[], by simp, by simp⟩
    · exact ⟨front, rfl, rfl⟩
  obtain ⟨front, rfl, rfl⟩ := hsplit
  by_cases hf : front = []
  · subst hf
    rw [List.append_nil] at h ⊢
    rw [List.nil_append] at hclaim
    have hn : c.length = n := Option.some.inj (hclaim.symm.trans h)
    rw [← hstart, ← hn]
    simpa using hc
  · have hn : front.length < c.length := by
      rw [List.length_append, Claim.stop] at hlt
      omega
    rw [claim?_inside_eq_none ht hclaim hf hn] at h
    simp at h

end Token

end Scratchpad.Highlight
