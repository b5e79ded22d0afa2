import Scratchpad.Proofs.Highlight.Painting

/-!
# Tokens and line feeds

No token holds a line feed, and a word ends in front of one just as it ends at the end of the text.
So what a token claims in a line does not depend on what comes behind the line feed
(`claim?_append_lineFeed`), and behind it the search begins afresh. For texts that end with a line
feed, or are empty, this makes claims and painting compositional: `claims_append` and
`foldl_paintToken_append`.
-/

namespace Scratchpad.Highlight

open Scratchpad.Text

/-- The text is empty or ends with a line feed. -/
def EndsLine (text : List Char) : Prop := text = [] ∨ text.getLast? = some '\n'

instance (text : List Char) : Decidable (EndsLine text) := inferInstanceAs (Decidable (_ ∨ _))

namespace Claim

/-- The claim of the same length `n` characters later. -/
def shift (n : Nat) (c : Claim) : Claim := ⟨c.start + n, c.length⟩

@[simp] theorem start_shift (n : Nat) (c : Claim) : (c.shift n).start = c.start + n := rfl

@[simp] theorem length_shift (n : Nat) (c : Claim) : (c.shift n).length = c.length := rfl

theorem stop_shift (n : Nat) (c : Claim) : (c.shift n).stop = c.stop + n := by
  rw [stop, stop, start_shift, length_shift, Nat.add_right_comm]

end Claim

theorem isWordCharacter_lineFeed : isWordCharacter '\n' = false := by decide

namespace Token

variable {line rest : List Char}

/-! ### At the front of a line -/

theorem takeWhile_append_lineFeed {p : Char → Bool} (hp : p '\n' = false) :
    (line ++ '\n' :: rest).takeWhile p = line.takeWhile p := by
  induction line with
  | nil => simp [hp]
  | cons c line ih => simp only [List.cons_append, List.takeWhile_cons, ih]

theorem digitsLength_append_lineFeed : digitsLength (line ++ '\n' :: rest) = digitsLength line := by
  rw [digitsLength, takeWhile_append_lineFeed (by decide), digitsLength]

theorem wordGoesOn_append_lineFeed :
    wordGoesOn (line ++ '\n' :: rest).head? = wordGoesOn line.head? := by
  cases line with
  | nil => exact isWordCharacter_lineFeed
  | cons c line => rfl

theorem wordEndsBefore_append_lineFeed :
    wordEndsBefore (line ++ '\n' :: rest) = wordEndsBefore line := by
  rw [wordEndsBefore, wordGoesOn_append_lineFeed, wordEndsBefore]

theorem fractionLength?_append_lineFeed :
    fractionLength? (line ++ '\n' :: rest) = fractionLength? line := by
  cases line with
  | nil => rfl
  | cons c line =>
    by_cases hc : c = '.'
    · subst hc
      simp only [List.cons_append, fractionLength?, digitsLength_append_lineFeed]
    · simp [fractionLength?, hc]

theorem numberLength?_append_lineFeed :
    numberLength? (line ++ '\n' :: rest) = numberLength? line := by
  have hwhole : digitsLength line ≤ line.length := (List.takeWhile_prefix _).length_le
  simp only [numberLength?, digitsLength_append_lineFeed, List.drop_append_of_le_length hwhole,
    fractionLength?_append_lineFeed, wordEndsBefore_append_lineFeed]
  cases hfrac : fractionLength? (line.drop (digitsLength line)) with
  | none => rfl
  | some n =>
    obtain ⟨digits, after, hdrop, rfl, -⟩ := fractionLength?_eq_some hfrac
    have hn : digits.length + 1 ≤ (line.drop (digitsLength line)).length := by
      rw [hdrop, List.length_cons, List.length_append]
      omega
    simp only [List.drop_append_of_le_length hn, wordEndsBefore_append_lineFeed]

theorem variableLength?_append_lineFeed :
    variableLength? (line ++ '\n' :: rest) = variableLength? line := by
  match line with
  | [] => rfl
  | [c] =>
    by_cases hc : c = '$'
    · subst hc
      rfl
    · simp [variableLength?, hc]
  | c :: d :: line =>
    by_cases hc : c = '$'
    · subst hc
      simp only [List.cons_append, variableLength?,
        takeWhile_append_lineFeed (show isNamePart '\n' = false by decide)]
    · simp [variableLength?, hc]

/-- A piece without a line feed at the front of a text stands in the first line. -/
theorem exists_of_append_lineFeed {piece after : List Char}
    (heq : line ++ '\n' :: rest = piece ++ after) (hp : '\n' ∉ piece) :
    ∃ more, line = piece ++ more ∧ after = more ++ '\n' :: rest := by
  rcases List.append_eq_append_iff.1 heq with ⟨more, rfl, hmore⟩ | hmore
  · cases more with
    | nil => exact ⟨[], by simp, hmore.symm⟩
    | cons c more =>
      obtain ⟨rfl, -⟩ := List.cons.inj hmore
      simp at hp
  · exact hmore

theorem wordLength?_append_lineFeed (t : Token) :
    wordLength? t.vocabulary (line ++ '\n' :: rest) = wordLength? t.vocabulary line := by
  have hv : ∀ w ∈ t.vocabulary, ∀ c ∈ w, isWordCharacter c = true :=
    fun w hw => isWordCharacter_of_mem_vocabulary hw
  ext n
  rw [wordLength?_eq_some_iff hv, wordLength?_eq_some_iff hv]
  constructor
  · rintro ⟨word, after, heq, hn, hw, hends⟩
    have hlineFeed : '\n' ∉ word := fun hmem =>
      Bool.false_ne_true (isWordCharacter_lineFeed.symm.trans (hv word hw '\n' hmem))
    obtain ⟨more, rfl, rfl⟩ := exists_of_append_lineFeed heq hlineFeed
    rw [wordGoesOn_append_lineFeed] at hends
    exact ⟨word, more, rfl, hn, hw, hends⟩
  · rintro ⟨word, after, rfl, hn, hw, hends⟩
    rw [← @wordGoesOn_append_lineFeed after rest] at hends
    exact ⟨word, _, List.append_assoc _ _ _, hn, hw, hends⟩

/-- What a token claims at the front of a line depends on this line alone. -/
theorem claim?_append_lineFeed (t : Token) (before : Option Char) :
    t.claim? before (line ++ '\n' :: rest) = t.claim? before line := by
  have hword := @wordLength?_append_lineFeed line rest t
  cases t with
  | number => rw [claim?, claim?, numberLength?_append_lineFeed]
  | variableName => exact variableLength?_append_lineFeed
  | keyword => exact congrArg (if wordGoesOn before then none else ·) hword
  | constant => exact congrArg (if wordGoesOn before then none else ·) hword

theorem claim?_behind_lineFeed (t : Token) (text : List Char) :
    t.claim? (some '\n') text = t.claim? none text := by
  have hnone : wordGoesOn (some '\n') = wordGoesOn none := isWordCharacter_lineFeed
  cases t with
  | number => rw [claim?, claim?, hnone]
  | variableName => rfl
  | keyword => rw [claim?, claim?, hnone]
  | constant => rw [claim?, claim?, hnone]

/-! ### Line by line -/

theorem claim?_nil (t : Token) (before : Option Char) : t.claim? before [] = none := by
  cases hclaim : t.claim? before [] with
  | none => rfl
  | some n =>
    have hle := claim?_pos_le hclaim
    exact absurd hle.1 (Nat.not_lt.2 hle.2)

theorem claimsFrom_behind_lineFeed (t : Token) (pos : Nat) (text : List Char) :
    t.claimsFrom (some '\n') pos 0 text = t.claimsFrom none pos 0 text := by
  cases text with
  | nil => rfl
  | cons c text => rw [claimsFrom, claimsFrom, claim?_behind_lineFeed]

/-- The search for tokens goes through a line as if nothing followed, and begins afresh behind the
line feed. No claim is busy there, because none reaches beyond the line. -/
theorem claimsFrom_append_lineFeed (t : Token) (before : Option Char) (pos : Nat) {busy : Nat}
    (hbusy : busy ≤ line.length) :
    t.claimsFrom before pos busy (line ++ '\n' :: rest) =
      t.claimsFrom before pos busy line ++ t.claimsFrom none (pos + line.length + 1) 0 rest := by
  induction line generalizing before pos busy with
  | nil =>
    obtain rfl : busy = 0 := Nat.le_zero.1 hbusy
    have hclaim : t.claim? before ('\n' :: rest) = none :=
      (@claim?_append_lineFeed [] rest t before).trans (t.claim?_nil before)
    rw [List.nil_append, claimsFrom, claimsFrom, hclaim]
    exact claimsFrom_behind_lineFeed t (pos + 1) rest
  | cons c line ih =>
    have hpos : pos + 1 + line.length + 1 = pos + (c :: line).length + 1 := by
      rw [List.length_cons]
      omega
    cases busy with
    | succ k =>
      rw [List.cons_append, claimsFrom, ih _ _ (Nat.le_of_succ_le_succ hbusy), hpos]
      rfl
    | zero =>
      have hclaim := @claim?_append_lineFeed (c :: line) rest t before
      rw [List.cons_append] at hclaim ⊢
      rw [claimsFrom, claimsFrom, hclaim]
      cases hfound : t.claim? before (c :: line) with
      | none => rw [ih _ _ (Nat.zero_le _), hpos]
      | some n =>
        have hle := (claim?_pos_le hfound).2
        rw [List.length_cons] at hle
        simp only
        rw [ih _ _ (by omega), hpos]
        rfl

theorem claimsFrom_add (t : Token) (before : Option Char) (pos busy n : Nat) (text : List Char) :
    t.claimsFrom before (pos + n) busy text = (t.claimsFrom before pos busy text).map (.shift n) := by
  induction text generalizing before pos busy with
  | nil => rfl
  | cons c text ih =>
    have hpos : pos + n + 1 = pos + 1 + n := Nat.add_right_comm pos n 1
    cases busy with
    | succ k => rw [claimsFrom, claimsFrom, hpos, ih]
    | zero =>
      rw [claimsFrom, claimsFrom, hpos]
      cases t.claim? before (c :: text) with
      | none => exact ih _ _ _
      | some m =>
        simp only
        rw [ih, List.map_cons, Claim.shift]

/-- The tokens of complete lines and of what follows are those of both parts. -/
theorem claims_append {a : List Char} (ha : EndsLine a) (t : Token) (b : List Char) :
    t.claims (a ++ b) = t.claims a ++ (t.claims b).map (.shift a.length) := by
  rcases ha with rfl | ha
  · have hzero : Claim.shift 0 = id := funext fun c => rfl
    simp [claims, claimsFrom, hzero]
  · obtain ⟨line, rfl⟩ := List.getLast?_eq_some_iff.1 ha
    have hlines : ∀ rest, t.claims (line ++ '\n' :: rest) =
        t.claims line ++ t.claimsFrom none (0 + (line.length + 1)) 0 rest := by
      intro rest
      have hsplit := @claimsFrom_append_lineFeed line rest t none 0 0 (Nat.zero_le _)
      rwa [Nat.add_assoc] at hsplit
    rw [List.append_assoc, List.singleton_append, hlines, hlines, claimsFrom_add, claimsFrom,
      List.append_nil, List.length_append, List.length_singleton]
    rfl

end Token

/-! ### Painting -/

theorem paintClaims_shift (k : Category) (pos n : Nat) (cs : List Claim)
    (categories : List Category) :
    paintClaims k (pos + n) (cs.map (.shift n)) categories = paintClaims k pos cs categories := by
  induction cs generalizing pos categories with
  | nil => rfl
  | cons c cs ih =>
    rw [List.map_cons, paintClaims, paintClaims, Claim.start_shift, Claim.length_shift,
      Claim.stop_shift, ih, Nat.add_sub_add_right]

/-- Claims in the first part of a text and claims behind it paint each their part. -/
theorem paintClaims_append (k : Category) {pos : Nat} {cs ds : List Claim} {p : List Category}
    (ha : Claim.Ascending pos cs) (hstop : ∀ c ∈ cs, c.stop ≤ pos + p.length)
    (hstart : ∀ d ∈ ds, pos + p.length ≤ d.start) (q : List Category) :
    paintClaims k pos (cs ++ ds) (p ++ q) =
      paintClaims k pos cs p ++ paintClaims k (pos + p.length) ds q := by
  induction cs generalizing pos p with
  | nil =>
    cases ds with
    | nil => rfl
    | cons d ds =>
      have hd := hstart d List.mem_cons_self
      have hsub : d.start - pos - p.length = d.start - (pos + p.length) := Nat.sub_sub _ _ _
      have hle : p.length ≤ d.start - pos := by omega
      rw [List.nil_append, paintClaims, paintClaims, paintClaims, List.take_append, List.drop_append,
        List.take_of_length_le hle, List.drop_of_length_le hle, hsub, List.nil_append,
        List.append_assoc, List.append_assoc, List.append_assoc]
  | cons c cs ih =>
    obtain ⟨hle, -, htail⟩ := ha
    have hc := hstop c List.mem_cons_self
    have hs : c.stop = c.start + c.length := rfl
    have hfront : c.start - pos ≤ p.length := by omega
    have hrun : c.length ≤ (p.drop (c.start - pos)).length := by
      rw [List.length_drop]
      omega
    have hpos : c.stop + ((p.drop (c.start - pos)).drop c.length).length = pos + p.length := by
      rw [List.length_drop, List.length_drop]
      omega
    have hrest := ih htail (p := (p.drop (c.start - pos)).drop c.length)
    rw [hpos] at hrest
    rw [List.cons_append, paintClaims, paintClaims, List.take_append_of_le_length hfront,
      List.drop_append_of_le_length hfront, List.take_append_of_le_length hrun,
      List.drop_append_of_le_length hrun,
      hrest (fun d hd => hstop d (List.mem_cons_of_mem c hd)) hstart, List.append_assoc,
      List.append_assoc, List.append_assoc]

section

variable {a b : List Char} {p q : List Category}

theorem paintToken_append (ha : EndsLine a) (hp : p.length = a.length) (t : Token) :
    paintToken (a ++ b) (p ++ q) t = paintToken a p t ++ paintToken b q t := by
  have hstop : ∀ c ∈ t.claims a, c.stop ≤ 0 + p.length := by
    intro c hc
    rw [Nat.zero_add, hp]
    exact Token.stop_le_of_mem_claims hc
  have hstart : ∀ d ∈ (t.claims b).map (Claim.shift a.length), 0 + p.length ≤ d.start := by
    intro d hd
    obtain ⟨c, -, rfl⟩ := List.mem_map.1 hd
    rw [Nat.zero_add, hp, Claim.start_shift]
    exact Nat.le_add_left _ _
  rw [paintToken, Token.claims_append ha, paintClaims_append _ (t.ascending_claims a) hstop hstart,
    hp, paintClaims_shift, paintToken, paintToken]

theorem foldl_paintToken_append (ha : EndsLine a) (hp : p.length = a.length) (order : List Token) :
    order.foldl (paintToken (a ++ b)) (p ++ q) =
      order.foldl (paintToken a) p ++ order.foldl (paintToken b) q := by
  induction order generalizing p q with
  | nil => rfl
  | cons t order ih =>
    rw [List.foldl_cons, paintToken_append ha hp, ih (length_paintToken hp), List.foldl_cons,
      List.foldl_cons]

end

end Scratchpad.Highlight
