import Mathlib.Algebra.Group.Nat.Even
import Scratchpad.Proofs.Highlight.Numeral
import Scratchpad.Proofs.Highlight.Words
import Scratchpad.Text.Split

/-!
# Chains of numerals

Numerals with single points between them form a chain. The search for numbers goes through a chain
from the left and takes two numerals at a time, so a point belongs to a number if an even number of
numerals stands before its two. The reason is a step from one claim to the next
(`Token.exists_claim_step`); by induction every second numeral of a longest chain begins a claim
(`IsChain.exists_claim`), and no other one does (`IsChain.even_of_claim`).

The main statement, `marked_number_iff`, says which bytes of a text are marked as numbers.
-/

namespace Scratchpad.Highlight

open Scratchpad.Text

/-- From `before` to `after` stand numerals with a single point between each two. What is in front of
a numeral is carried along. -/
def Chained : (before : List Char) → (numerals : List (List Char)) → (after : List Char) → Prop
  | _, [], _ => True
  | before, numeral :: rest, after =>
    IsNumeral before numeral (rest.flatMap ('.' :: ·) ++ after) ∧
      Chained (before ++ numeral ++ ['.']) rest after

/-- The numerals from `before` to `after` are a chain that goes on in neither direction. -/
structure IsChain (before : List Char) (numerals : List (List Char)) (after : List Char) :
    Prop where
  chained : Chained before numerals after
  first : ∀ front numeral, before = front ++ numeral ++ ['.'] →
    ¬ IsNumeral front numeral (numerals.flatMap ('.' :: ·) ++ after)
  last : ∀ numeral rest, after = '.' :: (numeral ++ rest) →
    ¬ IsNumeral (before ++ numerals.flatMap (· ++ ['.'])) numeral rest

/-- The point between `before` and `after` joins two numerals of a longest chain, in which an even
number of numerals stands before these two. -/
def IsPairedPoint (before after : List Char) : Prop :=
  ∃ front done left right more back, IsChain front (done ++ left :: right :: more) back ∧
    Even done.length ∧ before = front ++ done.flatMap (· ++ ['.']) ++ left ∧
    after = right ++ more.flatMap ('.' :: ·) ++ back

@[simp] theorem chained_nil (before after : List Char) : Chained before [] after := trivial

theorem chained_cons (before numeral : List Char) (rest : List (List Char)) (after : List Char) :
    Chained before (numeral :: rest) after ↔
      IsNumeral before numeral (rest.flatMap ('.' :: ·) ++ after) ∧
        Chained (before ++ numeral ++ ['.']) rest after := Iff.rfl

theorem chained_append (before : List Char) (as bs : List (List Char)) (after : List Char) :
    Chained before (as ++ bs) after ↔
      Chained before as (bs.flatMap ('.' :: ·) ++ after) ∧
        Chained (before ++ as.flatMap (· ++ ['.'])) bs after := by
  induction as generalizing before with
  | nil => simp
  | cons a as ih =>
    rw [List.cons_append, chained_cons, chained_cons, ih, and_assoc]
    simp

theorem intercalate_cons (p : List Char) (ps : List (List Char)) :
    ['.'].intercalate (p :: ps) = p ++ ps.flatMap ('.' :: ·) := by
  simpa using intercalate_append_cons '.' [] p ps

namespace Token

variable {text front back : List Char}

/-- A claim that begins where a number stands is the claim of that number. -/
theorem eq_of_start_eq {claimed : List Char} {c : Claim} (hc : c ∈ number.claims text)
    (hstart : c.start = front.length) (hnumber : IsNumber front claimed back)
    (htext : text = front ++ claimed ++ back) : c = ⟨front.length, claimed.length⟩ := by
  obtain ⟨before, rest, heq, hbefore, hclaim⟩ := exists_of_mem_claims hc
  rw [htext, List.append_assoc] at heq
  obtain ⟨rfl, rfl⟩ := List.append_inj heq (by omega)
  rw [claim?_of_isNumber hnumber] at hclaim
  rw [← hbefore, Option.some.inj hclaim]

/-- Behind a claim that begins with a numeral, the second numeral after that one begins a claim. -/
theorem exists_claim_step {x y z : List Char}
    (hx : IsNumeral front x ('.' :: (y ++ '.' :: (z ++ back))))
    (hy : IsNumeral (front ++ x ++ ['.']) y ('.' :: (z ++ back)))
    (hz : IsNumeral (front ++ x ++ ['.'] ++ y ++ ['.']) z back)
    (htext : text = front ++ x ++ ['.'] ++ y ++ ['.'] ++ z ++ back)
    (h : ∃ c ∈ number.claims text, c.start = front.length) :
    ∃ c ∈ number.claims text, c.start = (front ++ x ++ ['.'] ++ y ++ ['.']).length := by
  obtain ⟨c, hc, hstart⟩ := h
  have hceq := eq_of_start_eq hc hstart (.pointed hx hy) (by rw [htext]; simp)
  rcases exists_claim_of_isNumeral hz htext with ⟨d, hd, hdstart, -⟩ | ⟨before, first, heq, hfirst, hd⟩
  · exact ⟨d, hd, hdstart⟩
  · -- this claim would begin with `y`, which belongs to the claim before it
    have hfront := List.append_cancel_right heq
    have hlength := congrArg List.length hfront
    have hypos := hy.length_pos
    have hfirstpos := hfirst.length_pos
    simp only [List.length_append, List.length_singleton] at hlength
    have hlast : Within (front ++ x ++ ['.']) y (before.length + first.length - 1) := by
      simp only [Within, List.length_append, List.length_singleton]
      omega
    obtain ⟨rfl, rfl, -⟩ := hfirst.unique hy (by rw [hfront]) ⟨by omega, by omega⟩ hlast
    have hcovers : c.Covers (front ++ x ++ ['.']).length := by
      rw [hceq]
      simp only [Claim.Covers, Claim.stop, List.length_append, List.length_cons, List.length_nil]
      omega
    have hsame := (ascending_claims number text).unique hc hd hcovers
      ⟨Nat.le_refl _, by simp only [Claim.stop]; omega⟩
    rw [hsame] at hstart
    simp only [List.length_append, List.length_singleton] at hstart
    omega

/-- Along a chain, every second numeral after one that begins a claim begins a claim too. -/
theorem exists_claim_of_even {numeral : List Char} {more : List (List Char)} :
    ∀ {front : List Char} {done : List (List Char)},
      Chained front (done ++ numeral :: more) back →
      text = front ++ ['.'].intercalate (done ++ numeral :: more) ++ back → Even done.length →
      (∃ c ∈ number.claims text, c.start = front.length) →
      ∃ c ∈ number.claims text, c.start = (front ++ done.flatMap (· ++ ['.'])).length
  | front, [], _, _, _, h => by simpa using h
  | front, [x], _, _, heven, _ => absurd heven (by simp)
  | front, x :: y :: done, hchained, htext, heven, h => by
    obtain ⟨z, rest, hz⟩ : ∃ z rest, done ++ numeral :: more = z :: rest :=
      List.exists_cons_of_ne_nil (by simp)
    rw [List.cons_append, List.cons_append, chained_cons, chained_cons] at hchained
    obtain ⟨hx, hy, hchained'⟩ := hchained
    have htext' : text =
        front ++ x ++ ['.'] ++ y ++ ['.'] ++ ['.'].intercalate (done ++ numeral :: more) ++
          back := by
      rw [htext, List.cons_append, List.cons_append, hz, List.intercalate_cons_cons,
        List.intercalate_cons_cons]
      simp
    have hassoc : front ++ (x :: y :: done).flatMap (· ++ ['.']) =
        front ++ x ++ ['.'] ++ y ++ ['.'] ++ done.flatMap (· ++ ['.']) := by simp
    have heven' : Even done.length := by simpa [Nat.even_add_one] using heven
    rw [hassoc]
    refine exists_claim_of_even hchained' htext' heven' ?_
    rw [hz] at hchained' htext'
    rw [intercalate_cons, ← List.append_assoc, List.append_assoc] at htext'
    rw [hz] at hx hy
    exact exists_claim_step (by simpa using hx) (by simpa using hy) hchained'.1 htext' h

end Token

/-! ### Longest chains -/

section

variable {front back numeral : List Char} {numerals done more : List (List Char)}

/-- A chain goes on behind its end as far as numerals follow. -/
theorem exists_last {numerals : List (List Char)} {back : List Char}
    (h : Chained front numerals back) :
    ∃ more rest, back = more.flatMap ('.' :: ·) ++ rest ∧ Chained front (numerals ++ more) rest ∧
      ∀ numeral behind, rest = '.' :: (numeral ++ behind) →
        ¬ IsNumeral (front ++ (numerals ++ more).flatMap (· ++ ['.'])) numeral behind := by
  by_cases hgoes : ∃ numeral behind, back = '.' :: (numeral ++ behind) ∧
      IsNumeral (front ++ numerals.flatMap (· ++ ['.'])) numeral behind
  · obtain ⟨numeral, behind, rfl, hnumeral⟩ := hgoes
    have hlonger : Chained front (numerals ++ [numeral]) behind := by
      rw [chained_append, chained_cons]
      exact ⟨by simpa using h, by simpa using hnumeral, trivial⟩
    obtain ⟨more, rest, rfl, hchained, hlast⟩ := exists_last hlonger
    rw [List.append_assoc] at hchained hlast
    exact ⟨numeral :: more, rest, by simp, hchained, hlast⟩
  · refine ⟨[], back, rfl, by simpa using h, ?_⟩
    intro numeral behind hback hnumeral
    exact hgoes ⟨numeral, behind, hback, by simpa using hnumeral⟩
termination_by back.length

/-- A chain goes on in front of its start as far as numerals stand there. -/
theorem exists_first {numerals : List (List Char)} {front : List Char}
    (h : Chained front numerals back) :
    ∃ start done, front = start ++ done.flatMap (· ++ ['.']) ∧
      Chained start (done ++ numerals) back ∧
      ∀ before numeral, start = before ++ numeral ++ ['.'] →
        ¬ IsNumeral before numeral ((done ++ numerals).flatMap ('.' :: ·) ++ back) := by
  by_cases hgoes : ∃ before numeral, front = before ++ numeral ++ ['.'] ∧
      IsNumeral before numeral (numerals.flatMap ('.' :: ·) ++ back)
  · obtain ⟨before, numeral, rfl, hnumeral⟩ := hgoes
    have hlonger : Chained before (numeral :: numerals) back := ⟨hnumeral, h⟩
    obtain ⟨start, done, rfl, hchained, hfirst⟩ := exists_first hlonger
    rw [List.append_cons] at hchained hfirst
    exact ⟨start, done ++ [numeral], by simp, hchained, hfirst⟩
  · refine ⟨front, [], by simp, h, ?_⟩
    intro before numeral hfront hnumeral
    exact hgoes ⟨before, numeral, hfront, hnumeral⟩
termination_by front.length

/-- Every chain is a part of a longest one. -/
theorem Chained.exists_isChain (h : Chained front numerals back) :
    ∃ start done more rest, IsChain start (done ++ (numerals ++ more)) rest ∧
      front = start ++ done.flatMap (· ++ ['.']) ∧ back = more.flatMap ('.' :: ·) ++ rest := by
  obtain ⟨more, rest, rfl, hbehind, hlast⟩ := exists_last h
  obtain ⟨start, done, rfl, hchained, hfirst⟩ := exists_first hbehind
  refine ⟨start, done, more, rest, ⟨hchained, hfirst, ?_⟩, rfl, rfl⟩
  rwa [List.flatMap_append, ← List.append_assoc]

namespace IsChain

variable {text : List Char}

/-- In a longest chain, a numeral with an even number of numerals before it begins a claim. -/
theorem exists_claim (h : IsChain front (done ++ numeral :: more) back)
    (htext : text = front ++ ['.'].intercalate (done ++ numeral :: more) ++ back)
    (heven : Even done.length) :
    ∃ c ∈ Token.number.claims text, c.start = (front ++ done.flatMap (· ++ ['.'])).length := by
  refine Token.exists_claim_of_even h.chained htext heven ?_
  obtain ⟨x, rest, hx⟩ : ∃ x rest, done ++ numeral :: more = x :: rest :=
    List.exists_cons_of_ne_nil (by simp)
  have hchained := h.chained
  have hfirst := h.first
  rw [hx] at hchained hfirst htext
  rw [intercalate_cons, ← List.append_assoc, List.append_assoc] at htext
  rcases Token.exists_claim_of_isNumeral hchained.1 htext with
    ⟨c, hc, hstart, -⟩ | ⟨before, first, heq, hnumeral, -⟩
  · exact ⟨c, hc, hstart⟩
  · exact absurd (by simpa using hnumeral) (hfirst before first heq)

/-- From a numeral with an even number of numerals before it, the claim goes on over the next one. -/
theorem mem_claims {left right : List Char}
    (h : IsChain front (done ++ left :: right :: more) back)
    (htext : text = front ++ ['.'].intercalate (done ++ left :: right :: more) ++ back)
    (heven : Even done.length) :
    ⟨(front ++ done.flatMap (· ++ ['.'])).length, (left ++ '.' :: right).length⟩ ∈
      Token.number.claims text := by
  obtain ⟨c, hc, hstart⟩ := h.exists_claim htext heven
  have hchained := h.chained
  rw [chained_append, chained_cons, chained_cons] at hchained
  obtain ⟨-, hleft, hright, -⟩ := hchained
  have hnumber := IsNumber.pointed (by simpa using hleft) hright
  have hc' := Token.eq_of_start_eq hc hstart hnumber
    (by rw [htext, intercalate_append_cons]; simp)
  rwa [hc'] at hc

/-- A numeral that begins a claim has an even number of numerals before it: behind an odd number, it
stands in the claim of the numeral before it. -/
theorem even_of_claim (h : IsChain front (done ++ numeral :: more) back)
    (htext : text = front ++ ['.'].intercalate (done ++ numeral :: more) ++ back) {c : Claim}
    (hc : c ∈ Token.number.claims text)
    (hstart : c.start = (front ++ done.flatMap (· ++ ['.'])).length) : Even done.length := by
  by_contra hodd
  obtain rfl | ⟨done', x, rfl⟩ := List.eq_nil_or_concat done
  · exact hodd Even.zero
  · rw [List.concat_eq_append] at h htext hstart hodd
    have hx : done' ++ [x] ++ numeral :: more = done' ++ x :: numeral :: more := by simp
    rw [hx] at h htext
    have heven : Even done'.length := by simpa [Nat.even_add_one] using hodd
    have hpair := h.mem_claims htext heven
    have hnumeral : 0 < numeral.length := by
      have hchained := h.chained
      rw [chained_append, chained_cons, chained_cons] at hchained
      exact hchained.2.2.1.length_pos
    have hpos := (Token.ascending_claims .number text).length_pos hc
    have hsame := (Token.ascending_claims .number text).unique hc hpair
      ⟨Nat.le_refl _, by rw [Claim.stop]; omega⟩
      ⟨by simp [hstart], by simp [hstart, Claim.stop]; omega⟩
    rw [hsame] at hstart
    simp at hstart

end IsChain

end

/-! ### The bytes of numbers -/

/-- Byte `b` lies in a numeral. -/
def InNumeral (source : String) (b : Nat) : Prop :=
  ∃ before numeral after, source.toList = before ++ numeral ++ after ∧
    IsNumeral before numeral after ∧ LiesIn before numeral b

/-- Byte `b` is a point between the numerals `k` and `k + 1` of a longest chain, where `k` is even. -/
def AtPairedPoint (source : String) (b : Nat) : Prop :=
  ∃ before after, source.toList = before ++ ['.'] ++ after ∧ IsPairedPoint before after ∧
    LiesIn before ['.'] b

section

variable {text before after : List Char} {i : Nat}

/-- A number lies in a literal as a whole or not at all. -/
theorem Token.allPlain_of_number {c : Claim} (hc : c ∈ number.claims text) (hi : c.Covers i)
    (hplain : (literalCategories text)[i]? = some .plain) :
    c.AllPlain (literalCategories text) := by
  intro j hj
  obtain ⟨front, claimed, back, rfl, rfl, hnumber⟩ := exists_isNumber_of_mem_claims hc
  rw [literalCategories_eq_of_run hnumber.isDelimiter_eq_false hj hi, hplain]

/-- The point of a claim joins two numerals of a longest chain. -/
theorem isPairedPoint_of_mem_claims {left right back : List Char}
    (hleft : IsNumeral before left ('.' :: (right ++ back)))
    (hright : IsNumeral (before ++ left ++ ['.']) right back)
    (htext : text = before ++ (left ++ '.' :: right) ++ back)
    (hc : ⟨before.length, (left ++ '.' :: right).length⟩ ∈ Token.number.claims text) :
    IsPairedPoint (before ++ left) (right ++ back) := by
  have hchained : Chained before [left, right] back := ⟨by simpa using hleft, hright, trivial⟩
  obtain ⟨front, done, more, rest, hchain, rfl, rfl⟩ := hchained.exists_isChain
  refine ⟨front, done, left, right, more, rest, hchain, ?_, rfl, (List.append_assoc _ _ _).symm⟩
  refine hchain.even_of_claim ?_ hc rfl
  rw [htext]
  simp [intercalate_append_cons]

/-- What is painted as a number is a part of a numeral or a point that joins two. -/
theorem exists_numeral_of_painted {categories : List Category}
    (h : Painted .number text categories i) :
    ∃ before piece after, text = before ++ piece ++ after ∧
      (IsNumeral before piece after ∨ piece = ['.'] ∧ IsPairedPoint before after) ∧
      Within before piece i := by
  obtain ⟨c, hc, ⟨hle, hlt⟩, -⟩ := h
  obtain ⟨before, claimed, after, htext, rfl, hnumber⟩ := Token.exists_isNumber_of_mem_claims hc
  cases hnumber with
  | whole hnumeral alone => exact ⟨before, claimed, after, htext, .inl hnumeral, hle, hlt⟩
  | @pointed left right _ hleft hright =>
    simp only [Claim.stop, List.length_append, List.length_cons] at hle hlt
    rcases Nat.lt_trichotomy i (before ++ left).length with hbelow | hpoint | habove
    · rw [List.length_append] at hbelow
      exact ⟨before, left, '.' :: (right ++ after), by simp [htext], .inl hleft, hle, hbelow⟩
    · have hpaired := isPairedPoint_of_mem_claims hleft hright htext hc
      refine ⟨before ++ left, ['.'], right ++ after, by simp [htext], .inr ⟨rfl, hpaired⟩, ?_⟩
      rw [hpoint]
      exact ⟨Nat.le_refl _, Nat.lt_succ_self _⟩
    · refine ⟨before ++ left ++ ['.'], right, after, by simp [htext], .inl hright, ?_⟩
      simp only [Within, List.length_append, List.length_singleton] at habove ⊢
      omega

/-- A numeral lies in a claim, and so does a point that joins two. -/
theorem exists_claim_of_numeral {piece : List Char} (htext : text = before ++ piece ++ after)
    (hpiece : IsNumeral before piece after ∨ piece = ['.'] ∧ IsPairedPoint before after)
    (hi : Within before piece i) : ∃ c ∈ Token.number.claims text, c.Covers i := by
  obtain ⟨hle, hlt⟩ := hi
  rcases hpiece with hnumeral | ⟨rfl, front, done, left, right, more, back, hchain, heven, rfl, rfl⟩
  · rcases Token.exists_claim_of_isNumeral hnumeral htext with
      ⟨c, hc, hstart, hlength⟩ | ⟨front, first, rfl, -, hc⟩
    · exact ⟨c, hc, by omega, by rw [Claim.stop]; omega⟩
    · simp only [List.length_append, List.length_singleton] at hle hlt
      refine ⟨_, hc, ?_⟩
      simp only [Claim.Covers, Claim.stop]
      omega
  · have hjoin : text = front ++ ['.'].intercalate (done ++ left :: right :: more) ++ back := by
      rw [htext, intercalate_append_cons]
      simp
    refine ⟨_, hchain.mem_claims hjoin heven, ?_⟩
    simp only [Claim.Covers, Claim.stop, List.length_append, List.length_cons,
      List.length_nil] at hle hlt ⊢
    omega

theorem getElem?_categories_number :
    (categories text)[i]? = some .number ↔
      (literalCategories text)[i]? = some .plain ∧
        ∃ before piece after, text = before ++ piece ++ after ∧
          (IsNumeral before piece after ∨ piece = ['.'] ∧ IsPairedPoint before after) ∧
          Within before piece i := by
  have hlen := length_literalCategories text
  have hlast : (categories text)[i]? = some .number ↔
      (paintToken text (literalCategories text) .number)[i]? = some .number :=
    @getElem?_foldl_paintToken text _ i [.variableName, .keyword, .constant] .number (by decide)
      (by decide) (length_paintToken hlen)
  have hnew : (literalCategories text)[i]? ≠ some .number :=
    @getElem?_foldl_paintToken_ne text i [] .number (by decide) (by decide) (by decide)
  rw [hlast]
  refine (getElem?_paintToken_eq_category_iff hlen hnew).trans ⟨?_, ?_⟩
  · intro hp
    exact ⟨painted_plain hp, exists_numeral_of_painted hp⟩
  · rintro ⟨hplain, before, piece, after, htext, hpiece, hi⟩
    obtain ⟨c, hc, hcovers⟩ := exists_claim_of_numeral htext hpiece hi
    exact ⟨c, hc, hcovers, Token.allPlain_of_number hc hcovers hplain⟩

end

/-- For every source text, the bytes marked as numbers are those outside comments and strings that
lie in a numeral, or are a point between the numerals `k` and `k + 1` of a longest chain with `k`
even. -/
theorem marked_number_iff (source : String) (b : Nat) :
    Marked source b .number ↔
      IsFree source b ∧ (InNumeral source b ∨ AtPairedPoint source b) := by
  rw [marked_iff_isFree fun i => getElem?_categories_number]
  refine and_congr_right fun _ => ⟨?_, ?_⟩
  · rintro ⟨before, piece, after, heq, hnumeral | ⟨rfl, hpaired⟩, hb⟩
    · exact .inl ⟨before, piece, after, heq, hnumeral, hb⟩
    · exact .inr ⟨before, after, heq, hpaired, hb⟩
  · rintro (⟨before, numeral, after, heq, hnumeral, hb⟩ | ⟨before, after, heq, hpaired, hb⟩)
    · exact ⟨before, numeral, after, heq, .inl hnumeral, hb⟩
    · exact ⟨before, ['.'], after, heq, .inr ⟨rfl, hpaired⟩, hb⟩

example : highlight "1.2.3" = [⟨0, 3, .number⟩, ⟨3, 4, .plain⟩, ⟨4, 5, .number⟩] := by
  decide +kernel

end Scratchpad.Highlight
