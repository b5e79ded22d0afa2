import Scratchpad.Text.Offset

/-!
# Bytes and the characters they belong to

Offsets count bytes and categories belong to characters. `charIndex? text b` is the number of the
character that byte `b` is a part of, and `LiesIn before piece b` says that byte `b` is a part of
`piece`, where `before` stands in front of it. `liesIn_iff_charIndex?` relates the two.
-/

namespace Scratchpad.Text

/-- The number of the character that a byte belongs to; none for a byte behind the text. -/
def charIndex? : List Char → Nat → Option Nat
  | [], _ => none
  | c :: cs, b =>
    if b < c.utf8Size then some 0 else (charIndex? cs (b - c.utf8Size)).map (· + 1)

/-- Byte `b` of a text that begins with `before ++ piece` belongs to `piece`. -/
def LiesIn (before piece : List Char) (b : Nat) : Prop :=
  byteLength before ≤ b ∧ b < byteLength before + byteLength piece

/-- Character `i` is one of `piece`, where `before` stands in front of it. -/
def Within (before piece : List Char) (i : Nat) : Prop :=
  before.length ≤ i ∧ i < before.length + piece.length

@[simp] theorem charIndex?_nil (b : Nat) : charIndex? [] b = none := rfl

theorem charIndex?_cons_of_lt {c : Char} {cs : List Char} {b : Nat} (h : b < c.utf8Size) :
    charIndex? (c :: cs) b = some 0 := by
  rw [charIndex?, if_pos h]

theorem charIndex?_cons_of_le {c : Char} {cs : List Char} {b : Nat} (h : c.utf8Size ≤ b) :
    charIndex? (c :: cs) b = (charIndex? cs (b - c.utf8Size)).map (· + 1) := by
  rw [charIndex?, if_neg (Nat.not_lt.2 h)]

/-- Every byte of a text belongs to one of its characters. -/
theorem exists_charIndex? {text : List Char} {b : Nat} (h : b < byteLength text) :
    ∃ i, charIndex? text b = some i ∧ i < text.length := by
  induction text generalizing b with
  | nil => simp at h
  | cons c text ih =>
    by_cases hb : b < c.utf8Size
    · exact ⟨0, charIndex?_cons_of_lt hb, by simp⟩
    · rw [byteLength_cons] at h
      obtain ⟨i, hi, hlt⟩ := @ih (b - c.utf8Size) (by omega)
      refine ⟨i + 1, ?_, Nat.succ_lt_succ hlt⟩
      rw [charIndex?_cons_of_le (Nat.not_lt.1 hb), hi]
      rfl

theorem charIndex?_append_left {as bs : List Char} {b : Nat} (h : b < byteLength as) :
    charIndex? (as ++ bs) b = charIndex? as b := by
  induction as generalizing b with
  | nil => simp at h
  | cons c as ih =>
    rw [List.cons_append, charIndex?, charIndex?]
    by_cases hb : b < c.utf8Size
    · rw [if_pos hb, if_pos hb]
    · rw [byteLength_cons] at h
      rw [if_neg hb, if_neg hb, @ih (b - c.utf8Size) (by omega)]

theorem charIndex?_append_right {as bs : List Char} {b : Nat} (h : byteLength as ≤ b) :
    charIndex? (as ++ bs) b = (charIndex? bs (b - byteLength as)).map (as.length + ·) := by
  induction as generalizing b with
  | nil => simp
  | cons c as ih =>
    rw [byteLength_cons] at h
    rw [List.cons_append, charIndex?_cons_of_le (by omega), @ih (b - c.utf8Size) (by omega),
      byteLength_cons, Nat.sub_sub, Option.map_map]
    congr 1
    funext i
    simp only [Function.comp, List.length_cons]
    omega

/-- A byte lies in a piece of a text exactly if its character does. -/
theorem liesIn_iff_charIndex? {text before piece after : List Char}
    (h : text = before ++ piece ++ after) (b : Nat) :
    LiesIn before piece b ↔ ∃ i, charIndex? text b = some i ∧ Within before piece i := by
  subst h
  rcases Nat.lt_or_ge b (byteLength before) with hb | hb
  · -- the byte is in front of the piece
    obtain ⟨j, hj, hlt⟩ := exists_charIndex? hb
    have hj' : charIndex? (before ++ piece ++ after) b = some j := by
      rw [List.append_assoc, charIndex?_append_left hb, hj]
    constructor
    · intro h
      exact absurd h.1 (by omega)
    · rintro ⟨i, hi, hle, -⟩
      obtain rfl := Option.some.inj (hj'.symm.trans hi)
      omega
  · rw [List.append_assoc, charIndex?_append_right hb]
    rcases Nat.lt_or_ge (b - byteLength before) (byteLength piece) with hp | hp
    · obtain ⟨j, hj, hlt⟩ := exists_charIndex? hp
      rw [charIndex?_append_left hp, hj]
      constructor
      · intro _
        exact ⟨before.length + j, rfl, by omega, by omega⟩
      · intro _
        exact ⟨hb, by omega⟩
    · rw [charIndex?_append_right hp]
      constructor
      · intro h
        have := h.2
        omega
      · rintro ⟨i, hi, -, hlt⟩
        obtain ⟨j, hj, rfl⟩ := Option.map_eq_some_iff.1 hi
        obtain ⟨m, -, rfl⟩ := Option.map_eq_some_iff.1 hj
        omega

theorem Within.lt_length {text before piece after : List Char} {i : Nat}
    (h : Within before piece i) (htext : text = before ++ piece ++ after) : i < text.length := by
  have hlt := h.2
  rw [htext, List.length_append, List.length_append]
  omega

theorem getElem?_of_within {before piece after : List Char} {i : Nat} (h : Within before piece i) :
    ∃ c ∈ piece, (before ++ piece ++ after)[i]? = some c := by
  obtain ⟨hle, hlt⟩ := h
  have hi : i - before.length < piece.length := by omega
  refine ⟨piece[i - before.length], List.getElem_mem hi, ?_⟩
  rw [List.append_assoc, List.getElem?_append_right hle, List.getElem?_append_left hi,
    List.getElem?_eq_getElem hi]

theorem getLast?_eq_getElem?_append {before rest : List Char} {j : Nat}
    (h : j + 1 = before.length) : before.getLast? = (before ++ rest)[j]? := by
  rw [List.getElem?_append_left (by omega), List.getLast?_eq_getElem?]
  congr 1
  omega

end Scratchpad.Text
