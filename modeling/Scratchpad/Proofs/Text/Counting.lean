import Mathlib.Data.Nat.Basic
import Mathlib.Data.Set.Operations
import Mathlib.Order.Monotone.Defs
import Scratchpad.Proofs.Text.Boundary

/-!
# Characters in front of a byte offset

`charactersBefore? text b` counts the characters in front of byte offset `b`; there is no such number
inside a character or past the end. `byteOffset` leads the other way and takes every number: one that
is larger than the text stands for its end. The main statement is
`byteOffset_inverts_charactersBefore?`: the two are inverse to each other, so the offsets that
`byteOffset` finds are the boundaries of the text, in the order of their numbers.
-/

namespace Scratchpad.Text

/-- The number of characters in front of byte offset `b`; absent where the text cannot be cut. -/
def charactersBefore? (text : List Char) (b : Nat) : Option Nat :=
  (cut? text b).map fun p => p.1.length

variable {text : List Char} {b : Nat}

theorem charactersBefore?_append (before after : List Char) :
    charactersBefore? (before ++ after) (byteLength before) = some before.length := by
  rw [charactersBefore?, cut?_append]
  rfl

/-! ### The offset of a number -/

/-- Behind the characters of a beginning the offset is its length. -/
theorem byteOffset_append (before after : List Char) :
    byteOffset (before ++ after) before.length = byteLength before := by
  rw [byteOffset_eq_byteLength_take, List.take_left]

theorem isBoundary_byteOffset (text : List Char) (n : Nat) : IsBoundary text (byteOffset text n) :=
  ⟨text.take n, text.drop n, (List.take_append_drop n text).symm,
    (byteOffset_eq_byteLength_take text n).symm⟩

/-- In front of the offset of a number are that many characters, or all there are. -/
theorem charactersBefore?_byteOffset (text : List Char) (n : Nat) :
    charactersBefore? text (byteOffset text n) = some (min n text.length) := by
  have h := charactersBefore?_append (text.take n) (text.drop n)
  rwa [List.take_append_drop, ← byteOffset_eq_byteLength_take, List.length_take] at h

theorem monotone_byteOffset (text : List Char) : Monotone (byteOffset text) := by
  intro m n hmn
  obtain ⟨after, htake⟩ : text.take m <+: text.take n := List.take_prefix_take_left hmn
  rw [byteOffset_eq_byteLength_take, byteOffset_eq_byteLength_take, ← htake]
  exact (isBoundary_append _ _).le_byteLength

/-! ### The number of an offset -/

/-- A boundary is found again by the number of the characters in front of it, and nothing else is. -/
theorem isBoundary_iff_map_byteOffset :
    IsBoundary text b ↔ (charactersBefore? text b).map (byteOffset text) = some b := by
  constructor
  · rintro ⟨before, after, rfl, rfl⟩
    rw [charactersBefore?_append, Option.map_some, byteOffset_append]
  · intro h
    obtain ⟨n, -, rfl⟩ := Option.map_eq_some_iff.1 h
    exact isBoundary_byteOffset text n

theorem range_byteOffset (text : List Char) :
    Set.range (byteOffset text) = {b | IsBoundary text b} := by
  ext b
  constructor
  · rintro ⟨n, rfl⟩
    exact isBoundary_byteOffset text n
  · rintro ⟨before, after, rfl, rfl⟩
    exact ⟨before.length, byteOffset_append before after⟩

/-- Counting the characters in front of an offset and finding the offset of a number are inverse to
each other. Every number leads to a boundary with that many characters in front of it, or all if
there are fewer; an offset is a boundary exactly if the characters in front of it can be counted and
their number leads back to it. So the offsets never decrease, and they are the boundaries. -/
theorem byteOffset_inverts_charactersBefore? (text : List Char) :
    (∀ n, IsBoundary text (byteOffset text n) ∧
      charactersBefore? text (byteOffset text n) = some (min n text.length)) ∧
    (∀ b, IsBoundary text b ↔ (charactersBefore? text b).map (byteOffset text) = some b) ∧
    Monotone (byteOffset text) ∧
    Set.range (byteOffset text) = {b | IsBoundary text b} :=
  ⟨fun n => ⟨isBoundary_byteOffset text n, charactersBefore?_byteOffset text n⟩,
    fun _ => isBoundary_iff_map_byteOffset, monotone_byteOffset text, range_byteOffset text⟩

-- The first character has two bytes, and between them nothing can be counted.
example : byteOffset ['é', 'a'] 1 = 2 ∧ charactersBefore? ['é', 'a'] 1 = none := by decide

end Scratchpad.Text
