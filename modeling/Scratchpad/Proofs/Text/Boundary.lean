import Scratchpad.Text.Offset

/-!
# Boundaries

A byte offset is a boundary of a text if it stands in front of a character or at the end. Only at
boundaries can a text be cut (`isBoundary_iff_cut?`), so both ends of a slice are boundaries. For the
characters of a string this is what the string's own valid positions are
(`isValid_iff_isBoundary`).
-/

namespace Scratchpad.Text

/-- Byte offset `n` is the length of a beginning of the text. -/
def IsBoundary (text : List Char) (n : Nat) : Prop :=
  ∃ before after, text = before ++ after ∧ byteLength before = n

variable {text piece : List Char} {n start stop : Nat}

theorem isBoundary_append (before after : List Char) :
    IsBoundary (before ++ after) (byteLength before) := ⟨before, after, rfl, rfl⟩

theorem IsBoundary.le_byteLength (h : IsBoundary text n) : n ≤ byteLength text := by
  obtain ⟨before, after, rfl, rfl⟩ := h
  rw [byteLength_append]
  exact Nat.le_add_right _ _

theorem isBoundary_iff_cut? : IsBoundary text n ↔ (cut? text n).isSome := by
  rw [Option.isSome_iff_exists]
  constructor
  · rintro ⟨before, after, rfl, rfl⟩
    exact ⟨_, cut?_append before after⟩
  · rintro ⟨p, hp⟩
    obtain ⟨htext, hn⟩ := eq_append_of_cut? hp
    exact ⟨p.1, p.2, htext, hn⟩

/-- A slice runs from a boundary to a boundary. -/
theorem isBoundary_of_slice? (h : slice? text start stop = some piece) :
    IsBoundary text start ∧ IsBoundary text stop := by
  rw [slice?] at h
  split at h
  · next hle =>
    obtain ⟨p, hp, hmap⟩ := Option.bind_eq_some_iff.1 h
    obtain ⟨q, hq, -⟩ := Option.map_eq_some_iff.1 hmap
    obtain ⟨htext, hstart⟩ := eq_append_of_cut? hp
    obtain ⟨hrest, hstop⟩ := eq_append_of_cut? hq
    refine ⟨⟨p.1, p.2, htext, hstart⟩, ⟨p.1 ++ q.1, q.2, ?_, ?_⟩⟩
    · rw [htext, hrest, List.append_assoc]
    · rw [byteLength_append, hstart, hstop]
      omega
  · simp at h

/-! ### Strings -/

theorem utf8ByteSize_ofList (cs : List Char) :
    (String.ofList cs).utf8ByteSize = byteLength cs := by
  induction cs with
  | nil => rfl
  | cons c cs ih =>
    have hcons : String.ofList (c :: cs) = String.singleton c ++ String.ofList cs := by simp
    rw [hcons, String.utf8ByteSize_append, String.utf8ByteSize_singleton, ih, byteLength_cons]

theorem byteLength_toList (s : String) : byteLength s.toList = s.utf8ByteSize := by
  rw [← utf8ByteSize_ofList, String.ofList_toList]

theorem isValid_iff_isBoundary (s : String) (n : Nat) :
    String.Pos.Raw.IsValid s ⟨n⟩ ↔ IsBoundary s.toList n := by
  rw [String.Pos.Raw.isValid_iff_exists_take_toList]
  simp only [utf8ByteSize_ofList]
  constructor
  · rintro ⟨i, rfl⟩
    exact ⟨s.toList.take i, s.toList.drop i, (List.take_append_drop i _).symm, rfl⟩
  · rintro ⟨before, after, htext, rfl⟩
    exact ⟨before.length, by rw [htext, List.take_left]⟩

end Scratchpad.Text
