/-!
# Splitting at a character

A text is split at every occurrence of a character by `List.splitOn`, and its parts are put together
again by `List.intercalate`. Here is what these do to the parts: the character is in none of them,
and in the joined text every part but one has an occurrence next to it. `cutAt?` cuts at the first
occurrence only.
-/

namespace Scratchpad.Text

/-- A character at the start ends an empty part; any other one belongs to the first part. -/
theorem splitOn_cons (sep c : Char) (cs : List Char) :
    (c :: cs).splitOn sep =
      if c = sep then [] :: cs.splitOn sep else (cs.splitOn sep).modifyHead (c :: ·) := by
  rw [List.splitOn_cons_eq_if_modifyHead]
  simp only [beq_iff_eq]

/-- The character does not occur in the parts between its occurrences. -/
theorem not_mem_of_mem_splitOn {sep : Char} {cs p : List Char} (h : p ∈ cs.splitOn sep) :
    sep ∉ p := by
  induction cs generalizing p with
  | nil =>
    rw [List.splitOn_nil] at h
    obtain rfl := List.mem_singleton.1 h
    exact List.not_mem_nil
  | cons c cs ih =>
    rw [splitOn_cons] at h
    split at h
    · rcases List.mem_cons.1 h with rfl | h
      · exact List.not_mem_nil
      · exact ih h
    · next hc =>
      obtain ⟨q, ps, hcons⟩ := List.exists_cons_of_ne_nil (List.splitOn_ne_nil sep cs)
      rw [hcons, List.modifyHead_cons] at h
      rw [hcons] at ih
      rcases List.mem_cons.1 h with rfl | h
      · exact List.not_mem_cons_of_ne_of_not_mem (Ne.symm hc) (ih List.mem_cons_self)
      · exact ih (List.mem_cons_of_mem q h)

/-- One part, with the others before and after it, each next to a `sep` of its own. -/
theorem intercalate_append_cons (sep : Char) (as : List (List Char)) (p : List Char)
    (bs : List (List Char)) :
    [sep].intercalate (as ++ p :: bs) =
      as.flatMap (· ++ [sep]) ++ p ++ bs.flatMap (sep :: ·) := by
  induction as with
  | nil =>
    induction bs generalizing p with
    | nil => simp
    | cons q bs ih =>
      have h := ih q
      simp only [List.nil_append, List.flatMap_nil] at h ⊢
      rw [List.intercalate_cons_cons, h]
      simp
  | cons a as ih =>
    rw [List.cons_append, List.intercalate_cons_of_ne_nil (by simp), ih]
    simp

/-- The parts of a text before and after the first occurrence of `sep`; absent if there is none. -/
def cutAt? (sep : Char) : List Char → Option (List Char × List Char)
  | [] => none
  | c :: cs => if c = sep then some ([], cs) else (cutAt? sep cs).map fun p => (c :: p.1, p.2)

@[simp] theorem cutAt?_nil (sep : Char) : cutAt? sep [] = none := rfl

/-- What a cut yields joins to the text, and the character does not occur in the first part. -/
theorem eq_of_cutAt? {sep : Char} {cs as bs : List Char} (h : cutAt? sep cs = some (as, bs)) :
    cs = as ++ sep :: bs ∧ sep ∉ as := by
  induction cs generalizing as with
  | nil => simp at h
  | cons c cs ih =>
    rw [cutAt?] at h
    split at h
    · next hc =>
      simp only [Option.some.injEq, Prod.mk.injEq] at h
      obtain ⟨rfl, rfl⟩ := h
      simp [hc]
    · next hc =>
      obtain ⟨p, hp, hpe⟩ := Option.map_eq_some_iff.1 h
      obtain ⟨rfl, rfl⟩ := Prod.mk.inj hpe
      obtain ⟨hcs, hsep⟩ := ih hp
      exact ⟨by rw [hcs, List.cons_append], by simp [Ne.symm hc, hsep]⟩

end Scratchpad.Text
