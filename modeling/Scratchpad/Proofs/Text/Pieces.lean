import Mathlib.Data.List.Basic
import Scratchpad.Text.Lines

/-!
# Pieces and their number

A text has one part more than separators (`length_splitOn`), and it is cut at the first of them
(`cutAt?_eq_some_iff`). Splitting commutes with a map that keeps the separators (`splitOnP_map`).
-/

namespace Scratchpad.Text

/-- A cut is made at the first separator, and wherever there is one. -/
theorem cutAt?_eq_some_iff {sep : Char} {cs as bs : List Char} :
    cutAt? sep cs = some (as, bs) ↔ cs = as ++ sep :: bs ∧ sep ∉ as := by
  refine ⟨eq_of_cutAt?, ?_⟩
  rintro ⟨rfl, hsep⟩
  induction as with
  | nil => simp [cutAt?]
  | cons a as ih =>
    obtain ⟨hne, hsep⟩ := not_or.1 (List.mem_cons.not.1 hsep)
    rw [List.cons_append, cutAt?, if_neg (Ne.symm hne), ih hsep]
    rfl

theorem length_splitOn (sep : Char) (cs : List Char) :
    (cs.splitOn sep).length = cs.count sep + 1 := by
  induction cs with
  | nil => rfl
  | cons c cs ih =>
    rw [splitOn_cons]
    split
    · next hc => rw [hc, List.length_cons, ih, List.count_cons_self]
    · next hc => rw [List.length_modifyHead, ih, List.count_cons_of_ne hc]

theorem splitOnP_map {α β : Type} (f : α → β) (p : β → Bool) (xs : List α) :
    (xs.map f).splitOnP p = (xs.splitOnP fun x => p (f x)).map (List.map f) := by
  induction xs with
  | nil => simp
  | cons x xs ih =>
    rw [List.map_cons, List.splitOnP_cons_eq_if_modifyHead, List.splitOnP_cons_eq_if_modifyHead, ih]
    split
    · simp
    · cases xs.splitOnP fun x => p (f x) <;> simp

end Scratchpad.Text
