import Mathlib.Data.List.Basic
import Scratchpad.Table

/-!
# The last assignment wins

`IsLast p xs x` says that `x` is the last of the entries of a list for which `p` holds. Every list
either has such an entry or has no entry with `p` at all, and which one it is depends only on the
entries with `p`. A table to which assignments were put holds for each key the value that the last
assignment to the key gives it.
-/

namespace Scratchpad

/-- `x` is the last entry of `xs` for which `p` holds. -/
def IsLast {α : Type} (p : α → Prop) (xs : List α) (x : α) : Prop :=
  ∃ before after, xs = before ++ x :: after ∧ p x ∧ ∀ y ∈ after, ¬ p y

namespace IsLast

variable {α β : Type} {p : α → Prop} {xs : List α} {x : α}

theorem holds (h : IsLast p xs x) : p x := by
  obtain ⟨_, _, -, hx, -⟩ := h
  exact hx

/-- Whatever has an entry with `p` has a last one. -/
theorem exists_or_forall_not (p : α → Prop) (xs : List α) :
    (∃ x, IsLast p xs x) ∨ ∀ x ∈ xs, ¬ p x := by
  induction xs with
  | nil => exact .inr (by simp)
  | cons a xs ih =>
    rcases ih with ⟨x, before, after, rfl, hx, hafter⟩ | hnone
    · exact .inl ⟨x, a :: before, after, rfl, hx, hafter⟩
    · by_cases ha : p a
      · exact .inl ⟨a, [], xs, rfl, ha, hnone⟩
      · exact .inr (by simpa [ha] using hnone)

/-- What a list is turned into entry by entry has its last entry where the list has its own. -/
theorem filterMap {q : β → Prop} {f : α → Option β} {y : β} (h : IsLast p xs x)
    (hf : f x = some y) (hy : q y) (hp : ∀ z w, f z = some w → q w → p z) :
    IsLast q (xs.filterMap f) y := by
  obtain ⟨before, after, rfl, -, hafter⟩ := h
  refine ⟨before.filterMap f, after.filterMap f, ?_, hy, ?_⟩
  · rw [List.filterMap_append, List.filterMap_cons_some hf]
  · intro w hw hq
    obtain ⟨z, hz, hfz⟩ := List.mem_filterMap.1 hw
    exact hafter z hz (hp z w hfz hq)

theorem filter {r : α → Bool} (h : IsLast p xs x) (hx : r x = true) :
    IsLast p (xs.filter r) x := by
  obtain ⟨before, after, rfl, hp, hafter⟩ := h
  refine ⟨before.filter r, after.filter r, ?_, hp, ?_⟩
  · rw [List.filter_append, List.filter_cons_of_pos hx]
  · intro y hy
    exact hafter y (List.mem_of_mem_filter hy)

/-- The last entry with `p` is the last of the entries with `p`. -/
theorem iff_getLast?_filter [DecidablePred p] :
    IsLast p xs x ↔ (xs.filter p).getLast? = some x := by
  have hlast : ∀ y, IsLast p xs y → (xs.filter p).getLast? = some y := by
    rintro y ⟨before, after, rfl, hy, hafter⟩
    have hnone : after.filter p = [] := by simpa using hafter
    rw [List.filter_append, List.filter_cons_of_pos (by simpa using hy), hnone]
    simp
  refine ⟨hlast x, fun h => ?_⟩
  rcases exists_or_forall_not p xs with ⟨y, hy⟩ | hnone
  · rwa [Option.some.inj (h.symm.trans (hlast y hy))]
  · have hempty : xs.filter p = [] := by simpa using hnone
    rw [hempty] at h
    exact absurd h (by simp)

/-- Which entry is last depends only on the entries with `p`. -/
theorem congr_filter [DecidablePred p] {ys : List α} (heq : xs.filter p = ys.filter p) :
    IsLast p xs x ↔ IsLast p ys x := by
  rw [iff_getLast?_filter, iff_getLast?_filter, heq]

end IsLast

namespace Table

variable {key value : String} {assignments : List (String × String)}

theorem get?_putAll_of_forall_ne (h : ∀ a ∈ assignments, a.1 ≠ key) (t : Table) :
    (t.putAll assignments).get? key = t.get? key := by
  induction assignments generalizing t with
  | nil => rfl
  | cons a rest ih =>
    have ha : key ≠ a.1 := (h a List.mem_cons_self).symm
    rw [putAll_cons, ih fun b hb => h b (List.mem_cons_of_mem a hb), get?_put, if_neg ha]

theorem get?_putAll_of_isLast (h : IsLast (fun a => a.1 = key) assignments (key, value))
    (t : Table) : (t.putAll assignments).get? key = some value := by
  obtain ⟨before, after, rfl, -, hafter⟩ := h
  rw [putAll_append, putAll_cons, get?_putAll_of_forall_ne hafter, get?_put, if_pos rfl]

end Table

end Scratchpad
