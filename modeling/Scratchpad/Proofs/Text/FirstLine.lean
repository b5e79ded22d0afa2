import Scratchpad.Text.Lines

/-!
# The first line

`IsFirstLine text line` says which line a text begins with: everything up to its first line feed,
less one carriage return right before that, or the whole text if it has no line feed. `firstLine`
finds it.
-/

namespace Scratchpad.Text

/-- A text begins with a line. -/
inductive IsFirstLine : List Char → List Char → Prop where
  /-- No line feed ends the line. -/
  | whole {line : List Char} (free : '\n' ∉ line) : IsFirstLine line line
  /-- A line feed ends the line. -/
  | fed {line rest : List Char} (free : '\n' ∉ line) (bare : line.getLast? ≠ some '\r') :
      IsFirstLine (line ++ '\n' :: rest) line
  /-- A carriage return and a line feed end the line. -/
  | returned {line rest : List Char} (free : '\n' ∉ line) :
      IsFirstLine (line ++ '\r' :: '\n' :: rest) line

theorem IsFirstLine.not_mem {text line : List Char} (h : IsFirstLine text line) : '\n' ∉ line := by
  cases h with
  | whole free => exact free
  | fed free bare => exact free
  | returned free => exact free

/-- Only the empty line stands in an empty text. -/
theorem IsFirstLine.eq_nil {text line : List Char} (h : IsFirstLine text line) (htext : text = []) :
    line = [] := by
  cases h with
  | whole free => exact htext
  | fed free bare => exact (List.append_eq_nil_iff.1 htext).1
  | returned free => exact (List.append_eq_nil_iff.1 htext).1

theorem isFirstLine_firstLine (cs : List Char) : IsFirstLine cs (firstLine cs) := by
  have hjoin : ['\n'].intercalate (cs.splitOn '\n') = cs := List.intercalate_splitOn '\n'
  have hfree : ∀ p ∈ cs.splitOn '\n', '\n' ∉ p := fun p hp => not_mem_of_mem_splitOn hp
  rw [firstLine, lines, pieces]
  match hpieces : cs.splitOn '\n' with
  | [] => exact absurd hpieces (List.splitOn_ne_nil '\n' cs)
  | [p] =>
    rw [hpieces] at hjoin hfree
    rw [List.intercalate_singleton] at hjoin
    subst hjoin
    have hline : (linesOfPieces [p]).headD [] = p := by cases p <;> rfl
    rw [hline]
    exact .whole (hfree p List.mem_cons_self)
  | p :: q :: ps =>
    rw [hpieces] at hjoin hfree
    rw [List.intercalate_cons_cons, List.append_assoc, List.singleton_append] at hjoin
    subst hjoin
    have hp := hfree p List.mem_cons_self
    rw [linesOfPieces, List.headD_cons, dropCarriageReturn]
    split
    · next hreturn =>
      obtain ⟨line, rfl⟩ := List.getLast?_eq_some_iff.1 hreturn
      rw [List.dropLast_concat, List.append_assoc]
      exact .returned fun h => hp (List.mem_append_left _ h)
    · next hbare => exact .fed hp hbare

end Scratchpad.Text
