/-!
# Claims

A claim is a run of characters that a literal or a token takes for itself. Claims of one scan stand
in ascending order and do not overlap, which `Ascending` says from a position on.
-/

namespace Scratchpad.Highlight

/-- The run of `length` characters that begins at character number `start`. -/
structure Claim where
  start : Nat
  length : Nat
  deriving DecidableEq, Repr

namespace Claim

/-- The number of the first character after a claim. -/
def stop (c : Claim) : Nat := c.start + c.length

/-- Whether a claim covers character number `i`. -/
def Covers (c : Claim) (i : Nat) : Prop := c.start ≤ i ∧ i < c.stop

instance (c : Claim) (i : Nat) : Decidable (c.Covers i) := inferInstanceAs (Decidable (_ ∧ _))

/-- Claims that begin at `pos` or later, none empty, each at or after the end of the one before. -/
def Ascending : Nat → List Claim → Prop
  | _, [] => True
  | pos, c :: cs => pos ≤ c.start ∧ 0 < c.length ∧ Ascending c.stop cs

@[simp] theorem ascending_nil (pos : Nat) : Ascending pos [] := trivial

theorem ascending_cons (pos : Nat) (c : Claim) (cs : List Claim) :
    Ascending pos (c :: cs) ↔ pos ≤ c.start ∧ 0 < c.length ∧ Ascending c.stop cs := Iff.rfl

theorem start_le_stop (c : Claim) : c.start ≤ c.stop := Nat.le_add_right _ _

/-- Ascending claims begin at the position from which they ascend, or behind it. -/
theorem Ascending.le_start {pos : Nat} {cs : List Claim} {c : Claim} (h : Ascending pos cs)
    (hc : c ∈ cs) : pos ≤ c.start := by
  induction cs generalizing pos with
  | nil => simp at hc
  | cons d cs ih =>
    obtain ⟨hd, -, htail⟩ := h
    rcases List.mem_cons.1 hc with rfl | hc
    · exact hd
    · exact Nat.le_trans hd (Nat.le_trans d.start_le_stop (ih htail hc))

theorem Ascending.mono {pos pos' : Nat} {cs : List Claim} (hle : pos' ≤ pos)
    (h : Ascending pos cs) : Ascending pos' cs := by
  cases cs with
  | nil => trivial
  | cons c cs => exact ⟨Nat.le_trans hle h.1, h.2⟩

theorem Ascending.length_pos {pos : Nat} {cs : List Claim} {c : Claim}
    (h : Ascending pos cs) (hc : c ∈ cs) : 0 < c.length := by
  induction cs generalizing pos with
  | nil => simp at hc
  | cons d cs ih =>
    obtain ⟨-, hpos, htail⟩ := h
    rcases List.mem_cons.1 hc with rfl | hcs
    · exact hpos
    · exact ih htail hcs

/-- Two of some ascending claims that cover the same character are one. -/
theorem Ascending.unique {pos i : Nat} {cs : List Claim} {c d : Claim}
    (h : Ascending pos cs) (hc : c ∈ cs) (hd : d ∈ cs) (hci : c.Covers i)
    (hdi : d.Covers i) : c = d := by
  induction cs generalizing pos with
  | nil => simp at hc
  | cons e cs ih =>
    obtain ⟨-, -, htail⟩ := h
    have hbehind : ∀ f ∈ cs, f.Covers i → ¬ e.Covers i := by
      intro f hf hfi hei
      have hle := htail.le_start hf
      exact absurd hei.2 (Nat.not_lt.2 (Nat.le_trans hle hfi.1))
    rcases List.mem_cons.1 hc with hce | hcs
    · rcases List.mem_cons.1 hd with hde | hds
      · rw [hce, hde]
      · exact absurd (hce ▸ hci) (hbehind d hds hdi)
    · rcases List.mem_cons.1 hd with hde | hds
      · exact absurd (hde ▸ hdi) (hbehind c hcs hci)
      · exact ih htail hcs hds

end Claim

end Scratchpad.Highlight
