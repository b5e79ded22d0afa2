import Scratchpad.Highlight.Resolution
import Scratchpad.Proofs.Highlight.Literal

/-!
# Kept claims are fresh claims

Resolution keeps the first claim of every kind of literal and searches a kind again only when its
claim has been overtaken. `freshSlots pos rest` holds what a search of every kind from `pos` finds,
and `map_refresh_freshSlots` is the invariant of the loop: slots that were fresh at some position
are fresh at any later one after they have been refreshed. So resolution may be read as if it
searched all kinds afresh at every position, and the equations at the end of this file read it one
character at a time.
-/

namespace Scratchpad.Highlight

namespace Literal

theorem find?_pos_le {l : Literal} {pos : Nat} {rest : List Char} {c : Claim}
    (h : l.find? pos rest = some c) : pos ≤ c.start := by
  induction rest generalizing pos with
  | nil => simp at h
  | cons d rest ih =>
    cases hd : l.claim? (d :: rest) with
    | some n =>
      rw [find?_cons_of_some hd] at h
      exact Nat.le_of_eq (congrArg Claim.start (Option.some.inj h))
    | none =>
      rw [find?_cons_of_none hd] at h
      exact Nat.le_of_succ_le (ih h)

/-- A search may begin later, as long as the claim that it finds is not overtaken. -/
theorem find?_drop {l : Literal} {pos n : Nat} {rest : List Char}
    (h : ∀ c, l.find? pos rest = some c → pos + n ≤ c.start) :
    l.find? (pos + n) (rest.drop n) = l.find? pos rest := by
  induction n generalizing pos rest with
  | zero => rfl
  | succ n ih =>
    cases rest with
    | nil => rfl
    | cons d rest =>
      cases hd : l.claim? (d :: rest) with
      | some m =>
        have hle := h _ (find?_cons_of_some hd)
        exact absurd hle (by simp)
      | none =>
        have hstep : l.find? pos (d :: rest) = l.find? (pos + 1) rest := find?_cons_of_none hd
        rw [hstep, List.drop_succ_cons, Nat.add_comm n 1, ← Nat.add_assoc]
        apply ih
        intro c hc
        rw [← hstep] at hc
        have hle := h c hc
        omega

end Literal

/-- The slots that a search of every kind of literal from `pos` gives. -/
def freshSlots (pos : Nat) (rest : List Char) : List Slot :=
  Literal.all.map fun l => ⟨l, l.find? pos rest⟩

theorem mem_freshSlots {pos : Nat} {rest : List Char} {s : Slot} :
    s ∈ freshSlots pos rest ↔ s.found = s.literal.find? pos rest := by
  constructor
  · intro h
    obtain ⟨l, -, rfl⟩ := List.mem_map.1 h
    rfl
  · intro h
    refine List.mem_map.2 ⟨s.literal, ?_, ?_⟩
    · cases s.literal <;> simp [Literal.all]
    · rw [← h]

/-- Refreshing a slot that was fresh gives the slot of a fresh search. -/
theorem Slot.refresh_fresh (pos n : Nat) (rest : List Char) (l : Literal) :
    Slot.refresh (pos + n) (rest.drop n) ⟨l, l.find? pos rest⟩ =
      ⟨l, l.find? (pos + n) (rest.drop n)⟩ := by
  have hkeep := @Literal.find?_drop l pos n rest
  cases hf : l.find? pos rest with
  | none =>
    rw [hkeep (by simp [hf]), hf]
    rfl
  | some c =>
    by_cases hc : c.start < pos + n
    · simp [refresh, hc]
    · rw [hkeep (by simp [hf]; omega), hf]
      simp [refresh, hc]

/-- The invariant of resolution: at every position the refreshed slots hold what a fresh search
finds there. -/
theorem map_refresh_freshSlots (pos n : Nat) (rest : List Char) :
    (freshSlots pos rest).map (Slot.refresh (pos + n) (rest.drop n)) =
      freshSlots (pos + n) (rest.drop n) := by
  rw [freshSlots, List.map_map]
  apply List.map_congr_left
  intro l _
  exact Slot.refresh_fresh pos n rest l

namespace Slot

theorem exists_mem_of_earliest {slots : List Slot} {l : Literal} {c : Claim}
    (h : earliest slots = some (l, c)) : ∃ s ∈ slots, s.literal = l ∧ s.found = some c := by
  induction slots with
  | nil => simp [earliest] at h
  | cons s slots ih =>
    rw [earliest] at h
    split at h
    · obtain ⟨t, ht, hlc⟩ := ih h
      exact ⟨t, List.mem_cons_of_mem s ht, hlc⟩
    · next d hs _ =>
      obtain ⟨rfl, rfl⟩ := Prod.mk.inj (Option.some.inj h)
      exact ⟨s, List.mem_cons_self, rfl, hs⟩
    · next d m e hs he =>
      split at h
      · obtain ⟨rfl, rfl⟩ := Prod.mk.inj (Option.some.inj h)
        obtain ⟨t, ht, hlc⟩ := ih he
        exact ⟨t, List.mem_cons_of_mem s ht, hlc⟩
      · obtain ⟨rfl, rfl⟩ := Prod.mk.inj (Option.some.inj h)
        exact ⟨s, List.mem_cons_self, rfl, hs⟩

/-- The only slot whose claim begins first wins. -/
theorem earliest_eq_some {slots : List Slot} {s : Slot} {c : Claim} (hs : s ∈ slots)
    (hf : s.found = some c)
    (hmin : ∀ t ∈ slots, ∀ d, t.found = some d → t = s ∨ c.start < d.start) :
    earliest slots = some (s.literal, c) := by
  induction slots with
  | nil => simp at hs
  | cons t slots ih =>
    have htail := fun hs => ih hs fun u hu => hmin u (List.mem_cons_of_mem t hu)
    rcases List.mem_cons.1 hs with rfl | hs'
    · cases he : earliest slots with
      | none => simp [earliest, hf, he]
      | some e =>
        obtain ⟨u, hu, hul, hue⟩ := exists_mem_of_earliest he
        have hlt : ¬ e.2.start < c.start := by
          rcases hmin u (List.mem_cons_of_mem s hu) e.2 hue with rfl | hlt
          · rw [Option.some.inj (hf.symm.trans hue)]
            exact Nat.lt_irrefl _
          · omega
        simp [earliest, hf, he, hlt]
    · have he := htail hs'
      cases ht : t.found with
      | none => simp [earliest, ht, he]
      | some d =>
        rcases hmin t List.mem_cons_self d ht with rfl | hlt
        · obtain rfl := Option.some.inj (hf.symm.trans ht)
          simp [earliest, hf, he]
        · simp [earliest, ht, he, hlt]

end Slot

/-- A literal at the front of the rest of a text is its first one. -/
theorem earliest_freshSlots_of_claim {l : Literal} {pos n : Nat} {rest : List Char}
    (h : l.claim? rest = some n) :
    Slot.earliest (freshSlots pos rest) = some (l, ⟨pos, n⟩) := by
  cases rest with
  | nil => cases l <;> simp [Literal.claim?] at h
  | cons c rest =>
    have hf : l.find? pos (c :: rest) = some ⟨pos, n⟩ := Literal.find?_cons_of_some h
    have hmem : ⟨l, some ⟨pos, n⟩⟩ ∈ freshSlots pos (c :: rest) := mem_freshSlots.2 hf.symm
    refine Slot.earliest_eq_some hmem rfl ?_
    intro t ht d hd
    rw [mem_freshSlots.1 ht] at hd
    by_cases hl : t.literal = l
    · left
      have hfound := mem_freshSlots.1 ht
      rw [hl, hf] at hfound
      cases t
      simp_all
    · right
      -- no other kind has a claim here, so its first claim lies behind this character
      have hnone : t.literal.claim? (c :: rest) = none := by
        cases hc : t.literal.claim? (c :: rest) with
        | none => rfl
        | some m => exact absurd (Literal.claim?_unique hc h) hl
      rw [Literal.find?_cons_of_none hnone] at hd
      exact Literal.find?_pos_le hd

/-- A character at which no literal begins makes no difference to the first claims. -/
theorem freshSlots_of_no_claim {pos : Nat} {c : Char} {rest : List Char}
    (h : ∀ l : Literal, l.claim? (c :: rest) = none) :
    freshSlots pos (c :: rest) = freshSlots (pos + 1) rest := by
  apply List.map_congr_left
  intro l _
  rw [Literal.find?_cons_of_none (h l)]

theorem map_refresh_self (pos : Nat) (rest : List Char) :
    (freshSlots pos rest).map (Slot.refresh pos rest) = freshSlots pos rest := by
  have hagain := map_refresh_freshSlots pos 0 rest
  rwa [Nat.add_zero, List.drop_zero] at hagain

/-- Resolution reads the slots only after it has refreshed them. -/
theorem resolveFrom_freshSlots (bound pos n : Nat) (rest : List Char) :
    resolveFrom bound (pos + n) (rest.drop n) (freshSlots pos rest) =
      resolveFrom bound (pos + n) (rest.drop n) (freshSlots (pos + n) (rest.drop n)) := by
  cases bound with
  | zero => rfl
  | succ bound => rw [resolveFrom, resolveFrom, map_refresh_freshSlots, map_refresh_self]

/-- The claims of the literals in `rest`, when all kinds are searched afresh at `pos`. -/
def resolveFresh (bound pos : Nat) (rest : List Char) : List (Literal × Claim) :=
  resolveFrom bound pos rest (freshSlots pos rest)

theorem literalClaims_eq (text : List Char) :
    literalClaims text = resolveFresh text.length 0 text := rfl

@[simp] theorem resolveFresh_nil (bound pos : Nat) : resolveFresh bound pos [] = [] := by
  cases bound <;> rfl

theorem resolveFresh_of_earliest_none {bound pos : Nat} {rest : List Char}
    (h : Slot.earliest (freshSlots pos rest) = none) : resolveFresh (bound + 1) pos rest = [] := by
  simp only [resolveFresh, resolveFrom, map_refresh_self, h]

theorem resolveFresh_of_earliest_some {bound pos : Nat} {rest : List Char} {l : Literal} {c : Claim}
    (h : Slot.earliest (freshSlots pos rest) = some (l, c)) :
    resolveFresh (bound + 1) pos rest =
      (l, c) :: resolveFrom bound c.stop (rest.drop (c.stop - pos)) (freshSlots pos rest) := by
  simp only [resolveFresh, resolveFrom, map_refresh_self, h]

theorem le_start_of_earliest {pos : Nat} {rest : List Char} {l : Literal} {c : Claim}
    (h : Slot.earliest (freshSlots pos rest) = some (l, c)) : pos ≤ c.start := by
  obtain ⟨s, hs, -, hc⟩ := Slot.exists_mem_of_earliest h
  rw [mem_freshSlots.1 hs] at hc
  exact Literal.find?_pos_le hc

/-- A literal at the front claims its text, and resolution goes on at its end. -/
theorem resolveFresh_of_claim {bound pos n : Nat} {l : Literal} {rest : List Char}
    (h : l.claim? rest = some n) :
    resolveFresh (bound + 1) pos rest =
      (l, ⟨pos, n⟩) :: resolveFresh bound (pos + n) (rest.drop n) := by
  have hstop : Claim.stop ⟨pos, n⟩ = pos + n := rfl
  rw [resolveFresh_of_earliest_some (earliest_freshSlots_of_claim h), hstop,
    Nat.add_sub_cancel_left, resolveFrom_freshSlots, resolveFresh]

/-- Where no literal begins, resolution goes on at the next character. -/
theorem resolveFresh_of_no_claim {bound pos : Nat} {c : Char} {rest : List Char}
    (h : ∀ l : Literal, l.claim? (c :: rest) = none) :
    resolveFresh bound pos (c :: rest) = resolveFresh bound (pos + 1) rest := by
  have hslots := @freshSlots_of_no_claim pos c rest h
  cases bound with
  | zero => rfl
  | succ bound =>
    cases he : Slot.earliest (freshSlots (pos + 1) rest) with
    | none =>
      rw [resolveFresh_of_earliest_none he, resolveFresh_of_earliest_none (by rw [hslots, he])]
    | some e =>
      obtain ⟨l, d⟩ := e
      have hle := le_start_of_earliest he
      have hstop : d.start ≤ d.stop := Nat.le_add_right _ _
      have hdrop : d.stop - pos = (d.stop - (pos + 1)) + 1 := by omega
      rw [resolveFresh_of_earliest_some he,
        resolveFresh_of_earliest_some (hslots ▸ he : Slot.earliest (freshSlots pos _) = _), hslots,
        hdrop, List.drop_succ_cons]

/-- Every claim of resolution begins at `pos` or later. -/
theorem le_start_of_resolveFresh {bound pos : Nat} {rest : List Char} {l : Literal} {c : Claim}
    {more : List (Literal × Claim)} (h : resolveFresh bound pos rest = (l, c) :: more) :
    pos ≤ c.start := by
  cases bound with
  | zero => simp [resolveFresh, resolveFrom] at h
  | succ bound =>
    cases he : Slot.earliest (freshSlots pos rest) with
    | none =>
      rw [resolveFresh_of_earliest_none he] at h
      exact absurd h (by simp)
    | some e =>
      rw [resolveFresh_of_earliest_some he] at h
      obtain ⟨rfl, rfl⟩ := Prod.mk.inj (List.cons.inj h).1
      exact le_start_of_earliest he

end Scratchpad.Highlight
