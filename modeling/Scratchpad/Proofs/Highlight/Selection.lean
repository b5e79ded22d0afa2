import Scratchpad.Proofs.Highlight.Resolution

/-!
# Resolution, one selection after the other

Resolution goes round a loop: it refreshes the slots that have been overtaken, selects the claim that
begins first, and goes on at its end. `Turn` is where it stands between two selections, and
`Selects text claims turn` says that it gets there with these claims. The invariant is `Turn.Sound`:
the slots are those of a fresh search at some earlier position, so when they have been refreshed they
are those of a fresh search here. The main statement, `selects_sound`, says so of every turn, and
that the loop comes to an end with the claims that `literalClaims` lists.
-/

namespace Scratchpad.Highlight

theorem Claim.Ascending.concat {pos : Nat} {cs : List Claim} {c : Claim} (h : Ascending pos cs)
    (hpos : pos ≤ c.start) (hlength : 0 < c.length) (hstop : ∀ d ∈ cs, d.stop ≤ c.start) :
    Ascending pos (cs ++ [c]) := by
  induction cs generalizing pos with
  | nil => exact ⟨hpos, hlength, trivial⟩
  | cons d cs ih =>
    obtain ⟨hd, hds⟩ := List.forall_mem_cons.1 hstop
    obtain ⟨hle, hlong, htail⟩ := h
    exact ⟨hle, hlong, ih htail hd hds⟩

namespace Literal

/-- What is found in a text was claimed behind what was skipped. -/
theorem exists_of_find? {l : Literal} {pos : Nat} {rest : List Char} {c : Claim}
    (h : l.find? pos rest = some c) :
    ∃ skipped tail, rest = skipped ++ tail ∧ c.start = pos + skipped.length ∧
      l.claim? tail = some c.length := by
  induction rest generalizing pos with
  | nil => cases h
  | cons d rest ih =>
    cases hd : l.claim? (d :: rest) with
    | some n =>
      rw [find?_cons_of_some hd] at h
      cases h
      exact ⟨[], d :: rest, rfl, rfl, hd⟩
    | none =>
      rw [find?_cons_of_none hd] at h
      obtain ⟨skipped, tail, rfl, hstart, hclaim⟩ := ih h
      refine ⟨d :: skipped, tail, rfl, ?_, hclaim⟩
      rw [hstart, List.length_cons, Nat.add_comm skipped.length, Nat.add_assoc]

/-- A search that begins later finds the same claim, or none if none was found before. -/
theorem find?_later {l : Literal} {text : List Char} {pos pos' : Nat} (hle : pos ≤ pos')
    (h : ∀ c, l.find? pos (text.drop pos) = some c → pos' ≤ c.start) :
    l.find? pos' (text.drop pos') = l.find? pos (text.drop pos) := by
  obtain ⟨n, rfl⟩ := Nat.exists_eq_add_of_le hle
  rw [← List.drop_drop]
  exact find?_drop h

end Literal

/-- Where resolution stands: the position, the text from there on, and the slots as the last
selection has left them. -/
structure Turn where
  pos : Nat
  rest : List Char
  slots : List Slot

namespace Turn

/-- The first turn, with every kind of literal searched in the whole text. -/
def first (text : List Char) : Turn := ⟨0, text, Literal.all.map (Slot.search text)⟩

/-- The slots among which a turn selects. -/
def refreshed (t : Turn) : List Slot := t.slots.map (Slot.refresh t.pos t.rest)

/-- The claim that a turn selects, with its kind; none when the loop ends. -/
def selected? (t : Turn) : Option (Literal × Claim) := Slot.earliest t.refreshed

/-- The turn after a claim has been selected. -/
def after (t : Turn) (c : Claim) : Turn := ⟨c.stop, t.rest.drop (c.stop - t.pos), t.refreshed⟩

@[simp] theorem after_pos (t : Turn) (c : Claim) : (t.after c).pos = c.stop := rfl

/-- The claims that resolution selects from a turn on. -/
def resolve (bound : Nat) (t : Turn) : List (Literal × Claim) :=
  resolveFrom bound t.pos t.rest t.slots

theorem resolve_of_selected {bound : Nat} {t : Turn} {l : Literal} {c : Claim}
    (h : t.selected? = some (l, c)) :
    t.resolve (bound + 1) = (l, c) :: (t.after c).resolve bound := by
  have hearliest : Slot.earliest (t.slots.map (Slot.refresh t.pos t.rest)) = some (l, c) := h
  simp only [resolve, resolveFrom, hearliest]
  rfl

theorem resolve_of_not_selected {bound : Nat} {t : Turn} (h : t.selected? = none) :
    t.resolve bound = [] := by
  cases bound with
  | zero => rfl
  | succ bound =>
    have hearliest : Slot.earliest (t.slots.map (Slot.refresh t.pos t.rest)) = none := h
    simp only [resolve, resolveFrom, hearliest]

/-- The slots of a turn come from a search at an earlier position, or at its own. -/
structure Sound (text : List Char) (t : Turn) : Prop where
  rest_eq : t.rest = text.drop t.pos
  pos_le : t.pos ≤ text.length
  exists_slots : ∃ pos, pos ≤ t.pos ∧ t.slots = freshSlots pos (text.drop pos)

variable {text : List Char} {t : Turn} {l : Literal} {c : Claim}

theorem sound_first (text : List Char) : (first text).Sound text :=
  ⟨rfl, Nat.zero_le _, 0, Nat.le_refl 0, rfl⟩

/-- Every turn selects among the slots of a fresh search. -/
theorem Sound.refreshed_eq (h : t.Sound text) :
    t.refreshed = freshSlots t.pos (text.drop t.pos) := by
  obtain ⟨pos, hle, hslots⟩ := h.exists_slots
  obtain ⟨n, hn⟩ := Nat.exists_eq_add_of_le hle
  rw [refreshed, hslots, h.rest_eq, hn, ← List.drop_drop]
  exact map_refresh_freshSlots pos n (text.drop pos)

/-- What a turn selects is a literal that stands where the claim begins. -/
theorem Sound.exists_of_selected (h : t.Sound text) (hc : t.selected? = some (l, c)) :
    ∃ before tail, text = before ++ tail ∧ c.start = before.length ∧
      l.claim? tail = some c.length ∧ t.pos ≤ c.start := by
  rw [selected?, h.refreshed_eq] at hc
  obtain ⟨s, hs, rfl, hfound⟩ := Slot.exists_mem_of_earliest hc
  rw [mem_freshSlots.1 hs] at hfound
  obtain ⟨skipped, tail, hrest, hstart, hclaim⟩ := Literal.exists_of_find? hfound
  refine ⟨text.take t.pos ++ skipped, tail, ?_, ?_, hclaim, Literal.find?_pos_le hfound⟩
  · rw [List.append_assoc, ← hrest, List.take_append_drop]
  · rw [hstart, List.length_append, List.length_take, Nat.min_eq_left h.pos_le]

/-- A claim takes at least one character, and none behind the text. -/
theorem Sound.selected_bounds (h : t.Sound text) (hc : t.selected? = some (l, c)) :
    t.pos ≤ c.start ∧ 0 < c.length ∧ c.stop ≤ text.length := by
  obtain ⟨before, tail, rfl, hstart, hclaim, hpos⟩ := h.exists_of_selected hc
  obtain ⟨taken, rest, rfl, hlength, hliteral⟩ := Literal.exists_of_claim? hclaim
  obtain ⟨d, ds, rfl, -⟩ := hliteral.exists_head
  refine ⟨hpos, ?_, ?_⟩
  · rw [hlength]
    exact Nat.succ_pos _
  · rw [Claim.stop, hstart, hlength, List.length_append, List.length_append, ← Nat.add_assoc]
    exact Nat.le_add_right _ _

theorem Sound.after (h : t.Sound text) (hc : t.selected? = some (l, c)) :
    (t.after c).Sound text := by
  obtain ⟨hpos, -, hstop⟩ := h.selected_bounds hc
  have hle : t.pos ≤ c.stop := Nat.le_trans hpos c.start_le_stop
  refine ⟨?_, hstop, t.pos, hle, h.refreshed_eq⟩
  rw [Turn.after, h.rest_eq, List.drop_drop, Nat.add_sub_cancel' hle]

/-- At the end of the text nothing is left to select. -/
theorem Sound.selected?_eq_none (h : t.Sound text) (hend : text.length ≤ t.pos) :
    t.selected? = none := by
  cases hc : t.selected? with
  | none => rfl
  | some lc =>
    obtain ⟨hpos, hlength, hstop⟩ := h.selected_bounds hc
    rw [Claim.stop] at hstop
    omega

end Turn

/-- From the first turn resolution comes to a turn with these claims, in order. -/
inductive Selects (text : List Char) : List (Literal × Claim) → Turn → Prop where
  | first : Selects text [] (.first text)
  | select {claims : List (Literal × Claim)} {t : Turn} {l : Literal} {c : Claim}
      (earlier : Selects text claims t) (selected : t.selected? = some (l, c)) :
      Selects text (claims ++ [(l, c)]) (t.after c)

namespace Selects

variable {text : List Char} {claims : List (Literal × Claim)} {t : Turn}

theorem sound (h : Selects text claims t) : t.Sound text := by
  induction h with
  | first => exact Turn.sound_first text
  | select _ hc ih => exact ih.after hc

/-- The claims ascend, and the last one ends where the turn stands. -/
theorem ascending (h : Selects text claims t) :
    Claim.Ascending 0 (claims.map Prod.snd) ∧ ∀ lc ∈ claims, lc.2.stop ≤ t.pos := by
  induction h with
  | first => exact ⟨trivial, nofun⟩
  | @select claims t l c earlier hc ih =>
    obtain ⟨hascending, hstop⟩ := ih
    obtain ⟨hpos, hlength, -⟩ := earlier.sound.selected_bounds hc
    constructor
    · rw [List.map_append]
      apply hascending.concat (Nat.zero_le _) hlength
      intro d hd
      obtain ⟨lc, hlc, rfl⟩ := List.mem_map.1 hd
      exact Nat.le_trans (hstop lc hlc) hpos
    · intro lc hlc
      rcases List.mem_append.1 hlc with hlc | hlc
      · exact Nat.le_trans (hstop lc hlc) (Nat.le_trans hpos c.start_le_stop)
      · rw [List.mem_singleton.1 hlc]
        exact Nat.le_refl _

/-- Every claim moves the position on by one character at least. -/
theorem length_le_pos (h : Selects text claims t) : claims.length ≤ t.pos := by
  induction h with
  | first => exact Nat.le_refl 0
  | @select claims t l c earlier hc ih =>
    obtain ⟨hpos, hlength, -⟩ := earlier.sound.selected_bounds hc
    rw [List.length_append, List.length_singleton, Turn.after_pos, Claim.stop]
    omega

/-- The claims so far and those that resolution selects from the turn on are all claims. -/
theorem literalClaims_eq_append (h : Selects text claims t) :
    literalClaims text = claims ++ t.resolve (text.length - claims.length) := by
  induction h with
  | first => rfl
  | @select claims t l c earlier hc ih =>
    have hbound : claims.length < text.length := by
      obtain ⟨hpos, hlength, hstop⟩ := earlier.sound.selected_bounds hc
      have hle := earlier.length_le_pos
      rw [Claim.stop] at hstop
      omega
    obtain ⟨bound, hbound⟩ := Nat.exists_eq_add_of_lt hbound
    have hsub : text.length - claims.length = bound + 1 := by omega
    rw [ih, hsub, Turn.resolve_of_selected hc, List.append_assoc, List.length_append,
      List.length_singleton]
    congr 3
    omega

/-- From every turn resolution comes to its end, and the bound does not cut it short. -/
theorem exists_end (h : Selects text claims t) (bound : Nat) (hbound : text.length - t.pos ≤ bound) :
    ∃ last, Selects text (claims ++ t.resolve bound) last ∧ last.selected? = none := by
  induction bound generalizing claims t with
  | zero =>
    refine ⟨t, ?_, h.sound.selected?_eq_none (Nat.le_of_sub_eq_zero (Nat.le_zero.1 hbound))⟩
    rwa [Turn.resolve, resolveFrom, List.append_nil]
  | succ bound ih =>
    cases hc : t.selected? with
    | none =>
      rw [Turn.resolve_of_not_selected hc, List.append_nil]
      exact ⟨t, h, hc⟩
    | some lc =>
      obtain ⟨l, c⟩ := lc
      obtain ⟨hpos, hlength, hstop⟩ := h.sound.selected_bounds hc
      have hnext : text.length - (t.after c).pos ≤ bound := by
        rw [Turn.after_pos, Claim.stop]
        omega
      obtain ⟨last, hlast, hnone⟩ := ih (h.select hc) hnext
      rw [Turn.resolve_of_selected hc]
      rw [List.append_assoc] at hlast
      exact ⟨last, hlast, hnone⟩

end Selects

/-- The claims of the literals are those of the turns of resolution, up to the one that selects
nothing. -/
theorem exists_selects_literalClaims (text : List Char) :
    ∃ last, Selects text (literalClaims text) last ∧ last.selected? = none := by
  have hfirst : Selects text [] (.first text) := .first
  exact hfirst.exists_end text.length (Nat.sub_le _ _)

/-- A claim of a literal is one that stands in the text, with all of its characters. -/
theorem exists_isLiteral_of_mem {text : List Char} {l : Literal} {c : Claim}
    (h : (l, c) ∈ literalClaims text) :
    ∃ before taken rest, text = before ++ taken ++ rest ∧ c = ⟨before.length, taken.length⟩ ∧
      IsLiteral l.category taken rest := by
  obtain ⟨last, hlast, -⟩ := exists_selects_literalClaims text
  generalize literalClaims text = claims at h hlast
  induction hlast with
  | first => exact absurd h nofun
  | select earlier selected ih =>
    rcases List.mem_append.1 h with h | h
    · exact ih h
    · obtain ⟨rfl, rfl⟩ := Prod.mk.inj (List.mem_singleton.1 h)
      obtain ⟨before, tail, rfl, hstart, hclaim, -⟩ := earlier.sound.exists_of_selected selected
      obtain ⟨taken, rest, rfl, hlength, hliteral⟩ := Literal.exists_of_claim? hclaim
      refine ⟨before, taken, rest, (List.append_assoc _ _ _).symm, ?_, hliteral⟩
      rw [← hstart, ← hlength]

/-- What holds where resolution has come to a turn with some claims. -/
structure Turn.Keeps (text : List Char) (claims : List (Literal × Claim)) (t : Turn) : Prop where
  refreshed_eq : t.refreshed = freshSlots t.pos (text.drop t.pos)
  advances : ∀ l c, t.selected? = some (l, c) →
    t.pos ≤ c.start ∧ t.pos < (t.after c).pos ∧ (t.after c).pos ≤ text.length
  ascending : Claim.Ascending 0 (claims.map Prod.snd)
  stop_le : ∀ lc ∈ claims, lc.2.stop ≤ t.pos
  length_le : claims.length ≤ text.length
  isPrefix : claims <+: literalClaims text

theorem Selects.keeps {text : List Char} {claims : List (Literal × Claim)} {t : Turn}
    (h : Selects text claims t) : t.Keeps text claims := by
  refine ⟨h.sound.refreshed_eq, ?_, h.ascending.1, h.ascending.2, ?_, ?_⟩
  · intro l c hc
    obtain ⟨hpos, hlength, hstop⟩ := h.sound.selected_bounds hc
    exact ⟨hpos, Nat.lt_of_le_of_lt hpos (Nat.lt_add_of_pos_right hlength), hstop⟩
  · exact Nat.le_trans h.length_le_pos h.sound.pos_le
  · exact ⟨_, h.literalClaims_eq_append.symm⟩

/-- At every selection each slot holds what a fresh search from the position finds, however long ago
it was searched: a search from a later position finds nothing if nothing was found before, and the
same claim until that is overtaken. Every claim begins at the position or behind it and moves the
position on, so the claims ascend and do not overlap. The loop comes to its end with the claims that
are listed, and these are no more than the characters of the text. -/
theorem selects_sound (text : List Char) :
    (∀ claims t, Selects text claims t → t.Keeps text claims) ∧
      (∀ (l : Literal) (pos pos' : Nat), pos ≤ pos' →
        (l.find? pos (text.drop pos) = none → l.find? pos' (text.drop pos') = none) ∧
          ∀ c, l.find? pos (text.drop pos) = some c → pos' ≤ c.start →
            l.find? pos' (text.drop pos') = some c) ∧
      ∃ last, Selects text (literalClaims text) last ∧ last.selected? = none := by
  refine ⟨fun claims t h => h.keeps, ?_, exists_selects_literalClaims text⟩
  intro l pos pos' hle
  constructor
  · intro hnone
    rw [Literal.find?_later hle (by simp [hnone]), hnone]
  · intro c hc hkept
    rw [Literal.find?_later hle (by simpa [hc] using hkept), hc]

/-- Behind the first comment of this text the slot of the second one is kept. -/
theorem selects_sound_keptSlot :
    (∃ t, Selects "#'\n//".toList [(.hashComment, ⟨0, 2⟩)] t ∧
      t.Keeps "#'\n//".toList [(.hashComment, ⟨0, 2⟩)]) ∧
      0 ≤ 2 ∧ Literal.slashComment.find? 0 ("#'\n//".toList.drop 0) = some ⟨3, 2⟩ ∧
      Literal.slashComment.find? 2 ("#'\n//".toList.drop 2) = some ⟨3, 2⟩ ∧
      Literal.blockComment.find? 0 ("#'\n//".toList.drop 0) = none ∧
      Literal.blockComment.find? 2 ("#'\n//".toList.drop 2) = none := by
  have hturn : Selects "#'\n//".toList ([] ++ [(.hashComment, ⟨0, 2⟩)]) _ :=
    .select .first (by decide)
  obtain ⟨hkeeps, hlater, -⟩ := selects_sound "#'\n//".toList
  have hfound : Literal.slashComment.find? 0 ("#'\n//".toList.drop 0) = some ⟨3, 2⟩ := by decide
  have hnone : Literal.blockComment.find? 0 ("#'\n//".toList.drop 0) = none := by decide
  exact ⟨⟨_, hturn, hkeeps _ _ hturn⟩, by decide, hfound,
    (hlater _ 0 2 (by decide)).2 _ hfound (by decide), hnone,
    (hlater _ 0 2 (by decide)).1 hnone⟩

end Scratchpad.Highlight
