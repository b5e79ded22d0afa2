/-!
# Byte offsets

Places in a text are counted in bytes of its UTF-8 form, so not every number is a place: it has to
lie between two characters. `cut?` cuts a text at a byte offset and is absent off a boundary,
`slice?` takes the part between two offsets, and `byteOffset` turns a count of characters into a
byte offset.
-/

namespace Scratchpad.Text

/-- Number of bytes in the UTF-8 form of a text. -/
def byteLength : List Char → Nat
  | [] => 0
  | c :: cs => c.utf8Size + byteLength cs

@[simp] theorem byteLength_nil : byteLength [] = 0 := rfl

@[simp] theorem byteLength_cons (c : Char) (cs : List Char) :
    byteLength (c :: cs) = c.utf8Size + byteLength cs := rfl

@[simp] theorem byteLength_append (as bs : List Char) :
    byteLength (as ++ bs) = byteLength as + byteLength bs := by
  induction as with
  | nil => simp
  | cons c as ih => rw [List.cons_append, byteLength_cons, ih, byteLength_cons, Nat.add_assoc]

/-- The two parts of a text before and after byte offset `n`; absent if `n` lies inside a character
or past the end. -/
def cut? : List Char → Nat → Option (List Char × List Char)
  | cs, 0 => some ([], cs)
  | [], _ + 1 => none
  | c :: cs, n + 1 =>
    if c.utf8Size ≤ n + 1 then
      (cut? cs (n + 1 - c.utf8Size)).map fun p => (c :: p.1, p.2)
    else none

@[simp] theorem cut?_zero (cs : List Char) : cut? cs 0 = some ([], cs) := by
  cases cs <;> rfl

/-- Cutting a joined text at the length of its first part gives the two parts. -/
theorem cut?_append (as bs : List Char) : cut? (as ++ bs) (byteLength as) = some (as, bs) := by
  induction as with
  | nil => simp
  | cons c as ih =>
    have hc := c.utf8Size_pos
    obtain ⟨n, hn⟩ : ∃ n, byteLength (c :: as) = n + 1 :=
      ⟨byteLength (c :: as) - 1, by rw [byteLength_cons]; omega⟩
    have hle : c.utf8Size ≤ n + 1 := by rw [← hn, byteLength_cons]; omega
    have hrest : n + 1 - c.utf8Size = byteLength as := by rw [← hn, byteLength_cons]; omega
    rw [List.cons_append, hn, cut?, if_pos hle, hrest, ih]
    rfl

/-- The parts of a cut join to the text, and the first part has the length of the offset. -/
theorem eq_append_of_cut? {cs as bs : List Char} {n : Nat} (h : cut? cs n = some (as, bs)) :
    cs = as ++ bs ∧ byteLength as = n := by
  induction cs generalizing n as with
  | nil =>
    cases n with
    | zero => simp at h; simp [h]
    | succ n => simp [cut?] at h
  | cons c cs ih =>
    cases n with
    | zero => simp at h; obtain ⟨rfl, rfl⟩ := h; simp
    | succ n =>
      rw [cut?] at h
      split at h
      · next hle =>
        obtain ⟨p, hp, hpe⟩ := Option.map_eq_some_iff.1 h
        obtain ⟨rfl, rfl⟩ := Prod.mk.inj hpe
        obtain ⟨hcs, hlen⟩ := ih hp
        exact ⟨by rw [hcs, List.cons_append], by rw [byteLength_cons, hlen]; omega⟩
      · simp at h

/-- A byte offset is a boundary of a text if it is the length of one of its beginnings. -/
theorem cut?_eq_some_iff {cs as bs : List Char} {n : Nat} :
    cut? cs n = some (as, bs) ↔ cs = as ++ bs ∧ byteLength as = n :=
  ⟨eq_append_of_cut?, fun h => by rw [h.1, ← h.2]; exact cut?_append as bs⟩

/-- The part of a text between two byte offsets; absent if they are reversed, past the end or inside
a character. -/
def slice? (cs : List Char) (start stop : Nat) : Option (List Char) :=
  if start ≤ stop then
    (cut? cs start).bind fun p => (cut? p.2 (stop - start)).map Prod.fst
  else none

/-- The middle part of a joined text is the slice between the lengths before and after it. -/
theorem slice?_append (as bs cs : List Char) :
    slice? (as ++ bs ++ cs) (byteLength as) (byteLength as + byteLength bs) = some bs := by
  have h : byteLength as + byteLength bs - byteLength as = byteLength bs := by omega
  simp [slice?, List.append_assoc, cut?_append, h]

/-- The byte offset of character number `n`, counting from zero; of a character past the end, the
byte length. -/
def byteOffset : List Char → Nat → Nat
  | [], _ => 0
  | _, 0 => 0
  | c :: cs, n + 1 => c.utf8Size + byteOffset cs n

@[simp] theorem byteOffset_nil (n : Nat) : byteOffset [] n = 0 := by cases n <;> rfl

@[simp] theorem byteOffset_zero (cs : List Char) : byteOffset cs 0 = 0 := by cases cs <;> rfl

@[simp] theorem byteOffset_cons_succ (c : Char) (cs : List Char) (n : Nat) :
    byteOffset (c :: cs) (n + 1) = c.utf8Size + byteOffset cs n := rfl

/-- The byte offset of character `n` is the byte length of the `n` characters before it. -/
theorem byteOffset_eq_byteLength_take (cs : List Char) (n : Nat) :
    byteOffset cs n = byteLength (cs.take n) := by
  induction cs generalizing n with
  | nil => simp
  | cons c cs ih =>
    cases n with
    | zero => simp
    | succ n => simp [ih]

/-- The text before byte offset `n`, where an offset past the end counts as the end; absent inside a
character. -/
def upTo? (cs : List Char) (n : Nat) : Option (List Char) :=
  (cut? cs (min n (byteLength cs))).map Prod.fst

end Scratchpad.Text
