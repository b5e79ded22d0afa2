/-!
# Blanks

The characters with the property White_Space, and the text that is left when they are taken from an
end.
-/

namespace Scratchpad.Text

/-- Whether `c` is white space: the five ASCII separators from tab to carriage return, the space,
and the spaces and line ends of the other scripts. -/
def isBlank (c : Char) : Bool :=
  let n := c.toNat
  (0x9 ≤ n && n ≤ 0xD) || n == 0x20 || n == 0x85 || n == 0xA0 || n == 0x1680 ||
    (0x2000 ≤ n && n ≤ 0x200A) || n == 0x2028 || n == 0x2029 || n == 0x202F || n == 0x205F ||
    n == 0x3000

/-- The text from its first character that is not blank. -/
def trimStart (cs : List Char) : List Char := cs.dropWhile isBlank

/-- The text up to its last character that is not blank. -/
def trimEnd (cs : List Char) : List Char := (cs.reverse.dropWhile isBlank).reverse

/-- The text between its first and its last character that is not blank. -/
def trim (cs : List Char) : List Char := trimEnd (trimStart cs)

/-- Whether a text holds nothing but blanks. -/
def allBlank (cs : List Char) : Bool := cs.all isBlank

@[simp] theorem trimStart_nil : trimStart [] = [] := rfl

theorem trimStart_cons (c : Char) (cs : List Char) :
    trimStart (c :: cs) = if isBlank c then trimStart cs else c :: cs := by
  simp only [trimStart, List.dropWhile_cons]

@[simp] theorem allBlank_nil : allBlank [] = true := rfl

@[simp] theorem allBlank_cons (c : Char) (cs : List Char) :
    allBlank (c :: cs) = (isBlank c && allBlank cs) := rfl

@[simp] theorem allBlank_append (as bs : List Char) :
    allBlank (as ++ bs) = (allBlank as && allBlank bs) := by
  simp [allBlank]

/-- Nothing is left of a text exactly when all of it is blank. -/
theorem trimStart_eq_nil_iff (cs : List Char) : trimStart cs = [] ↔ allBlank cs = true := by
  induction cs with
  | nil => simp
  | cons c cs ih =>
    rw [trimStart_cons, allBlank_cons]
    by_cases h : isBlank c <;> simp [h, ih]

end Scratchpad.Text
