import Scratchpad.Json

/-!
# Control characters in JSON text

`controlsFrom` lists the control characters of a text, each with its place: outside the strings, or
inside one. The text of a value has none but the line feeds between its parts, since strings escape
theirs (`tidy_layout`). What is written for one character of a string stays inside that string, and
a part of a laid out value ends every string that it begins: both are `Tidy`, each at its place.
-/

namespace Scratchpad.Json

/-- Where a character of a JSON text stands: outside the strings, inside one, or there behind a
backslash. -/
inductive Place where
  | outside
  | inside
  | escaped
  deriving DecidableEq, Repr

/-- The place behind a character. -/
def Place.next : Place → Char → Place
  | .outside, c => if c = '"' then .inside else .outside
  | .inside, c => if c = '"' then .outside else if c = '\\' then .escaped else .inside
  | .escaped, _ => .inside

/-- The control characters of a text that begins at a place, with their places. -/
def controlsFrom : Place → List Char → List (Place × Char)
  | _, [] => []
  | p, c :: cs =>
    if c.toNat < 0x20 then (p, c) :: controlsFrom (p.next c) cs else controlsFrom (p.next c) cs

/-- A text that ends at the place where it begins, without control characters but line feeds outside
the strings. -/
structure Tidy (p : Place) (cs : List Char) : Prop where
  place : cs.foldl Place.next p = p
  controls : ∀ x ∈ controlsFrom p cs, x = (.outside, '\n')

variable {p : Place}

theorem controlsFrom_append (p : Place) (as bs : List Char) :
    controlsFrom p (as ++ bs) = controlsFrom p as ++ controlsFrom (as.foldl Place.next p) bs := by
  induction as generalizing p with
  | nil => rfl
  | cons a as ih =>
    simp only [List.cons_append, controlsFrom, List.foldl_cons, ih]
    split <;> rfl

theorem tidy_nil : Tidy p [] := by
  refine ⟨rfl, ?_⟩
  intro x hx
  cases hx

theorem Tidy.append {as bs : List Char} (ha : Tidy p as) (hb : Tidy p bs) : Tidy p (as ++ bs) := by
  refine ⟨?_, ?_⟩
  · rw [List.foldl_append, ha.place, hb.place]
  · intro x hx
    rw [controlsFrom_append, ha.place] at hx
    exact (List.mem_append.1 hx).elim (ha.controls x) (hb.controls x)

theorem tidy_flatMap {f : Char → List Char} (h : ∀ c, Tidy p (f c)) (cs : List Char) :
    Tidy p (cs.flatMap f) := by
  induction cs with
  | nil => exact tidy_nil
  | cons c cs ih =>
    rw [List.flatMap_cons]
    exact (h c).append ih

/-- A character that is no control character is tidy where it leads to no other place. -/
theorem Tidy.cons {c : Char} {cs : List Char} (hc : ¬ c.toNat < 0x20) (hnext : p.next c = p)
    (h : Tidy p cs) : Tidy p (c :: cs) := by
  refine ⟨?_, ?_⟩
  · rw [List.foldl_cons, hnext, h.place]
  · intro x hx
    rw [controlsFrom, if_neg hc, hnext] at hx
    exact h.controls x hx

theorem tidy_of_forall {cs : List Char} (h : ∀ c ∈ cs, ¬ c.toNat < 0x20 ∧ p.next c = p) :
    Tidy p cs := by
  induction cs with
  | nil => exact tidy_nil
  | cons c cs ih =>
    obtain ⟨⟨hc, hnext⟩, hcs⟩ := List.forall_mem_cons.1 h
    exact (ih hcs).cons hc hnext

theorem tidy_lineBreak (depth : Nat) : Tidy .outside (lineBreak depth) := by
  have hspaces : Tidy .outside (List.replicate (2 * depth) ' ') := by
    apply tidy_of_forall
    intro c hc
    rw [List.eq_of_mem_replicate hc]
    decide
  refine ⟨hspaces.place, ?_⟩
  intro x hx
  exact (List.mem_cons.1 hx).elim id (hspaces.controls x)

/-! ### Strings -/

theorem hexDigit_inside : ∀ n < 16,
    ¬ (hexDigit n).toNat < 0x20 ∧ Place.inside.next (hexDigit n) = .inside := by decide

theorem tidy_escaped (c : Char) : Tidy .inside (escaped c) := by
  unfold escaped
  split
  case h_8 hquote hbackslash _ _ _ _ _ =>
    split
    · obtain ⟨hhigh, hhigh'⟩ := hexDigit_inside (c.toNat / 16) (by omega)
      obtain ⟨hlow, hlow'⟩ := hexDigit_inside (c.toNat % 16) (by omega)
      have hdigits := (tidy_nil.cons hlow hlow').cons hhigh hhigh'
      have hzeros := (hdigits.cons (c := '0') (by decide) rfl).cons (c := '0') (by decide) rfl
      exact ⟨hzeros.place, hzeros.controls⟩
    · next hcontrol =>
      have hnext : Place.inside.next c = .inside := by
        rw [Place.next, if_neg hquote, if_neg hbackslash]
      exact tidy_nil.cons hcontrol hnext
  all_goals exact ⟨rfl, nofun⟩

theorem tidy_quoted (cs : List Char) : Tidy .outside (quoted cs) := by
  have hinside := tidy_flatMap tidy_escaped cs
  refine ⟨?_, ?_⟩
  · rw [quoted, List.foldl_append]
    exact congrArg (Place.next · '"') hinside.place
  · intro x hx
    have hx' : x ∈ controlsFrom .inside (cs.flatMap escaped ++ ['"']) := hx
    rw [controlsFrom_append, hinside.place] at hx'
    exact (List.mem_append.1 hx').elim (hinside.controls x) nofun

/-! ### Values -/

theorem tidy_toDigits (n : Nat) : Tidy .outside (Nat.toDigits 10 n) := by
  apply tidy_of_forall
  intro c hc
  have hdigit := Nat.isDigit_of_mem_toDigits (by decide) (by decide) hc
  have hlow : 48 ≤ c.toNat := (Char.isDigit_iff_toNat.1 hdigit).1
  refine ⟨by omega, if_neg ?_⟩
  rintro rfl
  exact absurd hdigit (by decide)

theorem tidy_decimal (n : Int) : Tidy .outside (decimal n) := by
  cases n with
  | ofNat n => exact tidy_toDigits n
  | negSucc n => exact (tidy_toDigits (n + 1)).cons (by decide) rfl

mutual

theorem tidy_layout (depth : Nat) (v : Value) : Tidy .outside (v.layout depth) := by
  match v with
  | .bool true | .bool false => exact ⟨rfl, nofun⟩
  | .int n => exact tidy_decimal n
  | .string s => exact tidy_quoted s.toList
  | .list [] | .object [] => exact ⟨rfl, nofun⟩
  | .list (v :: vs) =>
    have hopen := (tidy_lineBreak (depth + 1)).cons (c := '[') (by decide) rfl
    have hclose := (tidy_nil (p := .outside)).cons (c := ']') (by decide) rfl
    have hvs := (hopen.append (tidy_layout (depth + 1) v)).append (tidy_layoutItems (depth + 1) vs)
    exact (hvs.append (tidy_lineBreak depth)).append hclose
  | .object (f :: fs) =>
    have hopen := (tidy_lineBreak (depth + 1)).cons (c := '\x7b') (by decide) rfl
    have hclose := (tidy_nil (p := .outside)).cons (c := '\x7d') (by decide) rfl
    have hfs := (hopen.append (tidy_layoutField (depth + 1) f)).append
      (tidy_layoutFields (depth + 1) fs)
    exact (hfs.append (tidy_lineBreak depth)).append hclose

theorem tidy_layoutItems (depth : Nat) (vs : List Value) : Tidy .outside (layoutItems depth vs) := by
  match vs with
  | [] => exact tidy_nil
  | v :: vs =>
    have hcomma := (tidy_lineBreak depth).cons (c := ',') (by decide) rfl
    exact (hcomma.append (tidy_layout depth v)).append (tidy_layoutItems depth vs)

theorem tidy_layoutField (depth : Nat) (f : String × Value) :
    Tidy .outside (layoutField depth f) := by
  match f with
  | (key, v) =>
    have hcolon : Tidy .outside [':', ' '] := ⟨rfl, nofun⟩
    exact ((tidy_quoted key.toList).append hcolon).append (tidy_layout depth v)

theorem tidy_layoutFields (depth : Nat) (fs : List (String × Value)) :
    Tidy .outside (layoutFields depth fs) := by
  match fs with
  | [] => exact tidy_nil
  | f :: fs =>
    have hcomma := (tidy_lineBreak depth).cons (c := ',') (by decide) rfl
    exact (hcomma.append (tidy_layoutField depth f)).append (tidy_layoutFields depth fs)

end

end Scratchpad.Json
