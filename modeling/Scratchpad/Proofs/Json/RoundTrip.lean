import Scratchpad.Json
import Scratchpad.Proofs.Json.Reading

/-!
# Reading what was written

Every value is read back from its text, also with white space behind it (`decode?_layout_append`).
Each lemma reads what was written off the front of a text and leaves what follows. Behind a number this
must not be a digit, a point or an exponent; in a laid out value it is a comma, a line feed or the end
(`Ends`).

The induction for values goes along the layout, with one lemma for each of its four functions.
-/

namespace Scratchpad.Json

mutual

/-- What a value is read back as. -/
def Value.data : Value → Data
  | .bool b => .bool b
  | .int n => .number n
  | .string s => .string s
  | .list items => .array (itemsData items)
  | .object fields => .object (fieldsData fields)

/-- What the items of a list are read back as. -/
def itemsData : List Value → List Data
  | [] => []
  | v :: vs => v.data :: itemsData vs

/-- What a field is read back as. -/
def fieldData : String × Value → String × Data
  | (key, v) => (key, v.data)

/-- What the fields of an object are read back as. -/
def fieldsData : List (String × Value) → List (String × Data)
  | [] => []
  | f :: fs => fieldData f :: fieldsData fs

end

theorem itemsData_eq_map (vs : List Value) : itemsData vs = vs.map Value.data := by
  induction vs with
  | nil => rfl
  | cons v vs ih => rw [itemsData, ih, List.map_cons]

/-- What follows a value in a laid out text. -/
def Ends (rest : List Char) : Prop := ∀ c ∈ rest.head?, c = ',' ∨ c = '\n'

theorem ends_comma_cons (rest : List Char) : Ends (',' :: rest) := by
  rintro c ⟨⟩
  exact .inl rfl

theorem ends_lineBreak_append (depth : Nat) (rest : List Char) :
    Ends (lineBreak depth ++ rest) := by
  rintro c ⟨⟩
  exact .inr rfl

/-! ### Strings -/

theorem hexValue?_hexDigit : ∀ n < 16, hexValue? (hexDigit n) = some n := by decide

/-- What is written for a character is read as one letter, which stands for it. -/
theorem exists_letter (c : Char) : ∃ l : Letter,
    (∀ cs, letters? .plain (escaped c ++ cs) =
      (letters? .plain cs).map fun (letters, rest) => (l :: letters, rest)) ∧
      ∀ letters, characters? (l :: letters) = (characters? letters).map (c :: ·) := by
  unfold escaped
  split
  case h_8 hquote hbackslash _ _ _ _ _ =>
    split
    · next hcontrol =>
      -- two zeros go before the digits, so the code unit is the code point
      have hunit : 16 * (c.toNat / 16) + c.toNat % 16 = c.toNat := Nat.div_add_mod _ _
      refine ⟨.unit c.toNat, fun cs => ?_, fun letters => ?_⟩
      · have hzero : hexValue? '0' = some 0 := rfl
        have hhigh := hexValue?_hexDigit (c.toNat / 16) (by omega)
        have hlow := hexValue?_hexDigit (c.toNat % 16) (by omega)
        simp [letters?, hzero, hhigh, hlow, hunit]
      · have hbelow : c.toNat < 0xd800 ∨ 0xdfff < c.toNat := by omega
        rw [characters?.eq_def]
        simp only [if_pos hbelow, Char.ofNat_toNat]
    · next hcontrol =>
      refine ⟨.char c, fun cs => ?_, fun _ => rfl⟩
      rw [List.cons_append, List.nil_append, letters?, if_neg hquote, if_neg hbackslash,
        if_neg hcontrol]
  all_goals exact ⟨.char _, fun _ => rfl, fun _ => rfl⟩

theorem exists_letters (text rest : List Char) : ∃ letters,
    letters? .plain (text.flatMap escaped ++ '"' :: rest) = some (letters, rest) ∧
      characters? letters = some text := by
  induction text with
  | nil => exact ⟨[], rfl, rfl⟩
  | cons c text ih =>
    obtain ⟨letters, hread, htext⟩ := ih
    obtain ⟨l, hl, hc⟩ := exists_letter c
    refine ⟨l :: letters, ?_, ?_⟩
    · rw [List.flatMap_cons, List.append_assoc, hl, hread]
      rfl
    · rw [hc, htext]
      rfl

theorem quoted_append (text rest : List Char) :
    quoted text ++ rest = '"' :: (text.flatMap escaped ++ '"' :: rest) := by
  simp [quoted]

theorem readString?_escaped_append (s : String) (rest : List Char) :
    readString? (s.toList.flatMap escaped ++ '"' :: rest) = some (s, rest) := by
  obtain ⟨letters, hread, htext⟩ := exists_letters s.toList rest
  simp only [readString?, hread, Option.bind_some, htext, Option.map_some, String.ofList_toList]

/-! ### Numbers -/

theorem Ends.not_isDigit {rest : List Char} (h : Ends rest) {c : Char} (hc : c ∈ rest.head?) :
    c.isDigit = false := by
  obtain rfl | rfl := h c hc <;> rfl

theorem digits?_append {ds rest : List Char} (hdigits : ∀ d ∈ ds, d.isDigit = true) (hne : ds ≠ [])
    (hrest : Ends rest) : digits? (ds ++ rest) = some (ds, rest) := by
  have hstop : rest.takeWhile Char.isDigit = [] ∧ rest.dropWhile Char.isDigit = rest := by
    cases rest with
    | nil => exact ⟨rfl, rfl⟩
    | cons c rest => simp [hrest.not_isDigit rfl]
  obtain ⟨d, ds, rfl⟩ := List.exists_cons_of_ne_nil hne
  rw [digits?, List.takeWhile_append_of_pos hdigits, List.dropWhile_append_of_pos hdigits, hstop.1,
    hstop.2, List.append_nil]

theorem exists_toDigits_cons (n : Nat) :
    ∃ d ds, Nat.toDigits 10 n = d :: ds ∧ d.isDigit = true := by
  obtain ⟨d, ds, hds⟩ := List.exists_cons_of_ne_nil (Nat.toDigits_ne_nil (n := n) (b := 10))
  have hmem : d ∈ Nat.toDigits 10 n := by
    rw [hds]
    exact List.mem_cons_self
  exact ⟨d, ds, hds, Nat.isDigit_of_mem_toDigits (by decide) (by decide) hmem⟩

/-- Only zero is written with a zero first. -/
theorem toDigits_eq_of_head? {n : Nat} (h : (Nat.toDigits 10 n).head? = some '0') :
    Nat.toDigits 10 n = ['0'] := by
  induction n using Nat.strongRecOn with
  | ind n ih =>
    by_cases hn : n < 10
    · rw [Nat.toDigits_of_lt_base hn] at h ⊢
      rw [Option.some.inj h]
    · -- the first digit is that of the tenth, which is not zero
      have htenth : (Nat.toDigits 10 (n / 10)).head? = some '0' := by
        obtain ⟨d, ds, hds, -⟩ := exists_toDigits_cons (n / 10)
        rw [Nat.toDigits_of_base_le (by decide) (by omega), hds] at h
        rw [hds]
        exact h
      have hzero : Nat.ofDigitChars 10 (Nat.toDigits 10 (n / 10)) 0 = 0 := by
        rw [ih (n / 10) (by omega) htenth]
        rfl
      rw [Nat.ofDigitChars_ten_toDigits] at hzero
      omega

theorem whole?_toDigits_append (n : Nat) {rest : List Char} (hrest : Ends rest) :
    whole? (Nat.toDigits 10 n ++ rest) = some (n, rest) := by
  have hdigits : ∀ d ∈ Nat.toDigits 10 n, d.isDigit = true :=
    fun d hd => Nat.isDigit_of_mem_toDigits (by decide) (by decide) hd
  have hzero : ¬ ((Nat.toDigits 10 n).head? = some '0' ∧ Nat.toDigits 10 n ≠ ['0']) :=
    fun h => h.2 (toDigits_eq_of_head? h.1)
  simp only [whole?, digits?_append hdigits Nat.toDigits_ne_nil hrest, Option.bind_some,
    if_neg hzero, Nat.ofDigitChars_ten_toDigits]

theorem fraction?_of_ends {rest : List Char} (h : Ends rest) : fraction? rest = some (0, rest) := by
  cases rest with
  | nil => rfl
  | cons c rest => obtain rfl | rfl := h c rfl <;> rfl

theorem exponent?_of_ends {rest : List Char} (h : Ends rest) : exponent? rest = some (0, rest) := by
  cases rest with
  | nil => rfl
  | cons c rest => obtain rfl | rfl := h c rfl <;> rfl

theorem unsigned?_toDigits_append (n : Nat) {rest : List Char} (hrest : Ends rest) :
    unsigned? (Nat.toDigits 10 n ++ rest) = some ((n : Rat), rest) := by
  have hvalue : ((n : Rat) + 0) * 10 ^ (0 : Int) = n := by
    rw [Rat.zpow_zero, Rat.mul_one, Rat.add_zero]
  simp only [unsigned?, whole?_toDigits_append n hrest, fraction?_of_ends hrest,
    exponent?_of_ends hrest, Option.bind_eq_bind, Option.bind_some, hvalue]
  rfl

/-- An integer is written with a minus sign or a digit first. -/
theorem exists_decimal_cons (n : Int) :
    ∃ c cs, decimal n = c :: cs ∧ (c = '-' ∨ c.isDigit = true) := by
  cases n with
  | negSucc n => exact ⟨'-', _, rfl, .inl rfl⟩
  | ofNat n =>
    obtain ⟨d, ds, hds, hdigit⟩ := exists_toDigits_cons n
    exact ⟨d, ds, hds, .inr hdigit⟩

theorem readNumber?_decimal_append (n : Int) {rest : List Char} (hrest : Ends rest) :
    readNumber? (decimal n ++ rest) = some ((n : Rat), rest) := by
  cases n with
  | negSucc n =>
    rw [decimal, List.cons_append, readNumber?, if_pos rfl, unsigned?_toDigits_append _ hrest,
      Option.map_some, Int.negSucc_eq, Rat.intCast_neg]
    rfl
  | ofNat n =>
    obtain ⟨d, ds, hds, hdigit⟩ := exists_toDigits_cons n
    have hsign : d ≠ '-' := by
      rintro rfl
      exact absurd hdigit (by decide)
    have hread := unsigned?_toDigits_append n hrest
    rw [decimal, hds, List.cons_append, readNumber?, if_neg hsign, ← List.cons_append, ← hds]
    exact hread

/-! ### Values -/

theorem skipSpace_lineBreak_append (depth : Nat) (cs : List Char) :
    skipSpace (lineBreak depth ++ cs) = skipSpace cs := by
  apply List.dropWhile_append_of_pos
  intro c hc
  obtain rfl | hspace := List.mem_cons.1 hc
  · rfl
  · rw [List.eq_of_mem_replicate hspace]
    rfl

theorem skipSpace_cons {c : Char} (h : isSpace c = false) (cs : List Char) :
    skipSpace (c :: cs) = c :: cs := by
  simp [skipSpace, h]

theorem readValue?_congr {bound : Nat} {cs cs' : List Char} (h : skipSpace cs = skipSpace cs') :
    readValue? bound cs = readValue? bound cs' := by
  cases bound with
  | zero => rfl
  | succ bound => simp only [readValue?, h]

theorem readField?_congr {bound : Nat} {cs cs' : List Char} (h : skipSpace cs = skipSpace cs') :
    readField? bound cs = readField? bound cs' := by
  cases bound with
  | zero => rfl
  | succ bound => simp only [readField?, h]

theorem isSpace_eq_false {c : Char} (h : c = '-' ∨ c.isDigit = true) : isSpace c = false := by
  rw [Bool.eq_false_iff]
  intro hspace
  simp only [isSpace, Bool.or_eq_true, beq_iff_eq] at hspace
  obtain ((rfl | rfl) | rfl) | rfl := hspace <;> exact absurd h (by decide)

theorem readValue?_decimal_append (bound : Nat) (n : Int) {rest : List Char} (hrest : Ends rest) :
    readValue? (bound + 1) (decimal n ++ rest) = some (.number n, rest) := by
  have hread := readNumber?_decimal_append n hrest
  obtain ⟨c, cs, hcs, hc⟩ := exists_decimal_cons n
  rw [hcs, List.cons_append] at hread ⊢
  have hhead : ∀ d ds, c :: (cs ++ rest) = d :: ds → d = '-' ∨ d.isDigit = true := by
    intro d ds h
    rw [← (List.cons.inj h).1]
    exact hc
  simp only [readValue?, skipSpace_cons (isSpace_eq_false hc)]
  split
  case h_7 =>
    rw [hread]
    rfl
  -- every other value begins with another character
  all_goals next h => exact absurd (hhead _ _ h) (by decide)

theorem readValue?_quoted_append (bound : Nat) (s : String) (rest : List Char) :
    readValue? (bound + 1) (quoted s.toList ++ rest) = some (.string s, rest) := by
  rw [quoted_append]
  simp only [readValue?, skipSpace_cons (c := '"') rfl, readString?_escaped_append,
    Option.map_some]

section Rules

variable {bound : Nat} {cs mid rest : List Char} {item : Data} {items : List Data}
  {field : String × Data} {fields : List (String × Data)}

theorem skipSpace_ne_bracket_cons (h : readValue? bound cs = some (item, mid)) (rest : List Char) :
    skipSpace cs ≠ ']' :: rest := by
  intro hskip
  cases bound with
  | zero => cases h
  | succ bound =>
    simp only [readValue?, hskip] at h
    cases h

theorem skipSpace_ne_brace_cons (h : readField? bound cs = some (field, mid)) (rest : List Char) :
    skipSpace cs ≠ '\x7d' :: rest := by
  intro hskip
  cases bound with
  | zero => cases h
  | succ bound =>
    simp only [readField?, hskip] at h
    cases h

theorem readValue?_bracket_cons (hitem : readValue? bound cs = some (item, mid))
    (hitems : readItems? bound mid = some (items, rest)) :
    readValue? (bound + 1) ('[' :: cs) = some (.array (item :: items), rest) := by
  have hend := skipSpace_ne_bracket_cons hitem
  simp only [readValue?, skipSpace_cons (c := '[') rfl, hitem, hitems, Option.bind_eq_bind,
    Option.bind_some]
  rfl

theorem readItems?_comma_cons (hitem : readValue? bound cs = some (item, mid))
    (hitems : readItems? bound mid = some (items, rest)) :
    readItems? (bound + 1) (',' :: cs) = some (item :: items, rest) := by
  simp only [readItems?, skipSpace_cons (c := ',') rfl, hitem, hitems, Option.bind_eq_bind,
    Option.bind_some]
  rfl

theorem readItems?_end (bound depth : Nat) (rest : List Char) :
    readItems? (bound + 1) (lineBreak depth ++ ']' :: rest) = some ([], rest) := by
  simp only [readItems?, skipSpace_lineBreak_append, skipSpace_cons (c := ']') rfl]

theorem readValue?_brace_cons (hfield : readField? bound cs = some (field, mid))
    (hfields : readFields? bound mid = some (fields, rest)) :
    readValue? (bound + 1) ('\x7b' :: cs) = some (.object (field :: fields), rest) := by
  have hend := skipSpace_ne_brace_cons hfield
  simp only [readValue?, skipSpace_cons (c := '\x7b') rfl, hfield, hfields, Option.bind_eq_bind,
    Option.bind_some]
  rfl

theorem readField?_quoted_append (key : String) (hitem : readValue? bound cs = some (item, rest)) :
    readField? (bound + 1) (quoted key.toList ++ ':' :: ' ' :: cs) = some ((key, item), rest) := by
  have hspace : readValue? bound (' ' :: cs) = readValue? bound cs :=
    readValue?_congr (List.dropWhile_cons_of_pos rfl)
  rw [quoted_append]
  simp only [readField?, skipSpace_cons (c := '"') rfl, readString?_escaped_append,
    skipSpace_cons (c := ':') rfl, hspace, hitem, Option.bind_eq_bind, Option.bind_some]
  rfl

theorem readFields?_comma_cons (hfield : readField? bound cs = some (field, mid))
    (hfields : readFields? bound mid = some (fields, rest)) :
    readFields? (bound + 1) (',' :: cs) = some (field :: fields, rest) := by
  simp only [readFields?, skipSpace_cons (c := ',') rfl, hfield, hfields, Option.bind_eq_bind,
    Option.bind_some]
  rfl

theorem readFields?_end (bound depth : Nat) (rest : List Char) :
    readFields? (bound + 1) (lineBreak depth ++ '\x7d' :: rest) = some ([], rest) := by
  simp only [readFields?, skipSpace_lineBreak_append, skipSpace_cons (c := '\x7d') rfl]

end Rules

/-! ### Laid out values -/

theorem length_layout_pos (depth : Nat) (v : Value) : 0 < (v.layout depth).length := by
  cases v with
  | bool b => cases b <;> exact Nat.zero_lt_succ _
  | int n =>
    obtain ⟨c, cs, hcs, -⟩ := exists_decimal_cons n
    rw [Value.layout, hcs]
    exact Nat.zero_lt_succ _
  | string s => exact Nat.zero_lt_succ _
  | list items => cases items <;> simp [Value.layout]
  | object fields => cases fields <;> simp [Value.layout]

theorem layout_list_append (v : Value) (vs : List Value) (depth : Nat) (rest : List Char) :
    (Value.list (v :: vs)).layout depth ++ rest =
      '[' :: (lineBreak (depth + 1) ++ (v.layout (depth + 1) ++
        (layoutItems (depth + 1) vs ++ (lineBreak depth ++ ']' :: rest)))) := by
  simp [Value.layout]

theorem layout_object_append (f : String × Value) (fs : List (String × Value)) (depth : Nat)
    (rest : List Char) :
    (Value.object (f :: fs)).layout depth ++ rest =
      '\x7b' :: (lineBreak (depth + 1) ++ (layoutField (depth + 1) f ++
        (layoutFields (depth + 1) fs ++ (lineBreak depth ++ '\x7d' :: rest)))) := by
  simp [Value.layout]

theorem ends_layoutItems_append (vs : List Value) (depth below : Nat) (rest : List Char) :
    Ends (layoutItems depth vs ++ (lineBreak below ++ rest)) := by
  cases vs with
  | nil => exact ends_lineBreak_append below rest
  | cons v vs => exact ends_comma_cons _

theorem ends_layoutFields_append (fs : List (String × Value)) (depth below : Nat)
    (rest : List Char) : Ends (layoutFields depth fs ++ (lineBreak below ++ rest)) := by
  cases fs with
  | nil => exact ends_lineBreak_append below rest
  | cons f fs => exact ends_comma_cons _

mutual

theorem readValue?_layout_append (v : Value) (depth bound : Nat) (rest : List Char)
    (hbound : (v.layout depth).length ≤ bound) (hrest : Ends rest) :
    readValue? bound (v.layout depth ++ rest) = some (v.data, rest) := by
  obtain ⟨bound, rfl⟩ : ∃ k, bound = k + 1 :=
    Nat.exists_eq_add_one.2 (Nat.lt_of_lt_of_le (length_layout_pos depth v) hbound)
  match v with
  | .bool true | .bool false => rfl
  | .int n => exact readValue?_decimal_append bound n hrest
  | .string s => exact readValue?_quoted_append bound s rest
  | .list [] | .object [] => rfl
  | .list (v :: vs) =>
    have hlength : (v.layout (depth + 1)).length ≤ bound ∧
        (layoutItems (depth + 1) vs).length < bound := by
      simp only [Value.layout, List.length_append, List.length_cons] at hbound
      omega
    have hv := readValue?_layout_append v (depth + 1) bound
      (layoutItems (depth + 1) vs ++ (lineBreak depth ++ ']' :: rest)) hlength.1
      (ends_layoutItems_append vs _ _ _)
    have hvs := readItems?_layoutItems_append vs (depth + 1) bound depth rest hlength.2
    rw [← readValue?_congr (skipSpace_lineBreak_append (depth + 1) _)] at hv
    rw [layout_list_append]
    exact readValue?_bracket_cons hv hvs
  | .object (f :: fs) =>
    have hlength : (layoutField (depth + 1) f).length ≤ bound ∧
        (layoutFields (depth + 1) fs).length < bound := by
      simp only [Value.layout, List.length_append, List.length_cons] at hbound
      omega
    have hf := readField?_layoutField_append f (depth + 1) bound
      (layoutFields (depth + 1) fs ++ (lineBreak depth ++ '\x7d' :: rest)) hlength.1
      (ends_layoutFields_append fs _ _ _)
    have hfs := readFields?_layoutFields_append fs (depth + 1) bound depth rest hlength.2
    rw [← readField?_congr (skipSpace_lineBreak_append (depth + 1) _)] at hf
    rw [layout_object_append]
    exact readValue?_brace_cons hf hfs

theorem readItems?_layoutItems_append (vs : List Value) (depth bound below : Nat) (rest : List Char)
    (hbound : (layoutItems depth vs).length < bound) :
    readItems? bound (layoutItems depth vs ++ (lineBreak below ++ ']' :: rest)) =
      some (itemsData vs, rest) := by
  obtain ⟨bound, rfl⟩ : ∃ k, bound = k + 1 := Nat.exists_eq_add_one.2 (Nat.zero_lt_of_lt hbound)
  match vs with
  | [] => exact readItems?_end bound below rest
  | v :: vs =>
    have hlength : (v.layout depth).length ≤ bound ∧ (layoutItems depth vs).length < bound := by
      simp only [layoutItems, List.length_append, List.length_cons] at hbound
      omega
    have hv := readValue?_layout_append v depth bound
      (layoutItems depth vs ++ (lineBreak below ++ ']' :: rest)) hlength.1
      (ends_layoutItems_append vs _ _ _)
    have hvs := readItems?_layoutItems_append vs depth bound below rest hlength.2
    rw [← readValue?_congr (skipSpace_lineBreak_append depth _)] at hv
    simp only [layoutItems, List.cons_append, List.append_assoc]
    exact readItems?_comma_cons hv hvs

theorem readField?_layoutField_append (f : String × Value) (depth bound : Nat) (rest : List Char)
    (hbound : (layoutField depth f).length ≤ bound) (hrest : Ends rest) :
    readField? bound (layoutField depth f ++ rest) = some (fieldData f, rest) := by
  match f with
  | (key, v) =>
    simp only [layoutField, List.length_append, List.length_cons] at hbound
    obtain ⟨bound, rfl⟩ : ∃ k, bound = k + 1 := Nat.exists_eq_add_one.2 (by omega)
    have hv := readValue?_layout_append v depth bound rest (by omega) hrest
    simp only [layoutField, List.append_assoc, List.cons_append, List.nil_append]
    exact readField?_quoted_append key hv

theorem readFields?_layoutFields_append (fs : List (String × Value)) (depth bound below : Nat)
    (rest : List Char) (hbound : (layoutFields depth fs).length < bound) :
    readFields? bound (layoutFields depth fs ++ (lineBreak below ++ '\x7d' :: rest)) =
      some (fieldsData fs, rest) := by
  obtain ⟨bound, rfl⟩ : ∃ k, bound = k + 1 := Nat.exists_eq_add_one.2 (Nat.zero_lt_of_lt hbound)
  match fs with
  | [] => exact readFields?_end bound below rest
  | f :: fs =>
    have hlength : (layoutField depth f).length ≤ bound ∧
        (layoutFields depth fs).length < bound := by
      simp only [layoutFields, List.length_append, List.length_cons] at hbound
      omega
    have hf := readField?_layoutField_append f depth bound
      (layoutFields depth fs ++ (lineBreak below ++ '\x7d' :: rest)) hlength.1
      (ends_layoutFields_append fs _ _ _)
    have hfs := readFields?_layoutFields_append fs depth bound below rest hlength.2
    rw [← readField?_congr (skipSpace_lineBreak_append depth _)] at hf
    simp only [layoutFields, List.cons_append, List.append_assoc]
    exact readFields?_comma_cons hf hfs

end

theorem decode?_layout_append (v : Value) {rest : List Char} (hends : Ends rest)
    (hspace : skipSpace rest = []) : decode? (v.layout 0 ++ rest) = some v.data := by
  have hbound : (v.layout 0).length ≤ (v.layout 0 ++ rest).length := by
    rw [List.length_append]
    exact Nat.le_add_right _ _
  simp only [decode?, readValue?_layout_append v 0 _ rest hbound hends, Option.bind_some,
    if_pos hspace]

end Scratchpad.Json
