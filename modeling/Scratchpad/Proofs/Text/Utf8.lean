import Mathlib.Data.List.Basic
import Scratchpad.Text.Utf8

/-!
# What the lossy reading of bytes gives

`Encodes` lists the forms that the bytes of a character can have, and `encodes_iff` says that these
are the encoded characters. `Reads bytes text` is the lossy reading as a relation: a character where
one stands, and a replacement character for each run of bytes at which no character stands and that
is as long as the beginning of one can be there. `decode` is this reading, and nothing else is
(`reads_iff`). So encoded text is read as it was, whatever bytes follow it (`decode_encode_append`),
bytes that begin a character are read by themselves, whatever stands before them (`decode_append`),
and a character that is cut off becomes one replacement character (`decode_append_of_isPrefix`).
-/

namespace Scratchpad.Text

variable {a b c d : UInt8} {rest rest' bytes : List UInt8} {ch : Char}

/-! ### Ranges of bytes -/

theorem isContinuation_iff : isContinuation b = true ↔ 0x80 ≤ b.toNat ∧ b.toNat ≤ 0xBF := by
  simp [isContinuation, UInt8.le_iff_toNat_le]

theorem isSecondOfThree_iff :
    isSecondOfThree a b = true ↔
      (0xE0 ≤ a.toNat ∧ a.toNat ≤ 0xEF) ∧ (0x80 ≤ b.toNat ∧ b.toNat ≤ 0xBF) ∧
        (a.toNat = 0xE0 → 0xA0 ≤ b.toNat) ∧ (a.toNat = 0xED → b.toNat ≤ 0x9F) := by
  have heq : ∀ n : UInt8, a = n ↔ a.toNat = n.toNat := fun n => UInt8.toNat_inj.symm
  simp only [isSecondOfThree, isContinuation, UInt8.le_iff_toNat_le, heq]
  split <;> [skip; split] <;> simp_all <;> omega

theorem isSecondOfFour_iff :
    isSecondOfFour a b = true ↔
      (0xF0 ≤ a.toNat ∧ a.toNat ≤ 0xF4) ∧ (0x80 ≤ b.toNat ∧ b.toNat ≤ 0xBF) ∧
        (a.toNat = 0xF0 → 0x90 ≤ b.toNat) ∧ (a.toNat = 0xF4 → b.toNat ≤ 0x8F) := by
  have heq : ∀ n : UInt8, a = n ↔ a.toNat = n.toNat := fun n => UInt8.toNat_inj.symm
  simp only [isSecondOfFour, isContinuation, UInt8.le_iff_toNat_le, heq]
  split <;> [skip; split] <;> simp_all <;> omega

/-- Whether `a` and `b` are the bytes of a character of two. -/
def isPair (a b : UInt8) : Bool := 0xC2 ≤ a && a ≤ 0xDF && isContinuation b

theorem isPair_iff :
    isPair a b = true ↔
      (0xC2 ≤ a.toNat ∧ a.toNat ≤ 0xDF) ∧ 0x80 ≤ b.toNat ∧ b.toNat ≤ 0xBF := by
  simp [isPair, isContinuation, UInt8.le_iff_toNat_le]

/-! ### The forms of a character -/

/-- The forms of the bytes of a character. -/
inductive Encodes : List UInt8 → Char → Prop where
  | one {a : UInt8} (first : a < 0x80) : Encodes [a] (oneByte a)
  | two {a b : UInt8} (second : isPair a b = true) : Encodes [a, b] (twoBytes a b)
  | three {a b c : UInt8} (second : isSecondOfThree a b = true) (third : isContinuation c = true) :
      Encodes [a, b, c] (threeBytes a b c)
  | four {a b c d : UInt8} (second : isSecondOfFour a b = true) (third : isContinuation c = true)
      (fourth : isContinuation d = true) : Encodes [a, b, c, d] (fourBytes a b c d)

theorem val_ofNat {n : Nat} (h : n.isValidChar) : (Char.ofNat n).val.toNat = n := by
  rw [Char.ofNat, dif_pos h]
  rfl

theorem Encodes.utf8EncodeChar_eq (h : Encodes bytes ch) : String.utf8EncodeChar ch = bytes := by
  cases h with
  | @one a first =>
    have ha : a.toNat < 0x80 := UInt8.lt_iff_toNat_lt.1 first
    have hval : (oneByte a).val.toNat = a.toNat := val_ofNat (.inl (by omega))
    simp only [String.utf8EncodeChar, hval]
    rw [if_pos (by omega)]
    simp
  | @two a b second =>
    obtain ⟨ha, hb⟩ := isPair_iff.1 second
    have hval : (twoBytes a b).val.toNat = (a.toNat - 0xC0) * 0x40 + (b.toNat - 0x80) :=
      val_ofNat (.inl (by omega))
    simp only [String.utf8EncodeChar, hval]
    rw [if_neg (by omega), if_pos (by omega)]
    simp only [← UInt8.toNat_inj, List.cons.injEq, UInt8.toNat_ofNat', and_true]
    omega
  | @three a b c second third =>
    obtain ⟨ha, hb, hlow, hhigh⟩ := isSecondOfThree_iff.1 second
    have hc := isContinuation_iff.1 third
    have hval : (threeBytes a b c).val.toNat =
        ((a.toNat - 0xE0) * 0x40 + (b.toNat - 0x80)) * 0x40 + (c.toNat - 0x80) := by
      refine val_ofNat ?_
      by_cases hsurrogate : a.toNat ≤ 0xED
      · exact .inl (by omega)
      · exact .inr (by omega)
    simp only [String.utf8EncodeChar, hval]
    rw [if_neg (by omega), if_neg (by omega), if_pos (by omega)]
    simp only [← UInt8.toNat_inj, List.cons.injEq, UInt8.toNat_ofNat', and_true]
    omega
  | @four a b c d second third fourth =>
    obtain ⟨ha, hb, hlow, hhigh⟩ := isSecondOfFour_iff.1 second
    have hc := isContinuation_iff.1 third
    have hd := isContinuation_iff.1 fourth
    have hval : (fourBytes a b c d).val.toNat =
        (((a.toNat - 0xF0) * 0x40 + (b.toNat - 0x80)) * 0x40 + (c.toNat - 0x80)) * 0x40
          + (d.toNat - 0x80) := val_ofNat (.inr (by omega))
    simp only [String.utf8EncodeChar, hval]
    rw [if_neg (by omega), if_neg (by omega), if_neg (by omega)]
    simp only [← UInt8.toNat_inj, List.cons.injEq, UInt8.toNat_ofNat', and_true]
    omega

theorem toNat_byte {n : Nat} (h : n < 256) : (UInt8.ofNat n).toNat = n := by
  rw [UInt8.toNat_ofNat']
  exact Nat.mod_eq_of_lt h

theorem encodes_one {v : Nat} (h : v ≤ 0x7F) : Encodes [UInt8.ofNat v] (Char.ofNat v) := by
  have ha := toNat_byte (n := v) (by omega)
  have hch : oneByte (UInt8.ofNat v) = Char.ofNat v := by rw [oneByte, ha]
  rw [← hch]
  exact .one (UInt8.lt_iff_toNat_lt.2 (by rw [ha]; exact Nat.lt_succ_of_le h))

theorem encodes_two {v : Nat} (hlow : 0x7F < v) (hhigh : v ≤ 0x7FF) :
    Encodes [UInt8.ofNat (v / 64 % 32 + 192), UInt8.ofNat (v % 64 + 128)] (Char.ofNat v) := by
  have ha := toNat_byte (n := v / 64 % 32 + 192) (by omega)
  have hb := toNat_byte (n := v % 64 + 128) (by omega)
  have hch : twoBytes (UInt8.ofNat (v / 64 % 32 + 192)) (UInt8.ofNat (v % 64 + 128)) =
      Char.ofNat v := by
    rw [twoBytes, ha, hb]
    exact congrArg Char.ofNat (by omega)
  rw [← hch]
  exact .two (isPair_iff.2 (by rw [ha, hb]; omega))

theorem encodes_three {v : Nat} (hlow : 0x7FF < v) (hhigh : v ≤ 0xFFFF) (h : v.isValidChar) :
    Encodes [UInt8.ofNat (v / 4096 % 16 + 224), UInt8.ofNat (v / 64 % 64 + 128),
      UInt8.ofNat (v % 64 + 128)] (Char.ofNat v) := by
  have hvalid : v < 0xD800 ∨ 0xDFFF < v ∧ v < 0x110000 := h
  have ha := toNat_byte (n := v / 4096 % 16 + 224) (by omega)
  have hb := toNat_byte (n := v / 64 % 64 + 128) (by omega)
  have hc := toNat_byte (n := v % 64 + 128) (by omega)
  have hch : threeBytes (UInt8.ofNat (v / 4096 % 16 + 224)) (UInt8.ofNat (v / 64 % 64 + 128))
      (UInt8.ofNat (v % 64 + 128)) = Char.ofNat v := by
    rw [threeBytes, ha, hb, hc]
    exact congrArg Char.ofNat (by omega)
  rw [← hch]
  exact .three (isSecondOfThree_iff.2 (by rw [ha, hb]; omega))
    (isContinuation_iff.2 (by rw [hc]; omega))

theorem encodes_four {v : Nat} (hlow : 0xFFFF < v) (hhigh : v < 0x110000) :
    Encodes [UInt8.ofNat (v / 262144 % 8 + 240), UInt8.ofNat (v / 4096 % 64 + 128),
      UInt8.ofNat (v / 64 % 64 + 128), UInt8.ofNat (v % 64 + 128)] (Char.ofNat v) := by
  have ha := toNat_byte (n := v / 262144 % 8 + 240) (by omega)
  have hb := toNat_byte (n := v / 4096 % 64 + 128) (by omega)
  have hc := toNat_byte (n := v / 64 % 64 + 128) (by omega)
  have hd := toNat_byte (n := v % 64 + 128) (by omega)
  have hch : fourBytes (UInt8.ofNat (v / 262144 % 8 + 240)) (UInt8.ofNat (v / 4096 % 64 + 128))
      (UInt8.ofNat (v / 64 % 64 + 128)) (UInt8.ofNat (v % 64 + 128)) = Char.ofNat v := by
    rw [fourBytes, ha, hb, hc, hd]
    exact congrArg Char.ofNat (by omega)
  rw [← hch]
  exact .four (isSecondOfFour_iff.2 (by rw [ha, hb]; omega))
    (isContinuation_iff.2 (by rw [hc]; omega)) (isContinuation_iff.2 (by rw [hd]; omega))

theorem encodes_utf8EncodeChar (ch : Char) : Encodes (String.utf8EncodeChar ch) ch := by
  have hvalid : ch.toNat < 0xD800 ∨ 0xDFFF < ch.toNat ∧ ch.toNat < 0x110000 := ch.valid
  have hch := Char.ofNat_toNat ch
  simp only [String.utf8EncodeChar, Char.toNat_val]
  generalize ch.toNat = v at hch hvalid
  subst hch
  by_cases hone : v ≤ 127
  · rw [if_pos hone]
    exact encodes_one hone
  · rw [if_neg hone]
    by_cases htwo : v ≤ 2047
    · rw [if_pos htwo]
      exact encodes_two (by omega) htwo
    · rw [if_neg htwo]
      by_cases hthree : v ≤ 65535
      · rw [if_pos hthree]
        exact encodes_three (by omega) hthree hvalid
      · rw [if_neg hthree]
        exact encodes_four (by omega) (by omega)

/-- The forms are those of the encoded characters. -/
theorem encodes_iff : Encodes bytes ch ↔ String.utf8EncodeChar ch = bytes :=
  ⟨Encodes.utf8EncodeChar_eq, fun h => h ▸ encodes_utf8EncodeChar ch⟩

theorem utf8EncodeChar_eq_cons (ch : Char) :
    ∃ a bytes, String.utf8EncodeChar ch = a :: bytes ∧ Encodes (a :: bytes) ch := by
  have h := encodes_utf8EncodeChar ch
  cases hbytes : String.utf8EncodeChar ch with
  | nil =>
    rw [hbytes] at h
    cases h
  | cons a bytes => exact ⟨a, bytes, rfl, hbytes ▸ h⟩

/-! ### What stands at the head -/

theorem not_lt_of_le_toNat (h : 0x80 ≤ a.toNat) : ¬ a < 0x80 := by
  rw [UInt8.lt_iff_toNat_lt]
  exact Nat.not_lt.2 h

/-- A character stands wherever its bytes do, whatever follows them. -/
theorem head_of_encodes (h : Encodes (a :: bytes) ch) (rest : List UInt8) :
    head a (bytes ++ rest) = .character ch rest := by
  cases h with
  | one first => simp [head, first]
  | @two a b second =>
    have ha := isPair_iff.1 second
    rw [List.cons_append, List.nil_append, head.eq_def, if_neg (not_lt_of_le_toNat (by omega))]
    exact if_pos second
  | @three a b c second third =>
    have ha := isSecondOfThree_iff.1 second
    have hpair : ¬ isPair a b = true := by rw [isPair_iff]; omega
    rw [head.eq_def, if_neg (not_lt_of_le_toNat (by omega))]
    refine (if_neg hpair).trans ?_
    rw [if_pos second]
    exact if_pos third
  | @four a b c d second third fourth =>
    have ha := isSecondOfFour_iff.1 second
    have hpair : ¬ isPair a b = true := by rw [isPair_iff]; omega
    have hthree : ¬ isSecondOfThree a b = true := by rw [isSecondOfThree_iff]; omega
    rw [head.eq_def, if_neg (not_lt_of_le_toNat (by omega))]
    refine (if_neg hpair).trans ?_
    rw [if_neg hthree, if_pos second]
    refine (if_pos third).trans ?_
    exact if_pos fourth

theorem head_of_isPrefix (h : String.utf8EncodeChar ch <+: a :: bytes) :
    ∃ rest, head a bytes = .character ch rest := by
  obtain ⟨rest, hrest⟩ := h
  obtain ⟨a', first, hfirst, hencodes⟩ := utf8EncodeChar_eq_cons ch
  rw [hfirst] at hrest
  obtain ⟨rfl, rfl⟩ := List.cons.inj hrest
  exact ⟨rest, head_of_encodes hencodes rest⟩

theorem encodes_of_head (h : head a rest = .character ch rest') :
    ∃ bytes, rest = bytes ++ rest' ∧ Encodes (a :: bytes) ch := by
  revert h
  fun_cases head a rest <;> intro h <;>
    simp only [Head.character.injEq, reduceCtorEq] at h <;> obtain ⟨rfl, rfl⟩ := h
  case case1 first => exact ⟨[], rfl, .one first⟩
  case case3 _ b _ second => exact ⟨[b], rfl, .two second⟩
  case case5 _ b _ second c _ third => exact ⟨[b, c], rfl, .three second third⟩
  case case9 _ b _ _ second c third d _ fourth => exact ⟨[b, c, d], rfl, .four second third fourth⟩

/-! ### Beginnings of characters -/

/-- Whether `bytes` are the first bytes of some character. -/
def BeginsCharacter (bytes : List UInt8) : Prop := ∃ ch, bytes <+: String.utf8EncodeChar ch

theorem BeginsCharacter.of_isPrefix {bytes' : List UInt8} (h : BeginsCharacter bytes)
    (hbytes : bytes' <+: bytes) : BeginsCharacter bytes' :=
  let ⟨ch, hch⟩ := h
  ⟨ch, hbytes.trans hch⟩

theorem beginsCharacter_iff : BeginsCharacter bytes ↔ ∃ more ch, Encodes (bytes ++ more) ch := by
  constructor
  · rintro ⟨ch, more, hmore⟩
    exact ⟨more, ch, encodes_iff.2 hmore.symm⟩
  · rintro ⟨more, ch, h⟩
    exact ⟨ch, more, h.utf8EncodeChar_eq.symm⟩

theorem beginsCharacter_two :
    BeginsCharacter [a, b] ↔
      isPair a b = true ∨ isSecondOfThree a b = true ∨ isSecondOfFour a b = true := by
  rw [beginsCharacter_iff]
  constructor
  · rintro ⟨more, ch, h⟩
    cases h with
    | two second => exact .inl second
    | three second => exact .inr (.inl second)
    | four second => exact .inr (.inr second)
  · rintro (second | second | second)
    · exact ⟨[], _, .two second⟩
    · exact ⟨[0x80], _, .three second rfl⟩
    · exact ⟨[0x80, 0x80], _, .four second rfl rfl⟩

theorem beginsCharacter_three :
    BeginsCharacter [a, b, c] ↔
      (isSecondOfThree a b = true ∨ isSecondOfFour a b = true) ∧ isContinuation c = true := by
  rw [beginsCharacter_iff]
  constructor
  · rintro ⟨more, ch, h⟩
    cases h with
    | three second third => exact ⟨.inl second, third⟩
    | four second third => exact ⟨.inr second, third⟩
  · rintro ⟨second | second, third⟩
    · exact ⟨[], _, .three second third⟩
    · exact ⟨[0x80], _, .four second third rfl⟩

theorem beginsCharacter_four :
    BeginsCharacter [a, b, c, d] ↔
      isSecondOfFour a b = true ∧ isContinuation c = true ∧ isContinuation d = true := by
  rw [beginsCharacter_iff]
  constructor
  · rintro ⟨more, ch, h⟩
    cases h with
    | four second third fourth => exact ⟨second, third, fourth⟩
  · rintro ⟨second, third, fourth⟩
    exact ⟨[], _, .four second third fourth⟩

/-! ### Bytes that are no text -/

/-- No character stands where `bad` and then `rest` are, and `bad` is as long as the beginning of
one can be there; where none can begin, `bad` is a single byte. -/
structure IsMalformed (bad rest : List UInt8) : Prop where
  ne_nil : bad ≠ []
  not_character : ∀ ch, ¬ String.utf8EncodeChar ch <+: bad ++ rest
  begins : bad.length = 1 ∨ BeginsCharacter bad
  longest : ∀ b ∈ rest.head?, ¬ BeginsCharacter (bad ++ [b])

theorem IsMalformed.eq_nil {bad more : List UInt8} (h : IsMalformed bad (more ++ rest))
    (h' : IsMalformed (bad ++ more) rest) : more = [] := by
  cases more with
  | nil => rfl
  | cons b more =>
    have hlong : (bad ++ b :: more).length ≠ 1 := by
      have := List.length_pos_iff.2 h.ne_nil
      simp only [List.length_append, List.length_cons]
      omega
    have hbegins : BeginsCharacter (bad ++ b :: more) := h'.begins.resolve_left hlong
    exact absurd (hbegins.of_isPrefix ⟨more, by simp⟩) (h.longest b rfl)

/-- A run of bytes that is no text ends at one place only. -/
theorem IsMalformed.unique {bad bad' : List UInt8} (h : IsMalformed bad rest)
    (h' : IsMalformed bad' rest') (heq : bad ++ rest = bad' ++ rest') :
    bad = bad' ∧ rest = rest' := by
  obtain ⟨more, rfl, rfl⟩ | ⟨more, rfl, rfl⟩ := List.append_eq_append_iff.1 heq
  · simp [h.eq_nil h']
  · simp [h'.eq_nil h]

theorem isMalformed_of_head (h : head a rest = .malformed rest') :
    ∃ bad, rest = bad ++ rest' ∧ IsMalformed (a :: bad) rest' := by
  suffices hbad : ∃ bad, rest = bad ++ rest' ∧ (bad = [] ∨ BeginsCharacter (a :: bad)) ∧
      ∀ b ∈ rest'.head?, ¬ BeginsCharacter (a :: bad ++ [b]) by
    obtain ⟨bad, rfl, hbegins, hlongest⟩ := hbad
    refine ⟨bad, rfl, by simp, fun ch hch => ?_, hbegins.imp_left (by simp +contextual), hlongest⟩
    obtain ⟨rest, hrest⟩ := head_of_isPrefix hch
    simp [h] at hrest
  revert h
  -- The run is the bytes that were found good before the byte that did not fit, or before the end.
  fun_cases head a rest <;> intro h <;>
    simp only [Head.malformed.injEq, reduceCtorEq] at h <;> subst h
  case case2 => exact ⟨[], rfl, .inl rfl, by simp⟩
  case case4 b _ second =>
    exact ⟨[b], rfl, .inr (beginsCharacter_two.2 (.inr (.inl second))), by simp⟩
  case case6 b _ second c _ third =>
    refine ⟨[b], rfl, .inr (beginsCharacter_two.2 (.inr (.inl second))), ?_⟩
    simp [beginsCharacter_three, third]
  case case7 b _ _ second =>
    exact ⟨[b], rfl, .inr (beginsCharacter_two.2 (.inr (.inr second))), by simp⟩
  case case8 b _ _ second c third =>
    exact ⟨[b, c], rfl, .inr (beginsCharacter_three.2 ⟨.inr second, third⟩), by simp⟩
  case case10 b _ _ second c third d _ fourth =>
    refine ⟨[b, c], rfl, .inr (beginsCharacter_three.2 ⟨.inr second, third⟩), ?_⟩
    simp [beginsCharacter_four, fourth]
  case case11 b _ _ second c _ third =>
    refine ⟨[b], rfl, .inr (beginsCharacter_two.2 (.inr (.inr second))), ?_⟩
    simp [beginsCharacter_three, third]
  case case12 b _ pair three four =>
    refine ⟨[], rfl, .inl rfl, ?_⟩
    simp [beginsCharacter_two, three, four, show ¬ isPair a b = true from pair]

theorem head_of_isMalformed {bad : List UInt8} (h : IsMalformed (a :: bad) rest) :
    head a (bad ++ rest) = .malformed rest := by
  cases hhead : head a (bad ++ rest) with
  | character ch rest' =>
    obtain ⟨bytes, hbytes, hencodes⟩ := encodes_of_head hhead
    refine absurd ?_ (h.not_character ch)
    rw [hencodes.utf8EncodeChar_eq, List.cons_append, hbytes]
    exact List.prefix_append _ _
  | malformed rest' =>
    obtain ⟨bad', hbad', h'⟩ := isMalformed_of_head hhead
    rw [(h.unique h' (by simp [hbad'])).2]

/-! ### The lossy reading -/

/-- The lossy reading of bytes: the characters that stand in them, and a replacement character for
each longest run that begins like a character and is none. -/
inductive Reads : List UInt8 → List Char → Prop where
  | nil : Reads [] []
  | character {rest : List UInt8} {text : List Char} (ch : Char) (h : Reads rest text) :
      Reads (String.utf8EncodeChar ch ++ rest) (ch :: text)
  | malformed {bad rest : List UInt8} {text : List Char} (h : IsMalformed bad rest)
      (hrest : Reads rest text) : Reads (bad ++ rest) (replacement :: text)

theorem decodeOnto_of_character {before : List Char} (h : head a bytes = .character ch rest) :
    decodeOnto before (a :: bytes) = decodeOnto (ch :: before) rest := by
  rw [decodeOnto]
  split <;> simp_all

theorem decodeOnto_of_malformed {before : List Char} (h : head a bytes = .malformed rest) :
    decodeOnto before (a :: bytes) = decodeOnto (replacement :: before) rest := by
  rw [decodeOnto]
  split <;> simp_all

theorem Reads.decodeOnto_eq {text : List Char} (h : Reads bytes text) :
    ∀ before, decodeOnto before bytes = before.reverse ++ text := by
  induction h with
  | nil => simp [decodeOnto]
  | @character rest text ch h ih =>
    intro before
    obtain ⟨a, first, hfirst, hencodes⟩ := utf8EncodeChar_eq_cons ch
    rw [hfirst, List.cons_append, decodeOnto_of_character (head_of_encodes hencodes rest), ih]
    simp
  | @malformed bad rest text h hrest ih =>
    intro before
    obtain ⟨a, bad, rfl⟩ := List.exists_cons_of_ne_nil h.ne_nil
    rw [List.cons_append, decodeOnto_of_malformed (head_of_isMalformed h), ih]
    simp

theorem exists_reads (before : List Char) (bytes : List UInt8) : ∃ text, Reads bytes text := by
  induction before, bytes using decodeOnto.induct with
  | case1 => exact ⟨[], .nil⟩
  | case2 before a bytes ch rest h _ ih =>
    obtain ⟨text, htext⟩ := ih
    obtain ⟨first, rfl, hencodes⟩ := encodes_of_head h
    have hread := Reads.character ch htext
    rw [hencodes.utf8EncodeChar_eq] at hread
    exact ⟨_, hread⟩
  | case3 before a bytes rest h _ ih =>
    obtain ⟨text, htext⟩ := ih
    obtain ⟨bad, rfl, hbad⟩ := isMalformed_of_head h
    exact ⟨_, .malformed hbad htext⟩

/-- `decode` is the lossy reading. -/
theorem reads_iff {text : List Char} : Reads bytes text ↔ decode bytes = text := by
  have heq : ∀ {text}, Reads bytes text → decode bytes = text := fun h => h.decodeOnto_eq []
  refine ⟨heq, ?_⟩
  rintro rfl
  obtain ⟨text, h⟩ := exists_reads [] bytes
  rwa [heq h]

theorem reads_decode (bytes : List UInt8) : Reads bytes (decode bytes) := reads_iff.2 rfl

/-! ### Encoded text and what follows it -/

/-- Encoded text is read as it was, whatever bytes follow it. -/
theorem decode_encode_append (text : List Char) (bytes : List UInt8) :
    decode (encode text ++ bytes) = text ++ decode bytes := by
  rw [← reads_iff]
  induction text with
  | nil => exact reads_decode bytes
  | cons ch text ih =>
    rw [encode_cons, List.append_assoc]
    exact .character ch ih

@[simp] theorem decode_nil : decode [] = [] := reads_iff.1 .nil

theorem decode_encode (text : List Char) : decode (encode text) = text := by
  simpa using decode_encode_append text []

/-- No character begins with all the bytes of another. -/
theorem eq_of_utf8EncodeChar_isPrefix {ch ch' : Char}
    (h : String.utf8EncodeChar ch <+: String.utf8EncodeChar ch') : ch = ch' := by
  obtain ⟨a, bytes, hbytes, hencodes⟩ := utf8EncodeChar_eq_cons ch'
  rw [hbytes] at h
  obtain ⟨rest, hrest⟩ := head_of_isPrefix h
  have hhead := head_of_encodes hencodes []
  rw [List.append_nil, hrest] at hhead
  exact (Head.character.inj hhead).1

/-- The first bytes of a character, without the others, are no text. -/
theorem isMalformed_of_isPrefix {part : List UInt8} (h : part <+: String.utf8EncodeChar ch)
    (hne : part ≠ []) (hcut : part ≠ String.utf8EncodeChar ch) : IsMalformed part [] := by
  refine ⟨hne, fun ch' hch' => ?_, .inr ⟨ch, h⟩, by simp⟩
  rw [List.append_nil] at hch'
  obtain rfl := eq_of_utf8EncodeChar_isPrefix (hch'.trans h)
  exact hcut (List.IsPrefix.eq_of_length_le h hch'.length_le)

/-- A character that is cut off is one replacement character. -/
theorem decode_of_isPrefix {part : List UInt8} (h : part <+: String.utf8EncodeChar ch)
    (hne : part ≠ []) (hcut : part ≠ String.utf8EncodeChar ch) : decode part = [replacement] := by
  rw [← reads_iff]
  simpa using Reads.malformed (isMalformed_of_isPrefix h hne hcut) .nil

/-! ### Text that is put together -/

theorem Encodes.isContinuation_of_mem (h : Encodes (a :: bytes) ch) (hb : b ∈ bytes) :
    isContinuation b = true := by
  cases h with
  | one => simp at hb
  | two second =>
    have := isPair_iff.1 second
    simp_all [isContinuation_iff]
  | three second third =>
    have := isSecondOfThree_iff.1 second
    simp only [List.mem_cons, List.not_mem_nil, or_false] at hb
    rcases hb with rfl | rfl
    · exact isContinuation_iff.2 (by omega)
    · exact third
  | four second third fourth =>
    have := isSecondOfFour_iff.1 second
    simp only [List.mem_cons, List.not_mem_nil, or_false] at hb
    rcases hb with rfl | rfl | rfl
    · exact isContinuation_iff.2 (by omega)
    · exact third
    · exact fourth

theorem BeginsCharacter.isContinuation_of_mem (h : BeginsCharacter (a :: bytes)) (hb : b ∈ bytes) :
    isContinuation b = true := by
  obtain ⟨more, ch, hencodes⟩ := beginsCharacter_iff.1 h
  exact hencodes.isContinuation_of_mem (List.mem_append_left more hb)

/-- What is no text stays so before bytes that begin a character of their own. -/
theorem IsMalformed.append {bad : List UInt8} (h : IsMalformed bad rest)
    (hbytes : ∀ b ∈ bytes.head?, isContinuation b = false) : IsMalformed bad (rest ++ bytes) := by
  obtain ⟨a, bad, rfl⟩ := List.exists_cons_of_ne_nil h.ne_nil
  refine ⟨h.ne_nil, fun ch hch => ?_, h.begins, fun b hb hbegins => ?_⟩
  · rw [← List.append_assoc] at hch
    -- A character that reached into `bytes` would have their first byte as a later one.
    obtain hin | ⟨more, hmore⟩ := List.prefix_or_prefix_of_prefix hch (List.prefix_append _ bytes)
    · exact h.not_character ch hin
    · rw [← hmore, List.prefix_append_right_inj] at hch
      cases more with
      | nil => exact h.not_character ch ⟨[], by simpa using hmore.symm⟩
      | cons b more =>
        have hhead : b ∈ bytes.head? := by
          obtain ⟨rest', rfl⟩ := hch
          rfl
        have hbegins : BeginsCharacter (a :: (bad ++ rest ++ b :: more)) := ⟨ch, by simp [← hmore]⟩
        have hlater := hbegins.isContinuation_of_mem (b := b) (by simp)
        simp [hbytes b hhead] at hlater
  · cases rest with
    | nil =>
      have hlater := BeginsCharacter.isContinuation_of_mem hbegins (b := b) (by simp)
      simp [hbytes b hb] at hlater
    | cons c rest => exact h.longest b hb hbegins

theorem Reads.append {before : List UInt8} {text : List Char} (h : Reads before text)
    (hbytes : ∀ b ∈ bytes.head?, isContinuation b = false) :
    Reads (before ++ bytes) (text ++ decode bytes) := by
  induction h with
  | nil => exact reads_decode bytes
  | character ch _ ih =>
    rw [List.append_assoc]
    exact .character ch ih
  | malformed h _ ih =>
    rw [List.append_assoc]
    exact .malformed (h.append hbytes) ih

/-- Bytes that begin a character of their own are read by themselves, whatever stands before them. -/
theorem decode_append (hbytes : ∀ b ∈ bytes.head?, isContinuation b = false) (before : List UInt8) :
    decode (before ++ bytes) = decode before ++ decode bytes :=
  reads_iff.1 ((reads_decode before).append hbytes)

theorem Encodes.isContinuation_eq_false (h : Encodes (a :: bytes) ch) :
    isContinuation a = false := by
  rw [Bool.eq_false_iff, Ne, isContinuation_iff]
  cases h with
  | one first =>
    have := UInt8.lt_iff_toNat_lt.1 first
    simp at this
    omega
  | two second =>
    have := isPair_iff.1 second
    omega
  | three second third =>
    have := isSecondOfThree_iff.1 second
    omega
  | four second third fourth =>
    have := isSecondOfFour_iff.1 second
    omega

/-- A character that is cut off becomes one replacement character, whatever stands before it. -/
theorem decode_append_of_isPrefix {part : List UInt8} (h : part <+: String.utf8EncodeChar ch)
    (hne : part ≠ []) (hcut : part ≠ String.utf8EncodeChar ch) (before : List UInt8) :
    decode (before ++ part) = decode before ++ [replacement] := by
  rw [decode_append ?_ before, decode_of_isPrefix h hne hcut]
  obtain ⟨a, part, rfl⟩ := List.exists_cons_of_ne_nil hne
  obtain ⟨more, hmore⟩ := h
  have hencodes : Encodes (a :: (part ++ more)) ch := encodes_iff.2 hmore.symm
  simpa using hencodes.isContinuation_eq_false

/-! ### Bytes that are characters -/

/-- A byte below 128 is a character of its own and a part of no other one. -/
theorem mem_utf8EncodeChar_iff (h : a < 0x80) : a ∈ String.utf8EncodeChar ch ↔ ch = oneByte a := by
  have ha : a.toNat < 0x80 := UInt8.lt_iff_toNat_lt.1 h
  constructor
  · intro hmem
    have hencodes := encodes_utf8EncodeChar ch
    generalize String.utf8EncodeChar ch = bytes at hmem hencodes
    cases hencodes with
    | one first => rw [List.mem_singleton.1 hmem]
    | two second =>
      have := isPair_iff.1 second
      simp only [List.mem_cons, List.not_mem_nil, or_false] at hmem
      rcases hmem with rfl | rfl <;> omega
    | three second third =>
      have := isSecondOfThree_iff.1 second
      have := isContinuation_iff.1 third
      simp only [List.mem_cons, List.not_mem_nil, or_false] at hmem
      rcases hmem with rfl | rfl | rfl <;> omega
    | four second third fourth =>
      have := isSecondOfFour_iff.1 second
      have := isContinuation_iff.1 third
      have := isContinuation_iff.1 fourth
      simp only [List.mem_cons, List.not_mem_nil, or_false] at hmem
      rcases hmem with rfl | rfl | rfl | rfl <;> omega
  · rintro rfl
    rw [(Encodes.one h).utf8EncodeChar_eq]
    exact List.mem_singleton_self a

theorem mem_encode_iff (h : a < 0x80) {text : List Char} : a ∈ encode text ↔ oneByte a ∈ text := by
  simp only [encode, List.mem_flatMap, mem_utf8EncodeChar_iff h, exists_eq_right]

theorem oneByte_inj : oneByte a = oneByte b ↔ a = b := by
  refine ⟨fun h => ?_, congrArg oneByte⟩
  have hval : ∀ x : UInt8, (oneByte x).val.toNat = x.toNat := fun x =>
    val_ofNat (.inl (Nat.lt_trans x.toNat_lt (by decide)))
  rw [← UInt8.toNat_inj, ← hval, h, hval]

end Scratchpad.Text
