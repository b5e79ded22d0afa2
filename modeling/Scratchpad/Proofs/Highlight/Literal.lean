import Scratchpad.Highlight.Literal

/-!
# The language of the literals

`IsLiteral k taken rest` says what a comment or a string is, without a search: that `taken`, in front
of `rest`, is one literal of category `k`. What follows matters only to a line comment, which takes
all of its line. The main statement is `isLiteral_iff_claim?`: the literals that `Literal.claim?`
finds at the front of a text are exactly those, and `IsLiteral.unique` says that a text has at most
one at its front. The last part is about the two ends of a literal, where the characters that can
stand there are few.
-/

namespace Scratchpad.Highlight

/-- A piece of a quoted text: one character that is neither the quote nor a backslash, or a backslash
with the character after it, whatever that is. -/
inductive QuotedUnit (q : Char) : List Char → Prop where
  | single {c : Char} (hq : c ≠ q) (hb : c ≠ '\\') : QuotedUnit q [c]
  | escaped (c : Char) : QuotedUnit q ['\\', c]

/-- The text `taken`, where `rest` follows, is one literal of category `k`. -/
inductive IsLiteral : Category → (taken rest : List Char) → Prop where
  /-- A line comment goes up to a line feed or the end of the text. -/
  | lineComment {opener body rest : List Char} (ho : opener = ['/', '/'] ∨ opener = ['#'])
      (hb : '\n' ∉ body) (hr : rest = [] ∨ rest.head? = some '\n') :
      IsLiteral .comment (opener ++ body) rest
  /-- A block comment goes through the first closer after its opener. -/
  | blockComment {body rest : List Char} (hb : ¬ ['*', '/'] <:+: body ++ ['*']) :
      IsLiteral .comment (['/', '*'] ++ body ++ ['*', '/']) rest
  /-- A string goes through the first quote that no backslash escapes. -/
  | quoted {q : Char} {units : List (List Char)} {rest : List Char} (hq : q = '"' ∨ q = '\'')
      (hu : ∀ u ∈ units, QuotedUnit q u) :
      IsLiteral .stringLiteral (q :: units.flatten ++ [q]) rest

namespace Literal

theorem lineLength_append_iff (body rest : List Char) :
    lineLength (body ++ rest) = body.length ↔
      '\n' ∉ body ∧ (rest = [] ∨ rest.head? = some '\n') := by
  induction body with
  | nil =>
    cases rest with
    | nil => simp [lineLength]
    | cons c rest => by_cases h : c = '\n' <;> simp [lineLength, h]
  | cons c body ih =>
    by_cases h : c = '\n'
    · simp [lineLength, h]
    · have hc : lineLength (c :: (body ++ rest)) = lineLength (body ++ rest) + 1 := by
        simp [lineLength, h]
      have hn : '\n' ≠ c := fun e => h e.symm
      rw [List.cons_append, hc, List.length_cons, Nat.add_right_cancel_iff, ih]
      simp [hn]

theorem exists_of_lineLength (cs : List Char) :
    ∃ body rest, cs = body ++ rest ∧ lineLength cs = body.length ∧
      '\n' ∉ body ∧ (rest = [] ∨ rest.head? = some '\n') := by
  have hsplit : cs.takeWhile (· ≠ '\n') ++ cs.dropWhile (· ≠ '\n') = cs :=
    List.takeWhile_append_dropWhile
  refine ⟨cs.takeWhile (· ≠ '\n'), cs.dropWhile (· ≠ '\n'), hsplit.symm, rfl, ?_⟩
  rw [← lineLength_append_iff, hsplit]
  rfl

/-- If no closer begins in the body, the closer after it is the first one. -/
theorem closeBlock?_append {body : List Char} (rest : List Char)
    (h : ¬ ['*', '/'] <:+: body ++ ['*']) :
    closeBlock? (body ++ '*' :: '/' :: rest) = some (body.length + 2) := by
  induction body with
  | nil => rfl
  | cons c body ih =>
    have htail : ¬ ['*', '/'] <:+: body ++ ['*'] :=
      fun hi => h (hi.trans (List.suffix_cons c _).isInfix)
    have hhead : ¬ ['*', '/'] <+: c :: (body ++ ['*']) := fun hp => h hp.isInfix
    have hstep : closeBlock? (c :: (body ++ '*' :: '/' :: rest)) =
        (closeBlock? (body ++ '*' :: '/' :: rest)).map (· + 1) := by
      cases body with
      | nil => simp [closeBlock?]
      | cons d body =>
        rw [List.cons_append, closeBlock?]
        rintro ds rfl he
        simp only [List.cons.injEq] at he
        exact hhead (by simp [he.1])
    rw [List.cons_append, hstep, ih htail]
    simp

theorem exists_of_closeBlock? {cs : List Char} {n : Nat} (h : closeBlock? cs = some n) :
    ∃ body rest, cs = body ++ '*' :: '/' :: rest ∧ n = body.length + 2 ∧
      ¬ ['*', '/'] <:+: body ++ ['*'] := by
  fun_induction closeBlock? cs generalizing n with
  | case1 => simp at h
  | case2 rest =>
    refine ⟨[], rest, rfl, by simpa using h.symm, ?_⟩
    simp [List.infix_cons_iff]
  | case3 c cs hne ih =>
    obtain ⟨m, hm, rfl⟩ := Option.map_eq_some_iff.1 h
    obtain ⟨body, rest, rfl, rfl, hno⟩ := ih hm
    refine ⟨c :: body, rest, rfl, by simp, ?_⟩
    rw [List.cons_append, List.infix_cons_iff]
    rintro (hp | hi)
    · cases body with
      | nil => simp at hp
      | cons d body =>
        simp only [List.cons_append, List.cons_prefix_cons, List.nil_prefix, and_true] at hp
        exact hne (body ++ '*' :: '/' :: rest) hp.1.symm (by rw [hp.2]; rfl)
    · exact hno hi

/-- A quote after whole pieces of quoted text closes it. -/
theorem closeQuote?_append {q : Char} {units : List (List Char)} (rest : List Char)
    (hq : q ≠ '\\') (h : ∀ u ∈ units, QuotedUnit q u) :
    closeQuote? q (units.flatten ++ q :: rest) = some (units.flatten.length + 1) := by
  induction units with
  | nil =>
    rw [List.flatten_nil, List.nil_append, closeQuote?.eq_def]
    split <;> simp_all
  | cons u units ih =>
    have hrest := ih fun v hv => h v (List.mem_cons_of_mem u hv)
    cases h u List.mem_cons_self with
    | @single c hcq hcb =>
      rw [List.flatten_cons, List.append_assoc, List.singleton_append, closeQuote?]
      · simp [hcq, hrest]
      · exact fun e _ => hcb e
      · exact fun _ _ e _ => hcb e
    | escaped c =>
      rw [List.flatten_cons, List.append_assoc]
      simp [closeQuote?, hrest]

theorem exists_of_closeQuote? {q : Char} {cs : List Char} {n : Nat}
    (h : closeQuote? q cs = some n) :
    ∃ units rest, cs = List.flatten units ++ q :: rest ∧ n = (List.flatten units).length + 1 ∧
      ∀ u ∈ units, QuotedUnit q u := by
  fun_induction closeQuote? q cs generalizing n with
  | case1 => simp at h
  | case2 => simp at h
  | case3 c cs ih =>
    obtain ⟨m, hm, rfl⟩ := Option.map_eq_some_iff.1 h
    obtain ⟨units, rest, rfl, rfl, hu⟩ := ih hm
    refine ⟨['\\', c] :: units, rest, by simp, by simp, ?_⟩
    rintro u (_ | ⟨_, hmem⟩)
    · exact .escaped c
    · exact hu u hmem
  | case4 cs h1 h2 =>
    exact ⟨[], cs, rfl, by simpa using h.symm, by simp⟩
  | case5 c cs h1 h2 hc ih =>
    obtain ⟨m, hm, rfl⟩ := Option.map_eq_some_iff.1 h
    obtain ⟨units, rest, rfl, rfl, hu⟩ := ih hm
    refine ⟨[c] :: units, rest, by simp, by simp, ?_⟩
    rintro u (_ | ⟨_, hmem⟩)
    · refine .single hc ?_
      rintro rfl
      -- a backslash is followed by the quote at least, so it would have begun an escape
      cases hrest : units.flatten ++ q :: rest with
      | nil => simp at hrest
      | cons d ds => exact h2 d ds rfl hrest
    · exact hu u hmem

/-- What the search finds at the front of a text is a literal. -/
theorem exists_of_claim? {l : Literal} {text : List Char} {n : Nat} (h : l.claim? text = some n) :
    ∃ taken rest, text = taken ++ rest ∧ n = taken.length ∧ IsLiteral l.category taken rest := by
  unfold claim? at h
  split at h
  · next after =>
    obtain ⟨body, rest, rfl, hn, hb, hr⟩ := exists_of_lineLength after
    refine ⟨['/', '/'] ++ body, rest, rfl, ?_, .lineComment (.inl rfl) hb hr⟩
    rw [← Option.some.inj h, hn, List.length_append]
    rfl
  · next after =>
    obtain ⟨body, rest, rfl, hn, hb, hr⟩ := exists_of_lineLength after
    refine ⟨['#'] ++ body, rest, rfl, ?_, .lineComment (.inr rfl) hb hr⟩
    rw [← Option.some.inj h, hn, List.length_append]
    rfl
  · obtain ⟨m, hm, rfl⟩ := Option.map_eq_some_iff.1 h
    obtain ⟨body, rest, rfl, rfl, hb⟩ := exists_of_closeBlock? hm
    refine ⟨['/', '*'] ++ body ++ ['*', '/'], rest, by simp, ?_, .blockComment hb⟩
    simp; omega
  · obtain ⟨m, hm, rfl⟩ := Option.map_eq_some_iff.1 h
    obtain ⟨units, rest, rfl, rfl, hu⟩ := exists_of_closeQuote? hm
    refine ⟨'"' :: units.flatten ++ ['"'], rest, by simp, ?_, .quoted (.inl rfl) hu⟩
    simp; omega
  · obtain ⟨m, hm, rfl⟩ := Option.map_eq_some_iff.1 h
    obtain ⟨units, rest, rfl, rfl, hu⟩ := exists_of_closeQuote? hm
    refine ⟨'\'' :: units.flatten ++ ['\''], rest, by simp, ?_, .quoted (.inr rfl) hu⟩
    simp; omega
  · simp at h

/-- A literal at the front of a text is found there. -/
theorem exists_claim? {k : Category} {taken rest : List Char} (h : IsLiteral k taken rest) :
    ∃ l : Literal, l.category = k ∧ l.claim? (taken ++ rest) = some taken.length := by
  cases h with
  | @lineComment opener body rest ho hb hr =>
    have hline := (lineLength_append_iff body rest).2 ⟨hb, hr⟩
    rcases ho with rfl | rfl
    · exact ⟨slashComment, rfl, by simp [claim?, hline]; omega⟩
    · exact ⟨hashComment, rfl, by simp [claim?, hline]; omega⟩
  | @blockComment body rest hb =>
    refine ⟨blockComment, rfl, ?_⟩
    have hclose := closeBlock?_append rest hb
    simp [claim?, hclose]; omega
  | @quoted q units rest hq hu =>
    rcases hq with rfl | rfl
    · have hclose := closeQuote?_append rest (by decide) hu
      exact ⟨doubleQuoted, rfl, by simp [claim?, hclose]; omega⟩
    · have hclose := closeQuote?_append rest (by decide) hu
      exact ⟨singleQuoted, rfl, by simp [claim?, hclose]; omega⟩

/-- The characters with which a literal begins. -/
def opener : Literal → List Char
  | slashComment => ['/', '/']
  | hashComment => ['#']
  | blockComment => ['/', '*']
  | doubleQuoted => ['"']
  | singleQuoted => ['\'']

theorem opener_prefix_of_claim? {l : Literal} {text : List Char} {n : Nat}
    (h : l.claim? text = some n) : l.opener <+: text := by
  unfold claim? at h
  split at h
  case h_6 => simp at h
  all_goals simp [opener]

/-- The openers tell the kinds of literals apart. -/
theorem eq_of_isPrefix_opener {l l' : Literal} (h : l.opener <+: l'.opener) : l = l' := by
  revert h
  cases l <;> cases l' <;> decide

theorem claim?_unique {l l' : Literal} {text : List Char} {n n' : Nat}
    (h : l.claim? text = some n) (h' : l'.claim? text = some n') : l = l' := by
  rcases List.prefix_or_prefix_of_prefix (opener_prefix_of_claim? h)
    (opener_prefix_of_claim? h') with hp | hp
  · exact eq_of_isPrefix_opener hp
  · exact (eq_of_isPrefix_opener hp).symm

end Literal

/-- A literal stands at the front of a text exactly if one of the kinds claims it. -/
theorem isLiteral_iff_claim? {k : Category} {taken rest : List Char} :
    IsLiteral k taken rest ↔
      ∃ l : Literal, l.category = k ∧ l.claim? (taken ++ rest) = some taken.length := by
  constructor
  · exact Literal.exists_claim?
  · rintro ⟨l, rfl, hl⟩
    obtain ⟨taken', rest', heq, hlen, hlit⟩ := Literal.exists_of_claim? hl
    obtain ⟨rfl, rfl⟩ := List.append_inj heq hlen
    exact hlit

/-- The characters that can stand at the ends of a literal, or after a line comment. -/
def isDelimiter (c : Char) : Bool := c ∈ ['/', '#', '"', '\'', '\n']

namespace IsLiteral

/-- A literal begins with a delimiter. -/
theorem exists_head {k : Category} {taken rest : List Char} (h : IsLiteral k taken rest) :
    ∃ c cs, taken = c :: cs ∧ isDelimiter c = true := by
  cases h with
  | @lineComment opener body rest ho hb hr =>
    rcases ho with rfl | rfl
    · exact ⟨'/', '/' :: body, rfl, rfl⟩
    · exact ⟨'#', body, rfl, rfl⟩
  | @blockComment body rest hb => exact ⟨'/', '*' :: body ++ ['*', '/'], rfl, rfl⟩
  | @quoted q units rest hq hu =>
    rcases hq with rfl | rfl
    · exact ⟨'"', units.flatten ++ ['"'], rfl, rfl⟩
    · exact ⟨'\'', units.flatten ++ ['\''], rfl, rfl⟩

/-- A literal ends with a delimiter, or a line feed or nothing at all follows. -/
theorem delimiter_at_end {k : Category} {taken rest : List Char} (h : IsLiteral k taken rest) :
    (∃ cs c, taken = cs ++ [c] ∧ isDelimiter c = true) ∨ rest = [] ∨ rest.head? = some '\n' := by
  cases h with
  | lineComment ho hb hr => exact .inr hr
  | @blockComment body rest hb => exact .inl ⟨['/', '*'] ++ body ++ ['*'], '/', by simp, rfl⟩
  | @quoted q units rest hq hu =>
    refine .inl ⟨q :: units.flatten, q, rfl, ?_⟩
    rcases hq with rfl | rfl <;> rfl

/-- At the front of a text there is at most one literal. -/
theorem unique {k k' : Category} {taken rest taken' rest' : List Char}
    (h : IsLiteral k taken rest) (h' : IsLiteral k' taken' rest')
    (heq : taken ++ rest = taken' ++ rest') : k = k' ∧ taken = taken' ∧ rest = rest' := by
  obtain ⟨l, rfl, hl⟩ := isLiteral_iff_claim?.1 h
  obtain ⟨l', rfl, hl'⟩ := isLiteral_iff_claim?.1 h'
  rw [← heq] at hl'
  obtain rfl := Literal.claim?_unique hl hl'
  have hlen : taken.length = taken'.length := Option.some.inj (hl.symm.trans hl')
  exact ⟨rfl, List.append_inj heq hlen⟩

end IsLiteral

end Scratchpad.Highlight
