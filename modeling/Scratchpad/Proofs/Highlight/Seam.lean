import Scratchpad.Proofs.Highlight.Locality
import Scratchpad.Proofs.Highlight.Tiling
import Scratchpad.Text.Utf8

/-!
# Highlighting behind complete lines

Text that is appended to complete lines leaves their colours alone, and is coloured as if it stood by
itself, unless the lines leave a string or a block comment open. For literals this is joining two
scans (`Scan.append`): a literal of the first text keeps its place, and where none began none begins
now, because an opener holds no line feed and so lies in the first text as a whole. Tokens never look
past a line feed. The main statement is `byteCategories_append`, which counts in bytes.
-/

namespace Scratchpad.Highlight

open Scratchpad.Text

/-- Among the plain characters of a text stand no quote and no opener of a block comment. -/
structure NothingOpen (text : List Char) (categories : List Category) : Prop where
  no_quote : ∀ (i : Nat) (c : Char), text[i]? = some c → categories[i]? = some .plain →
    c ≠ '"' ∧ c ≠ '\''
  no_block : ∀ i : Nat, text[i]? = some '/' → text[i + 1]? = some '*' →
    categories[i]? = some .plain → categories[i + 1]? ≠ some .plain

theorem NothingOpen.of_append {taken rest : List Char} {p q : List Category}
    (h : NothingOpen (taken ++ rest) (p ++ q)) (hp : p.length = taken.length) :
    NothingOpen rest q := by
  have htext : ∀ i : Nat, (taken ++ rest)[taken.length + i]? = rest[i]? := fun i => by
    rw [List.getElem?_append_right (Nat.le_add_right _ _), Nat.add_sub_cancel_left]
  have hcategory : ∀ i : Nat, (p ++ q)[taken.length + i]? = q[i]? := fun i => by
    rw [← hp, List.getElem?_append_right (Nat.le_add_right _ _), Nat.add_sub_cancel_left]
  constructor
  · intro i c hc hplain
    rw [← htext] at hc
    rw [← hcategory] at hplain
    exact h.no_quote _ c hc hplain
  · intro i hc hd hplain
    rw [← htext] at hc hd
    rw [← hcategory] at hplain ⊢
    exact h.no_block _ hc hd hplain

theorem EndsLine.of_append {taken rest : List Char} (h : EndsLine (taken ++ rest)) :
    EndsLine rest := by
  rcases h with h | h
  · exact .inl (List.append_eq_nil_iff.1 h).2
  · cases rest with
    | nil => exact .inl rfl
    | cons c rest =>
      right
      rwa [List.getLast?_append_of_ne_nil _ (List.cons_ne_nil c rest)] at h

/-! ### Literals -/

/-- A literal of complete lines stays one when text is appended. -/
theorem IsLiteral.append {k : Category} {taken rest : List Char} (h : IsLiteral k taken rest)
    (ha : EndsLine (taken ++ rest)) (b : List Char) : IsLiteral k taken (rest ++ b) := by
  cases h with
  | @lineComment opener body rest ho hb hr =>
    refine .lineComment ho hb (.inr ?_)
    rcases hr with rfl | hr
    · -- a line comment that ends the text would hold the line feed
      exfalso
      have hlineFeed : '\n' ∉ opener ++ body := by
        rcases ho with rfl | rfl <;> simpa using hb
      rw [List.append_nil] at ha
      rcases ha with ha | ha
      · rcases ho with rfl | rfl <;> simp at ha
      · exact hlineFeed (List.mem_of_getLast? ha)
    · rw [List.head?_append, hr]
      rfl
  | blockComment hb => exact .blockComment hb
  | quoted hq hu => exact .quoted hq hu

theorem Literal.lineFeed_not_mem_opener (l : Literal) : '\n' ∉ l.opener := by
  cases l <;> decide

/-- An opener that begins in complete lines lies in them as a whole. -/
theorem Literal.opener_prefix_of_append {l : Literal} {a b : List Char}
    (h : l.opener <+: a ++ b) (ha : a.getLast? = some '\n') : l.opener <+: a := by
  rcases List.prefix_or_prefix_of_prefix h (List.prefix_append a b) with hopener | hopener
  · exact hopener
  · exact absurd (hopener.subset (List.mem_of_getLast? ha)) l.lineFeed_not_mem_opener

/-- In complete lines that leave nothing open, a literal begins where one began before. -/
theorem no_literal_append {c : Char} {cs b : List Char} {pieces : List (List Char × Category)}
    (hno : ∀ k taken rest, IsLiteral k taken rest → taken ++ rest ≠ c :: cs)
    (hs : Scan cs pieces) (ha : EndsLine (c :: cs))
    (hopen : NothingOpen (c :: cs) (.plain :: pieceCategories pieces)) :
    ∀ k taken rest, IsLiteral k taken rest → taken ++ rest ≠ c :: (cs ++ b) := by
  intro k taken rest hl heq
  obtain ⟨l, -, hclaim⟩ := isLiteral_iff_claim?.1 hl
  rw [heq, ← List.cons_append] at hclaim
  have hlast : (c :: cs).getLast? = some '\n' := ha.resolve_left (List.cons_ne_nil c cs)
  have hopener := Literal.opener_prefix_of_append (Literal.opener_prefix_of_claim? hclaim) hlast
  -- a line comment needs no more than its opener, and claims its text already
  have hline : ∀ {n : Nat}, l.claim? (c :: cs) ≠ some n := by
    intro n hn
    obtain ⟨taken', rest', heq', -, hl'⟩ := Literal.exists_of_claim? hn
    exact hno _ _ _ hl' heq'.symm
  obtain ⟨after, hafter⟩ := hopener
  cases l with
  | slashComment =>
    rw [← hafter] at hline
    exact hline rfl
  | hashComment =>
    rw [← hafter] at hline
    exact hline rfl
  | blockComment =>
    obtain ⟨rfl, rfl⟩ := List.cons.inj hafter
    have hplain := hs.head?_pieceCategories (by decide)
    rw [List.head?_eq_getElem?] at hplain
    exact hopen.no_block 0 rfl rfl rfl hplain
  | doubleQuoted =>
    obtain ⟨rfl, -⟩ := List.cons.inj hafter
    exact (hopen.no_quote 0 _ rfl rfl).1 rfl
  | singleQuoted =>
    obtain ⟨rfl, -⟩ := List.cons.inj hafter
    exact (hopen.no_quote 0 _ rfl rfl).2 rfl

/-- Scans of complete lines that leave nothing open, and of what follows, make one scan. -/
theorem Scan.append {a b : List Char} {p q : List (List Char × Category)} (hp : Scan a p)
    (hq : Scan b q) (ha : EndsLine a) (hopen : NothingOpen a (pieceCategories p)) :
    Scan (a ++ b) (p ++ q) := by
  induction hp with
  | done => exact hq
  | @claim k taken rest pieces hl hs ih =>
    rw [List.append_assoc]
    exact .claim (hl.append ha b) (ih ha.of_append (hopen.of_append List.length_replicate))
  | @advance c cs pieces hno hs ih =>
    rw [← List.singleton_append] at ha hopen
    exact .advance (no_literal_append hno hs ha hopen) (ih ha.of_append (hopen.of_append rfl))

theorem literalCategories_append {a : List Char} (b : List Char) (ha : EndsLine a)
    (hopen : NothingOpen a (literalCategories a)) :
    literalCategories (a ++ b) = literalCategories a ++ literalCategories b := by
  obtain ⟨p, hp, hpc⟩ := exists_scan a
  obtain ⟨q, hq, hqc⟩ := exists_scan b
  obtain ⟨r, hr, hrc⟩ := exists_scan (a ++ b)
  rw [hpc] at hopen
  rw [hrc, hr.unique (hp.append hq ha hopen), hpc, hqc]
  exact List.flatMap_append

theorem categories_append {a : List Char} (b : List Char) (ha : EndsLine a)
    (hopen : NothingOpen a (literalCategories a)) :
    categories (a ++ b) = categories a ++ categories b := by
  have hliterals := literalCategories_append b ha hopen
  exact (congrArg (Token.all.foldl (paintToken (a ++ b))) hliterals).trans
    (foldl_paintToken_append ha (length_literalCategories a) Token.all)

/-! ### Bytes -/

/-- The categories of the bytes of a source text. -/
def byteCategories (source : String) : List Category :=
  (highlight source).flatMap fun s => List.replicate (s.stop - s.start) s.category

/-- The bytes of a source text, each with its category. -/
def markedBytes (source : String) : List (UInt8 × Category) :=
  (encode source.toList).zip (byteCategories source)

/-- The byte is that of the ASCII character `c`, outside comments and strings. -/
def IsFreeByte (c : Char) (p : UInt8 × Category) : Prop :=
  p.1 = c.toUInt8 ∧ p.2 ≠ .comment ∧ p.2 ≠ .stringLiteral

instance (c : Char) (p : UInt8 × Category) : Decidable (IsFreeByte c p) :=
  inferInstanceAs (Decidable (_ ∧ _))

/-- Outside the comments and strings of a source text stand no quote and no opener of a block
comment. -/
structure LeavesNothingOpen (source : String) : Prop where
  no_quote : ∀ p ∈ markedBytes source, ¬ IsFreeByte '"' p ∧ ¬ IsFreeByte '\'' p
  no_block : (markedBytes source).IsChain fun p q => ¬ (IsFreeByte '/' p ∧ IsFreeByte '*' q)

instance (source : String) : Decidable (LeavesNothingOpen source) :=
  decidable_of_iff (_ ∧ _) ⟨fun h => ⟨h.1, h.2⟩, fun h => ⟨h.no_quote, h.no_block⟩⟩

/-- The categories of the bytes of some characters, of which each has a category. -/
def inBytes (pairs : List (Char × Category)) : List Category :=
  pairs.flatMap fun p => List.replicate p.1.utf8Size p.2

theorem inBytes_run (cs : List Char) (k : Category) :
    inBytes (cs.map fun c => (c, k)) = List.replicate (byteLength cs) k := by
  rw [inBytes]
  induction cs with
  | nil => rfl
  | cons c cs ih =>
    rw [List.map_cons, List.flatMap_cons, ih, byteLength_cons, List.replicate_append_replicate]

theorem flatMap_spansOf (start : Nat) (runs : List (List Char × Category)) :
    (spansOf start runs).flatMap (fun s => List.replicate (s.stop - s.start) s.category) =
      runs.flatMap fun r => inBytes (r.1.map fun c => (c, r.2)) := by
  induction runs generalizing start with
  | nil => rfl
  | cons r runs ih =>
    rw [spansOf, List.flatMap_cons, List.flatMap_cons, ih, inBytes_run, Nat.add_sub_cancel_left]

theorem byteCategories_eq_inBytes (source : String) :
    byteCategories source = inBytes (source.toList.zip (categories source.toList)) := by
  rw [byteCategories, highlight_eq_spansOf, flatMap_spansOf, ← flatMap_sourceRuns, inBytes,
    List.flatMap_assoc]
  rfl

theorem zip_inBytes (pairs : List (Char × Category)) :
    (encode (pairs.map Prod.fst)).zip (inBytes pairs) =
      pairs.flatMap fun p => (String.utf8EncodeChar p.1).map fun byte => (byte, p.2) := by
  rw [inBytes]
  induction pairs with
  | nil => rfl
  | cons p pairs ih =>
    have hlen : (String.utf8EncodeChar p.1).length = p.1.utf8Size :=
      String.length_utf8EncodeChar p.1
    rw [List.map_cons, encode_cons, List.flatMap_cons, List.flatMap_cons,
      List.zip_append (by rw [hlen, List.length_replicate]), ih, ← hlen,
      List.map_prod_left_eq_zip, List.map_const']

theorem markedBytes_eq_flatMap (source : String) :
    markedBytes source =
      (source.toList.zip (categories source.toList)).flatMap
        fun p => (String.utf8EncodeChar p.1).map fun byte => (byte, p.2) := by
  have hzip := zip_inBytes (source.toList.zip (categories source.toList))
  rw [List.map_fst_zip (Nat.le_of_eq (length_categories source.toList).symm)] at hzip
  rw [markedBytes, byteCategories_eq_inBytes, hzip]

/-- What is plain before the tokens is in the end neither a comment nor a string. -/
theorem exists_category_of_plain {text : List Char} {i : Nat} {c : Char} (hc : text[i]? = some c)
    (hplain : (literalCategories text)[i]? = some .plain) :
    ∃ k, (text.zip (categories text))[i]? = some (c, k) ∧ k ≠ .comment ∧ k ≠ .stringLiteral := by
  have hne : ∀ k : Category, k ≠ .plain → (∀ t ∈ Token.all, k ≠ t.category) →
      (categories text)[i]? ≠ some k := by
    intro k hk hkt hget
    have hliteral := (getElem?_foldl_paintToken hk hkt (length_literalCategories text)).1 hget
    exact hk (Option.some.inj (hliteral.symm.trans hplain))
  obtain ⟨hi, -⟩ := List.getElem?_eq_some_iff.1 hc
  have hget := List.getElem?_eq_getElem (Nat.lt_of_lt_of_eq hi (length_categories text).symm)
  refine ⟨_, List.getElem?_zip_eq_some.2 ⟨hc, hget⟩, ?_, ?_⟩
  · intro hk
    exact hne .comment (by decide) (by decide) (hget.trans (congrArg some hk))
  · intro hk
    exact hne .stringLiteral (by decide) (by decide) (hget.trans (congrArg some hk))

theorem LeavesNothingOpen.nothingOpen {source : String} (h : LeavesNothingOpen source) :
    NothingOpen source.toList (literalCategories source.toList) := by
  have hquote : ∀ (i : Nat) (q : Char), (∀ p ∈ markedBytes source, ¬ IsFreeByte q p) →
      String.utf8EncodeChar q = [q.toUInt8] → source.toList[i]? = some q →
      (literalCategories source.toList)[i]? ≠ some .plain := by
    intro i q hno hbyte hq hplain
    obtain ⟨k, hpair, hfree⟩ := exists_category_of_plain hq hplain
    refine hno (q.toUInt8, k) ?_ ⟨rfl, hfree⟩
    rw [markedBytes_eq_flatMap]
    exact List.mem_flatMap.2 ⟨_, List.mem_of_getElem? hpair, by simp [hbyte]⟩
  constructor
  · intro i c hc hplain
    constructor
    · rintro rfl
      exact hquote i '"' (fun p hp => (h.no_quote p hp).1) (by decide) hc hplain
    · rintro rfl
      exact hquote i '\'' (fun p hp => (h.no_quote p hp).2) (by decide) hc hplain
  · intro i hc hd hplain hplain'
    obtain ⟨k, hslash, hfree⟩ := exists_category_of_plain hc hplain
    obtain ⟨l, hstar, hfree'⟩ := exists_category_of_plain hd hplain'
    have hpair : [('/', k), ('*', l)] <:+: source.toList.zip (categories source.toList) := by
      obtain ⟨hlt, -⟩ := List.getElem?_eq_some_iff.1 hstar
      refine List.infix_iff_getElem?.2 ⟨i, by rw [Nat.add_comm]; exact hlt, ?_⟩
      intro j hj
      match j with
      | 0 => simpa using hslash
      | 1 => simpa [Nat.add_comm] using hstar
    have hbytes : [(0x2F, k), (0x2A, l)] <:+: markedBytes source := by
      obtain ⟨before, after, hpairs⟩ := hpair
      rw [markedBytes_eq_flatMap, ← hpairs, List.flatMap_append, List.flatMap_append]
      exact List.infix_append _ _ _
    have hchain := h.no_block.infix hbytes
    rw [List.isChain_cons_cons] at hchain
    exact hchain.1 ⟨⟨rfl, hfree⟩, ⟨rfl, hfree'⟩⟩

/-- Behind complete lines that leave nothing open, a text is coloured as if it stood by itself, and
the lines keep their colours. -/
theorem byteCategories_append (a b : String) (hend : a = "" ∨ a.toList.getLast? = some '\n')
    (hopen : LeavesNothingOpen a) :
    byteCategories (a ++ b) = byteCategories a ++ byteCategories b := by
  have hlines : EndsLine a.toList := by
    rcases hend with rfl | hend
    · exact .inl rfl
    · exact .inr hend
  rw [byteCategories_eq_inBytes, byteCategories_eq_inBytes, byteCategories_eq_inBytes,
    String.toList_append, categories_append b.toList hlines hopen.nothingOpen,
    List.zip_append (length_categories a.toList).symm]
  exact List.flatMap_append

/-- Quotes and openers inside the comments and strings of the first text do no harm. -/
theorem byteCategories_append_statement :
    LeavesNothingOpen "# it's\n$x = '\"/*'; // é\n" ∧
      byteCategories ("# it's\n$x = '\"/*'; // é\n" ++ "if (1) 'a'") =
        byteCategories "# it's\n$x = '\"/*'; // é\n" ++ byteCategories "if (1) 'a'" := by
  have hopen : LeavesNothingOpen "# it's\n$x = '\"/*'; // é\n" := by decide +kernel
  exact ⟨hopen, byteCategories_append _ "if (1) 'a'" (.inr (by decide)) hopen⟩

/-- A quote that is left open closes behind the line feed. -/
example : byteCategories ("'\n" ++ "'") ≠ byteCategories "'\n" ++ byteCategories "'" := by
  decide +kernel

end Scratchpad.Highlight
