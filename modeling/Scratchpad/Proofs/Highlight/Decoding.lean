import Scratchpad.Highlight.ColouredText
import Scratchpad.Proofs.Highlight.Tiling

/-!
# Reading coloured text

A terminal reads a text as signs: characters to show, and the numbers of escape sequences
(`signs?`). `decode?` follows the signs of coloured text. It keeps the category that the last number
stands for, and where the category changes a span ends.

In coloured text a run that is not plain stands between the number of its colour and that of the
default colour (`paintedSigns`). Neighbouring runs differ, so the reader ends a span where a run
ends and nowhere else. The main statement is `decode?_coloured`.
-/

namespace Scratchpad

open Scratchpad.Text

namespace Terminal

/-- What a terminal reads: a character to show, or the number of an escape sequence. -/
inductive Sign where
  | char (c : Char)
  | code (n : Nat)
  deriving DecidableEq, Repr

/-- How far an escape sequence was read: it has not begun, its first character was read, or its
number so far. -/
inductive Stage where
  | outside
  | opened
  | number (n : Nat)
  deriving DecidableEq, Repr

/-- The signs of a text of which an escape sequence was read so far; absent if an escape sequence is
not complete, or holds more than one number. -/
def signsFrom? : Stage → List Char → Option (List Sign)
  | .outside, [] => some []
  | _, [] => none
  | .outside, c :: cs =>
    if c = '\x1b' then signsFrom? .opened cs else (signsFrom? .outside cs).map (.char c :: ·)
  | .opened, c :: cs => if c = '[' then signsFrom? (.number 0) cs else none
  | .number n, c :: cs =>
    if c = 'm' then (signsFrom? .outside cs).map (.code n :: ·)
    else if c.isDigit then signsFrom? (.number (10 * n + (c.toNat - '0'.toNat))) cs
    else none

/-- The signs of a text. -/
def signs? (cs : List Char) : Option (List Sign) := signsFrom? .outside cs

/-- Every number but that of the default colour has the next number behind it, and this is that of
the default colour. -/
inductive Balanced : List Sign → Prop where
  | nil : Balanced []
  | char (c : Char) {rest : List Sign} (balanced : Balanced rest) : Balanced (.char c :: rest)
  | painted {n : Nat} (opens : n ≠ defaultForeground) (text : List Char) {rest : List Sign}
      (balanced : Balanced rest) :
      Balanced (.code n :: text.map .char ++ .code defaultForeground :: rest)

/-- The signs of a painted text. -/
def paintedSigns (colour : Option Colour) (text : List Char) : List Sign :=
  match colour with
  | none => text.map .char
  | some c => .code c.code :: text.map .char ++ [.code defaultForeground]

theorem paintedSigns_some_append (c : Colour) (text : List Char) (rest : List Sign) :
    paintedSigns (some c) text ++ rest =
      .code c.code :: (text.map .char ++ .code defaultForeground :: rest) := by
  simp [paintedSigns]

/-! ### Signs of painted text -/

theorem signs?_append_of_not_mem {as : List Char} (h : '\x1b' ∉ as) (cs : List Char) :
    signs? (as ++ cs) = (signs? cs).map (as.map .char ++ ·) := by
  induction as with
  | nil => simp
  | cons a as ih =>
    obtain ⟨hne, has⟩ := not_or.1 (List.mem_cons.not.1 h)
    have ih := ih has
    rw [signs?] at ih ⊢
    rw [List.cons_append, signsFrom?, if_neg (Ne.symm hne), ih, Option.map_map]
    rfl

theorem signsFrom?_digits_append {ds : List Char} (h : ∀ d ∈ ds, d.isDigit = true) (n : Nat)
    (cs : List Char) :
    signsFrom? (.number n) (ds ++ 'm' :: cs) =
      (signs? cs).map (.code (Nat.ofDigitChars 10 ds n) :: ·) := by
  induction ds generalizing n with
  | nil => rfl
  | cons d ds ih =>
    obtain ⟨hd, hds⟩ := List.forall_mem_cons.1 h
    have hne : d ≠ 'm' := by
      rintro rfl
      exact absurd hd (by decide)
    rw [List.cons_append, signsFrom?, if_neg hne, if_pos hd, ih hds, Nat.ofDigitChars_cons]

theorem signs?_escape_append (n : Nat) (cs : List Char) :
    signs? (escape n ++ cs) = (signs? cs).map (.code n :: ·) := by
  have hdigits : ∀ d ∈ Nat.toDigits 10 n, d.isDigit = true :=
    fun d hd => Nat.isDigit_of_mem_toDigits (by decide) (by decide) hd
  have hrest : escape n ++ cs = '\x1b' :: '[' :: (Nat.toDigits 10 n ++ 'm' :: cs) := by
    simp [escape]
  rw [hrest, signs?, signsFrom?, if_pos rfl, signsFrom?, if_pos rfl,
    signsFrom?_digits_append hdigits, Nat.ofDigitChars_ten_toDigits]

theorem signs?_painted_append (colour : Option Colour) {text : List Char} (h : '\x1b' ∉ text)
    (cs : List Char) :
    signs? (painted colour text ++ cs) = (signs? cs).map (paintedSigns colour text ++ ·) := by
  cases colour with
  | none => exact signs?_append_of_not_mem h cs
  | some c =>
    rw [painted, List.append_assoc, List.append_assoc, signs?_escape_append,
      signs?_append_of_not_mem h, signs?_escape_append, Option.map_map, Option.map_map]
    congr 1
    funext signs
    rw [paintedSigns_some_append]
    rfl

theorem Balanced.chars_append {rest : List Sign} (h : Balanced rest) (text : List Char) :
    Balanced (text.map .char ++ rest) := by
  induction text with
  | nil => exact h
  | cons c text ih => exact .char c ih

theorem Balanced.paintedSigns_append {rest : List Sign} (h : Balanced rest)
    (colour : Option Colour) (text : List Char) : Balanced (paintedSigns colour text ++ rest) := by
  cases colour with
  | none => exact h.chars_append text
  | some c =>
    have hopens : c.code ≠ defaultForeground := by cases c <;> decide
    rw [paintedSigns_some_append]
    exact .painted hopens text h

end Terminal

namespace Highlight

open Scratchpad.Terminal

/-- The category that the number of an escape sequence stands for. -/
def categoryOf? (n : Nat) : Option Category :=
  match n with
  | 35 => some .keyword
  | 95 => some .constant
  | 32 => some .stringLiteral
  | 90 => some .comment
  | 33 => some .number
  | 36 => some .variableName
  | 39 => some .plain
  | _ => none

/-- What was read of a coloured text: its characters, its spans, and the category at the end. -/
structure Decoded where
  text : List Char
  spans : List Span
  category : Category
  deriving DecidableEq, Repr

/-- The span from `start` to `stop`, or none if it were empty. -/
def Span.between (start stop : Nat) (k : Category) : List Span :=
  if start = stop then [] else [⟨start, stop, k⟩]

/-- What the signs of a coloured text stand for, where a span of category `k` has begun at byte
`start` and goes on at byte `stop`; absent if a number stands for no category. -/
def decodeFrom? (start stop : Nat) (k : Category) : List Sign → Option Decoded
  | [] => some ⟨[], Span.between start stop k, k⟩
  | .char c :: signs =>
    (decodeFrom? start (stop + c.utf8Size) k signs).map fun d => { d with text := c :: d.text }
  | .code n :: signs =>
    (categoryOf? n).bind fun l =>
      if l = k then decodeFrom? start stop k signs
      else (decodeFrom? stop stop l signs).map fun d =>
        { d with spans := Span.between start stop k ++ d.spans }

/-- What the signs of a coloured text stand for. -/
def decode? (signs : List Sign) : Option Decoded := decodeFrom? 0 0 .plain signs

/-- The signs of some runs. -/
def runSigns (runs : List (List Char × Category)) : List Sign :=
  runs.flatMap fun r => paintedSigns r.2.colour r.1

variable {start stop : Nat} {k l : Category}

/-! ### Runs as signs -/

theorem toList_coloured (source : String) :
    (coloured true source).toList =
      (sourceRuns source).flatMap fun r => painted r.2.colour r.1 := by
  rw [coloured, if_pos rfl, String.toList_ofList, ← map_text_highlight, List.flatMap_map]

theorem signs?_runs {runs : List (List Char × Category)} (h : ∀ r ∈ runs, '\x1b' ∉ r.1) :
    signs? (runs.flatMap fun r => painted r.2.colour r.1) = some (runSigns runs) := by
  induction runs with
  | nil => rfl
  | cons r runs ih =>
    obtain ⟨hr, hrest⟩ := List.forall_mem_cons.1 h
    rw [List.flatMap_cons, signs?_painted_append _ hr, ih hrest]
    rfl

theorem balanced_runSigns (runs : List (List Char × Category)) : Balanced (runSigns runs) := by
  induction runs with
  | nil => exact .nil
  | cons r runs ih => exact ih.paintedSigns_append r.2.colour r.1

/-! ### Signs as spans -/

theorem categoryOf?_code {c : Colour} (h : k.colour = some c) : categoryOf? c.code = some k := by
  cases k <;> cases h <;> rfl

theorem decodeFrom?_chars_append (cs : List Char) (signs : List Sign) :
    decodeFrom? start stop k (cs.map .char ++ signs) =
      (decodeFrom? start (stop + byteLength cs) k signs).map fun d =>
        { d with text := cs ++ d.text } := by
  induction cs generalizing stop with
  | nil => simp
  | cons c cs ih =>
    rw [List.map_cons, List.cons_append, decodeFrom?, ih, Option.map_map, byteLength_cons,
      Nat.add_assoc]
    rfl

/-- A number that changes the category ends the span. -/
theorem decodeFrom?_code_cons {n : Nat} (hn : categoryOf? n = some l) (hne : l ≠ k)
    (signs : List Sign) :
    decodeFrom? start stop k (.code n :: signs) =
      (decodeFrom? stop stop l signs).map fun d =>
        { d with spans := Span.between start stop k ++ d.spans } := by
  rw [decodeFrom?, hn, Option.bind_some, if_neg hne]

/-- A run that is not plain is read as a span of its own. -/
theorem decodeFrom?_paintedSigns_append (hk : k ≠ .plain) (cs : List Char) (signs : List Sign) :
    decodeFrom? start stop .plain (paintedSigns k.colour cs ++ signs) =
      (decodeFrom? (stop + byteLength cs) (stop + byteLength cs) .plain signs).map fun d =>
        ⟨cs ++ d.text, Span.between start stop .plain ++
          (Span.between stop (stop + byteLength cs) k ++ d.spans), d.category⟩ := by
  cases hcolour : k.colour with
  | none => exact absurd (Category.colour_injective hcolour) hk
  | some c =>
    have hdefault : categoryOf? defaultForeground = some .plain := rfl
    rw [paintedSigns_some_append, decodeFrom?_code_cons (categoryOf?_code hcolour) hk,
      decodeFrom?_chars_append, decodeFrom?_code_cons hdefault hk.symm, Option.map_map,
      Option.map_map]
    rfl

theorem Span.between_byteLength {cs : List Char} (h : cs ≠ []) :
    Span.between stop (stop + byteLength cs) k = [⟨stop, stop + byteLength cs, k⟩] := by
  obtain ⟨c, cs, rfl⟩ := List.exists_cons_of_ne_nil h
  have hpos := c.utf8Size_pos
  exact if_neg (by rw [byteLength_cons]; omega)

/-- The signs of longest runs are read as the spans of these runs, behind the span that has begun.
This one must be empty where the first run is plain too. -/
theorem decodeFrom?_runSigns (start stop : Nat) {runs : List (List Char × Category)}
    (hne : ∀ r ∈ runs, r.1 ≠ []) (hchain : runs.IsChain fun r r' => r.2 ≠ r'.2)
    (hfirst : start ≠ stop → ∀ r ∈ runs.head?, r.2 ≠ .plain) :
    decodeFrom? start stop .plain (runSigns runs) =
      some ⟨runs.flatMap Prod.fst, Span.between start stop .plain ++ spansOf stop runs,
        .plain⟩ := by
  induction runs generalizing start stop with
  | nil => simp [runSigns, decodeFrom?, spansOf]
  | cons r runs ih =>
    obtain ⟨cs, k⟩ := r
    obtain ⟨hcs, hrest⟩ := List.forall_mem_cons.1 hne
    obtain ⟨hhead, htail⟩ := List.isChain_cons.1 hchain
    rw [runSigns, List.flatMap_cons, ← runSigns]
    by_cases hk : k = .plain
    · -- no number follows a plain run, so its span is still open when the next run begins
      subst hk
      have hempty : start = stop := by
        by_contra hbegun
        exact hfirst hbegun _ rfl rfl
      subst hempty
      have hnext := ih start (start + byteLength cs) hrest htail
        fun _ r' hr' => (hhead r' hr').symm
      have hsigns : paintedSigns Category.plain.colour cs = cs.map .char := rfl
      rw [hsigns, decodeFrom?_chars_append, hnext, Span.between_byteLength hcs]
      simp [Span.between, spansOf]
    · have hnext := ih (stop + byteLength cs) (stop + byteLength cs) hrest htail
        fun hbegun => absurd rfl hbegun
      rw [decodeFrom?_paintedSigns_append hk, hnext, Span.between_byteLength hcs]
      simp [Span.between, spansOf]

theorem not_mem_of_mem_sourceRuns {source : String} {c : Char} (h : c ∉ source.toList)
    {r : List Char × Category} (hr : r ∈ sourceRuns source) : c ∉ r.1 := by
  intro hc
  rw [← flatten_sourceRuns] at h
  exact h (List.mem_flatMap.2 ⟨r, hr, hc⟩)

/-- The coloured form of a source text without escape characters is read back as the source text and
its spans. Every number that sets a colour is taken back before the next one and before the end.
Without colour the text stands as it is. -/
theorem decode?_coloured :
    (∀ source : String, '\x1b' ∉ source.toList →
      ∃ signs, signs? (coloured true source).toList = some signs ∧ Balanced signs ∧
        decode? signs = some ⟨source.toList, highlight source, .plain⟩) ∧
      ∀ source, coloured false source = source := by
  refine ⟨fun source hescape => ⟨runSigns (sourceRuns source), ?_, balanced_runSigns _, ?_⟩,
    fun source => rfl⟩
  · rw [toList_coloured]
    exact signs?_runs fun r hr => not_mem_of_mem_sourceRuns hescape hr
  · have hne : ∀ r ∈ sourceRuns source, r.1 ≠ [] := fun r hr => ne_nil_of_mem_runsOf hr
    have hread := decodeFrom?_runSigns 0 0 hne (isChain_runsOf _) fun hbegun => absurd rfl hbegun
    rw [decode?, hread, flatten_sourceRuns, highlight_eq_spansOf]
    rfl

theorem decode?_coloured_condition :
    '\x1b' ∉ "if($x)1//1".toList ∧
      ∃ signs, signs? (coloured true "if($x)1//1").toList = some signs ∧ Balanced signs ∧
        decode? signs = some ⟨"if($x)1//1".toList, highlight "if($x)1//1", .plain⟩ := by
  have hescape : '\x1b' ∉ "if($x)1//1".toList := by decide
  exact ⟨hescape, decode?_coloured.1 _ hescape⟩

example : coloured true "1//1" = "\x1b[33m1\x1b[39m\x1b[90m//1\x1b[39m" := by decide +kernel

end Highlight

end Scratchpad
