import Scratchpad.Command.Script

/-!
# What is left of a script

`Strips source snippet` says without a search what is left of a script. If it begins with an open
tag, behind blanks and with a blank or the end of the text behind it, this is the text from the next
character on that is not blank; if not, it is the script as it stands, blanks in front included. By
`stripOpenTag_eq_iff` taking the tag off does just that. `Supplies` says under which path a text can
be read, and the main statement, `snippetOf_strips`, puts both together: a script is read alike from
a file and from the standard input.
-/

namespace Scratchpad

open Scratchpad.Text

namespace Php

/-- A script begins with blanks and an open tag, and `rest` comes behind it. -/
structure IsTagged (source rest : List Char) : Prop where
  exists_blanks : ∃ blanks, allBlank blanks = true ∧ source = blanks ++ openTag ++ rest
  ends : ∀ c ∈ rest.head?, isBlank c = true

/-- What is left of a script when one open tag is taken off. -/
inductive Strips (source : List Char) : (snippet : List Char) → Prop where
  | tagged {gap snippet : List Char} (tag : IsTagged source (gap ++ snippet))
      (blank : allBlank gap = true) (starts : ∀ c ∈ snippet.head?, isBlank c = false) :
      Strips source snippet
  /-- No open tag stands at the front. -/
  | untagged (bare : ∀ rest, ¬ IsTagged source rest) : Strips source source

theorem trimStart_append {blanks rest : List Char} (h : allBlank blanks = true)
    (hrest : ∀ c ∈ rest.head?, isBlank c = false) : trimStart (blanks ++ rest) = rest := by
  rw [trimStart, List.dropWhile_append_of_pos (List.all_eq_true.1 h)]
  cases rest with
  | nil => rfl
  | cons c rest => simp [hrest c rfl]

theorem exists_trimStart (cs : List Char) :
    ∃ blanks, allBlank blanks = true ∧ cs = blanks ++ trimStart cs ∧
      ∀ c ∈ (trimStart cs).head?, isBlank c = false := by
  refine ⟨cs.takeWhile isBlank, List.all_takeWhile, List.takeWhile_append_dropWhile.symm, ?_⟩
  intro c hc
  have hstop := List.head?_dropWhile_not isBlank cs
  rw [trimStart] at hc
  rw [hc] at hstop
  exact hstop

/-- The first character of an open tag is not blank. -/
theorem head?_openTag_append (rest : List Char) :
    ∀ c ∈ (openTag ++ rest).head?, isBlank c = false := by
  intro c hc
  obtain rfl : '<' = c := Option.some.inj hc
  decide

theorem afterOpenTag?_eq_some_iff {cs rest : List Char} :
    afterOpenTag? cs = some rest ↔
      cs = openTag ++ rest ∧ ∀ c ∈ rest.head?, isBlank c = true := by
  unfold afterOpenTag?
  constructor
  · intro h
    split at h
    · next hprefix =>
      obtain ⟨tail, rfl⟩ := List.isPrefixOf_iff_prefix.1 hprefix
      rw [List.drop_left] at h
      cases tail with
      | nil =>
        obtain rfl := Option.some.inj h
        exact ⟨rfl, nofun⟩
      | cons c tail =>
        cases hc : isBlank c with
        | false => simp [hc] at h
        | true =>
          obtain rfl : c :: tail = rest := by simpa [hc] using h
          refine ⟨rfl, ?_⟩
          intro d hd
          rwa [← Option.some.inj hd]
    · exact absurd h nofun
  · rintro ⟨rfl, hends⟩
    rw [if_pos (List.isPrefixOf_iff_prefix.2 (List.prefix_append _ _)), List.drop_left]
    cases rest with
    | nil => rfl
    | cons c rest => simp [hends c rfl]

theorem isTagged_iff {source rest : List Char} :
    IsTagged source rest ↔ afterOpenTag? (trimStart source) = some rest := by
  rw [afterOpenTag?_eq_some_iff]
  constructor
  · rintro ⟨⟨blanks, hblanks, rfl⟩, hends⟩
    rw [List.append_assoc, trimStart_append hblanks (head?_openTag_append rest)]
    exact ⟨rfl, hends⟩
  · rintro ⟨htag, hends⟩
    obtain ⟨blanks, hblanks, hsource, -⟩ := exists_trimStart source
    rw [htag, ← List.append_assoc] at hsource
    exact ⟨⟨blanks, hblanks, hsource⟩, hends⟩

theorem stripOpenTag_of_isTagged {source rest : List Char} (h : IsTagged source rest) :
    stripOpenTag source = trimStart rest := by
  rw [stripOpenTag, isTagged_iff.1 h]

theorem stripOpenTag_of_bare {source : List Char} (h : ∀ rest, ¬ IsTagged source rest) :
    stripOpenTag source = source := by
  rw [stripOpenTag]
  split
  · next rest hrest => exact absurd (isTagged_iff.2 hrest) (h rest)
  · rfl

/-- Taking off an open tag leaves what is left of a script, and nothing else. -/
theorem stripOpenTag_eq_iff {source snippet : List Char} :
    stripOpenTag source = snippet ↔ Strips source snippet := by
  constructor
  · rintro rfl
    by_cases h : ∃ rest, IsTagged source rest
    · obtain ⟨rest, htag⟩ := h
      obtain ⟨gap, hgap, hrest, hstarts⟩ := exists_trimStart rest
      rw [stripOpenTag_of_isTagged htag]
      rw [hrest] at htag
      exact .tagged htag hgap hstarts
    · have hbare : ∀ rest, ¬ IsTagged source rest := fun rest htag => h ⟨rest, htag⟩
      rw [stripOpenTag_of_bare hbare]
      exact .untagged hbare
  · intro h
    cases h with
    | tagged tag blank starts =>
      rw [stripOpenTag_of_isTagged tag]
      exact trimStart_append blank starts
    | untagged bare => exact stripOpenTag_of_bare bare

theorem Strips.isSuffix {source snippet : List Char} (h : Strips source snippet) :
    snippet <:+ source := by
  cases h with
  | @tagged gap _ tag blank starts =>
    obtain ⟨blanks, -, hsource⟩ := tag.exists_blanks
    rw [← List.append_assoc] at hsource
    exact ⟨_, hsource.symm⟩
  | untagged bare => exact List.suffix_rfl

/-- Behind the first tag, blanks are all that is lost, so every further tag is kept. -/
theorem Strips.exists_kept {source snippet front back : List Char} (h : Strips source snippet)
    (htag : IsTagged source (front ++ openTag ++ back)) :
    ∃ front', snippet = front' ++ openTag ++ back := by
  rw [← stripOpenTag_eq_iff, stripOpenTag_of_isTagged htag] at h
  obtain ⟨gap, hgap, heq, -⟩ := exists_trimStart (front ++ openTag ++ back)
  rw [h, List.append_assoc] at heq
  rcases List.append_eq_append_iff.1 heq with ⟨cs, hcs, htail⟩ | ⟨front', -, hsnippet⟩
  · cases cs with
    | nil => exact ⟨[], by simpa using htail.symm⟩
    | cons c cs =>
      -- the tag would begin inside the blanks
      obtain ⟨rfl, -⟩ := List.cons.inj htail
      have hblank := List.all_eq_true.1 hgap '<' (by simp [hcs])
      exact absurd hblank (by decide)
  · exact ⟨front', by rw [hsnippet, List.append_assoc]⟩

end Php

namespace Command

variable {σ : Type} {host : Host σ} {s : σ} {path text : String}

/-- Under a path a text can be read: it comes from the standard input for a dash, and from a file
else. -/
inductive Supplies (host : Host σ) (s : σ) (path text : String) : Prop where
  | input (dash : Path.same path.toList standardInputPath = true)
      (holds : host.inputText s = .ok text)
  | file (other : Path.same path.toList standardInputPath = false)
      (entry : host.hasEntry s path = true) (file : host.hasFile s path = true)
      (holds : host.readText s path = .ok text)

theorem Supplies.readScript_eq (h : Supplies host s path text) :
    readScript host path s = .ok (Php.snippetOf text) := by
  cases h with
  | input dash holds => rw [readScript, if_pos dash, holds]
  | file other entry file holds =>
    rw [readScript, if_neg (by simp [other]), if_neg (by simp [entry]), if_neg (by simp [file]),
      holds]

/-- What is read as a script is some text without its open tag. -/
theorem exists_supplies {snippet : String} (h : readScript host path s = .ok snippet) :
    ∃ text, Supplies host s path text ∧ snippet = Php.snippetOf text := by
  unfold readScript at h
  split at h
  · next dash =>
    split at h
    · next text holds => exact ⟨text, .input dash holds, (Except.ok.inj h).symm⟩
    · exact absurd h nofun
  · next other =>
    split at h
    · exact absurd h nofun
    · next entry =>
      split at h
      · exact absurd h nofun
      · next file =>
        split at h
        · next text holds =>
          refine ⟨text, .file ?_ ?_ ?_ holds, (Except.ok.inj h).symm⟩
          · simpa using other
          · simpa using entry
          · simpa using file
        · exact absurd h nofun

theorem readScript_eq_ok_iff {snippet : String} :
    readScript host path s = .ok snippet ↔
      ∃ text, Supplies host s path text ∧ snippet = Php.snippetOf text := by
  constructor
  · exact exists_supplies
  · rintro ⟨text, hsupplies, rfl⟩
    exact hsupplies.readScript_eq

/-- A file holds the same bytes as the standard input. -/
structure HoldsInput (host : Host σ) (s : σ) (path : String) : Prop where
  other : Path.same path.toList standardInputPath = false
  entry : host.hasEntry s path = true
  file : host.hasFile s path = true
  bytes : host.read s path = .ok (host.standardInput s)

theorem HoldsInput.supplies_iff (h : HoldsInput host s path) :
    Supplies host s path text ↔ Supplies host s "-" text := by
  have hdash : Path.same "-".toList standardInputPath = true := Path.same_self _
  have hread : host.readText s path = host.inputText s := by
    rw [Host.readText, h.bytes]
    rfl
  constructor
  · rintro (⟨dash, -⟩ | ⟨-, -, -, holds⟩)
    · rw [h.other] at dash
      cases dash
    · exact .input hdash (hread ▸ holds)
  · rintro (⟨-, holds⟩ | ⟨other, -⟩)
    · exact .file h.other h.entry h.file (hread ▸ holds)
    · rw [hdash] at other
      cases other

end Command

namespace Php

open Scratchpad.Command

/-- One open tag is taken off a script, with the blanks around it, and a script that begins with none
is left as it is. What is left is an end of the script, with every further tag that comes behind the
first one. Reading a script does this and no more, be it a file or the standard input with the same
bytes. -/
theorem snippetOf_strips :
    (∀ (source : String) (snippet : List Char),
      (snippetOf source).toList = snippet ↔ Strips source.toList snippet) ∧
      (∀ source, (snippetOf source).toList <:+ source.toList) ∧
      (∀ (source : String) (front back : List Char),
        IsTagged source.toList (front ++ openTag ++ back) →
          ∃ front', (snippetOf source).toList = front' ++ openTag ++ back) ∧
      (∀ {σ : Type} (host : Host σ) (s : σ) (path snippet : String),
        readScript host path s = .ok snippet ↔
          ∃ text, Supplies host s path text ∧ snippet = snippetOf text) ∧
      ∀ {σ : Type} (host : Host σ) (s : σ) (file snippet : String), HoldsInput host s file →
        (readScript host file s = .ok snippet ↔ readScript host "-" s = .ok snippet) := by
  have hstrips : ∀ (source : String) (snippet : List Char),
      (snippetOf source).toList = snippet ↔ Strips source.toList snippet := by
    intro source snippet
    rw [snippetOf, String.toList_ofList]
    exact stripOpenTag_eq_iff
  refine ⟨hstrips, ?_, ?_, ?_, ?_⟩
  · intro source
    exact ((hstrips source _).1 rfl).isSuffix
  · intro source front back htag
    exact ((hstrips source _).1 rfl).exists_kept htag
  · intro σ host s path snippet
    exact readScript_eq_ok_iff
  · intro σ host s file snippet hfile
    rw [readScript_eq_ok_iff, readScript_eq_ok_iff]
    simp only [hfile.supplies_iff]

/-- A host with one script, which is its standard input too. -/
def taggedTwice : Host Unit where
  hasEntry _ path := path == "a.php"
  hasFile _ path := path == "a.php"
  read _ _ := .ok (encode " <?php\n <?php 1;".toList)
  standardInput _ := encode " <?php\n <?php 1;".toList
  launch _ _ _ := (.notStarted "", ())
  makeDirectory _ _ := (none, ())
  makeFile _ _ := .ok ()

theorem snippetOf_strips_taggedTwice :
    IsTagged " <?php\n <?php 1;".toList ("\n ".toList ++ openTag ++ " 1;".toList) ∧
      HoldsInput taggedTwice () "a.php" ∧
      (∃ front', (snippetOf " <?php\n <?php 1;").toList = front' ++ openTag ++ " 1;".toList) ∧
      readScript taggedTwice "-" () = .ok "<?php 1;" ∧
      readScript taggedTwice "a.php" () = .ok "<?php 1;" := by
  have htag : IsTagged " <?php\n <?php 1;".toList ("\n ".toList ++ openTag ++ " 1;".toList) := by
    refine ⟨⟨[' '], by decide, by decide⟩, ?_⟩
    rintro c ⟨⟩
    decide
  have hfile : HoldsInput taggedTwice () "a.php" := ⟨by decide, rfl, rfl, rfl⟩
  have hinput : taggedTwice.inputText () = .ok " <?php\n <?php 1;" := by
    have hdecode : decode? (encode " <?php\n <?php 1;".toList) = some " <?php\n <?php 1;".toList := by
      decide +kernel
    rw [Host.inputText, Host.textOf, taggedTwice, hdecode]
    simp only [String.ofList_toList]
  obtain ⟨-, -, hkept, hread, hsame⟩ := snippetOf_strips
  have hdash : readScript taggedTwice "-" () = .ok "<?php 1;" :=
    (hread taggedTwice () "-" _).2 ⟨_, .input (by decide) hinput, by decide +kernel⟩
  exact ⟨htag, hfile, hkept _ _ _ htag, hdash, (hsame taggedTwice () _ _ hfile).2 hdash⟩

/-- A longer word is no open tag, and the blanks before it stay. -/
example : snippetOf " <?phpx" = " <?phpx" := by decide +kernel

end Php

end Scratchpad
