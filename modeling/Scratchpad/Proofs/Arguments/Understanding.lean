import Scratchpad.Arguments.Reading
import Scratchpad.Proofs.Arguments.Spelling
import Scratchpad.Proofs.Text.Pieces

/-!
# Spellings are understood

However an invocation is written down, it is read back as it was meant (`parse_of_spelling`). The
words are read from left to right, and a value is taken over only after its words were met, so the
invariant, `Values.Met`, says what the values hold once what is pending is taken over: the items that
were met so far.
-/

namespace Scratchpad.Arguments

open Scratchpad.Text

variable {l : Level} {vs taken : Values} {items : List Item} {s : Slot} {v : String}
  {w : List Char}

/-! ### How words look -/

theorem shape_of_isBare (h : IsBare v) : shape v.toList = .word := by
  rcases h with rfl | h
  · rfl
  · unfold shape
    split <;> simp_all

theorem shape_long {name : List Char} (hname : '=' ∉ name) (hne : name ≠ []) :
    shape ('-' :: '-' :: name) = .long name none := by
  have hcut : cutAt? '=' name = none := by
    refine Option.eq_none_iff_forall_ne_some.2 fun p hp => hname ?_
    rw [(eq_of_cutAt? hp).1]
    simp
  obtain ⟨c, cs, rfl⟩ := List.exists_cons_of_ne_nil hne
  simp only [shape, hcut]

theorem shape_longEquals {name : List Char} (hname : '=' ∉ name) (value : List Char) :
    shape ('-' :: '-' :: (name ++ '=' :: value)) = .long name (some value) := by
  have hcut : cutAt? '=' (name ++ '=' :: value) = some (name, value) :=
    cutAt?_eq_some_iff.2 ⟨rfl, hname⟩
  obtain ⟨c, cs, hcons⟩ : ∃ c cs, name ++ '=' :: value = c :: cs :=
    List.exists_cons_of_ne_nil (by simp)
  rw [hcons] at hcut ⊢
  simp only [shape, hcut]

theorem shape_short {c : Char} (hc : c ≠ '-') (cs : List Char) :
    shape ('-' :: c :: cs) = .short (c :: cs) := by
  unfold shape
  split <;> simp_all

/-! ### Values by slot -/

namespace Values

/-- What was taken over for a slot. -/
def get (vs : Values) : Slot → Option (List Char)
  | .interpreter => vs.interpreter
  | .code => vs.code
  | .file => vs.file

/-- The values with one more; the path of a file was met before. -/
def put (vs : Values) (s : Slot) (value : List Char) : Values :=
  match s with
  | .interpreter => { vs with interpreter := some value }
  | .code => { vs with code := some value }
  | .file => { vs with file := some value, fileMet := true }

theorem get_put (vs : Values) (s t : Slot) (value : List Char) :
    (vs.put s value).get t = if t = s then some value else vs.get t := by
  cases s <;> cases t <;> rfl

theorem assign_option (hs : s ≠ .file) (hfree : vs.get s = none) {value : List Char}
    (hvalue : s = .interpreter → value ≠ []) : vs.assign s value = .ok (vs.put s value) := by
  cases s with
  | interpreter =>
    have hnone : vs.interpreter = none := hfree
    simp [assign, put, hnone, hvalue rfl]
  | code =>
    have hnone : vs.code = none := hfree
    simp [assign, put, hnone]
  | file => exact absurd rfl hs

theorem assign_file {value : List Char} (hvalue : value ≠ []) :
    { vs with fileMet := true }.assign .file value = .ok (vs.put .file value) := by
  simp [assign, put, hvalue]

/-- The values hold these items, and nothing is pending. -/
structure Has (vs : Values) (items : List Item) : Prop where
  pending : vs.pending = .none
  get : ∀ s v, (vs.get s).map String.ofList = some v ↔ Item.value s v ∈ items
  json : vs.json = true ↔ Item.json ∈ items
  fileMet : vs.fileMet = true ↔ ∃ f, Item.value .file f ∈ items

/-- The values hold these items once the pending one is taken over. -/
structure Met (vs : Values) (items : List Item) : Prop where
  isAwaiting : vs.isAwaiting = false
  settle : ∃ taken, vs.settle = .ok taken ∧ taken.Has items ∧ taken.fileMet = vs.fileMet

theorem has_empty : empty.Has [] := by
  refine ⟨rfl, fun s v => ?_, by simp [empty], by simp [empty]⟩
  cases s <;> simp [empty, Values.get]

theorem Has.met (h : vs.Has items) : vs.Met items := by
  refine ⟨?_, vs, ?_, h, rfl⟩
  · rw [isAwaiting, h.pending]
  · rw [settle, h.pending]

theorem met_empty : empty.Met [] := has_empty.met

/-- No value was taken over for a slot that no item has. -/
theorem Has.get_eq_none (h : vs.Has items) (hs : some s ∉ items.map Item.slot?) :
    vs.get s = none := by
  refine Option.eq_none_iff_forall_ne_some.2 fun value hvalue => hs ?_
  have hmem := (h.get s (String.ofList value)).1 (by rw [hvalue]; rfl)
  exact List.mem_map_of_mem hmem

theorem Has.put (h : vs.Has items) (hs : some s ∉ items.map Item.slot?) :
    (vs.put s v.toList).Has (items ++ [.value s v]) := by
  have hnew : ∀ u, Item.value s u ∉ items := fun u hu => hs (List.mem_map_of_mem hu)
  refine ⟨?_, ?_, ?_, ?_⟩
  · cases s <;> exact h.pending
  · intro t u
    rw [get_put]
    by_cases ht : t = s
    · subst ht
      simp [hnew, eq_comm]
    · rw [if_neg ht, h.get t u]
      simp [ht]
  · have hjson : (vs.put s v.toList).json = vs.json := by cases s <;> rfl
    rw [hjson, h.json]
    simp
  · cases s with
    | file => simp [Values.put]
    | interpreter => simp [Values.put, h.fileMet]
    | code => simp [Values.put, h.fileMet]

theorem Has.switch_json (h : vs.Has items) :
    { vs with json := true }.Has (items ++ [Item.json]) := by
  refine ⟨h.pending, fun s v => ?_, by simp, by simp [h.fileMet]⟩
  have hget : { vs with json := true }.get s = vs.get s := by cases s <;> rfl
  rw [hget, h.get s v]
  simp

/-! ### Taking over -/

/-- An option that comes with its value is taken over at once. -/
theorem give_some (hsettle : vs.settle = .ok taken) (value : List Char) :
    vs.give s (some value) = taken.assign s value := by
  rw [give, hsettle]
  rfl

theorem give_none (hsettle : vs.settle = .ok taken) :
    vs.give s none = .ok { taken with pending := .awaits s } := by
  rw [give, hsettle]
  rfl

/-- What is pending can be taken over if it can be assigned. -/
theorem settle_holds (hpending : vs.pending = .none) (value : List Char) :
    { vs with pending := .holds s value }.settle = vs.assign s value := by
  rw [settle]
  simp only [← hpending]

theorem met_holds {value : List Char} (hpending : vs.pending = .none)
    (hassign : vs.assign s value = .ok taken) (hhas : taken.Has items)
    (hfile : taken.fileMet = vs.fileMet) :
    { vs with pending := .holds s value }.Met items :=
  ⟨rfl, taken, (settle_holds hpending value).trans hassign, hhas, hfile⟩

theorem fileMet_put (hs : s ≠ .file) (value : List Char) :
    (vs.put s value).fileMet = vs.fileMet := by
  cases s with
  | file => exact absurd rfl hs
  | interpreter => rfl
  | code => rfl

end Values

/-! ### Words -/

theorem ofWord?_of_dash (cs : List Char) : Verb.ofWord? ('-' :: cs) = none := by
  simp [Verb.ofWord?, Verb.word]

theorem shape_ne_endOfOptions {cs : List Char} (hcs : cs ≠ ['-']) :
    shape ('-' :: cs) ≠ .endOfOptions := by
  unfold shape
  split <;> simp_all
  split <;> simp

/-- A word that is an option is read, whatever the level. -/
theorem scan_option {cs : List Char} (hcs : cs ≠ ['-']) (ws : List (List Char)) :
    scan l false vs (('-' :: cs) :: ws) = (vs.read l ('-' :: cs)).bind (scan l false · ws) := by
  have hverb : (if l = .top ∧ vs.isAwaiting = false then Verb.ofWord? ('-' :: cs) else none) =
      none := by
    rw [ofWord?_of_dash, ite_self]
  rw [scan, if_neg (by simp), if_neg (by simp [helpWord]), hverb]
  cases hshape : shape ('-' :: cs) with
  | endOfOptions => exact absurd hshape (shape_ne_endOfOptions hcs)
  | long name value => rfl
  | short letters => rfl
  | word => rfl

/-- A word that an option waits for is its value, even if it is the name of a command. -/
theorem scan_awaited (hpending : vs.pending = .awaits s) (hv : IsBare v) (ws : List (List Char)) :
    scan l false vs (v.toList :: ws) =
      scan l false { vs with pending := .holds s v.toList } ws := by
  have hawaiting : vs.isAwaiting = true := by rw [Values.isAwaiting, hpending]
  have hread : vs.read l v.toList = .ok { vs with pending := .holds s v.toList } := by
    rw [Values.read, shape_of_isBare hv, hpending]
  rw [scan, if_neg (by simp), if_neg (by simp [hawaiting]), if_neg (by simp [hawaiting]),
    shape_of_isBare hv, hread]
  rfl

/-- After two dashes no option follows. -/
theorem scan_dashes {verb : Verb} (ws : List (List Char)) :
    scan (.under verb) false vs (['-', '-'] :: ws) = scan (.under verb) true vs ws := by
  rw [scan, if_neg (by simp), if_neg (by simp), if_neg (by simp)]
  rfl

/-- A word behind a command that nothing waits for is the path of its file. -/
theorem scan_file {verb : Verb} (hawaiting : vs.isAwaiting = false) (hv : IsBare v)
    (ws : List (List Char)) :
    scan (.under verb) false vs (v.toList :: ws) =
      (vs.word (.under verb) false v.toList).bind (scan (.under verb) false · ws) := by
  have hread : vs.read (.under verb) v.toList = vs.word (.under verb) false v.toList := by
    rw [Values.read, shape_of_isBare hv]
    cases hpending : vs.pending with
    | awaits s => simp [Values.isAwaiting, hpending] at hawaiting
    | none => rfl
    | holds s value => rfl
  rw [scan, if_neg (by simp), if_neg (by simp), if_neg (by simp), shape_of_isBare hv, hread]
  rfl

theorem read_long {name : List Char} (hname : '=' ∉ name) (hne : name ≠ [])
    (hl : l.long? name = some (.valued s)) : vs.read l ('-' :: '-' :: name) = vs.give s none := by
  rw [Values.read, shape_long hname hne]
  simp only [Values.long, hl]

theorem read_longEquals {name : List Char} (hname : '=' ∉ name)
    (hl : l.long? name = some (.valued s)) (value : List Char) :
    vs.read l ('-' :: '-' :: (name ++ '=' :: value)) = vs.give s (some value) := by
  rw [Values.read, shape_longEquals hname]
  simp only [Values.long, hl]

/-- What stands behind the letter for a snippet is its value, but for one equals sign. -/
theorem read_letter {cs : List Char} {value : Option (List Char)}
    (hcs : (cs = [] ∧ value = none) ∨ (∃ x, cs = '=' :: x ∧ value = some x) ∨
      (cs ≠ [] ∧ cs.head? ≠ some '=' ∧ value = some cs)) :
    vs.read (.under .run) ('-' :: 'e' :: cs) = vs.give .code value := by
  have hshort : Level.short? (.under .run) 'e' = some (.valued .code) := rfl
  rw [Values.read, shape_short (by decide)]
  simp only [Values.short, hshort]
  rcases hcs with ⟨rfl, rfl⟩ | ⟨x, rfl, rfl⟩ | ⟨hne, hhead, rfl⟩
  · rfl
  · rfl
  · split
    · exact absurd rfl hne
    · simp at hhead
    · rfl

theorem read_json (hsettle : vs.settle = .ok taken) (hl : l.hasJson = true)
    (hjson : taken.json = false) :
    vs.read l "--json".toList = .ok { taken with json := true } := by
  have hlong : l.long? "json".toList = some (.switch .json) := by
    cases l with
    | top => simp [Level.hasJson] at hl
    | under verb => cases verb <;> first | rfl | simp [Level.hasJson] at hl
  have hshape : shape "--json".toList = .long "json".toList none := rfl
  rw [Values.read, hshape]
  simp only [Values.long, hlong, Values.switch, hsettle]
  simp [hjson, bind, Except.bind]

theorem word_eq {verb : Verb} {afterDashes : Bool} (hsettle : vs.settle = .ok taken)
    (hl : (Level.under verb).takesFile = true) (hfile : vs.fileMet = false) :
    vs.word (.under verb) afterDashes w =
      .ok { taken with fileMet := true, pending := .holds .file w } := by
  simp [Values.word, hl, hfile, hsettle, bind, Except.bind]

/-! ### Items -/

/-- An item can stand on a level: the level has the option, and a path is not empty. -/
def Item.Fits (l : Level) : Item → Prop
  | value .interpreter p => p ≠ ""
  | value .code _ => l = .under .run
  | value .file f => l.takesFile = true ∧ f ≠ ""
  | json => l.hasJson = true

namespace Values

/-- An option that was not met yet can be given its value. -/
theorem Met.exists_assign (h : vs.Met items) (hfresh : some s ∉ items.map Item.slot?)
    (hs : s ≠ .file) (hv : s = .interpreter → v ≠ "") :
    ∃ taken : Values, vs.settle = .ok taken ∧ taken.pending = .none ∧
      taken.assign s v.toList = .ok (taken.put s v.toList) ∧
      (taken.put s v.toList).Has (items ++ [.value s v]) := by
  obtain ⟨taken, hsettle, hhas, -⟩ := h.settle
  exact ⟨taken, hsettle, hhas.pending,
    assign_option hs (hhas.get_eq_none hfresh) (by simpa using hv), hhas.put hfresh⟩

/-- An option that has its value in the same word. -/
theorem Met.attached (h : vs.Met items) (hfresh : some s ∉ items.map Item.slot?) (hs : s ≠ .file)
    (hv : s = .interpreter → v ≠ "") {cs : List Char} {word : String} (hcs : cs ≠ ['-'])
    (hread : vs.read l ('-' :: cs) = vs.give s (some v.toList)) (hword : word.toList = '-' :: cs) :
    ∃ vs' : Values, vs'.Met (items ++ [.value s v]) ∧
      ∀ rest, scan l false vs ([word].map String.toList ++ rest) = scan l false vs' rest := by
  obtain ⟨taken, hsettle, -, hassign, hput⟩ := h.exists_assign hfresh hs hv
  refine ⟨_, hput.met, fun rest => ?_⟩
  rw [List.map_singleton, List.singleton_append, hword, scan_option hcs, hread,
    give_some hsettle, hassign]
  rfl

/-- An option that has its value in the next word. -/
theorem Met.apart (h : vs.Met items) (hfresh : some s ∉ items.map Item.slot?) (hs : s ≠ .file)
    (hv : s = .interpreter → v ≠ "") (hbare : IsBare v) {cs : List Char}
    (hcs : cs ≠ ['-']) (hread : vs.read l ('-' :: cs) = vs.give s none) :
    ∃ vs' : Values, vs'.Met (items ++ [.value s v]) ∧
      ∀ rest, scan l false vs (('-' :: cs) :: v.toList :: rest) = scan l false vs' rest := by
  obtain ⟨taken, hsettle, hpending, hassign, hput⟩ := h.exists_assign hfresh hs hv
  refine ⟨_, met_holds hpending hassign hput (fileMet_put hs _), fun rest => ?_⟩
  rw [scan_option hcs, hread, give_none hsettle]
  exact scan_awaited rfl hbare rest

theorem Has.fileMet_eq_false (h : taken.Has items) (hfresh : some .file ∉ items.map Item.slot?) :
    taken.fileMet = false := by
  refine Bool.eq_false_iff.2 fun hmet => hfresh ?_
  obtain ⟨f, hf⟩ := h.fileMet.1 hmet
  exact List.mem_map_of_mem hf

/-- The path of a file, wherever it stands. -/
theorem Met.word {verb : Verb} (h : vs.Met items) (hfresh : some .file ∉ items.map Item.slot?)
    (hl : (Level.under verb).takesFile = true) (hv : v ≠ "") (afterDashes : Bool) :
    ∃ vs' : Values, vs'.Met (items ++ [.value .file v]) ∧
      vs.word (.under verb) afterDashes v.toList = .ok vs' := by
  obtain ⟨taken, hsettle, hhas, hfile⟩ := h.settle
  have hunmet : vs.fileMet = false := hfile ▸ hhas.fileMet_eq_false hfresh
  have hassign : { taken with fileMet := true }.assign .file v.toList =
      .ok (taken.put .file v.toList) := assign_file (by simpa using hv)
  refine ⟨{ taken with fileMet := true, pending := .holds .file v.toList }, ?_,
    word_eq hsettle hl hunmet⟩
  exact @met_holds { taken with fileMet := true } _ _ _ _ hhas.pending hassign
    (hhas.put hfresh) rfl

theorem Met.json (h : vs.Met items) (hfresh : none ∉ items.map Item.slot?)
    (hl : l.hasJson = true) :
    ∃ vs' : Values, vs'.Met (items ++ [.json]) ∧
      ∀ rest, scan l false vs ("--json".toList :: rest) = scan l false vs' rest := by
  obtain ⟨taken, hsettle, hhas, -⟩ := h.settle
  have hjson : taken.json = false := by
    refine Bool.eq_false_iff.2 fun htrue => hfresh ?_
    exact List.mem_map_of_mem (hhas.json.1 htrue)
  refine ⟨_, hhas.switch_json.met, fun rest => ?_⟩
  have hread := read_json hsettle hl hjson
  have hword : "--json".toList = '-' :: '-' :: "json".toList := rfl
  rw [hword] at hread ⊢
  rw [scan_option (by simp), hread]
  rfl

/-- The words of an item are read as it was meant. -/
theorem Met.item (h : vs.Met items) {item : Item} {ws : List String} (hspells : Spells item ws)
    (hfits : item.Fits l) (hfresh : item.slot? ∉ items.map Item.slot?) :
    ∃ vs' : Values, vs'.Met (items ++ [item]) ∧
      ∀ rest, scan l false vs (ws.map String.toList ++ rest) = scan l false vs' rest := by
  have hinterpreter : l.long? "interpreter".toList = some (.valued .interpreter) := rfl
  have heval : Level.long? (.under .run) "eval".toList = some (.valued .code) := rfl
  cases hspells with
  | interpreter bare =>
    exact h.apart hfresh (by decide) (fun _ => hfits) bare (by decide)
      (read_long (by decide) (by decide) hinterpreter)
  | interpreterAttached p =>
    exact h.attached hfresh (by decide) (fun _ => hfits) (by simp)
      (read_longEquals (by decide) hinterpreter p.toList) String.toList_append
  | eval bare =>
    obtain rfl : l = .under .run := hfits
    exact h.apart hfresh (by decide) (by simp) bare (by decide)
      (read_long (by decide) (by decide) heval)
  | evalAttached x =>
    obtain rfl : l = .under .run := hfits
    exact h.attached hfresh (by decide) (by simp) (by simp)
      (read_longEquals (by decide) heval x.toList) String.toList_append
  | letter bare =>
    obtain rfl : l = .under .run := hfits
    exact h.apart hfresh (by decide) (by simp) bare (by decide) (read_letter (.inl ⟨rfl, rfl⟩))
  | letterEquals x =>
    obtain rfl : l = .under .run := hfits
    exact h.attached hfresh (by decide) (by simp) (by simp)
      (read_letter (.inr (.inl ⟨x.toList, rfl, rfl⟩))) String.toList_append
  | @letterAttached x nonempty noEquals =>
    obtain rfl : l = .under .run := hfits
    have hne : x.toList ≠ [] := by simpa using nonempty
    exact h.attached hfresh (by decide) (by simp) (by simp)
      (read_letter (.inr (.inr ⟨hne, noEquals, rfl⟩))) String.toList_append
  | json => exact h.json hfresh hfits
  | @file f bare =>
    obtain ⟨htakes, hne⟩ := hfits
    cases l with
    | top => simp [Level.takesFile] at htakes
    | under verb =>
      obtain ⟨vs', hmet, hword⟩ := h.word hfresh htakes hne false
      refine ⟨vs', hmet, fun rest => ?_⟩
      simp only [List.map_cons, List.map_nil, List.cons_append, List.nil_append]
      rw [scan_file h.isAwaiting bare, hword]
      rfl

/-- What some items are written with is read one item after the other. -/
theorem Met.order (h : vs.Met items) {order : List Item} {ws : List String}
    (hspelt : SpellsAll order ws) (hfits : ∀ item ∈ order, item.Fits l)
    (hnodup : ((items ++ order).map Item.slot?).Nodup) :
    ∃ vs' : Values, vs'.Met (items ++ order) ∧
      ∀ rest, scan l false vs (ws.map String.toList ++ rest) = scan l false vs' rest := by
  induction hspelt generalizing vs items with
  | nil => exact ⟨vs, by simpa using h, fun rest => rfl⟩
  | @cons item order ws ws' first rest ih =>
    have hsplit : items ++ item :: order = (items ++ [item]) ++ order := by simp
    -- no two items share a slot, so nothing was met for this one yet
    have hfresh : item.slot? ∉ items.map Item.slot? := by
      rw [List.map_append, List.map_cons] at hnodup
      exact fun hmem => (List.nodup_append.1 hnodup).2.2 _ hmem _ List.mem_cons_self rfl
    obtain ⟨vs₁, hmet₁, hscan₁⟩ := h.item first (hfits item List.mem_cons_self) hfresh
    obtain ⟨vs₂, hmet₂, hscan₂⟩ :=
      ih hmet₁ (fun i hi => hfits i (List.mem_cons_of_mem _ hi)) (hsplit ▸ hnodup)
    refine ⟨vs₂, hsplit ▸ hmet₂, fun tail => ?_⟩
    rw [List.map_append, List.append_assoc, hscan₁, hscan₂]

theorem Has.congr {items' : List Item} (h : vs.Has items)
    (hmem : ∀ item, item ∈ items ↔ item ∈ items') : vs.Has items' :=
  ⟨h.pending, fun s v => (h.get s v).trans (hmem _), h.json.trans (hmem _),
    h.fileMet.trans (exists_congr fun _ => hmem _)⟩

theorem Met.congr {items' : List Item} (h : vs.Met items)
    (hmem : ∀ item, item ∈ items ↔ item ∈ items') : vs.Met items' := by
  obtain ⟨taken, hsettle, hhas, hfile⟩ := h.settle
  exact ⟨h.isAwaiting, taken, hsettle, hhas.congr hmem, hfile⟩

end Values

/-- The words behind a command are read as they were meant, and no words are left. -/
theorem exists_scan_under {verb : Verb} {ws : List String} (hspelt : SpellsSome items ws)
    (hfits : ∀ item ∈ items, item.Fits (.under verb))
    (hnodup : (items.map Item.slot?).Nodup) :
    ∃ vs : Values, vs.Met items ∧
      scan (.under verb) false .empty (ws.map String.toList) = .ok (vs, none) := by
  cases hspelt with
  | @inline order ws perm spelt =>
    have hnodup' : (([] ++ order).map Item.slot?).Nodup := (perm.map _).nodup_iff.2 hnodup
    obtain ⟨vs, hmet, hscan⟩ :=
      Values.met_empty.order spelt (fun i hi => hfits i (perm.mem_iff.1 hi)) hnodup'
    refine ⟨vs, hmet.congr fun _ => perm.mem_iff, ?_⟩
    have hend := hscan []
    rw [List.append_nil] at hend
    exact hend
  | @dashed order ws f perm spelt =>
    have hnodup' := (perm.map Item.slot?).nodup_iff.2 hnodup
    have hfits' : ∀ item ∈ order ++ [Item.value .file f], item.Fits (.under verb) :=
      fun i hi => hfits i (perm.mem_iff.1 hi)
    obtain ⟨hordered, hfile⟩ := List.forall_mem_append.1 hfits'
    obtain ⟨htakes, hne⟩ := hfile _ List.mem_cons_self
    rw [List.map_append, List.nodup_append] at hnodup'
    obtain ⟨vs, hmet, hscan⟩ := Values.met_empty.order spelt hordered hnodup'.1
    -- the file behind the dashes is the only one: a second word would be refused
    have hfresh : some .file ∉ (([] : List Item) ++ order).map Item.slot? :=
      fun hmem => hnodup'.2.2 _ hmem _ List.mem_cons_self rfl
    obtain ⟨vs', hmet', hword⟩ := hmet.word hfresh htakes hne true
    refine ⟨vs', hmet'.congr fun _ => perm.mem_iff, ?_⟩
    have hlast : scan (.under verb) true vs [f.toList] = .ok (vs', none) := by
      rw [scan, if_pos rfl, hword]
      rfl
    rw [List.map_append, hscan]
    exact (scan_dashes _).trans hlast

/-! ### Commands -/

open Invocation

variable {c : Command} {interpreter : Option String} {ws : List String}

theorem fits_interpreterItems (h : interpreter ≠ some "") :
    ∀ item ∈ interpreterItems interpreter, item.Fits l := by
  intro item hitem
  obtain ⟨p, hp, rfl⟩ := List.mem_map.1 hitem
  have hsome : interpreter = some p := Option.mem_toList.1 hp
  exact fun hempty => h (hempty ▸ hsome)

theorem fits_items (hc : c.IsSound) : ∀ item ∈ c.items, item.Fits (.under c.verb) := by
  have hfile : ∀ f, c.value? .file = some f →
      (Level.under c.verb).takesFile = true ∧ f ≠ "" := by
    intro f hf
    refine ⟨?_, fun hempty => hc.file (hempty ▸ hf)⟩
    cases c with
    | which => simp [Command.value?] at hf
    | _ => rfl
  have hcode : ∀ x, c.value? .code = some x → c.verb = .run := by
    intro x hx
    cases c with
    | run options => rfl
    | _ => simp [Command.value?] at hx
  have hjson : c.wantsJson = true → (Level.under c.verb).hasJson = true := by
    intro hwants
    cases c with
    | run options => rfl
    | highlight file json => rfl
    | _ => simp [Command.wantsJson] at hwants
  intro item hitem
  have hmem : item ∈ interpreterItems none ++ c.items := hitem
  cases item with
  | json => exact hjson (json_mem_iff.1 hmem)
  | value s v =>
    cases s with
    | interpreter => exact absurd (interpreter_mem_iff.1 hmem) (by simp)
    | code => exact congrArg Level.under (hcode v ((value_mem_iff (by decide)).1 hmem))
    | file => exact hfile v ((value_mem_iff (by decide)).1 hmem)

/-- Values that hold what a command says are understood as this command. -/
theorem command_eq (hc : c.IsSound) (hfile : taken.file.map String.ofList = c.value? .file)
    (hcode : taken.code.map String.ofList = c.value? .code) (hjson : taken.json = c.wantsJson) :
    taken.command c.verb = .ok c := by
  cases c with
  | edit file =>
    have hpath : taken.file.map String.ofList = file := hfile
    simp only [Command.verb, Values.command, hpath]
  | which => rfl
  | highlight file json =>
    have hwants : taken.json = json := hjson
    obtain ⟨f, hf, rfl⟩ := Option.map_eq_some_iff.1 hfile
    simp only [Command.verb, Values.command, hf, hwants]
  | run options =>
    obtain ⟨file, code, json⟩ := options
    have hone : file.isSome = true ↔ code.isSome = false := hc.one _ rfl
    have hpath : taken.file.map String.ofList = file := hfile
    have hsnippet : taken.code.map String.ofList = code := hcode
    have hwants : taken.json = json := hjson
    rw [← hpath, ← hsnippet, Option.isSome_map, Option.isSome_map] at hone
    simp only [Command.verb, Values.command, hpath, hsnippet, hwants]
    -- exactly one of the two is there, so neither fault is met
    cases hf : taken.file <;> cases hx : taken.code <;> simp [hf, hx] at hone ⊢

theorem Values.Has.map_get (h : taken.Has items) {o : Option String}
    (ho : ∀ v, Item.value s v ∈ items ↔ o = some v) : (taken.get s).map String.ofList = o :=
  Option.ext fun v => (h.get s v).trans (ho v)

/-- The words behind a command are understood as this command, and as the interpreter that they
name. -/
theorem exists_readCommand_eq (hc : c.IsSound) (hinterpreter : interpreter ≠ some "")
    (hspelt : SpellsSome (interpreterItems interpreter ++ c.items) ws) :
    ∃ inner, readCommand c.verb (ws.map String.toList) = .ok (c, inner) ∧
      inner.map String.ofList = interpreter := by
  have hfits := List.forall_mem_append.2 ⟨fits_interpreterItems hinterpreter, fits_items hc⟩
  obtain ⟨vs, hmet, hscan⟩ := exists_scan_under hspelt hfits (nodup_items interpreter c)
  obtain ⟨taken, hsettle, hhas, -⟩ := hmet.settle
  have hfile : (taken.get .file).map String.ofList = c.value? .file :=
    hhas.map_get fun v => value_mem_iff (by decide)
  have hcode : (taken.get .code).map String.ofList = c.value? .code :=
    hhas.map_get fun v => value_mem_iff (by decide)
  have hjson : taken.json = c.wantsJson := Bool.eq_iff_iff.2 (hhas.json.trans json_mem_iff)
  have htaken : (taken.get .interpreter).map String.ofList = interpreter :=
    hhas.map_get fun v => interpreter_mem_iff
  have hcommand : taken.command c.verb = .ok c := command_eq hc hfile hcode hjson
  refine ⟨taken.interpreter, ?_, htaken⟩
  simp [readCommand, hscan, hsettle, hcommand, bind, Except.bind]

theorem exists_scan_top (hinterpreter : interpreter ≠ some "")
    (hspelt : SpellsAll (interpreterItems interpreter) ws) :
    ∃ vs taken : Values, vs.isAwaiting = false ∧ vs.settle = .ok taken ∧
      taken.interpreter.map String.ofList = interpreter ∧
      ∀ rest, scan .top false .empty (ws.map String.toList ++ rest) = scan .top false vs rest := by
  have hnodup : (([] ++ interpreterItems interpreter).map Item.slot?).Nodup := by
    cases interpreter <;> simp [interpreterItems]
  obtain ⟨vs, hmet, hscan⟩ :=
    Values.met_empty.order hspelt (fits_interpreterItems hinterpreter) hnodup
  obtain ⟨taken, hsettle, hhas, -⟩ := hmet.settle
  have htaken : (taken.get .interpreter).map String.ofList = interpreter :=
    hhas.map_get fun v => by simp [interpreterItems]
  exact ⟨vs, taken, hmet.isAwaiting, hsettle, htaken, hscan⟩

theorem scan_command (hawaiting : vs.isAwaiting = false) (verb : Verb) (ws : List (List Char)) :
    scan .top false vs (verb.word :: ws) = .ok (vs, some (verb, ws)) := by
  have hhelp : verb.word ≠ helpWord := by cases verb <;> decide
  rw [scan, if_neg (by simp), if_neg (by simp [hhelp]), if_pos ⟨rfl, hawaiting⟩,
    Verb.ofWord?_word]

/-- However an invocation that makes sense is written down, it is understood as it was meant: the
interpreter before the command or behind it, what belongs to the command in any order, every value
in any of its forms, and the file as a word of its own or behind two dashes. There always is a way to
write it down. -/
theorem parse_of_spelling (i : Invocation) (hi : i.IsSound) :
    (∃ args, Spelling i args) ∧ ∀ args, Spelling i args → parse args = .ok i := by
  refine ⟨exists_spelling i, fun args hargs => ?_⟩
  rw [parse, readWords]
  cases hargs with
  | bare spelt =>
    obtain ⟨vs, taken, -, hsettle, htaken, hscan⟩ := exists_scan_top hi.interpreter spelt
    have hend := hscan []
    rw [List.append_nil] at hend
    rw [hend]
    simp [scan, hsettle, htaken, bind, Except.bind]
  | @before interpreter c ws ws' spelt own =>
    obtain ⟨vs, taken, hawaiting, hsettle, htaken, hscan⟩ := exists_scan_top hi.interpreter spelt
    have hnone : (none : Option String) ≠ some "" := by simp
    obtain ⟨inner, hread, hinner⟩ := exists_readCommand_eq (hi.command c rfl) hnone own
    obtain rfl := Option.map_eq_none_iff.1 hinner
    rw [List.map_append, hscan, List.map_cons, Command.word, String.toList_ofList,
      scan_command hawaiting]
    simp [hread, hsettle, htaken, bind, Except.bind]
  | @after p c ws own =>
    obtain ⟨inner, hread, hinner⟩ := exists_readCommand_eq (hi.command c rfl) hi.interpreter own
    -- the interpreter named behind the command is taken, and none was named before it
    obtain ⟨cs, rfl, hcs⟩ := Option.map_eq_some_iff.1 hinner
    have hempty : Values.empty.settle = .ok .empty := rfl
    rw [List.map_cons, Command.word, String.toList_ofList, scan_command rfl]
    simp [hread, hcs, hempty, bind, Except.bind]

/-- A snippet and an interpreter that look like options, both named behind the command. -/
theorem parse_of_spelling_run :
    let i : Invocation := ⟨some "--json", some (.run ⟨none, some "=x", true⟩)⟩
    i.IsSound ∧ Spelling i ["run", "--json", "-e==x", "--interpreter=--json"] ∧
      parse ["run", "--json", "-e==x", "--interpreter=--json"] = .ok i := by
  intro i
  have hsound : i.IsSound := by
    refine ⟨by decide, fun c hc => ?_⟩
    obtain rfl := Option.some.inj hc
    refine ⟨by decide, fun options hoptions => ?_⟩
    obtain rfl := Command.run.inj hoptions
    decide
  have hspelt : SpellsAll [.json, .value .code "=x", .value .interpreter "--json"]
      ["--json", "-e==x", "--interpreter=--json"] :=
    .cons .json (.cons (.letterEquals "=x") (.cons (.interpreterAttached "--json") .nil))
  have horder : [Item.json, .value .code "=x", .value .interpreter "--json"].Perm
      [.value .interpreter "--json", .value .code "=x", .json] := by decide
  have hspelling : Spelling i ["run", "--json", "-e==x", "--interpreter=--json"] :=
    .after (.inline horder hspelt)
  exact ⟨hsound, hspelling, (parse_of_spelling i hsound).2 _ hspelling⟩

end Scratchpad.Arguments
