import Scratchpad.Arguments.Invocation
import Scratchpad.Arguments.Level

/-!
# Spellings of a command line

One and the same invocation can be written in many ways. `Spells` relates a part of an invocation, an
`Item`, to the words that may stand for it, and `Spelling` says where these words may stand: the
interpreter before the command or after it, and what belongs to the command behind it in any order,
with the file at the end if it stands behind two dashes.

Every invocation that makes sense has a spelling (`exists_spelling`), also if its values begin with
dashes.
-/

namespace Scratchpad.Arguments

/-- A part of an invocation: the value of an option or the path of a file, or the wish for JSON. -/
inductive Item where
  | value (s : Slot) (v : String)
  | json
  deriving DecidableEq, Repr

/-- What an item gives a value to; JSON has no value. -/
def Item.slot? : Item → Option Slot
  | value s _ => some s
  | json => none

/-- A word that is taken for a value where it stands by itself: a dash, or a word that does not begin
with one. -/
def IsBare (w : String) : Prop := w = "-" ∨ w.toList.head? ≠ some '-'

/-- The words that stand for an item. -/
inductive Spells : Item → List String → Prop where
  | interpreter {p : String} (bare : IsBare p) :
      Spells (.value .interpreter p) ["--interpreter", p]
  | interpreterAttached (p : String) : Spells (.value .interpreter p) ["--interpreter=" ++ p]
  | eval {x : String} (bare : IsBare x) : Spells (.value .code x) ["--eval", x]
  | evalAttached (x : String) : Spells (.value .code x) ["--eval=" ++ x]
  | letter {x : String} (bare : IsBare x) : Spells (.value .code x) ["-e", x]
  | letterEquals (x : String) : Spells (.value .code x) ["-e=" ++ x]
  | letterAttached {x : String} (nonempty : x ≠ "") (noEquals : x.toList.head? ≠ some '=') :
      Spells (.value .code x) ["-e" ++ x]
  | json : Spells .json ["--json"]
  | file {f : String} (bare : IsBare f) : Spells (.value .file f) [f]

/-- The words that stand for some items, one after the other. -/
inductive SpellsAll : List Item → List String → Prop where
  | nil : SpellsAll [] []
  | cons {item : Item} {items : List Item} {ws ws' : List String} (first : Spells item ws)
      (rest : SpellsAll items ws') : SpellsAll (item :: items) (ws ++ ws')

/-- The words that stand for some items in any order. A file may also come last, behind two dashes;
then it may be any word. -/
inductive SpellsSome (items : List Item) : List String → Prop where
  | inline {order : List Item} {ws : List String} (perm : order.Perm items)
      (spelt : SpellsAll order ws) : SpellsSome items ws
  | dashed {order : List Item} {ws : List String} {f : String}
      (perm : (order ++ [Item.value .file f]).Perm items) (spelt : SpellsAll order ws) :
      SpellsSome items (ws ++ ["--", f])

namespace Command

/-- The name of a command. -/
def verb : Command → Verb
  | edit _ => .edit
  | run _ => .run
  | highlight _ _ => .highlight
  | which => .which

/-- The word for a command. -/
def word (c : Command) : String := String.ofList c.verb.word

/-- What a command says for a slot. -/
def value? : Command → Slot → Option String
  | edit file, .file => file
  | run options, .file => options.file
  | run options, .code => options.code
  | highlight file _, .file => some file
  | _, _ => none

/-- Whether a command asks for JSON. -/
def wantsJson : Command → Bool
  | run options => options.json
  | highlight _ json => json
  | _ => false

/-- What has to be written for a command. -/
def items (c : Command) : List Item :=
  (c.value? .file).toList.map (Item.value .file) ++
    ((c.value? .code).toList.map (Item.value .code) ++ if c.wantsJson then [Item.json] else [])

/-- A command makes sense: its path is not empty, and `run` has one thing to run. -/
structure IsSound (c : Command) : Prop where
  file : c.value? .file ≠ some ""
  one : ∀ options, c = run options → (options.file.isSome = true ↔ options.code.isSome = false)

end Command

namespace Invocation

/-- What has to be written to prefer an interpreter. -/
def interpreterItems (interpreter : Option String) : List Item :=
  interpreter.toList.map (.value .interpreter)

/-- An invocation makes sense: so does its command, and its path is not empty. -/
structure IsSound (i : Invocation) : Prop where
  interpreter : i.interpreter ≠ some ""
  command : ∀ c, i.command = some c → c.IsSound

end Invocation

open Invocation

/-- The words that stand for an invocation, in which nothing is repeated. -/
inductive Spelling : Invocation → List String → Prop where
  | bare {interpreter : Option String} {ws : List String}
      (spelt : SpellsAll (interpreterItems interpreter) ws) : Spelling ⟨interpreter, none⟩ ws
  | before {interpreter : Option String} {c : Command} {ws ws' : List String}
      (spelt : SpellsAll (interpreterItems interpreter) ws) (own : SpellsSome c.items ws') :
      Spelling ⟨interpreter, some c⟩ (ws ++ c.word :: ws')
  | after {p : String} {c : Command} {ws : List String}
      (own : SpellsSome (.value .interpreter p :: c.items) ws) :
      Spelling ⟨some p, some c⟩ (c.word :: ws)

/-! ### What has to be written -/

section

variable {interpreter : Option String} {c : Command}

theorem interpreter_mem_iff {v : String} :
    Item.value .interpreter v ∈ interpreterItems interpreter ++ c.items ↔ interpreter = some v := by
  simp [interpreterItems, Command.items]

theorem value_mem_iff {s : Slot} (hs : s ≠ .interpreter) {v : String} :
    Item.value s v ∈ interpreterItems interpreter ++ c.items ↔ c.value? s = some v := by
  cases s with
  | interpreter => exact absurd rfl hs
  | code => simp [interpreterItems, Command.items]
  | file => simp [interpreterItems, Command.items]

theorem json_mem_iff :
    Item.json ∈ interpreterItems interpreter ++ c.items ↔ c.wantsJson = true := by
  simp [interpreterItems, Command.items]

/-- Nothing has to be written twice. -/
theorem nodup_items (interpreter : Option String) (c : Command) :
    ((interpreterItems interpreter ++ c.items).map Item.slot?).Nodup := by
  rw [interpreterItems, Command.items]
  cases interpreter <;> cases c.value? .file <;> cases c.value? .code <;> cases c.wantsJson <;>
    simp [Item.slot?]

end

/-! ### Existence -/

theorem spellsAll_singleton {item : Item} {ws : List String} (h : Spells item ws) :
    SpellsAll [item] ws := by
  simpa using SpellsAll.cons h .nil

theorem exists_spellsAll_interpreter (interpreter : Option String) :
    ∃ ws, SpellsAll (interpreterItems interpreter) ws := by
  cases interpreter with
  | none => exact ⟨_, .nil⟩
  | some p => exact ⟨_, spellsAll_singleton (.interpreterAttached p)⟩

theorem exists_spellsSome_items (c : Command) : ∃ ws, SpellsSome c.items ws := by
  have hjson : ∃ ws, SpellsAll (if c.wantsJson then [Item.json] else []) ws := by
    cases c.wantsJson with
    | false => exact ⟨_, .nil⟩
    | true => exact ⟨_, spellsAll_singleton .json⟩
  obtain ⟨ws, hws⟩ := hjson
  have hcode : ∃ ws, SpellsAll ((c.value? .code).toList.map (Item.value .code) ++
      if c.wantsJson then [Item.json] else []) ws := by
    cases c.value? .code with
    | none => exact ⟨ws, hws⟩
    | some x => exact ⟨_, .cons (.evalAttached x) hws⟩
  obtain ⟨ws', hws'⟩ := hcode
  rw [Command.items]
  -- the path of a file may be any word, so it goes behind two dashes
  cases c.value? .file with
  | none => exact ⟨ws', .inline (.refl _) hws'⟩
  | some f => exact ⟨_, .dashed List.perm_append_comm hws'⟩

/-- Every invocation can be written down. -/
theorem exists_spelling (i : Invocation) : ∃ args, Spelling i args := by
  obtain ⟨interpreter, command⟩ := i
  obtain ⟨ws, hws⟩ := exists_spellsAll_interpreter interpreter
  cases command with
  | none => exact ⟨ws, .bare hws⟩
  | some c =>
    obtain ⟨ws', hws'⟩ := exists_spellsSome_items c
    exact ⟨_, .before hws hws'⟩

end Scratchpad.Arguments
