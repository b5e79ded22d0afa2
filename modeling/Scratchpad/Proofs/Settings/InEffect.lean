import Scratchpad.Proofs.Table.Last
import Scratchpad.Proofs.Text.Pieces
import Scratchpad.Settings.Layers

/-!
# Which value is in effect

`InEffect file env key value?` says, without tables, which value three layers give a key: that of
the last variable with this name, if the name is one of a setting; else what the last line of the
file that assigns the key assigns to it; else the default, if there is one. `Assigns` says when a
line assigns a value to a key. The main statement, `get?_ofSources_eq_iff`, is that looking a key up
finds just this, and that nothing else in the file or the environment counts.
-/

namespace Scratchpad.Settings

open Scratchpad.Text

/-- A line assigns `value` to `key`: without the blanks at its ends it is neither empty nor a
comment, and its first equals sign stands between the two, each with any blanks at its ends. -/
def Assigns (key value : String) (line : List Char) : Prop :=
  trim line ≠ [] ∧ (trim line).head? ≠ some '#' ∧
    ∃ before after, trim line = before ++ '=' :: after ∧ '=' ∉ before ∧
      trim before = key.toList ∧ trim after = value.toList

/-- A line assigns something to `key`. -/
def AssignsSome (key : String) (line : List Char) : Prop := ∃ value, Assigns key value line

/-- The lines of a settings file, of which there are none if it is missing. -/
def fileLines (file : Option String) : List (List Char) :=
  (file.map fun text => lines text.toList).getD []

/-- No variable sets `key`: it is not named like a setting, or no variable has its name. -/
def IsUnset (key : String) (env : Environment) : Prop :=
  variableStart <+: key.toList → ∀ v ∈ env, v.1 ≠ key

/-- The value that a settings file and an environment give a key, over the defaults. -/
inductive InEffect (file : Option String) (env : Environment) (key : String) :
    Option String → Prop where
  /-- The last variable with the name of the key gives its value as it is. -/
  | fromVariable {value : String} (setting : variableStart <+: key.toList)
      (last : IsLast (fun v => v.1 = key) env (key, value)) : InEffect file env key (some value)
  /-- The last line that assigns the key gives its value. -/
  | fromFile {value : String} {line : List Char} (unset : IsUnset key env)
      (last : IsLast (AssignsSome key) (fileLines file) line) (assigns : Assigns key value line) :
      InEffect file env key (some value)
  /-- Nothing else gives the key a value. -/
  | fromDefaults (unset : IsUnset key env)
      (unassigned : ∀ line ∈ fileLines file, ¬ AssignsSome key line) :
      InEffect file env key (defaults.get? key)

/-! ### Lines -/

variable {key value : String} {line : List Char}

theorem assignment?_eq_some_iff :
    assignment? line = some (key.toList, value.toList) ↔ Assigns key value line := by
  have hmap : (cutAt? '=' (trim line)).map (fun p => (trim p.1, trim p.2)) =
        some (key.toList, value.toList) ↔
      ∃ before after, trim line = before ++ '=' :: after ∧ '=' ∉ before ∧
        trim before = key.toList ∧ trim after = value.toList := by
    simp only [Option.map_eq_some_iff, Prod.exists, cutAt?_eq_some_iff, Prod.mk.injEq, and_assoc]
  simp only [assignment?, Assigns]
  by_cases hcomment : (trim line).head? = some '#'
  · simp [hcomment]
  · rw [if_neg hcomment, hmap]
    constructor
    · rintro ⟨before, after, heq, hrest⟩
      exact ⟨by simp [heq], hcomment, before, after, heq, hrest⟩
    · exact fun h => h.2.2

/-- The assignment of a line, as texts. -/
def lineAssignment? (line : List Char) : Option (String × String) :=
  (assignment? line).map fun p => (String.ofList p.1, String.ofList p.2)

theorem lineAssignment?_eq_some_iff :
    lineAssignment? line = some (key, value) ↔ Assigns key value line := by
  rw [← assignment?_eq_some_iff, lineAssignment?, Option.map_eq_some_iff]
  constructor
  · rintro ⟨⟨k, v⟩, hline, hkv⟩
    obtain ⟨rfl, rfl⟩ := Prod.mk.inj hkv
    simpa using hline
  · exact fun hline => ⟨_, hline, by simp⟩

instance (key : String) : DecidablePred (AssignsSome key) := fun line =>
  decidable_of_iff ((lineAssignment? line).map Prod.fst = some key) (by
    simp [AssignsSome, ← lineAssignment?_eq_some_iff])

theorem Assigns.unique {value' : String} (h : Assigns key value line)
    (h' : Assigns key value' line) : value = value' := by
  rw [← lineAssignment?_eq_some_iff] at h h'
  exact (Prod.mk.inj (Option.some.inj (h.symm.trans h'))).2

/-! ### Layers -/

variable {file file' : Option String} {env env' : Environment}

theorem assignments_eq (file : Option String) :
    (file.map fun f => assignments f.toList).getD [] =
      (fileLines file).filterMap lineAssignment? := by
  cases file with
  | none => rfl
  | some text => rfl

theorem isLast_assignments (last : IsLast (AssignsSome key) (fileLines file) line)
    (assigns : Assigns key value line) :
    IsLast (fun a => a.1 = key) ((fileLines file).filterMap lineAssignment?) (key, value) := by
  refine last.filterMap (lineAssignment?_eq_some_iff.2 assigns) rfl ?_
  rintro line' ⟨key', value'⟩ hline rfl
  exact ⟨value', lineAssignment?_eq_some_iff.1 hline⟩

theorem ne_of_mem_assignments (unassigned : ∀ line ∈ fileLines file, ¬ AssignsSome key line) :
    ∀ a ∈ (fileLines file).filterMap lineAssignment?, a.1 ≠ key := by
  rintro ⟨key', value'⟩ ha rfl
  obtain ⟨line, hline, heq⟩ := List.mem_filterMap.1 ha
  exact unassigned line hline ⟨value', lineAssignment?_eq_some_iff.1 heq⟩

theorem isVariable_iff : isVariable key = true ↔ variableStart <+: key.toList :=
  List.isPrefixOf_iff_prefix

theorem IsUnset.ne_of_mem_filter (unset : IsUnset key env) :
    ∀ v ∈ env.filter fun v => isVariable v.1, v.1 ≠ key := by
  rintro v hv rfl
  obtain ⟨hmem, hsetting⟩ := List.mem_filter.1 hv
  exact unset (isVariable_iff.1 hsetting) v hmem rfl

/-- Looking a key up finds the value that is in effect. -/
theorem InEffect.get?_eq {found : Option String} (h : InEffect file env key found)
    (path : String) : (ofSources path file env).get? key = found := by
  rw [get?, ofSources, assignments_eq]
  cases h with
  | fromVariable setting last =>
    exact Table.get?_putAll_of_isLast (last.filter (isVariable_iff.2 setting)) _
  | fromFile unset last assigns =>
    rw [Table.get?_putAll_of_forall_ne unset.ne_of_mem_filter]
    exact Table.get?_putAll_of_isLast (isLast_assignments last assigns) _
  | fromDefaults unset unassigned =>
    rw [Table.get?_putAll_of_forall_ne unset.ne_of_mem_filter]
    exact Table.get?_putAll_of_forall_ne (ne_of_mem_assignments unassigned) _

theorem isLast_variable_or_isUnset (key : String) (env : Environment) :
    (variableStart <+: key.toList ∧ ∃ value, IsLast (fun v => v.1 = key) env (key, value)) ∨
      IsUnset key env := by
  by_cases hsetting : variableStart <+: key.toList
  · rcases IsLast.exists_or_forall_not (fun v : String × String => v.1 = key) env with
      ⟨⟨name, value⟩, hlast⟩ | hnone
    · obtain rfl : name = key := hlast.holds
      exact .inl ⟨hsetting, value, hlast⟩
    · exact .inr fun _ => hnone
  · exact .inr fun h => absurd h hsetting

/-- Some value is in effect, or the absence of one. -/
theorem exists_inEffect (file : Option String) (env : Environment) (key : String) :
    ∃ found, InEffect file env key found := by
  rcases isLast_variable_or_isUnset key env with ⟨hsetting, value, hlast⟩ | hunset
  · exact ⟨_, .fromVariable hsetting hlast⟩
  · rcases IsLast.exists_or_forall_not (AssignsSome key) (fileLines file) with ⟨line, hlast⟩ | hnone
    · obtain ⟨value, hvalue⟩ := hlast.holds
      exact ⟨_, .fromFile hunset hlast hvalue⟩
    · exact ⟨_, .fromDefaults hunset hnone⟩

/-! ### What counts for a key -/

/-- Two files and two environments agree about a key: the same lines assign it, in the same order,
and so for the variables with its name, if they are settings at all. -/
structure AgreeOn (key : String) (file file' : Option String) (env env' : Environment) : Prop where
  lines : (fileLines file).filter (AssignsSome key) = (fileLines file').filter (AssignsSome key)
  environment : variableStart <+: key.toList →
    (env.filter fun v => v.1 = key) = env'.filter fun v => v.1 = key

theorem AgreeOn.isUnset (h : AgreeOn key file file' env env') (unset : IsUnset key env) :
    IsUnset key env' := by
  intro hsetting
  have hnone : (env.filter fun v => v.1 = key) = [] := by simpa using unset hsetting
  rw [h.environment hsetting] at hnone
  simpa using hnone

theorem AgreeOn.inEffect {found : Option String} (h : AgreeOn key file file' env env')
    (heffect : InEffect file env key found) : InEffect file' env' key found := by
  cases heffect with
  | fromVariable setting last =>
    exact .fromVariable setting ((IsLast.congr_filter (h.environment setting)).1 last)
  | fromFile unset last assigns =>
    exact .fromFile (h.isUnset unset) ((IsLast.congr_filter h.lines).1 last) assigns
  | fromDefaults unset unassigned =>
    have hnone : (fileLines file).filter (AssignsSome key) = [] := by simpa using unassigned
    rw [h.lines] at hnone
    exact .fromDefaults (h.isUnset unset) (by simpa using hnone)

/-- Looking a key up finds the value that is in effect, and only that: the last variable with its
name, unless the name is none of a setting, else the last line that assigns it, else the default.
Lines that do not assign the key and variables with other names can come and go, and stand anywhere
between the others. -/
theorem get?_ofSources_eq_iff (path : String) (file : Option String) (env : Environment)
    (key : String) :
    (∀ found, (ofSources path file env).get? key = found ↔ InEffect file env key found) ∧
      ∀ path' file' env', AgreeOn key file file' env env' →
        (ofSources path' file' env').get? key = (ofSources path file env).get? key := by
  obtain ⟨found, hfound⟩ := exists_inEffect file env key
  have hget := hfound.get?_eq path
  refine ⟨fun found' => ⟨?_, fun h => h.get?_eq path⟩, ?_⟩
  · intro hget'
    rwa [← hget'.symm.trans hget] at hfound
  · intro path' file' env' hagree
    rw [hget]
    exact (hagree.inEffect hfound).get?_eq path'

end Scratchpad.Settings
