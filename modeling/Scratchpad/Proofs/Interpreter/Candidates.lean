import Scratchpad.Interpreter.Candidates
import Scratchpad.Proofs.Settings.InEffect

/-!
# The order of the candidates

The interpreter paths of the settings are the parts of one value between its colons. Which parts a
text has between colons is determined by how they join (`BetweenColons`), so paths that are joined
with colons in a variable come back as they were (`candidates_of_joined`).
-/

namespace Scratchpad.Interpreter

open Scratchpad.Text Scratchpad.Settings

/-- Some parts without colons that, joined with colons, are a text. -/
structure BetweenColons (parts : List (List Char)) (text : List Char) : Prop where
  ne_nil : parts ≠ []
  free : ∀ p ∈ parts, ':' ∉ p
  joined : [':'].intercalate parts = text

/-- The value of the settings that lists interpreter paths. -/
def pathsValue (s : Settings) : String := (s.get? interpreterPathsKey).getD ""

variable {parts : List (List Char)} {text : List Char}

theorem BetweenColons.splitOn_eq (h : BetweenColons parts text) : text.splitOn ':' = parts := by
  rw [← h.joined]
  exact List.splitOn_intercalate ':' h.free h.ne_nil

theorem betweenColons_splitOn (text : List Char) : BetweenColons (text.splitOn ':') text where
  ne_nil := List.splitOn_ne_nil ':' text
  free := fun _ hp => not_mem_of_mem_splitOn hp
  joined := List.intercalate_splitOn ':'

theorem isEmpty_ofList (cs : List Char) : (String.ofList cs).isEmpty = cs.isEmpty := by
  cases cs with
  | nil => rfl
  | cons c cs => simp [String.isEmpty_eq_false_iff]

/-- The candidates: the path from the command line, then the parts between the colons of the
settings' value, both unless empty, then the built-in paths. -/
theorem candidates_eq (s : Settings) (override : Option String)
    (h : BetweenColons parts (pathsValue s).toList) :
    candidates s override =
      (override.toList.filter fun p => !p.isEmpty) ++
        ((parts.filter fun p => !p.isEmpty).map String.ofList ++ builtIn) := by
  have hpaths : s.interpreterPaths = (parts.filter fun p => !p.isEmpty).map String.ofList := by
    rw [interpreterPaths, ← pathsValue, h.splitOn_eq]
  have hkept : (s.interpreterPaths.filter fun p => !p.isEmpty) = s.interpreterPaths := by
    rw [List.filter_eq_self, hpaths]
    intro p hp
    obtain ⟨cs, hcs, rfl⟩ := List.mem_map.1 hp
    rw [isEmpty_ofList]
    exact (List.mem_filter.1 hcs).2
  rw [candidates, preferring, preferring, hkept, hpaths]

theorem map_ofList_filter_of_ne_empty {paths : List String} (h : ∀ p ∈ paths, p ≠ "") :
    ((paths.map String.toList).filter fun p => !p.isEmpty).map String.ofList = paths := by
  have hfilter : ((paths.map String.toList).filter fun p => !p.isEmpty) =
      paths.map String.toList := by
    rw [List.filter_eq_self]
    simpa using h
  rw [hfilter, List.map_map]
  simp [Function.comp_def]

/-- Paths that are neither empty nor hold a colon come back unchanged and in order from the variable
in which they were joined. -/
theorem candidates_of_joined (path : String) (file : Option String) {env : Environment}
    {paths : List String} (override : Option String) (h : ∀ p ∈ paths, p ≠ "" ∧ ':' ∉ p.toList)
    (last : IsLast (fun v => v.1 = interpreterPathsKey) env
      (interpreterPathsKey, ":".intercalate paths)) :
    candidates (ofSources path file env) override =
      (override.toList.filter fun p => !p.isEmpty) ++ (paths ++ builtIn) := by
  have hsetting : variableStart <+: interpreterPathsKey.toList := by decide
  have hget : pathsValue (ofSources path file env) = ":".intercalate paths := by
    rw [pathsValue, (InEffect.fromVariable hsetting last).get?_eq]
    rfl
  cases paths with
  | nil =>
    have hparts : BetweenColons [[]] (pathsValue (ofSources path file env)).toList :=
      ⟨by simp, by simp, by rw [hget]; rfl⟩
    rw [candidates_eq _ override hparts]
    rfl
  | cons p ps =>
    have hparts : BetweenColons ((p :: ps).map String.toList)
        (pathsValue (ofSources path file env)).toList := by
      refine ⟨by simp, ?_, ?_⟩
      · intro part hpart
        obtain ⟨q, hq, rfl⟩ := List.mem_map.1 hpart
        exact (h q hq).2
      · rw [hget, String.toList_intercalate]
        rfl
    rw [candidates_eq _ override hparts, map_ofList_filter_of_ne_empty fun p hp => (h p hp).1]

end Scratchpad.Interpreter
