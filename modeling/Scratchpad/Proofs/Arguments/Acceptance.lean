import Scratchpad.Arguments.Reading
import Scratchpad.Proofs.Arguments.Spelling

/-!
# What is understood makes sense

Whatever words a command line consists of, an invocation that is read from them is sound
(`isSound_of_parse`): its paths are not empty, and `run` has one thing to run. A path is checked
where it is taken over, and this may be long after its word was met, so the invariant of reading is
about what was taken over and not about what is pending.
-/

namespace Scratchpad.Arguments

variable {l : Level} {vs vs' : Values} {s : Slot} {w : List Char}

/-- What succeeds as a whole succeeds step by step. -/
theorem exists_of_bind_eq_ok {α β : Type} {x : Except Reply α} {f : α → Except Reply β} {b : β}
    (h : (x >>= f) = .ok b) : ∃ a, x = .ok a ∧ f a = .ok b := by
  cases x with
  | error r => cases h
  | ok a => exact ⟨a, rfl, h⟩

namespace Values

/-- No path that was taken over is empty. -/
structure NoEmptyPath (vs : Values) : Prop where
  interpreter : vs.interpreter ≠ some []
  file : vs.file ≠ some []

theorem noEmptyPath_empty : empty.NoEmptyPath := ⟨by simp [empty], by simp [empty]⟩

/-! ### What a step keeps -/

theorem NoEmptyPath.assign (h : vs.NoEmptyPath) {value : List Char}
    (hok : vs.assign s value = .ok vs') : vs'.NoEmptyPath := by
  unfold Values.assign at hok
  cases s with
  | interpreter =>
    simp only at hok
    split at hok
    · cases hok
    · split at hok
      · cases hok
      · next hvalue =>
        cases hok
        exact ⟨by simpa using hvalue, h.file⟩
  | code =>
    simp only at hok
    split at hok
    · cases hok
    · cases hok
      exact ⟨h.interpreter, h.file⟩
  | file =>
    simp only at hok
    split at hok
    · cases hok
    · next hvalue =>
      cases hok
      exact ⟨h.interpreter, by simpa using hvalue⟩

theorem NoEmptyPath.settle (h : vs.NoEmptyPath) (hok : vs.settle = .ok vs') : vs'.NoEmptyPath := by
  unfold Values.settle at hok
  split at hok
  · cases hok
    exact h
  · cases hok
  · have hunsettled : { vs with pending := .none }.NoEmptyPath := ⟨h.interpreter, h.file⟩
    exact hunsettled.assign hok

theorem NoEmptyPath.give (h : vs.NoEmptyPath) {attached : Option (List Char)}
    (hok : vs.give s attached = .ok vs') : vs'.NoEmptyPath := by
  obtain ⟨taken, hsettle, hok⟩ := exists_of_bind_eq_ok hok
  have htaken := h.settle hsettle
  cases attached with
  | none =>
    cases hok
    exact ⟨htaken.interpreter, htaken.file⟩
  | some value => exact htaken.assign hok

theorem NoEmptyPath.switch (h : vs.NoEmptyPath) {switch : Switch}
    (hok : vs.switch switch = .ok vs') : vs'.NoEmptyPath := by
  obtain ⟨taken, hsettle, hok⟩ := exists_of_bind_eq_ok hok
  have htaken := h.settle hsettle
  cases switch with
  | help => cases hok
  | version => cases hok
  | json =>
    simp only at hok
    split at hok
    · cases hok
    · cases hok
      exact ⟨htaken.interpreter, htaken.file⟩

theorem NoEmptyPath.long (h : vs.NoEmptyPath) {name : List Char} {value : Option (List Char)}
    (hok : vs.long l name value = .ok vs') : vs'.NoEmptyPath := by
  unfold Values.long at hok
  split at hok
  · cases hok
  · exact h.give hok
  · split at hok
    · cases hok
    · exact h.switch hok

/-- Switches may come before a letter that takes the rest for its value. -/
theorem NoEmptyPath.short (h : vs.NoEmptyPath) {letters : List Char}
    (hok : vs.short l letters = .ok vs') : vs'.NoEmptyPath := by
  induction letters generalizing vs with
  | nil =>
    cases hok
    exact h
  | cons c cs ih =>
    unfold Values.short at hok
    split at hok
    · cases hok
    · obtain ⟨switched, hswitch, hok⟩ := exists_of_bind_eq_ok hok
      exact ih (h.switch hswitch) hok
    · split at hok
      · exact h.give hok
      · exact h.give hok
      · exact h.give hok

theorem NoEmptyPath.word (h : vs.NoEmptyPath) {afterDashes : Bool}
    (hok : vs.word l afterDashes w = .ok vs') : vs'.NoEmptyPath := by
  unfold Values.word at hok
  split at hok
  · split at hok <;> cases hok
  · split at hok
    · obtain ⟨taken, hsettle, hok⟩ := exists_of_bind_eq_ok hok
      cases hok
      have htaken := h.settle hsettle
      exact ⟨htaken.interpreter, htaken.file⟩
    · cases hok

theorem NoEmptyPath.read (h : vs.NoEmptyPath) (hok : vs.read l w = .ok vs') : vs'.NoEmptyPath := by
  unfold Values.read at hok
  split at hok
  · exact h.long hok
  · exact h.short hok
  · split at hok
    · cases hok
      exact ⟨h.interpreter, h.file⟩
    · exact h.word hok

end Values

/-! ### Levels and command lines -/

theorem Values.NoEmptyPath.scan (h : vs.NoEmptyPath) {afterDashes : Bool} {ws : List (List Char)}
    {rest : Option (Verb × List (List Char))}
    (hok : Arguments.scan l afterDashes vs ws = .ok (vs', rest)) : vs'.NoEmptyPath := by
  induction ws generalizing vs afterDashes with
  | nil =>
    cases hok
    exact h
  | cons w ws ih =>
    unfold Arguments.scan at hok
    split at hok
    · obtain ⟨next, hword, hok⟩ := exists_of_bind_eq_ok hok
      exact ih (h.word hword) hok
    · split at hok
      · cases hok
      · split at hok
        · cases hok
          exact h
        · split at hok
          · exact ih h hok
          · obtain ⟨next, hread, hok⟩ := exists_of_bind_eq_ok hok
            exact ih (h.read hread) hok

theorem map_ofList_ne_some_empty {o : Option (List Char)} (h : o ≠ some []) :
    o.map String.ofList ≠ some "" := by
  cases o with
  | none => simp
  | some cs => simpa using h

/-- A command that is put together from values with paths makes sense. -/
theorem Values.NoEmptyPath.isSound (h : vs.NoEmptyPath) {verb : Verb} {c : Command}
    (hok : vs.command verb = .ok c) : c.IsSound := by
  have hfile := map_ofList_ne_some_empty h.file
  unfold Values.command at hok
  cases verb with
  | edit =>
    cases hok
    exact ⟨hfile, by simp⟩
  | which =>
    cases hok
    exact ⟨by simp [Command.value?], by simp⟩
  | highlight =>
    simp only at hok
    split at hok
    · next file hsome =>
      cases hok
      rw [hsome] at hfile
      exact ⟨hfile, by simp⟩
    · cases hok
  | run =>
    simp only at hok
    split at hok
    · cases hok
    · next hconflict =>
      split at hok
      · cases hok
      · next hmissing =>
        cases hok
        refine ⟨hfile, fun options hoptions => ?_⟩
        obtain rfl := Command.run.inj hoptions
        rw [Option.isSome_map, Option.isSome_map]
        cases hf : vs.file <;> cases hc : vs.code <;> simp [hf, hc] at hconflict hmissing ⊢

theorem isSound_of_readCommand {verb : Verb} {ws : List (List Char)} {c : Command}
    {inner : Option (List Char)} (hok : readCommand verb ws = .ok (c, inner)) :
    c.IsSound ∧ inner ≠ some [] := by
  obtain ⟨⟨vs, rest⟩, hscan, hok⟩ := exists_of_bind_eq_ok hok
  obtain ⟨taken, hsettle, hok⟩ := exists_of_bind_eq_ok hok
  obtain ⟨c', hcommand, hok⟩ := exists_of_bind_eq_ok hok
  have htaken := (Values.noEmptyPath_empty.scan hscan).settle hsettle
  cases hok
  exact ⟨htaken.isSound hcommand, htaken.interpreter⟩

/-- Every invocation that is read from a command line makes sense. -/
theorem isSound_of_parse {arguments : List String} {i : Invocation}
    (hok : parse arguments = .ok i) : i.IsSound := by
  obtain ⟨⟨top, rest⟩, hscan, hok⟩ := exists_of_bind_eq_ok hok
  have htop := Values.noEmptyPath_empty.scan hscan
  cases rest with
  | none =>
    obtain ⟨taken, hsettle, hok⟩ := exists_of_bind_eq_ok hok
    cases hok
    exact ⟨map_ofList_ne_some_empty (htop.settle hsettle).interpreter, by simp⟩
  | some command =>
    obtain ⟨verb, ws⟩ := command
    obtain ⟨⟨c, inner⟩, hread, hok⟩ := exists_of_bind_eq_ok hok
    obtain ⟨taken, hsettle, hok⟩ := exists_of_bind_eq_ok hok
    obtain ⟨hsound, hinner⟩ := isSound_of_readCommand hread
    cases hok
    refine ⟨map_ofList_ne_some_empty ?_, fun c' hc => ?_⟩
    · -- the interpreter behind the command wins, if one is named there
      cases inner with
      | none => exact (htop.settle hsettle).interpreter
      | some p => exact hinner
    · obtain rfl := Option.some.inj hc
      exact hsound

end Scratchpad.Arguments
