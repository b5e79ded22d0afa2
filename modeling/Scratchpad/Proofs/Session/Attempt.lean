import Scratchpad.Proofs.Session.Unedited

/-!
# Attempts to run a text

An attempt is accepted if a run may start: none is under way, an interpreter was found, and the text
holds more than white space (`Session.Admits`). Else it is refused, and a refusal touches the status
line only: a run under way goes on, and a result that is shown stays where it is. The keys that run
the text make such an attempt, unless the help covers it.

The main statement, `answersAttempts_operateAll`, is about every session that can come about.
-/

namespace Scratchpad

open Scratchpad.Execution Scratchpad.Interpreter Scratchpad.Text

namespace Text

theorem allBlank_eq_false_iff {cs : List Char} :
    allBlank cs = false ↔ ∃ c ∈ cs, isBlank c = false := by
  simp [allBlank]

end Text

/-- A key that runs the text: R with the control key, or F5. -/
def KeyPress.Runs (k : KeyPress) : Prop := k = ⟨.char 'r', true⟩ ∨ k.key = .function 5

namespace Session

/-- A run may start. -/
structure Admits (s : Session) : Prop where
  idle : s.isExecuting = false
  ready : s.discovery = .ready
  visible : ∃ c ∈ s.editor.text, isBlank c = false

variable {s : Session} {k : KeyPress} {service : Service}

/-! ### Both answers -/

theorem isBlank_editor_eq_false_iff :
    s.editor.isBlank = false ↔ ∃ c ∈ s.editor.text, isBlank c = false := by
  rw [Editor.isBlank_eq, allBlank_eq_false_iff]

theorem Admits.beginExecution_eq (h : s.Admits) (hservice : s.service = some service) :
    s.beginExecution =
      ({ s with isExecuting := true, result := none, scroll := 0, status := .executing },
        some (service, String.ofList s.editor.text)) := by
  have hfound : s.readyService? = some service := by rw [readyService?, if_pos h.ready, hservice]
  have hshown : s.editor.isBlank = false := isBlank_editor_eq_false_iff.2 h.visible
  rw [beginExecution, if_neg (by simp [h.idle]), hfound]
  exact if_neg (by simp [hshown])

/-- Whatever stands in the way of a run, only the status line tells of it. -/
theorem beginExecution_of_not_admits (h : ¬ s.Admits) :
    ∃ status, s.beginExecution = ({ s with status }, none) := by
  have hanswer := answer_beginExecution s
  generalize s.beginExecution = answer at hanswer ⊢
  cases hanswer with
  | running busy => exact ⟨.alreadyRunning, rfl⟩
  | unready idle missing => exact ⟨.notReady, rfl⟩
  | blank idle found blank => exact ⟨.nothingToRun, rfl⟩
  | began idle found holds =>
    obtain ⟨hready, -⟩ := readyService?_eq_some found
    exact absurd ⟨idle, hready, isBlank_editor_eq_false_iff.1 holds⟩ h

/-! ### The keys -/

theorem handle_key_of_runs (h : k.Runs) (s : Session) :
    s.handle (.key k) =
      if s.showsHelp = true ∨ s.discovery ≠ .ready then (s, .nothing) else s.execute := by
  obtain ⟨key, control⟩ := k
  -- such a key means nothing else, so only what covers the text can be in its way
  have hkey : actionOf ⟨key, control⟩ = .execute ∧ quitsEarly ⟨key, control⟩ = false ∧
      ¬ (control = true ∧ key = .char 'c') ∧ key ≠ .function 1 ∧ key ≠ .escape := by
    rcases h with heq | hfive
    · obtain ⟨rfl, rfl⟩ := KeyPress.mk.inj heq
      exact ⟨rfl, rfl, by decide, by decide, by decide⟩
    · obtain rfl : key = .function 5 := hfive
      exact ⟨rfl, rfl, by simp, by decide, by decide⟩
  obtain ⟨haction, hearly, hquit, hhelp, hescape⟩ := hkey
  rw [handle, handleKey, if_neg hquit, if_neg hhelp, if_neg hescape, hearly, haction]
  by_cases hshown : s.showsHelp = true
  · rw [if_pos hshown, if_pos (.inl hshown)]
  · by_cases hready : s.discovery ≠ .ready
    · rw [if_neg hshown, if_pos hready, if_neg Bool.false_ne_true, if_pos (.inr hready)]
    · rw [if_neg hshown, if_neg hready, if_neg (not_or.2 ⟨hshown, hready⟩)]
      rfl

/-- Where no run may start, a key that runs the text changes the status line at most. -/
theorem handle_key_of_not_admits (h : ¬ s.Admits) (hk : k.Runs) :
    ∃ status, s.handle (.key k) = ({ s with status }, .nothing) := by
  rw [handle_key_of_runs hk]
  split
  · exact ⟨s.status, rfl⟩
  · obtain ⟨status, hrefused⟩ := beginExecution_of_not_admits h
    exact ⟨status, by rw [execute, hrefused]⟩

/-! ### Every session -/

/-- How a session answers attempts to run its text: it accepts them exactly if a run may start; then
it hands out its text with what runs snippets, and only what belongs to the runs changes; and where
it refuses, only the status changes, and no key starts a run. -/
structure AnswersAttempts (s : Session) : Prop where
  isSome_iff : s.beginExecution.2.isSome = true ↔ s.Admits
  accepted : ∀ s' service source, s.beginExecution = (s', some (service, source)) →
    s.service = some service ∧ source = String.ofList s.editor.text ∧
      s' = { s with isExecuting := true, result := none, scroll := 0, status := .executing }
  refused : ∀ s', s.beginExecution = (s', none) → ∃ status, s' = { s with status }
  key_accepted : ∀ service source, s.beginExecution.2 = some (service, source) →
    s.showsHelp = false → ∀ k : KeyPress, k.Runs →
      s.handle (.key k) = (s.beginExecution.1, .execute service source)
  key_refused : s.beginExecution.2 = none → ∀ k : KeyPress, k.Runs →
    ∃ status, s.handle (.key k) = ({ s with status }, .nothing)

theorem Admits.answersAttempts (h : s.Admits) (hservice : s.service = some service) :
    s.AnswersAttempts := by
  have hbegin := h.beginExecution_eq hservice
  refine ⟨?_, ?_, ?_, ?_, ?_⟩
  · rw [hbegin]
    exact iff_of_true rfl h
  · intro s' service' source heq
    rw [hbegin] at heq
    cases heq
    exact ⟨hservice, rfl, rfl⟩
  · intro s' heq
    rw [hbegin] at heq
    cases heq
  · intro service' source heq hhidden k hk
    have hopen : ¬ (s.showsHelp = true ∨ s.discovery ≠ .ready) := by simp [hhidden, h.ready]
    rw [handle_key_of_runs hk, if_neg hopen, execute, hbegin]
    rw [hbegin] at heq
    cases heq
    rfl
  · intro heq
    rw [hbegin] at heq
    cases heq

theorem answersAttempts_of_not_admits (h : ¬ s.Admits) : s.AnswersAttempts := by
  obtain ⟨status, hrefused⟩ := beginExecution_of_not_admits h
  refine ⟨?_, ?_, ?_, ?_, fun _ k hk => handle_key_of_not_admits h hk⟩
  · rw [hrefused]
    exact iff_of_false (by simp) h
  · intro s' service source heq
    rw [hrefused] at heq
    cases heq
  · intro s' heq
    rw [hrefused] at heq
    cases heq
    exact ⟨status, rfl⟩
  · intro service source heq
    rw [hrefused] at heq
    cases heq

/-- After any operations and events, a session accepts an attempt to run its text exactly if a run may
start, and where it refuses nothing but the status changes. -/
theorem answersAttempts_operateAll (source : String) (searched : List String)
    (ops : List Operation) : ((start source searched).operateAll ops).AnswersAttempts := by
  have hknows := (knows_start source searched).operateAll ops
  generalize (start source searched).operateAll ops = s at hknows ⊢
  by_cases h : s.Admits
  · obtain ⟨handle, hservice⟩ := hknows.ready_iff.1 h.ready
    exact h.answersAttempts hservice
  · exact answersAttempts_of_not_admits h

end Session

end Scratchpad
