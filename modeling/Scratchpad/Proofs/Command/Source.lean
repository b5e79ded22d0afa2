import Scratchpad.Program
import Scratchpad.Proofs.Arguments.Acceptance

/-!
# One thing to run

A command line that is understood as `run` names either a file or a snippet (`HasOneSource`). So the
two cases that `Command.sourceOf` provides for besides never come from a command line: that there is
nothing to run, and that there are both, where the snippet goes first. The main statement is
`one_source_of_arguments`; its last part is about the whole program, whose reports are told apart by
the letters that they begin with.
-/

namespace Scratchpad

open Scratchpad.Arguments Scratchpad.Execution

/-- There is one thing to run: the script in a file, or a snippet. -/
inductive Arguments.RunOptions.HasOneSource : RunOptions → Prop where
  | file {path : String} (nonempty : path ≠ "") (json : Bool) : HasOneSource ⟨some path, none, json⟩
  | code (snippet : String) (json : Bool) : HasOneSource ⟨none, some snippet, json⟩

theorem Arguments.Command.IsSound.hasOneSource {options : RunOptions}
    (h : (Command.run options).IsSound) : options.HasOneSource := by
  obtain ⟨file, code, json⟩ := options
  have hone : file.isSome = true ↔ code.isSome = false := h.one _ rfl
  cases file with
  | none =>
    cases code with
    | none => simp at hone
    | some snippet => exact .code snippet json
  | some path =>
    cases code with
    | none => exact .file (fun hempty => h.file (congrArg some hempty)) json
    | some snippet => simp at hone

namespace Command

variable {σ : Type} {host : Host σ} {options : RunOptions} {s : σ}

/-- The snippet to run if a file goes before a snippet. -/
def fileFirst (host : Host σ) (options : RunOptions) (s : σ) : Except RunProblem String :=
  match options.file, options.code with
  | some path, _ => (readScript host path s).mapError .script
  | none, some code => .ok code
  | none, none => .error .nothingToRun

/-- Where there is one thing to run, nothing goes before anything. -/
theorem sourceOf_eq_fileFirst (h : options.HasOneSource) :
    sourceOf host options s = fileFirst host options s := by
  cases h <;> rfl

theorem sourceOf_ne_nothingToRun (h : options.HasOneSource) :
    sourceOf host options s ≠ .error .nothingToRun := by
  cases h with
  | @file path nonempty json =>
    have hread : sourceOf host ⟨some path, none, json⟩ s =
        (readScript host path s).mapError .script := rfl
    rw [hread]
    cases readScript host path s with
    | error p => exact fun heq => RunProblem.noConfusion (Except.error.inj heq)
    | ok source => exact nofun
  | code snippet json => simp

theorem run_ne_nothingToRun (h : options.HasOneSource) (service : Service) (colour : Bool) :
    (run host service options colour s).1 ≠ .error .nothingToRun := by
  rw [run]
  cases hsource : sourceOf host options s with
  | error p => exact fun heq => sourceOf_ne_nothingToRun h (hsource.trans (by simpa using heq))
  | ok source => simp

end Command

/-! ### Reports -/

theorem Text.head?_toList_append {p : String} (h : p ≠ "") (t : String) :
    (p ++ t).toList.head? = p.toList.head? := by
  have hne : p.toList ≠ [] := by simpa using h
  obtain ⟨c, cs, hp⟩ := List.exists_cons_of_ne_nil hne
  rw [String.toList_append, hp]
  rfl

open Text

namespace Report

theorem head?_text (r : Report) : r.text.toList.head? = some 'E' := by
  rw [text, String.append_assoc, head?_toList_append (by simp)]
  rfl

/-- Reports that read the same have messages that begin with the same letter. -/
theorem head?_message_eq {r r' : Report} (hr : r.message ≠ "") (hr' : r'.message ≠ "")
    (h : r.text = r'.text) : r.message.toList.head? = r'.message.toList.head? := by
  rw [text, text, String.append_assoc, String.append_assoc] at h
  have htail := (String.append_right_inj _).1 h
  rw [← head?_toList_append hr, htail, head?_toList_append hr']

end Report

namespace Command

/-- A text that does not say that there is nothing to run. -/
def IsOther (t : String) : Prop := t ≠ RunProblem.nothingToRun.report.text

theorem isOther_of_head? {t : String} (h : t.toList.head? ≠ some 'E') : IsOther t := by
  rintro rfl
  exact h (Report.head?_text _)

theorem isOther_empty : IsOther "" := isOther_of_head? (by decide)

theorem isOther_text_of_head? {r : Report} {c : Char} (hhead : r.message.toList.head? = some c)
    (hc : c ≠ 'P') : IsOther r.text := by
  intro heq
  have hne : r.message ≠ "" := by
    intro hempty
    rw [hempty] at hhead
    cases hhead
  have hsame := Report.head?_message_eq hne (by simp [RunProblem.report]) heq
  have hp : RunProblem.nothingToRun.report.message.toList.head? = some 'P' := rfl
  rw [hhead, hp] at hsame
  exact hc (Option.some.inj hsame)

theorem isOther_unreadableReport (path cause : String) :
    IsOther (unreadableReport path cause).text := by
  have hmessage : (unreadableReport path cause).message =
      "Failed to read file '" ++ path ++ "'" := rfl
  have hhead : (unreadableReport path cause).message.toList.head? = some 'F' := by
    rw [hmessage, String.append_assoc, head?_toList_append (by simp)]
    rfl
  exact isOther_text_of_head? hhead (by decide)

theorem ScriptProblem.isOther (p : ScriptProblem) : IsOther p.report.text := by
  cases p with
  | missing path =>
    have hhead : (missing path).report.message.toList.head? = some 'S' := by
      rw [report, String.append_assoc, head?_toList_append (by simp)]
      rfl
    exact isOther_text_of_head? hhead (by decide)
  | notFile path =>
    have hhead : (notFile path).report.message.toList.head? = some '\'' := by
      rw [report, String.append_assoc, head?_toList_append (by simp)]
      rfl
    exact isOther_text_of_head? hhead (by decide)
  | unreadable path cause => exact isOther_unreadableReport path cause
  | standardInput cause =>
    have hmessage : (standardInput cause).report.message = "failed to read script from stdin" := rfl
    have hhead : (standardInput cause).report.message.toList.head? = some 'f' := by
      rw [hmessage]
      decide
    exact isOther_text_of_head? hhead (by decide)

/-- Printing a script with its categories fails only where its file cannot be read. -/
theorem exists_of_highlight_eq_error {σ : Type} {host : Host σ} {file : String}
    {json colour : Bool} {s : σ} {r : Report} (h : highlight host file json colour s = .error r) :
    ∃ cause, r = unreadableReport file cause := by
  unfold highlight at h
  split at h
  · next cause hread =>
    cases h
    exact ⟨cause, rfl⟩
  · cases h

end Command

/-! ### The program -/

namespace Program

open Scratchpad.Command

variable {σ : Type} {host : Host σ} {s : σ}

theorem isOther_of_recordFilter {settings : Settings} {env : Environment} {outcome : Outcome}
    (h : recordFilter settings env = .error outcome) : IsOther outcome.report := by
  unfold recordFilter at h
  split at h
  · cases h
  · cases h
    exact isOther_of_head? (by decide)

/-- What is told about the file for records: the complaint begins as no report does, and the note
with a bracket. -/
theorem isOther_of_openRecords {directory : String} {opened : Except Outcome String} {t : σ}
    (h : openRecords host directory s = (opened, t)) :
    (∀ outcome, opened = .error outcome → IsOther outcome.report) ∧
      ∀ note, opened = .ok note → note = "" ∨ note.toList.head? = some '[' := by
  unfold openRecords at h
  split at h
  · obtain ⟨rfl, -⟩ := Prod.mk.inj h
    refine ⟨nofun, fun note hopened => .inr ?_⟩
    cases hopened
    simp only [String.append_assoc]
    rw [head?_toList_append (by simp)]
    rfl
  · split at h
    · obtain ⟨rfl, -⟩ := Prod.mk.inj h
      refine ⟨nofun, fun note hopened => .inl ?_⟩
      cases hopened
      rfl
    · obtain ⟨rfl, -⟩ := Prod.mk.inj h
      refine ⟨fun outcome hopened => ?_, nofun⟩
      cases hopened
      refine isOther_of_head? ?_
      rw [broken, String.append_assoc, head?_toList_append (by simp)]
      decide

/-- A note in front of a text does not turn it into that report. -/
theorem isOther_append {note t : String} (hnote : note = "" ∨ note.toList.head? = some '[')
    (ht : IsOther t) : IsOther (note ++ t) := by
  rcases hnote with rfl | hnote
  · rwa [String.empty_append]
  · have hne : note ≠ "" := by
      rintro rfl
      cases hnote
    refine isOther_of_head? ?_
    rw [head?_toList_append hne, hnote]
    decide

theorem isOther_noTerminal : IsOther noTerminal.text := by
  have hhead : noTerminal.message.toList.head? = some 'T' := rfl
  exact isOther_text_of_head? hhead (by decide)

theorem isOther_edit (settings : Settings) (env : Environment) (file : Option String) :
    IsOther (edit host settings env file s).1.report := by
  unfold edit
  split
  · next outcome t hopened => exact (isOther_of_openRecords hopened).1 outcome rfl
  · next note t hopened =>
    have hnote := (isOther_of_openRecords hopened).2 note rfl
    split
    · next outcome hfilter =>
      split at hfilter
      · exact isOther_of_recordFilter hfilter
      · cases hfilter
    · cases editorSource host settings file t with
      | error p => exact isOther_append hnote p.isOther
      | ok source => exact isOther_append hnote isOther_noTerminal

/-- No call that was understood complains that there is nothing to run. -/
theorem isOther_carryOut {i : Invocation} (h : i.IsSound) (env : Environment) :
    IsOther (carryOut host env i s).1.report := by
  unfold carryOut
  simp only
  split
  · exact isOther_edit _ _ _
  · next outcome hfilter _ => exact isOther_of_recordFilter hfilter
  · next options filter hcommand hfilter =>
    have hrun : i.command = some (.run options) := by
      cases hc : i.command with
      | none => simp [hc] at hcommand
      | some c => simpa [hc] using hcommand
    split
    · exact isOther_empty
    · next p t hproblem =>
      cases p with
      | nothingToRun =>
        have hone := (h.command _ hrun).hasOneSource
        exact absurd (congrArg Prod.fst hproblem) (run_ne_nothingToRun hone _ _)
      | script p => exact p.isOther
  · split
    · exact isOther_empty
    · next r hproblem =>
      obtain ⟨cause, rfl⟩ := exists_of_highlight_eq_error hproblem
      exact isOther_unreadableReport _ cause
  · exact isOther_empty

theorem isOther_start (env : Environment) (arguments : List String) :
    IsOther (start host env arguments s).1.report := by
  unfold start
  split
  · have hhead : (workersKey ++ " is no number of threads\n").toList.head? ≠ some 'E' := by
      decide
    exact isOther_of_head? hhead
  · split
    · exact isOther_empty
    · next i hok => exact isOther_carryOut (isSound_of_parse hok) env

end Program

namespace Command

/-- Whatever the arguments, an invocation that is read from them has no empty path, and `run` has
exactly one thing to run, so it never comes to the point where there is none, nor does it matter
whether a snippet goes before a file. And no call of the program ever complains that there is
nothing to run. -/
theorem one_source_of_arguments (arguments : List String) :
    (∀ i, parse arguments = .ok i →
      i.interpreter ≠ some "" ∧ (∀ c, i.command = some c → c.value? .file ≠ some "") ∧
        ∀ options, i.command = some (.run options) →
          options.HasOneSource ∧
            ∀ {σ : Type} (host : Host σ) (s : σ),
              sourceOf host options s = fileFirst host options s ∧
                ∀ service colour, (run host service options colour s).1 ≠ .error .nothingToRun) ∧
      ∀ {σ : Type} (host : Host σ) (env : Environment) (s : σ),
        (Program.run host env arguments s).1.report ≠ RunProblem.nothingToRun.report.text := by
  refine ⟨fun i hok => ?_, fun host env s => Program.isOther_start env arguments⟩
  have hsound := isSound_of_parse hok
  refine ⟨hsound.interpreter, fun c hc => (hsound.command c hc).file, ?_⟩
  intro options hoptions
  have hone := (hsound.command _ hoptions).hasOneSource
  exact ⟨hone, fun host s =>
    ⟨sourceOf_eq_fileFirst hone, fun service colour => run_ne_nothingToRun hone service colour⟩⟩

/-- A file and an interpreter that look like options, the file behind two dashes. -/
theorem one_source_of_arguments_dashes :
    let arguments := ["run", "--json", "--interpreter=--json", "--", "-e"]
    let options : RunOptions := ⟨some "-e", none, true⟩
    parse arguments = .ok ⟨some "--json", some (.run options)⟩ ∧ options.HasOneSource := by
  intro arguments options
  have hparse : parse arguments = .ok ⟨some "--json", some (.run options)⟩ := rfl
  exact ⟨hparse, ((one_source_of_arguments arguments).1 _ hparse).2.2 options rfl |>.1⟩

end Command

end Scratchpad
