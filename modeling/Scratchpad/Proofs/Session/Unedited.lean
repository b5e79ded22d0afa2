import Scratchpad.Program
import Scratchpad.Proofs.Command.Script
import Scratchpad.Proofs.Editor.FlatText
import Scratchpad.Proofs.Interpreter.Search
import Scratchpad.Proofs.Session.Discovery

/-!
# A script that is run, and one that is opened

A script can be run at once, or opened in the editor and run from there. Both ways read it alike and
take its open tag off. The first one hands the snippet to the interpreter as it is; the second one
cuts it into lines and joins them again, which loses the carriage returns and nothing else, and
refuses a snippet of blanks. The main statement is `sent_of_supplies`.
-/

namespace Scratchpad

open Scratchpad.Arguments Scratchpad.Execution Scratchpad.Interpreter Scratchpad.Text

/-! ### Texts -/

namespace Text

theorem allBlank_intercalate {sep : Char} (hsep : isBlank sep = true) (ps : List (List Char)) :
    allBlank ([sep].intercalate ps) = ps.all allBlank := by
  induction ps with
  | nil => rfl
  | cons p ps ih =>
    cases ps with
    | nil => simp
    | cons q ps => simp [List.intercalate_cons_cons, hsep, ih]

/-- Dropping blanks from a text makes no difference to whether it is blank. -/
theorem allBlank_filter {p : Char → Bool} (hp : ∀ c, p c = false → isBlank c = true)
    (cs : List Char) : allBlank (cs.filter p) = allBlank cs := by
  induction cs with
  | nil => rfl
  | cons c cs ih =>
    cases hc : p c with
    | true => rw [List.filter_cons_of_pos hc, allBlank_cons, allBlank_cons, ih]
    | false =>
      rw [List.filter_cons_of_neg (by simp [hc]), allBlank_cons, hp c hc, ih, Bool.true_and]

end Text

namespace Editor

theorem isBlank_eq (e : Editor) : e.isBlank = allBlank e.text :=
  (allBlank_intercalate (by decide) e.lines).symm

theorem text_ofText (text : List Char) : (ofText text).text = text.filter (· != '\r') := by
  obtain ⟨v, hv, htext⟩ := (sound_ofText text).exists_view?
  rw [view?_ofText] at hv
  obtain rfl := Option.some.inj hv
  rw [htext, List.append_nil]

end Editor

/-! ### Reading a script -/

namespace Command

variable {σ : Type} {host : Host σ} {s : σ} {path text : String}

theorem Supplies.recording (h : Supplies host s path text) (calls : List Call) :
    Supplies host.recording (s, calls) path text := by
  cases h with
  | input dash holds => exact .input dash holds
  | file other entry file holds => exact .file other entry file holds

/-- A script is executed as it was read. -/
theorem Supplies.run_eq (h : Supplies host s path text) (service : Service) (json colour : Bool) :
    run host service ⟨some path, none, json⟩ colour s =
      (.ok ((service.execute host (Php.snippetOf text) s).1.exitStatus,
          shown json colour (service.execute host (Php.snippetOf text) s).1),
        (service.execute host (Php.snippetOf text) s).2) := by
  have hsource : sourceOf host ⟨some path, none, json⟩ s = .ok (Php.snippetOf text) := by
    simp only [sourceOf, h.readScript_eq, Except.mapError]
  rw [run, hsource]

theorem Supplies.editorSource_eq (h : Supplies host s path text) (settings : Settings) :
    Program.editorSource host settings (some path) s = .ok (Php.snippetOf text) :=
  h.readScript_eq

end Command

/-! ### Opening a script -/

/-- Whether an operation tries to run the text. -/
def Operation.begins : Operation → Bool
  | beginExecution => true
  | event (.key k) => Session.actionOf k == .execute
  | _ => false

namespace Session

variable {s : Session} {snippet : String} {handle : Handle}

/-- A session was opened with a snippet and has found an interpreter; the snippet is still as it was,
and nobody has tried to run it. -/
def IsOpened (snippet : String) (handle : Handle) (s : Session) : Prop :=
  ∃ searched ops, s = (start snippet searched).operateAll ops ∧
    firstMessage? ops = some (some handle) ∧ (∀ op ∈ ops, op.begins = false) ∧
    s.editor.text = (start snippet searched).editor.text

theorem isExecuting_perform {a : Action} (h : a ≠ .execute) (s : Session) :
    (s.perform a).1.isExecuting = s.isExecuting := by
  cases a with
  | execute => exact absurd rfl h
  | clear =>
    rw [perform, clearResult]
    split <;> rfl
  | edit e => rfl
  | scrollUp => rfl
  | scrollDown => rfl
  | nothing => rfl

theorem isExecuting_handleKey {k : KeyPress} (h : actionOf k ≠ .execute) (s : Session) :
    (s.handleKey k).1.isExecuting = s.isExecuting := by
  rw [handleKey]
  split
  · rfl
  · split
    · rfl
    · split
      · split <;> rfl
      · split
        · rfl
        · exact isExecuting_perform h s

theorem isExecuting_run {op : Operation} (hop : op.begins = false) (h : s.isExecuting = false) :
    (op.run s).isExecuting = false := by
  cases op with
  | event e =>
    cases e with
    | key k =>
      have hk : actionOf k ≠ .execute := by simpa [Operation.begins] using hop
      exact (isExecuting_handleKey hk s).trans h
    | paste text =>
      simp only [Operation.run, after, handle]
      split <;> exact h
    | tick => exact h
    | discovered handle => exact (isExecuting_finishDiscovery handle s).trans h
    | executed result => rfl
  | finishDiscovery handle => exact (isExecuting_finishDiscovery handle s).trans h
  | beginExecution => exact absurd hop (by simp [Operation.begins])
  | finishExecution result => rfl
  | clearResult =>
    rw [Operation.run, clearResult]
    split <;> exact h
  | toggleHelp => exact h
  | scrollUp => exact h
  | scrollDown => exact h
  | edit e => exact h

theorem isExecuting_operateAll {ops : List Operation} (hops : ∀ op ∈ ops, op.begins = false)
    (h : s.isExecuting = false) : (s.operateAll ops).isExecuting = false := by
  induction ops generalizing s with
  | nil => exact h
  | cons op ops ih =>
    obtain ⟨hop, hrest⟩ := List.forall_mem_cons.1 hops
    exact ih hrest (isExecuting_run hop h)

/-- A session that runs nothing and has an interpreter starts a run unless its text is blank. -/
theorem snd_beginExecution (hidle : s.isExecuting = false) (hready : s.discovery = .ready)
    {service : Service} (hservice : s.service = some service) :
    s.beginExecution.2 =
      if allBlank s.editor.text then none else some (service, String.ofList s.editor.text) := by
  have hfound : s.readyService? = some service := by rw [readyService?, if_pos hready, hservice]
  rw [beginExecution, if_neg (by simp [hidle]), hfound, ← Editor.isBlank_eq]
  simp only
  split <;> rfl

theorem IsOpened.snd_beginExecution (h : s.IsOpened snippet handle) :
    s.beginExecution.2 =
      if allBlank snippet.toList then none
      else some (⟨some handle⟩, String.ofList (snippet.toList.filter (· != '\r'))) := by
  obtain ⟨searched, ops, rfl, hfirst, hops, htext⟩ := h
  have hknows := (knows_start snippet searched).operateAll ops
  rw [hfirst] at hknows
  have hidle : ((start snippet searched).operateAll ops).isExecuting = false :=
    isExecuting_operateAll hops rfl
  have hopened : (start snippet searched).editor.text = snippet.toList.filter (· != '\r') :=
    Editor.text_ofText snippet.toList
  -- a carriage return is blank itself, so leaving it out cannot make a text blank
  have hblank : allBlank (snippet.toList.filter (· != '\r')) = allBlank snippet.toList := by
    refine allBlank_filter ?_ snippet.toList
    intro c hc
    obtain rfl : c = '\r' := by simpa using hc
    decide
  rw [Session.snd_beginExecution hidle hknows.discovery hknows.service, htext, hopened, hblank]

end Session

/-! ### What the interpreter gets -/

/-- The call that hands a snippet to an interpreter. -/
def snippetCall (handle : Handle) (snippet : String) : Call := ⟨handle.path, ["-r", snippet]⟩

/-- A snippet as a buffer gives it back. -/
def withoutReturns (snippet : String) : String :=
  String.ofList (snippet.toList.filter (· != '\r'))

theorem withoutReturns_of_not_mem {snippet : String} (h : '\r' ∉ snippet.toList) :
    withoutReturns snippet = snippet := by
  have hkeep : snippet.toList.filter (· != '\r') = snippet.toList := by
    refine List.filter_eq_self.2 fun c hc => ?_
    have hne : c ≠ '\r' := fun heq => h (heq ▸ hc)
    simpa using hne
  rw [withoutReturns, hkeep, String.ofList_toList]

theorem calls_execute {σ : Type} (host : Host σ) (handle : Handle) (source : String) (s : σ)
    (calls : List Call) :
    (Service.execute host.recording ⟨some handle⟩ source (s, calls)).2.2 =
      calls ++ [snippetCall handle source] := rfl

/-- A script that can be read is executed as it is, without its open tag. In an editor that was
opened with it, where an interpreter was found and nothing was edited, the first attempt to run it
executes the same without its carriage returns, and is refused exactly if it is blank; so if it holds
neither only blanks nor carriage returns, the interpreter gets the same call either way. -/
theorem sent_of_supplies {σ : Type} (host : Host σ) (s : σ) (path text : String)
    (h : Command.Supplies host s path text) :
    (∀ service json colour,
      Command.run host service ⟨some path, none, json⟩ colour s =
        (.ok ((service.execute host (Php.snippetOf text) s).1.exitStatus,
            Command.shown json colour (service.execute host (Php.snippetOf text) s).1),
          (service.execute host (Php.snippetOf text) s).2)) ∧
      (∀ handle json colour calls,
        (Command.run host.recording ⟨some handle⟩ ⟨some path, none, json⟩ colour (s, calls)).2.2 =
          calls ++ [snippetCall handle (Php.snippetOf text)]) ∧
      (∀ settings,
        Program.editorSource host settings (some path) s = .ok (Php.snippetOf text)) ∧
      ∀ handle (session : Session), session.IsOpened (Php.snippetOf text) handle →
        (session.beginExecution.2 = none ↔ allBlank (Php.snippetOf text).toList = true) ∧
          (allBlank (Php.snippetOf text).toList = false →
            session.beginExecution.2 =
              some (⟨some handle⟩, withoutReturns (Php.snippetOf text))) ∧
          (allBlank (Php.snippetOf text).toList = false → '\r' ∉ (Php.snippetOf text).toList →
            session.beginExecution.2 = some (⟨some handle⟩, Php.snippetOf text)) ∧
          ∀ service source calls, session.beginExecution.2 = some (service, source) →
            (service.execute host.recording source (s, calls)).2.2 =
              calls ++ [snippetCall handle (withoutReturns (Php.snippetOf text))] := by
  refine ⟨h.run_eq, ?_, h.editorSource_eq, ?_⟩
  · intro handle json colour calls
    rw [(h.recording calls).run_eq]
    exact calls_execute host handle (Php.snippetOf text) s calls
  · intro handle session hopened
    have hbegin := hopened.snd_beginExecution
    rw [← withoutReturns] at hbegin
    refine ⟨?_, ?_, ?_, ?_⟩
    · rw [hbegin]
      split <;> simp_all
    · intro hblank
      rw [hbegin, if_neg (by simp [hblank])]
    · intro hblank hreturns
      rw [hbegin, if_neg (by simp [hblank]), withoutReturns_of_not_mem hreturns]
    · intro service source calls hstarted
      rw [hbegin] at hstarted
      split at hstarted
      · exact absurd hstarted (by simp)
      · obtain ⟨rfl, rfl⟩ := Prod.mk.inj (Option.some.inj hstarted)
        exact calls_execute host handle _ s calls

/-- A script whose lines end in carriage returns. -/
def returnedScript : String := "<?php\r\n1;\r\n"

/-- A host with one script, on which nothing can be run. -/
def oneScript : Host Unit where
  hasEntry _ path := path == "a.php"
  hasFile _ path := path == "a.php"
  read _ _ := .ok (encode returnedScript.toList)
  standardInput _ := []
  launch _ _ _ := (.notStarted "", ())
  makeDirectory _ _ := (none, ())
  makeFile _ _ := .ok ()

/-- A session that was opened with the script and has found an interpreter. -/
def openedScript : Session :=
  (Session.start (Php.snippetOf returnedScript) []).operateAll
    [.event .tick, .event (.discovered (some ⟨"/usr/bin/php", "PHP 8"⟩)),
      .event (.key ⟨.home, false⟩)]

theorem sent_of_returnedScript :
    Command.Supplies oneScript () "a.php" returnedScript ∧
      openedScript.IsOpened (Php.snippetOf returnedScript) ⟨"/usr/bin/php", "PHP 8"⟩ ∧
      Php.snippetOf returnedScript = "1;\r\n" ∧
      openedScript.beginExecution.2 =
        some (⟨some ⟨"/usr/bin/php", "PHP 8"⟩⟩, withoutReturns (Php.snippetOf returnedScript)) ∧
      withoutReturns (Php.snippetOf returnedScript) = "1;\n" := by
  have hsupplies : Command.Supplies oneScript () "a.php" returnedScript :=
    .file (by decide) rfl rfl (by decide +kernel)
  have hopened : openedScript.IsOpened (Php.snippetOf returnedScript) ⟨"/usr/bin/php", "PHP 8"⟩ :=
    ⟨_, _, rfl, rfl, by decide, by decide +kernel⟩
  have hsent := (sent_of_supplies oneScript () "a.php" returnedScript hsupplies).2.2.2 _ _ hopened
  exact ⟨hsupplies, hopened, by decide +kernel, hsent.2.1 (by decide +kernel), by decide +kernel⟩

end Scratchpad
