import Scratchpad.Proofs.Editor.FlatText
import Scratchpad.Proofs.Session.Background
import Scratchpad.Proofs.Session.Discovery

/-!
# What the help and the search cover

While the help is shown, or no interpreter was found, the text and the result are covered. A key then
touches neither of them (`Session.sameWork_handleKey`). As long as there is no interpreter no input
does, however many come (`Session.sameWork_afterAll`).

Pasted text asks for the interpreter only, so it reaches the text under the help, where nobody sees
it. The main statement, `Session.sameWork_after_iff`, says that it is the only input that gets
through.
-/

namespace Scratchpad

namespace Editor

variable {e : Editor} {cs : List Char}

theorem edit_insertText_eq_self (h : ∀ c ∈ cs, c = '\r') : e.edit (.insertText cs) = e := by
  have hrun : cs.foldlM insert? e = some e := by
    induction cs with
    | nil => rfl
    | cons c cs ih =>
      obtain ⟨rfl, hcs⟩ := List.forall_mem_cons.1 h
      exact ih hcs
  exact edit_of_run? hrun

/-- Of all inserted texts only the carriage returns leave a buffer as it is. -/
theorem edit_insertText_eq_self_iff (h : e.Sound) :
    e.edit (.insertText cs) = e ↔ ∀ c ∈ cs, c = '\r' := by
  refine ⟨?_, edit_insertText_eq_self⟩
  intro hsame
  obtain ⟨e', v, v', hrun, -, hv, hv', hstep⟩ := h.commutes (.insertText cs)
  rw [← edit_of_run? hrun, hsame, hv] at hv'
  obtain rfl := Option.some.inj hv'
  have hnil : cs.flatMap normalForm = [] := by
    have hbefore := congrArg FlatText.before hstep
    exact List.self_eq_append_right.1 hbefore
  intro c hc
  have hc' := List.flatMap_eq_nil_iff.1 hnil c hc
  by_contra hne
  rw [normalForm, if_neg hne] at hc'
  split at hc' <;> cases hc'

end Editor

namespace Session

/-- The help lies over the text and the result, or there is no interpreter yet. -/
def IsCovered (s : Session) : Prop := s.showsHelp = true ∨ s.discovery ≠ .ready

/-- Two sessions agree in the text with its cursor, in the result with how far it is scrolled, and in
whether a run is under way. -/
structure SameWork (s s' : Session) : Prop where
  editor : s'.editor = s.editor
  result : s'.result = s.result
  scroll : s'.scroll = s.scroll
  isExecuting : s'.isExecuting = s.isExecuting

variable {s s' s'' : Session}

theorem SameWork.refl (s : Session) : s.SameWork s := ⟨rfl, rfl, rfl, rfl⟩

theorem SameWork.trans (h : s.SameWork s') (h' : s'.SameWork s'') : s.SameWork s'' :=
  ⟨h'.editor.trans h.editor, h'.result.trans h.result, h'.scroll.trans h.scroll,
    h'.isExecuting.trans h.isExecuting⟩

theorem sameWork_toggleHelp (s : Session) : s.SameWork s.toggleHelp := ⟨rfl, rfl, rfl, rfl⟩

/-- No key reaches what is covered. -/
theorem sameWork_handleKey (h : s.IsCovered) (k : KeyPress) : s.SameWork (s.handleKey k).1 := by
  rw [handleKey]
  split
  · exact .refl s
  · split
    · exact sameWork_toggleHelp s
    · split
      · split
        · exact sameWork_toggleHelp s
        · exact .refl s
      · next hhidden =>
        rw [if_pos (h.resolve_left hhidden)]
        exact .refl s

/-! ### Without an interpreter -/

theorem after_paste_of_ne_ready (h : s.discovery ≠ .ready) (text : String) :
    s.after (.paste text) = s := by
  simp only [after, handle, if_neg h]

theorem Change.discovery_eq {d : Demand} (h : s.Change s' d) : s'.discovery = s.discovery := by
  cases h with
  | kept same _ => exact same.discovery
  | cleared _ => rfl
  | began _ _ _ _ => rfl

theorem sameWork_after_of_ne_ready (h : s.discovery ≠ .ready) (i : Input) :
    s.SameWork (s.after i.event) := by
  cases i with
  | key k => exact sameWork_handleKey (.inr h) k
  | paste text =>
    rw [Input.event, after_paste_of_ne_ready h]
    exact .refl s
  | tick => exact ⟨rfl, rfl, rfl, rfl⟩

/-- As long as there is no interpreter, all that the user does leaves the work alone. -/
theorem sameWork_afterAll (h : s.discovery ≠ .ready) (is : List Input) :
    s.SameWork (s.afterAll (is.map Input.event)) := by
  induction is generalizing s with
  | nil => exact .refl s
  | cons i is ih =>
    have hnext : (s.after i.event).discovery ≠ .ready := by
      rwa [after, (change_handle i s).discovery_eq]
    exact (sameWork_after_of_ne_ready h i).trans (ih hnext)

/-! ### Under the help -/

theorem editor_beginExecution (s : Session) : s.beginExecution.1.editor = s.editor := by
  rw [← fst_execute]
  exact (sameEditing_execute s).1.editor.symm

theorem editor_finishDiscovery (handle : Option Interpreter.Handle) (s : Session) :
    (s.finishDiscovery handle).editor = s.editor := by
  rw [finishDiscovery]
  split <;> rfl

theorem sound_perform (h : s.editor.Sound) (a : Action) : (s.perform a).1.editor.Sound := by
  by_cases hedit : ∃ e, a = .edit e
  · obtain ⟨e, rfl⟩ := hedit
    exact h.edit e
  · rwa [← (sameEditing_perform (not_exists.1 hedit) s).editor]

theorem sound_handleKey (h : s.editor.Sound) (k : KeyPress) : (s.handleKey k).1.editor.Sound := by
  by_cases hcovered : s.IsCovered
  · rw [(sameWork_handleKey hcovered k).editor]
    exact h
  · obtain ⟨hhidden, hready⟩ := not_or.1 hcovered
    rw [handleKey, if_neg hhidden, if_neg hready]
    split
    · exact h
    · split
      · exact h
      · exact sound_perform h (actionOf k)

theorem sound_after (h : s.editor.Sound) (e : Event) : (s.after e).editor.Sound := by
  cases e with
  | key k => exact sound_handleKey h k
  | paste text =>
    simp only [after, handle]
    split
    · exact h.edit _
    · exact h
  | tick => exact h
  | discovered handle => rwa [after, Session.handle, editor_finishDiscovery]
  | executed result => exact h

theorem sound_run (h : s.editor.Sound) (op : Operation) : (op.run s).editor.Sound := by
  cases op with
  | event e => exact sound_after h e
  | finishDiscovery handle => rwa [Operation.run, editor_finishDiscovery]
  | beginExecution => rwa [Operation.run, editor_beginExecution]
  | finishExecution result => exact h
  | clearResult => rwa [Operation.run, ← (sameEditing_clearResult s).editor]
  | toggleHelp => exact h
  | scrollUp => exact h
  | scrollDown => exact h
  | edit e => exact h.edit e

/-- Whatever is done to a session, its cursor stands at a character of its text. -/
theorem sound_operateAll (h : s.editor.Sound) (ops : List Operation) :
    (s.operateAll ops).editor.Sound := by
  induction ops generalizing s with
  | nil => exact h
  | cons op ops ih => exact ih (sound_run h op)

theorem sameWork_paste_iff (h : s.editor.Sound) (hready : s.discovery = .ready) (text : String) :
    s.SameWork (s.after (.paste text)) ↔ ∀ c ∈ text.toList, c = '\r' := by
  rw [← Editor.edit_insertText_eq_self_iff h]
  simp only [after, handle, if_pos hready]
  exact ⟨SameWork.editor, fun heq => ⟨heq, rfl, rfl, rfl⟩⟩

/-- In a session where the help is shown or no interpreter was found, whatever was done to it before,
an input leaves the text with its cursor, the result, its scrolling and the run under way as they
were, unless it is a pasted text that comes when the interpreter was found already and holds more
than carriage returns. -/
theorem sameWork_after_iff (source : String) (searched : List String) (ops : List Operation)
    (h : ((start source searched).operateAll ops).IsCovered) (i : Input) :
    ((start source searched).operateAll ops).SameWork
        (((start source searched).operateAll ops).after i.event) ↔
      ∀ text, i = .paste text → ((start source searched).operateAll ops).discovery = .ready →
        ∀ c ∈ text.toList, c = '\r' := by
  have hsound := sound_operateAll (s := start source searched) (Editor.sound_ofText _) ops
  generalize (start source searched).operateAll ops = s at h hsound ⊢
  cases i with
  | key k => exact iff_of_true (sameWork_handleKey h k) fun _ heq => nomatch heq
  | tick => exact iff_of_true ⟨rfl, rfl, rfl, rfl⟩ fun _ heq => nomatch heq
  | paste text =>
    rw [Input.event]
    constructor
    · rintro hsame _ ⟨⟩ hready
      exact (sameWork_paste_iff hsound hready text).1 hsame
    · intro hreturns
      by_cases hready : s.discovery = .ready
      · exact (sameWork_paste_iff hsound hready text).2 (hreturns text rfl hready)
      · rw [after_paste_of_ne_ready hready]
        exact .refl s

/-- A session in which an interpreter was found and then the help was asked for. -/
def helped : Session :=
  (start "a" []).operateAll
    [.event (.discovered (some ⟨"/usr/bin/php", "PHP 8"⟩)), .event (.key ⟨.function 1, false⟩)]

theorem sameWork_after_helped :
    helped.IsCovered ∧ helped.SameWork (helped.after (.key ⟨.char 'b', false⟩)) ∧
      ¬ helped.SameWork (helped.after (.paste "b")) := by
  have hcovered : helped.IsCovered := .inl rfl
  have hkey := sameWork_after_iff "a" [] _ hcovered (.key ⟨.char 'b', false⟩)
  have hpaste := sameWork_after_iff "a" [] _ hcovered (.paste "b")
  refine ⟨hcovered, hkey.2 (fun _ heq => nomatch heq), fun hsame => ?_⟩
  exact absurd (hpaste.1 hsame "b" rfl rfl 'b' (by decide)) (by decide)

/-- The help is no cover for pasted text: what is pasted under it stands in the text. -/
theorem text_after_paste_under_help :
    helped.showsHelp = true ∧ helped.editor.text = ['a'] ∧
      (helped.after (.paste "b")).editor.text = ['a', 'b'] := by
  decide +kernel

end Session

end Scratchpad
