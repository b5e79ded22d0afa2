import Scratchpad.Session.Event

/-!
# What an event changes of the search and the runs

A session holds the outcome of the search, the last result and whether a run is under way. Most
events leave these alone. `Session.Change` lists what an input of the user may do to them, and what
it then demands; `Session.Answer` does so for an attempt to run the text alone, with what becomes of
the whole session. A key turns the help or stands for an action (`Session.after_key`). The message
from the search touches neither the result nor a run.
-/

namespace Scratchpad

open Scratchpad.Execution Scratchpad.Interpreter

/-- Something that comes from the user or the clock. -/
inductive Input where
  | key (k : KeyPress)
  | paste (text : String)
  | tick
  deriving DecidableEq, Repr

/-- An input as an event. -/
def Input.event : Input → Event
  | key k => .key k
  | paste text => .paste text
  | tick => .tick

/-- The result that an event brings. -/
def Event.result? : Event → Option Result
  | executed result => some result
  | _ => none

/-- Whether a key shows the help, or hides it where it is shown. -/
def KeyPress.togglesHelp (k : KeyPress) (shown : Bool) : Bool :=
  k.key == .function 1 || shown && k.key == .escape

namespace Session

/-- Two sessions agree in the search, the result and the run under way. -/
structure Agrees (s s' : Session) : Prop where
  discovery : s'.discovery = s.discovery
  service : s'.service = s.service
  result : s'.result = s.result
  isExecuting : s'.isExecuting = s.isExecuting

/-- What an input may do to the search, the result and the run under way, with what it demands. -/
inductive Change (s : Session) : Session → Demand → Prop where
  /-- Nothing, and no run starts. -/
  | kept {s' : Session} {d : Demand} (same : s.Agrees s')
      (calm : d = .nothing ∨ d = .quit) : Change s s' d
  /-- The result is dropped while no run is under way. -/
  | cleared (idle : s.isExecuting = false) :
      Change s { s with result := none, scroll := 0 } .nothing
  /-- A run starts: an interpreter was found, and no other run is under way. -/
  | began {service : Service} (idle : s.isExecuting = false) (ready : s.discovery = .ready)
      (found : s.service = some service) (holds : s.editor.isBlank = false) :
      Change s { s with isExecuting := true, result := none, scroll := 0, status := .executing }
        (.execute service (String.ofList s.editor.text))

variable {s : Session}

theorem Agrees.refl (s : Session) : s.Agrees s := ⟨rfl, rfl, rfl, rfl⟩

theorem readyService?_eq_some {service : Service} (h : s.readyService? = some service) :
    s.discovery = .ready ∧ s.service = some service := by
  rw [readyService?] at h
  split at h
  · next hready => exact ⟨hready, h⟩
  · exact absurd h (by simp)

/-- What an attempt to run the text comes to, and why. -/
inductive Answer (s : Session) : Session × Option (Service × String) → Prop where
  | running (busy : s.isExecuting = true) : Answer s (s.withStatus .alreadyRunning, none)
  | unready (idle : s.isExecuting = false) (missing : s.readyService? = none) :
      Answer s (s.withStatus .notReady, none)
  | blank {service : Service} (idle : s.isExecuting = false)
      (found : s.readyService? = some service) (blank : s.editor.isBlank = true) :
      Answer s (s.withStatus .nothingToRun, none)
  | began {service : Service} (idle : s.isExecuting = false)
      (found : s.readyService? = some service) (holds : s.editor.isBlank = false) :
      Answer s
        ({ s with isExecuting := true, result := none, scroll := 0, status := .executing },
          some (service, String.ofList s.editor.text))

theorem answer_beginExecution (s : Session) : s.Answer s.beginExecution := by
  rw [beginExecution]
  by_cases hrun : s.isExecuting = true
  · rw [if_pos hrun]
    exact .running hrun
  · rw [if_neg hrun]
    have hidle := Bool.eq_false_iff.2 hrun
    cases hservice : s.readyService? with
    | none => exact .unready hidle hservice
    | some service =>
      by_cases hblank : s.editor.isBlank = true
      · simp only [if_pos hblank]
        exact .blank hidle hservice hblank
      · simp only [if_neg hblank]
        exact .began hidle hservice (Bool.eq_false_iff.2 hblank)

theorem fst_execute (s : Session) : s.execute.1 = s.beginExecution.1 := by
  rw [execute]
  obtain ⟨s', started⟩ := s.beginExecution
  cases started <;> rfl

theorem change_execute (s : Session) : s.Change s.execute.1 s.execute.2 := by
  have hanswer := answer_beginExecution s
  rw [execute]
  generalize s.beginExecution = answer at hanswer ⊢
  cases hanswer with
  | running busy => exact .kept ⟨rfl, rfl, rfl, rfl⟩ (.inl rfl)
  | unready idle missing => exact .kept ⟨rfl, rfl, rfl, rfl⟩ (.inl rfl)
  | blank idle found blank => exact .kept ⟨rfl, rfl, rfl, rfl⟩ (.inl rfl)
  | began idle found holds =>
    obtain ⟨hready, hfound⟩ := readyService?_eq_some found
    exact .began idle hready hfound holds

theorem change_clearResult (s : Session) : s.Change s.clearResult .nothing := by
  rw [clearResult]
  by_cases hrun : s.isExecuting = true
  · rw [if_pos hrun]
    exact .kept (.refl s) (.inl rfl)
  · rw [if_neg hrun]
    exact .cleared (Bool.eq_false_iff.2 hrun)

theorem change_perform (a : Action) (s : Session) :
    s.Change (s.perform a).1 (s.perform a).2 := by
  cases a with
  | execute => exact change_execute s
  | clear => exact change_clearResult s
  | edit e => exact .kept ⟨rfl, rfl, rfl, rfl⟩ (.inl rfl)
  | scrollUp => exact .kept ⟨rfl, rfl, rfl, rfl⟩ (.inl rfl)
  | scrollDown => exact .kept ⟨rfl, rfl, rfl, rfl⟩ (.inl rfl)
  | nothing => exact .kept (.refl s) (.inl rfl)

theorem change_handleKey (k : KeyPress) (s : Session) :
    s.Change (s.handleKey k).1 (s.handleKey k).2 := by
  rw [handleKey]
  by_cases hquit : k.control = true ∧ k.key = .char 'c'
  · rw [if_pos hquit]
    exact .kept (.refl s) (.inr rfl)
  · rw [if_neg hquit]
    by_cases hhelp : k.key = .function 1
    · rw [if_pos hhelp]
      exact .kept ⟨rfl, rfl, rfl, rfl⟩ (.inl rfl)
    · rw [if_neg hhelp]
      by_cases hshown : s.showsHelp = true
      · rw [if_pos hshown]
        refine .kept ?_ (.inl rfl)
        by_cases hescape : k.key = .escape
        · rw [if_pos hescape]
          exact ⟨rfl, rfl, rfl, rfl⟩
        · rw [if_neg hescape]
          exact .refl s
      · rw [if_neg hshown]
        by_cases hready : s.discovery ≠ .ready
        · rw [if_pos hready]
          refine .kept (.refl s) ?_
          by_cases hearly : quitsEarly k = true
          · exact .inr (if_pos hearly)
          · exact .inl (if_neg hearly)
        · rw [if_neg hready]
          exact change_perform (actionOf k) s

/-- Every input does one of the things that `Change` lists. -/
theorem change_handle (i : Input) (s : Session) :
    s.Change (s.handle i.event).1 (s.handle i.event).2 := by
  cases i with
  | key k => exact change_handleKey k s
  | paste text =>
    refine .kept ?_ (.inl rfl)
    rw [Input.event, handle]
    by_cases hready : s.discovery = .ready
    · rw [if_pos hready]
      exact ⟨rfl, rfl, rfl, rfl⟩
    · rw [if_neg hready]
      exact .refl s
  | tick => exact .kept ⟨rfl, rfl, rfl, rfl⟩ (.inl rfl)

/-! ### Keys -/

theorem perform_quitKey {k : KeyPress} (h : k.control = true ∧ k.key = .char 'c') (s : Session) :
    (s.perform (actionOf k)).1 = s := by
  obtain ⟨key, control⟩ := k
  obtain ⟨rfl, rfl⟩ := h
  rfl

/-- A key shows or hides the help, or does what it stands for, unless the help is shown or there is
no interpreter. -/
theorem after_key (k : KeyPress) (s : Session) :
    s.after (.key k) =
      if k.togglesHelp s.showsHelp then s.toggleHelp
      else if s.showsHelp = true ∨ s.discovery ≠ .ready then s
      else (s.perform (actionOf k)).1 := by
  rw [after, handle, handleKey]
  by_cases hquit : k.control = true ∧ k.key = .char 'c'
  · have hturn : k.togglesHelp s.showsHelp = false := by simp [KeyPress.togglesHelp, hquit.2]
    rw [if_pos hquit, hturn, perform_quitKey hquit, ite_self, if_neg Bool.false_ne_true]
  · rw [if_neg hquit]
    by_cases hhelp : k.key = .function 1
    · have hturn : k.togglesHelp s.showsHelp = true := by simp [KeyPress.togglesHelp, hhelp]
      rw [if_pos hhelp, if_pos hturn]
    · rw [if_neg hhelp]
      by_cases hshown : s.showsHelp = true
      · have hturn : k.togglesHelp s.showsHelp = (k.key == .escape) := by
          simp [KeyPress.togglesHelp, hhelp, hshown]
        rw [if_pos hshown, if_pos (Or.inl hshown), hturn]
        simp only [beq_iff_eq]
      · have hturn : k.togglesHelp s.showsHelp = false := by
          simp [KeyPress.togglesHelp, hhelp, hshown]
        rw [if_neg hshown, hturn, if_neg Bool.false_ne_true]
        by_cases hready : s.discovery ≠ .ready
        · rw [if_pos hready, if_pos (Or.inr hready)]
        · rw [if_neg hready, if_neg (not_or.2 ⟨hshown, hready⟩)]

/-! ### The message from the search -/

theorem isExecuting_finishDiscovery (handle : Option Handle) (s : Session) :
    (s.finishDiscovery handle).isExecuting = s.isExecuting := by
  rw [finishDiscovery]
  split <;> rfl

theorem result_finishDiscovery (handle : Option Handle) (s : Session) :
    (s.finishDiscovery handle).result = s.result := by
  rw [finishDiscovery]
  split <;> rfl

end Session

end Scratchpad
