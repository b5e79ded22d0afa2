import Scratchpad.Session.Event

/-!
# What goes on beside the text

Beats of the clock, results, and the keys that run the text, clear the result or scroll it are
background: they change neither the text nor what decides which keys reach it. `SameEditing` is the
relation between two sessions that no background event breaks and every event keeps. `serve` is the
loop that takes events up to one that ends the session.

The main statement, `serve_background`, is about two runs of the loop whose other events are the
same: they end with the same text, and at the same event or at none.
-/

namespace Scratchpad

open Scratchpad.Execution Scratchpad.Interpreter

/-- Whether a key runs the text, clears the result or scrolls it. -/
def KeyPress.isBackground (k : KeyPress) : Bool :=
  match k.key with
  | .char c => k.control && (c == 'r' || c == 'l')
  | .function n => n == 5
  | .pageUp => true
  | .pageDown => true
  | _ => false

/-- Whether an event is a beat, a result, or a key of the background. -/
def Event.isBackground : Event → Bool
  | .key k => k.isBackground
  | .paste _ => false
  | .tick => true
  | .discovered _ => false
  | .executed _ => true

/-- The events of a list that are not background. -/
def foreground (es : List Event) : List Event := es.filter fun e => !e.isBackground

/-- What the loop has made of the events that came: the session, the events that it took, and whether
the last of these has ended the session. -/
structure Course where
  session : Session
  taken : List Event
  hasQuit : Bool
  deriving DecidableEq, Repr

namespace Session

/-- Takes one event after the other, up to one that ends the session. -/
def serve (s : Session) : List Event → Course
  | [] => ⟨s, [], false⟩
  | e :: es =>
    if (s.handle e).2 = .quit then ⟨(s.handle e).1, [e], true⟩
    else
      let rest := (s.handle e).1.serve es
      { rest with taken := e :: rest.taken }

/-- Two sessions agree in the text with its cursor, in whether the help is shown, and in the search
with what it found. -/
structure SameEditing (s s' : Session) : Prop where
  editor : s.editor = s'.editor
  showsHelp : s.showsHelp = s'.showsHelp
  discovery : s.discovery = s'.discovery
  service : s.service = s'.service

variable {s s' s'' : Session} {e : Event} {es es' : List Event}

namespace SameEditing

theorem refl (s : Session) : s.SameEditing s := ⟨rfl, rfl, rfl, rfl⟩

theorem symm (h : s.SameEditing s') : s'.SameEditing s :=
  ⟨h.editor.symm, h.showsHelp.symm, h.discovery.symm, h.service.symm⟩

theorem trans (h : s.SameEditing s') (h' : s'.SameEditing s'') : s.SameEditing s'' :=
  ⟨h.editor.trans h'.editor, h.showsHelp.trans h'.showsHelp, h.discovery.trans h'.discovery,
    h.service.trans h'.service⟩

end SameEditing

/-- The loop leaves the session where the events that it took lead. -/
theorem session_serve (s : Session) (es : List Event) :
    (s.serve es).session = s.afterAll (s.serve es).taken := by
  induction es generalizing s with
  | nil => rfl
  | cons e es ih =>
    rw [serve]
    by_cases hquit : (s.handle e).2 = .quit
    · rw [if_pos hquit]
      rfl
    · rw [if_neg hquit]
      exact ih (s.handle e).1

/-! ### Actions -/

/-- A run that starts, or is refused, has nothing to do with editing and does not end the session. -/
theorem sameEditing_execute (s : Session) : s.SameEditing s.execute.1 ∧ s.execute.2 ≠ .quit := by
  rw [execute, beginExecution]
  by_cases hrun : s.isExecuting = true
  · rw [if_pos hrun]
    exact ⟨⟨rfl, rfl, rfl, rfl⟩, by simp⟩
  · rw [if_neg hrun]
    cases s.readyService? with
    | none => exact ⟨⟨rfl, rfl, rfl, rfl⟩, by simp⟩
    | some service =>
      by_cases hblank : s.editor.isBlank = true
      · simp only [if_pos hblank]
        exact ⟨⟨rfl, rfl, rfl, rfl⟩, by simp⟩
      · simp only [if_neg hblank]
        exact ⟨⟨rfl, rfl, rfl, rfl⟩, by simp⟩

theorem sameEditing_clearResult (s : Session) : s.SameEditing s.clearResult := by
  rw [clearResult]
  split <;> exact ⟨rfl, rfl, rfl, rfl⟩

theorem sameEditing_perform {a : Action} (h : ∀ e, a ≠ .edit e) (s : Session) :
    s.SameEditing (s.perform a).1 := by
  cases a with
  | execute => exact (sameEditing_execute s).1
  | clear => exact sameEditing_clearResult s
  | edit e => exact absurd rfl (h e)
  | scrollUp => exact ⟨rfl, rfl, rfl, rfl⟩
  | scrollDown => exact ⟨rfl, rfl, rfl, rfl⟩
  | nothing => exact .refl s

theorem perform_ne_quit (a : Action) (s : Session) : (s.perform a).2 ≠ .quit := by
  cases a with
  | execute => exact (sameEditing_execute s).2
  | clear => simp [perform]
  | edit e => simp [perform]
  | scrollUp => simp [perform]
  | scrollDown => simp [perform]
  | nothing => simp [perform]

theorem SameEditing.perform (h : s.SameEditing s') (a : Action) :
    (s.perform a).1.SameEditing (s'.perform a).1 := by
  by_cases hedit : ∃ e, a = .edit e
  · obtain ⟨e, rfl⟩ := hedit
    exact ⟨congrArg (Editor.edit · e) h.editor, h.showsHelp, h.discovery, h.service⟩
  · have hne : ∀ e, a ≠ .edit e := not_exists.1 hedit
    exact ((sameEditing_perform hne s).symm.trans h).trans (sameEditing_perform hne s')

/-! ### Background events -/

theorem actionOf_of_isBackground {k : KeyPress} (h : k.isBackground = true) :
    ∀ e, actionOf k ≠ .edit e := by
  intro e
  obtain ⟨key, control⟩ := k
  cases key with
  | char c =>
    obtain ⟨rfl, hc⟩ := Bool.and_eq_true_iff.1 h
    simp only [actionOf, if_true]
    split
    · simp
    · split <;> simp
  | function n =>
    simp only [actionOf]
    split <;> simp
  | pageUp => simp [actionOf]
  | pageDown => simp [actionOf]
  | _ => exact absurd h (by simp [KeyPress.isBackground])

/-- No key of the background has a meaning of its own while there is no interpreter, or while the
help is shown. -/
theorem key_of_isBackground {k : KeyPress} (h : k.isBackground = true) :
    k.key ≠ .char 'c' ∧ k.key ≠ .function 1 ∧ k.key ≠ .escape ∧ quitsEarly k = false := by
  obtain ⟨key, control⟩ := k
  cases key with
  | char c =>
    have hc : c = 'r' ∨ c = 'l' := by simpa using (Bool.and_eq_true_iff.1 h).2
    rcases hc with rfl | rfl <;> exact ⟨by simp, by simp, by simp, rfl⟩
  | function n =>
    obtain rfl : n = 5 := by simpa [KeyPress.isBackground] using h
    exact ⟨by simp, by simp, by simp, rfl⟩
  | pageUp => exact ⟨by simp, by simp, by simp, rfl⟩
  | pageDown => exact ⟨by simp, by simp, by simp, rfl⟩
  | _ => exact absurd h (by simp [KeyPress.isBackground])

theorem sameEditing_handleKey {k : KeyPress} (h : k.isBackground = true) (s : Session) :
    s.SameEditing (s.handleKey k).1 ∧ (s.handleKey k).2 ≠ .quit := by
  obtain ⟨hquit, hhelp, hescape, hearly⟩ := key_of_isBackground h
  rw [handleKey, if_neg fun hc => hquit hc.2, if_neg hhelp, if_neg hescape, hearly]
  split
  · exact ⟨.refl s, by simp⟩
  · split
    · exact ⟨.refl s, by simp⟩
    · exact ⟨sameEditing_perform (actionOf_of_isBackground h) s, perform_ne_quit _ s⟩

/-- A background event touches nothing that has to do with editing, and does not end a session. -/
theorem sameEditing_handle (h : e.isBackground = true) (s : Session) :
    s.SameEditing (s.handle e).1 ∧ (s.handle e).2 ≠ .quit := by
  cases e with
  | key k => exact sameEditing_handleKey h s
  | paste text => exact absurd h (by simp [Event.isBackground])
  | tick => exact ⟨⟨rfl, rfl, rfl, rfl⟩, by simp [handle]⟩
  | discovered handle => exact absurd h (by simp [Event.isBackground])
  | executed result => exact ⟨⟨rfl, rfl, rfl, rfl⟩, by simp [handle]⟩

/-! ### All events -/

theorem SameEditing.handleKey (h : s.SameEditing s') (k : KeyPress) :
    (s.handleKey k).1.SameEditing (s'.handleKey k).1 ∧
      ((s.handleKey k).2 = .quit ↔ (s'.handleKey k).2 = .quit) := by
  have htoggled : s.toggleHelp.SameEditing s'.toggleHelp :=
    ⟨h.editor, congrArg (!·) h.showsHelp, h.discovery, h.service⟩
  rw [Session.handleKey, Session.handleKey, ← h.showsHelp, ← h.discovery]
  by_cases hquit : k.control = true ∧ k.key = .char 'c'
  · rw [if_pos hquit, if_pos hquit]
    exact ⟨h, Iff.rfl⟩
  · rw [if_neg hquit, if_neg hquit]
    by_cases hhelp : k.key = .function 1
    · rw [if_pos hhelp, if_pos hhelp]
      exact ⟨htoggled, Iff.rfl⟩
    · rw [if_neg hhelp, if_neg hhelp]
      by_cases hshown : s.showsHelp = true
      · rw [if_pos hshown, if_pos hshown]
        refine ⟨?_, Iff.rfl⟩
        by_cases hescape : k.key = .escape
        · simpa only [if_pos hescape] using htoggled
        · simpa only [if_neg hescape] using h
      · rw [if_neg hshown, if_neg hshown]
        by_cases hready : s.discovery ≠ .ready
        · rw [if_pos hready, if_pos hready]
          exact ⟨h, Iff.rfl⟩
        · rw [if_neg hready, if_neg hready]
          exact ⟨h.perform _, by simp [perform_ne_quit]⟩

theorem SameEditing.finishDiscovery (h : s.SameEditing s') (handle : Option Handle) :
    (s.finishDiscovery handle).SameEditing (s'.finishDiscovery handle) := by
  rw [Session.finishDiscovery, Session.finishDiscovery, ← h.discovery]
  by_cases hpending : s.discovery = .pending
  · rw [if_pos hpending, if_pos hpending]
    exact ⟨h.editor, h.showsHelp, rfl, rfl⟩
  · rw [if_neg hpending, if_neg hpending]
    exact h

/-- Every event keeps two sessions the same in what has to do with editing, and ends both or none. -/
theorem SameEditing.handle (h : s.SameEditing s') (e : Event) :
    (s.handle e).1.SameEditing (s'.handle e).1 ∧
      ((s.handle e).2 = .quit ↔ (s'.handle e).2 = .quit) := by
  cases e with
  | key k => exact h.handleKey k
  | paste text =>
    refine ⟨?_, Iff.rfl⟩
    simp only [Session.handle, ← h.discovery]
    split
    · exact ⟨congrArg (Editor.edit · (.insertText text.toList)) h.editor, h.showsHelp, h.discovery,
        h.service⟩
    · exact h
  | tick => exact ⟨⟨h.editor, h.showsHelp, h.discovery, h.service⟩, Iff.rfl⟩
  | discovered handle => exact ⟨h.finishDiscovery handle, Iff.rfl⟩
  | executed result => exact ⟨⟨h.editor, h.showsHelp, h.discovery, h.service⟩, Iff.rfl⟩

/-! ### Runs of the loop -/

theorem foreground_cons_of_background (h : e.isBackground = true) (es : List Event) :
    foreground (e :: es) = foreground es := by simp [foreground, h]

theorem foreground_cons_of_not_background (h : e.isBackground = false) (es : List Event) :
    foreground (e :: es) = e :: foreground es := by simp [foreground, h]

/-- The loop makes of a list of events what it makes of those in the foreground, as far as editing is
concerned. -/
theorem SameEditing.serve (h : s.SameEditing s') (es : List Event) :
    (s.serve es).session.SameEditing (s'.serve (foreground es)).session ∧
      (s.serve es).hasQuit = (s'.serve (foreground es)).hasQuit ∧
      foreground (s.serve es).taken = (s'.serve (foreground es)).taken := by
  induction es generalizing s s' with
  | nil => exact ⟨h, rfl, rfl⟩
  | cons e es ih =>
    cases hback : e.isBackground with
    | true =>
      -- Only the first loop takes the event, and the sessions still agree after it.
      obtain ⟨hsame, hnot⟩ := sameEditing_handle hback s
      rw [foreground_cons_of_background hback, Session.serve, if_neg hnot,
        foreground_cons_of_background hback]
      exact ih (hsame.symm.trans h)
    | false =>
      obtain ⟨hsame, hiff⟩ := h.handle e
      rw [foreground_cons_of_not_background hback, Session.serve, Session.serve]
      by_cases hquit : (s.handle e).2 = .quit
      · rw [if_pos hquit, if_pos (hiff.1 hquit)]
        exact ⟨hsame, rfl, foreground_cons_of_not_background hback []⟩
      · rw [if_neg hquit, if_neg (hquit ∘ hiff.2)]
        obtain ⟨hsession, hended, htaken⟩ := ih hsame
        refine ⟨hsession, hended, ?_⟩
        rw [foreground_cons_of_not_background hback, htaken]

/-- Two lists of events that differ only in the background leave the same text with the same cursor,
show the help both or not, and have found the same; the loop ends at the same event of the
foreground, or in neither. -/
theorem serve_background (s : Session) (es es' : List Event) (h : foreground es = foreground es') :
    (s.serve es).session.editor = (s.serve es').session.editor ∧
      (s.serve es).session.showsHelp = (s.serve es').session.showsHelp ∧
      (s.serve es).session.discovery = (s.serve es').session.discovery ∧
      (s.serve es).session.handle? = (s.serve es').session.handle? ∧
      (s.serve es).hasQuit = (s.serve es').hasQuit ∧
      foreground (s.serve es).taken = foreground (s.serve es').taken := by
  obtain ⟨hsame, hquit, htaken⟩ := (SameEditing.refl s).serve es
  obtain ⟨hsame', hquit', htaken'⟩ := (SameEditing.refl s).serve es'
  rw [h] at hsame hquit htaken
  have hboth := hsame.trans hsame'.symm
  refine ⟨hboth.editor, hboth.showsHelp, hboth.discovery, ?_, hquit.trans hquit'.symm,
    htaken.trans htaken'.symm⟩
  rw [handle?, handle?, hboth.service]

/-- A text is typed and run while the result is scrolled; without that, the same text is there. -/
def typingWhileRunning : List Event :=
  [.discovered (some ⟨"/usr/bin/php", "PHP 8"⟩), .key ⟨.char '1', false⟩, .key ⟨.char 'r', true⟩,
    .tick, .key ⟨.char ';', false⟩, .executed (.completed "1" 0), .key ⟨.pageDown, false⟩,
    .key ⟨.char 'c', true⟩]

theorem serve_background_typing :
    foreground typingWhileRunning = foreground (foreground typingWhileRunning) ∧
      ((start "" []).serve typingWhileRunning).session.result = some (.completed "1" 0) ∧
      ((start "" []).serve typingWhileRunning).hasQuit = true ∧
      ((start "" []).serve typingWhileRunning).session.editor =
        ((start "" []).serve (foreground typingWhileRunning)).session.editor := by
  have hforeground : foreground typingWhileRunning = foreground (foreground typingWhileRunning) := by
    simp [foreground]
  exact ⟨hforeground, rfl, rfl, (serve_background (start "" []) _ _ hforeground).1⟩

end Session

end Scratchpad
