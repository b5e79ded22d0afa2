import Scratchpad.Proofs.Session.Modal

/-!
# How far a new result is scrolled

A run sets the result back to its first row when it starts, and brings the result when it ends. In
between the keys that scroll still count, unless the help covers them, though there is nothing to
scroll; the result is then shown from where they have led.

`scrolled` follows these keys. The main statement, `scroll_after_run`, is about all events between
the start of a run and its end.
-/

namespace Scratchpad

open Scratchpad.Execution Scratchpad.Interpreter

namespace Event

/-- Where an event moves a result that is scrolled by `n` rows. -/
def scroll (e : Event) (n : Nat) : Nat :=
  match e with
  | key ⟨.pageUp, _⟩ => n - 1
  | key ⟨.pageDown, _⟩ => min (n + 1) Session.farthestScroll
  | _ => n

/-- Whether the help is shown after an event. -/
def help (e : Event) (shown : Bool) : Bool :=
  match e with
  | key k => if k.togglesHelp shown then !shown else shown
  | _ => shown

end Event

/-- How far a result is scrolled after some events; those that come while the help is shown do not
count. -/
def scrolled (shown : Bool) (n : Nat) : List Event → Nat
  | [] => n
  | e :: es => scrolled (e.help shown) (if shown then n else e.scroll n) es

/-- Where nothing scrolls on, the first row stays in sight. -/
theorem scrolled_zero {es : List Event} (h : ∀ control, .key ⟨.pageDown, control⟩ ∉ es)
    (shown : Bool) : scrolled shown 0 es = 0 := by
  induction es generalizing shown with
  | nil => rfl
  | cons e es ih =>
    have hrest := fun control hmem => h control (List.mem_cons_of_mem e hmem)
    have hzero : e.scroll 0 = 0 := by
      unfold Event.scroll
      split
      · rfl
      · next control => exact absurd List.mem_cons_self (h control)
      · rfl
    rw [scrolled, hzero, ite_self]
    exact ih hrest (e.help shown)

namespace Session

/-- A run is under way. -/
structure Running (s : Session) : Prop where
  executing : s.isExecuting = true
  ready : s.discovery = .ready

variable {s : Session} {e : Event}

/-! ### Events during a run -/

theorem scroll_key_of_togglesHelp {k : KeyPress} {shown : Bool} (h : k.togglesHelp shown = true)
    (n : Nat) : (Event.key k).scroll n = n := by
  obtain ⟨key, control⟩ := k
  cases key with
  | pageUp => simp [KeyPress.togglesHelp] at h
  | pageDown => simp [KeyPress.togglesHelp] at h
  | _ => rfl

/-- Where an action moves a result that is scrolled by `n` rows while a run is under way. -/
def Action.scroll (a : Action) (n : Nat) : Nat :=
  match a with
  | scrollUp => n - 1
  | scrollDown => min (n + 1) farthestScroll
  | _ => n

theorem scroll_actionOf (k : KeyPress) (n : Nat) :
    (actionOf k).scroll n = (Event.key k).scroll n := by
  obtain ⟨key, control⟩ := k
  cases key with
  | char c =>
    simp only [actionOf]
    split
    · split
      · rfl
      · split <;> rfl
    · rfl
  | function number =>
    simp only [actionOf]
    split <;> rfl
  | _ => rfl

/-- While a run is under way no action touches it. -/
theorem Running.perform (h : s.Running) (a : Action) :
    (s.perform a).1.Running ∧ (s.perform a).1.showsHelp = s.showsHelp ∧
      (s.perform a).1.scroll = a.scroll s.scroll := by
  cases a with
  | execute =>
    rw [Session.perform, fst_execute, beginExecution_of_executing s h.executing]
    exact ⟨⟨h.executing, h.ready⟩, rfl, rfl⟩
  | clear =>
    rw [Session.perform, clearResult_of_executing s h.executing]
    exact ⟨h, rfl, rfl⟩
  | edit e => exact ⟨⟨h.executing, h.ready⟩, rfl, rfl⟩
  | scrollUp => exact ⟨⟨h.executing, h.ready⟩, rfl, rfl⟩
  | scrollDown => exact ⟨⟨h.executing, h.ready⟩, rfl, rfl⟩
  | nothing => exact ⟨h, rfl, rfl⟩

theorem Running.after (h : s.Running) (he : e.result? = none) :
    (s.after e).Running ∧ (s.after e).showsHelp = e.help s.showsHelp ∧
      (s.after e).scroll = if s.showsHelp then s.scroll else e.scroll s.scroll := by
  cases e with
  | key k =>
    rw [after_key, Event.help]
    split
    · next hturn =>
      rw [scroll_key_of_togglesHelp hturn, ite_self]
      exact ⟨⟨h.executing, h.ready⟩, rfl, rfl⟩
    · split
      · next hcovered =>
        rw [if_pos (hcovered.resolve_right (not_not.2 h.ready))]
        exact ⟨h, rfl, rfl⟩
      · next hopen =>
        rw [if_neg fun hshown => hopen (.inl hshown), ← scroll_actionOf]
        exact h.perform (actionOf k)
  | paste text =>
    rw [after, handle, if_pos h.ready]
    exact ⟨⟨h.executing, h.ready⟩, rfl, (ite_self _).symm⟩
  | tick => exact ⟨⟨h.executing, h.ready⟩, rfl, (ite_self _).symm⟩
  | discovered handle =>
    have hdone : s.discovery ≠ .pending := by simp [h.ready]
    rw [after, Session.handle, finishDiscovery_of_ne_pending handle s hdone]
    exact ⟨h, rfl, (ite_self _).symm⟩
  | executed result => cases he

theorem Running.scroll_afterAll (h : s.Running) {es : List Event}
    (hes : ∀ e ∈ es, e.result? = none) :
    (s.afterAll es).scroll = scrolled s.showsHelp s.scroll es := by
  induction es generalizing s with
  | nil => rfl
  | cons e es ih =>
    obtain ⟨he, hrest⟩ := List.forall_mem_cons.1 hes
    obtain ⟨hnext, hhelp, hscroll⟩ := h.after he
    rw [afterAll_cons, ih hnext hrest, hhelp, hscroll, scrolled]

/-! ### A whole run -/

/-- A run starts at the first row, and never under the help. -/
theorem running_of_demand {service : Service} {source : String}
    (h : (s.handle e).2 = .execute service source) :
    (s.after e).Running ∧ (s.after e).showsHelp = false ∧ (s.after e).scroll = 0 := by
  cases e with
  | key k =>
    have hc := change_handle (.key k) s
    rw [Input.event, h] at hc
    have hcovered := fun hcovered => (sameWork_handleKey (s := s) hcovered k).isExecuting
    rw [after]
    rw [handle] at hc ⊢
    generalize (s.handleKey k).1 = s' at hc hcovered ⊢
    cases hc with
    | kept same calm => rcases calm with hcalm | hcalm <;> cases hcalm
    | began idle ready found holds =>
      -- under the help the key would have left the session idle
      refine ⟨⟨rfl, ready⟩, Bool.eq_false_iff.2 fun hshown => ?_, rfl⟩
      exact absurd ((hcovered (.inl hshown)).trans idle) (by simp)
  | paste text => exact absurd h (by simp [handle])
  | tick => exact absurd h (by simp [handle])
  | discovered handle => exact absurd h (by simp [Session.handle])
  | executed result => exact absurd h (by simp [handle])

/-- When a run comes to its end, its result is scrolled as far as the keys have led that were
pressed since the run started, from the first row on; so it is shown from there unless one of them
scrolls down. -/
theorem scroll_after_run (s : Session) (e : Event) (service : Service) (source : String)
    (h : (s.handle e).2 = .execute service source) (since : List Event)
    (hsince : ∀ e ∈ since, e.result? = none) (result : Result) :
    (s.afterAll (e :: since ++ [.executed result])).result = some result ∧
      (s.afterAll (e :: since ++ [.executed result])).scroll = scrolled false 0 since ∧
      ((∀ control, .key ⟨.pageDown, control⟩ ∉ since) →
        (s.afterAll (e :: since ++ [.executed result])).scroll = 0) := by
  obtain ⟨hrunning, hhidden, hfirst⟩ := running_of_demand h
  have hafter : s.afterAll (e :: since ++ [.executed result]) =
      ((s.after e).afterAll since).finishExecution result := afterAll_append _ _ _
  have hscroll : (((s.after e).afterAll since).finishExecution result).scroll =
      scrolled false 0 since := by
    rw [← hhidden, ← hfirst]
    exact hrunning.scroll_afterAll hsince
  rw [hafter]
  refine ⟨rfl, hscroll, fun hdown => ?_⟩
  rw [hscroll, scrolled_zero hdown]

/-- A session with a text and an interpreter. -/
def readySession : Session := (start "1;" []).after (.discovered (some ⟨"/bin/echo", "PHP 8"⟩))

/-- What is pressed during a run: the result is scrolled down twice and up once, and under the help
once more. -/
def pressedMeanwhile : List Event :=
  [.key ⟨.pageDown, false⟩, .tick, .key ⟨.function 1, false⟩, .key ⟨.pageDown, false⟩,
    .key ⟨.escape, false⟩, .key ⟨.pageDown, true⟩, .key ⟨.pageUp, false⟩]

theorem scroll_after_run_pressed :
    (readySession.handle (.key ⟨.function 5, false⟩)).2 =
        .execute ⟨some ⟨"/bin/echo", "PHP 8"⟩⟩ "1;" ∧
      (readySession.afterAll (.key ⟨.function 5, false⟩ :: pressedMeanwhile ++
        [.executed (.completed "-r 1;\n" 0)])).scroll = 1 := by
  have hstarted : (readySession.handle (.key ⟨.function 5, false⟩)).2 =
      .execute ⟨some ⟨"/bin/echo", "PHP 8"⟩⟩ "1;" := by decide +kernel
  have hrun := scroll_after_run readySession _ _ _ hstarted pressedMeanwhile (by decide)
    (.completed "-r 1;\n" 0)
  exact ⟨hstarted, hrun.2.1⟩

/-- A page down during a run hides the first row of its result. -/
theorem scroll_after_pageDown :
    (readySession.afterAll [.key ⟨.function 5, false⟩, .key ⟨.pageDown, false⟩,
        .executed (.completed "-r 1;\n" 0)]).result = some (.completed "-r 1;\n" 0) ∧
      (readySession.afterAll [.key ⟨.function 5, false⟩, .key ⟨.pageDown, false⟩,
        .executed (.completed "-r 1;\n" 0)]).scroll = 1 := by
  decide +kernel

end Session

end Scratchpad
