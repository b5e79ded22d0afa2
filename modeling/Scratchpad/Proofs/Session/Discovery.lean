import Scratchpad.Proofs.Session.Change

/-!
# What a session knows of the search

The outcome of a search reaches a session as a message. A session may get several of them and takes
only the first one: `Session.Knows` says what it holds for the outcome that it took, or for none, and
every operation keeps it, with the message that it brings as a new outcome where there was none.

The main statement, `holdsFirst_operateAll`, is about all sequences of operations, the events of the
loop among them.
-/

namespace Scratchpad

open Scratchpad.Execution Scratchpad.Interpreter

/-- What can be done to a session: an event of its loop, or one of its operations by itself. -/
inductive Operation where
  | event (e : Event)
  | finishDiscovery (handle : Option Handle)
  | beginExecution
  | finishExecution (result : Result)
  | clearResult
  | toggleHelp
  | scrollUp
  | scrollDown
  | edit (e : Edit)
  deriving DecidableEq, Repr

namespace Operation

/-- The session after an operation. -/
def run : Operation → Session → Session
  | event e, s => s.after e
  | finishDiscovery handle, s => s.finishDiscovery handle
  | beginExecution, s => s.beginExecution.1
  | finishExecution result, s => s.finishExecution result
  | clearResult, s => s.clearResult
  | toggleHelp, s => s.toggleHelp
  | scrollUp, s => s.scrollUp
  | scrollDown, s => s.scrollDown
  | edit e, s => s.edit e

/-- The outcome of a search that an operation brings. -/
def message? : Operation → Option (Option Handle)
  | event (.discovered handle) => some handle
  | finishDiscovery handle => some handle
  | _ => none

theorem message?_eq_some_iff {op : Operation} {handle : Option Handle} :
    op.message? = some handle ↔ op = event (.discovered handle) ∨ op = finishDiscovery handle := by
  cases op with
  | event e => cases e <;> simp [message?]
  | finishDiscovery handle' => simp [message?]
  | _ => simp [message?]

end Operation

/-- The first outcome of a search that some operations bring. -/
def firstMessage? (ops : List Operation) : Option (Option Handle) :=
  ops.findSome? Operation.message?

/-- How far a search has come whose outcome is known, or is not yet. -/
def Discovery.ofOutcome : Option (Option Handle) → Discovery
  | none => .pending
  | some none => .unavailable
  | some (some _) => .ready

namespace Session

/-- The session after some operations. -/
def operateAll (s : Session) (ops : List Operation) : Session := ops.foldl (fun s op => op.run s) s

/-- All that a session holds of the search is an outcome, or that there is none yet. -/
structure Knows (s : Session) (outcome : Option (Option Handle)) : Prop where
  discovery : s.discovery = .ofOutcome outcome
  service : s.service = outcome.map Service.mk

variable {s s' : Session} {d : Demand} {outcome : Option (Option Handle)} {service : Service}

theorem operateAll_cons (op : Operation) (ops : List Operation) :
    s.operateAll (op :: ops) = (op.run s).operateAll ops := rfl

/-! ### Operations -/

theorem Knows.congr (h : s.Knows outcome) (hdiscovery : s'.discovery = s.discovery)
    (hservice : s'.service = s.service) : s'.Knows outcome :=
  ⟨hdiscovery.trans h.discovery, hservice.trans h.service⟩

theorem Knows.change (h : s.Knows outcome) (hc : s.Change s' d) : s'.Knows outcome := by
  cases hc with
  | kept same calm => exact h.congr same.discovery same.service
  | cleared idle => exact h.congr rfl rfl
  | began idle ready found holds => exact h.congr rfl rfl

/-- A message is taken if there was none before it. -/
theorem Knows.finishDiscovery (h : s.Knows outcome) (handle : Option Handle) :
    (s.finishDiscovery handle).Knows (outcome.or (some handle)) := by
  cases outcome with
  | none =>
    have hpending : s.discovery = .pending := h.discovery
    rw [Session.finishDiscovery, if_pos hpending]
    cases handle with
    | none => exact ⟨rfl, rfl⟩
    | some handle => exact ⟨rfl, rfl⟩
  | some first =>
    have hdone : s.discovery ≠ .pending := by
      rw [h.discovery]
      cases first <;> simp [Discovery.ofOutcome]
    rw [finishDiscovery_of_ne_pending handle s hdone]
    exact h

/-- An operation that brings no message changes nothing that has to do with the search. -/
theorem Knows.run_of_silent (h : s.Knows outcome) {op : Operation} (hop : op.message? = none) :
    (op.run s).Knows outcome := by
  cases op with
  | event e =>
    cases e with
    | key k => exact h.change (change_handle (.key k) s)
    | paste text => exact h.change (change_handle (.paste text) s)
    | tick => exact h.change (change_handle .tick s)
    | discovered handle => exact absurd hop (by simp [Operation.message?])
    | executed result => exact h.congr rfl rfl
  | finishDiscovery handle => exact absurd hop (by simp [Operation.message?])
  | beginExecution =>
    -- what an attempt to run changes is known for the key that makes it
    rw [Operation.run, ← fst_execute]
    exact h.change (change_execute s)
  | finishExecution result => exact h.congr rfl rfl
  | clearResult => exact h.change (change_clearResult s)
  | toggleHelp => exact h.congr rfl rfl
  | scrollUp => exact h.congr rfl rfl
  | scrollDown => exact h.congr rfl rfl
  | edit e => exact h.congr rfl rfl

theorem Knows.run (h : s.Knows outcome) (op : Operation) :
    (op.run s).Knows (outcome.or op.message?) := by
  cases hop : op.message? with
  | none =>
    rw [Option.or_none]
    exact h.run_of_silent hop
  | some handle =>
    rcases Operation.message?_eq_some_iff.1 hop with rfl | rfl
    · exact h.finishDiscovery handle
    · exact h.finishDiscovery handle

theorem Knows.operateAll (h : s.Knows outcome) (ops : List Operation) :
    (s.operateAll ops).Knows (outcome.or (firstMessage? ops)) := by
  induction ops generalizing s outcome with
  | nil =>
    rw [firstMessage?, List.findSome?_nil, Option.or_none]
    exact h
  | cons op ops ih =>
    have hfirst : firstMessage? (op :: ops) = op.message?.or (firstMessage? ops) := by
      rw [firstMessage?, List.findSome?_cons]
      cases op.message? <;> rfl
    rw [operateAll_cons, hfirst, ← Option.or_assoc]
    exact ih (h.run op)

theorem knows_start (source : String) (searched : List String) :
    (start source searched).Knows none := ⟨rfl, rfl⟩

/-! ### What is known -/

theorem Knows.pending_iff (h : s.Knows outcome) : s.discovery = .pending ↔ s.service = none := by
  rw [h.discovery, h.service]
  rcases outcome with _ | _ | handle <;> simp [Discovery.ofOutcome]

theorem Knows.ready_iff (h : s.Knows outcome) :
    s.discovery = .ready ↔ ∃ handle, s.service = some ⟨some handle⟩ := by
  rw [h.discovery, h.service]
  rcases outcome with _ | _ | handle <;> simp [Discovery.ofOutcome]

theorem Knows.unavailable_iff (h : s.Knows outcome) :
    s.discovery = .unavailable ↔ s.service = some ⟨none⟩ := by
  rw [h.discovery, h.service]
  rcases outcome with _ | _ | handle <;> simp [Discovery.ofOutcome]

theorem version?_of_service {handle : Option Handle} (h : s.service = some ⟨handle⟩) :
    s.version? = handle.map Handle.version := by
  rw [version?, handle?, h]
  rfl

/-- A session that has taken a message knows the same after any operations. -/
theorem Knows.operateAll_of_done (h : s.Knows outcome) (hdone : s.discovery ≠ .pending)
    (ops : List Operation) :
    (s.operateAll ops).discovery = s.discovery ∧ (s.operateAll ops).service = s.service := by
  have hafter := h.operateAll ops
  cases outcome with
  | none => exact absurd h.discovery hdone
  | some first =>
    rw [Option.some_or] at hafter
    exact ⟨hafter.discovery.trans h.discovery.symm, hafter.service.trans h.service.symm⟩

/-- Whatever a session demands to be run, it is run with the interpreter that was found first. -/
theorem Knows.of_began (h : s.Knows outcome) {text : String}
    (hc : s.Change s' (.execute service text)) :
    ∃ handle, outcome = some (some handle) ∧ service = ⟨some handle⟩ := by
  cases hc with
  | kept same calm => rcases calm with hcalm | hcalm <;> exact absurd hcalm (by simp)
  | began idle ready found holds =>
    obtain ⟨handle, hhandle⟩ := h.ready_iff.1 ready
    obtain rfl := Option.some.inj (found.symm.trans hhandle)
    refine ⟨handle, ?_, rfl⟩
    rw [h.service, Option.map_eq_some_iff] at found
    obtain ⟨first, rfl, hfirst⟩ := found
    rw [Service.mk.injEq] at hfirst
    rw [hfirst]

/-- Only an input makes a session demand a run. -/
theorem exists_change_of_demand {e : Event} {text : String}
    (h : (s.handle e).2 = .execute service text) : ∃ s', s.Change s' (.execute service text) := by
  cases e with
  | key k => exact ⟨_, h ▸ change_handle (.key k) s⟩
  | paste text => exact absurd h (by simp [handle])
  | tick => exact absurd h (by simp [handle])
  | discovered handle => exact absurd h (by simp [Session.handle])
  | executed result => exact absurd h (by simp [handle])

theorem change_of_beginExecution {text : String}
    (h : s.beginExecution = (s', some (service, text))) : s.Change s' (.execute service text) := by
  have hc := change_execute s
  rw [execute, h] at hc
  exact hc

/-! ### Sequences of operations -/

/-- How the parts of a session that have to do with the search belong together: they hold the outcome
that came first, or none; they never change once there is one; and a run that starts gets it. -/
structure HoldsFirst (s : Session) (outcome : Option (Option Handle)) : Prop where
  service_eq : s.service = outcome.map Service.mk
  pending_iff : s.discovery = .pending ↔ s.service = none
  ready_iff : s.discovery = .ready ↔ ∃ handle, s.service = some ⟨some handle⟩
  unavailable_iff : s.discovery = .unavailable ↔ s.service = some ⟨none⟩
  version_of_handle : ∀ handle, s.service = some ⟨some handle⟩ → s.version? = some handle.version
  version_of_unavailable : s.discovery = .unavailable → s.version? = none
  stable : s.discovery ≠ .pending → ∀ more : List Operation,
    (s.operateAll more).discovery = s.discovery ∧ (s.operateAll more).service = s.service
  began : ∀ s' service text, s.beginExecution = (s', some (service, text)) →
    ∃ handle, outcome = some (some handle) ∧ service = ⟨some handle⟩
  demanded : ∀ e service text, (s.handle e).2 = .execute service text →
    ∃ handle, outcome = some (some handle) ∧ service = ⟨some handle⟩

/-- After any operations and events, in any order and with any number of messages from the search, a
session holds the first of these messages, or that there was none. -/
theorem holdsFirst_operateAll (source : String) (searched : List String) (ops : List Operation) :
    ((start source searched).operateAll ops).HoldsFirst (firstMessage? ops) := by
  have h : ((start source searched).operateAll ops).Knows (firstMessage? ops) := by
    simpa using (knows_start source searched).operateAll ops
  refine ⟨h.service, h.pending_iff, h.ready_iff, h.unavailable_iff, ?_, ?_, h.operateAll_of_done,
    ?_, ?_⟩
  · intro handle hhandle
    exact version?_of_service hhandle
  · intro hunavailable
    exact version?_of_service (h.unavailable_iff.1 hunavailable)
  · intro s' service text hbegin
    exact h.of_began (change_of_beginExecution hbegin)
  · intro e service text hdemand
    obtain ⟨s', hc⟩ := exists_change_of_demand hdemand
    exact h.of_began hc

/-- A second message comes too late. -/
example : ((start "" []).operateAll
    [.finishDiscovery none, .event (.discovered (some ⟨"/usr/bin/php", "PHP 8"⟩))]).discovery =
      .unavailable := rfl

end Session

end Scratchpad
