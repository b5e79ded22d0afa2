import Scratchpad.Proofs.Session.Loop

/-!
# Runs and results stay in order

At most one run is under way, and the session knows it. `Loop.Orderly` is the invariant: all runs but
the last one are settled, and of the last one it says how far it has come and what of it waits in the
queue. Only a demand of the session starts a run, only a result that waits ends one for the session,
and neither can happen out of turn.
-/

namespace Scratchpad

open Scratchpad.Execution Scratchpad.Interpreter

namespace Loop

/-- All of these runs have come to their end, and their results are the taken ones, in order. -/
structure Settled (runs : List Run) (taken : List (Nat × Result)) : Prop where
  numbers : taken.map Prod.fst = List.range runs.length
  outcomes : runs.map Run.outcome = taken.map fun report => some report.2

/-- Where the last run stands, and what of it waits in the queue. -/
inductive Phase (runs : List Run) (taken waiting : List (Nat × Result)) (isExecuting : Bool) :
    Prop where
  /-- Its result was taken, as those of all others. -/
  | idle (quiet : isExecuting = false) (settled : Settled runs taken) (empty : waiting = [])
  /-- The runs before it were settled; it still runs, or its result waits. -/
  | busy (running : isExecuting = true) {done : List Run} {last : Run}
      (split : runs = done ++ [last]) (settled : Settled done taken)
      (sent : waiting = (last.outcome.map fun result => (done.length, result)).toList)

/-- A session runs only what it may, and shows no old result while it does. -/
structure Coherent (s : Session) : Prop where
  handle_of_ready : s.discovery = .ready → s.handle?.isSome = true
  of_executing : s.isExecuting = true → s.discovery = .ready ∧ s.result = none

/-- What holds of the loop at any time. -/
structure Orderly (l : Loop) : Prop where
  phase : Phase l.runs l.taken l.waiting l.session.isExecuting
  coherent : Coherent l.session
  shown : ∀ r, l.session.result = some r → ∃ n, l.taken.getLast? = some (n, r)

variable {l l' : Loop} {runs done : List Run} {taken : List (Nat × Result)}

/-! ### Settled runs -/

theorem settled_nil : Settled [] [] := ⟨rfl, rfl⟩

theorem Settled.length_eq (h : Settled runs taken) : taken.length = runs.length := by
  have hlen := congrArg List.length h.outcomes
  simpa using hlen.symm

theorem Settled.concat (h : Settled done taken) {last : Run} {r : Result}
    (hr : last.outcome = some r) :
    Settled (done ++ [last]) (taken ++ [(done.length, r)]) := by
  constructor
  · rw [List.map_append, h.numbers, List.length_append, List.length_singleton, List.range_succ]
    rfl
  · rw [List.map_append, List.map_append, h.outcomes, List.map_singleton, hr]
    rfl

theorem Settled.getElem? (h : Settled runs taken) (n : Nat) :
    runs[n]?.map Run.outcome = taken[n]?.map fun report => some report.2 := by
  rw [← List.getElem?_map, ← List.getElem?_map, h.outcomes]

theorem Settled.outcome_ne_none (h : Settled runs taken) {n : Nat} {run : Run}
    (hrun : runs[n]? = some run) : run.outcome ≠ none := by
  have heq := h.getElem? n
  rw [hrun] at heq
  obtain ⟨report, -, hreport⟩ := Option.map_eq_some_iff.1 heq.symm
  rw [← hreport]
  exact Option.some_ne_none report.2

/-- Results are numbered in the order in which they were taken. -/
theorem Settled.eq_of_getElem? (h : Settled runs taken) {m n : Nat} {r : Result}
    (hm : taken[m]? = some (n, r)) : n = m := by
  have hnum : (taken.map Prod.fst)[m]? = some n := by rw [List.getElem?_map, hm]; rfl
  rw [h.numbers] at hnum
  obtain ⟨hlt, heq⟩ := List.getElem?_eq_some_iff.1 hnum
  rw [← heq, List.getElem_range]

theorem Settled.mem_iff (h : Settled runs taken) {n : Nat} {r : Result} :
    (n, r) ∈ taken ↔ runs[n]?.bind Run.outcome = some r := by
  constructor
  · intro hmem
    obtain ⟨m, hm⟩ := List.mem_iff_getElem?.1 hmem
    obtain rfl := h.eq_of_getElem? hm
    have heq := h.getElem? n
    rw [hm] at heq
    obtain ⟨run, hrun, hout⟩ := Option.map_eq_some_iff.1 heq
    rw [hrun]
    exact hout
  · intro hbind
    obtain ⟨run, hrun, hout⟩ := Option.bind_eq_some_iff.1 hbind
    have heq := h.getElem? n
    rw [hrun] at heq
    obtain ⟨⟨m, r'⟩, hm, hr⟩ := Option.map_eq_some_iff.1 heq.symm
    obtain rfl := h.eq_of_getElem? hm
    obtain rfl := Option.some.inj (hr.trans hout)
    exact List.mem_of_getElem? hm

theorem getElem?_concat_of_lt {last : Run} {n : Nat} (h : done.length < n) :
    (done ++ [last])[n]? = none := by
  refine List.getElem?_eq_none ?_
  rw [List.length_append, List.length_singleton]
  exact h

/-! ### What a session keeps -/

theorem Coherent.change {s s' : Session} {d : Demand} (h : Coherent s) (hc : s.Change s' d) :
    Coherent s' := by
  cases hc with
  | kept same calm =>
    obtain ⟨hdiscovery, hservice, hresult, hexec⟩ := same
    constructor
    · intro hready
      rw [Session.handle?, hservice]
      exact h.handle_of_ready (hdiscovery ▸ hready)
    · intro hrun
      rw [hdiscovery, hresult]
      exact h.of_executing (hexec ▸ hrun)
  | cleared idle => exact ⟨h.handle_of_ready, fun hrun => ⟨(h.of_executing hrun).1, rfl⟩⟩
  | began idle ready found holds => exact ⟨h.handle_of_ready, fun _ => ⟨ready, rfl⟩⟩

theorem Coherent.finishDiscovery {s : Session} (h : Coherent s) (handle : Option Handle) :
    Coherent (s.finishDiscovery handle) := by
  rw [Session.finishDiscovery]
  by_cases hpending : s.discovery = .pending
  · rw [if_pos hpending]
    -- a run cannot be under way, since it needs a search that was finished
    have hidle : s.isExecuting ≠ true := by
      intro hrun
      have hready := (h.of_executing hrun).1
      rw [hpending] at hready
      exact absurd hready (by decide)
    refine ⟨?_, fun hrun => absurd hrun hidle⟩
    intro hready
    cases handle with
    | none => exact absurd hready (by simp [Session.withUsualStatus])
    | some handle => rfl
  · rw [if_neg hpending]
    exact h

theorem Coherent.finishExecution {s : Session} (h : Coherent s) (result : Result) :
    Coherent (s.finishExecution result) :=
  ⟨h.handle_of_ready, fun hrun => absurd hrun (by simp [Session.finishExecution,
    Session.withUsualStatus])⟩

/-! ### Steps of the tasks -/

/-- A message without a result may be sent at any time. -/
theorem Orderly.send (h : l.Orderly) {message : Message} (hm : message.report? = none) :
    (l.send message).Orderly := by
  refine ⟨?_, h.coherent, h.shown⟩
  rw [waiting_send, hm, Option.toList_none, List.append_nil]
  exact h.phase

theorem Orderly.finish {n : Nat} {r : Result} (h : l.Orderly) (hl : l.finish? n r = some l') :
    l'.Orderly := by
  obtain ⟨run, hrun, hl⟩ := Option.bind_eq_some_iff.1 hl
  by_cases hout : run.outcome = none
  · rw [if_pos hout] at hl
    obtain rfl := Option.some.inj hl
    refine ⟨?_, h.coherent, h.shown⟩
    have hwaiting := @waiting_send l (.executed n r)
    cases h.phase with
    | idle quiet settled empty => exact absurd hout (settled.outcome_ne_none hrun)
    | @busy running done last split settled sent =>
      rw [split] at hrun
      -- the runs before the last one have results, so it must be the last one that ends
      have hn : n = done.length := by
        rcases Nat.lt_trichotomy n done.length with hlt | heq | hgt
        · rw [List.getElem?_append_left hlt] at hrun
          exact absurd hout (settled.outcome_ne_none hrun)
        · exact heq
        · rw [getElem?_concat_of_lt hgt] at hrun
          exact absurd hrun (by simp)
      subst hn
      obtain rfl : last = run := by simpa using hrun
      refine @Phase.busy _ _ _ _ running done { last with outcome := some r } ?_ settled ?_
      · simp [split]
      · rw [sent, hout] at hwaiting
        exact hwaiting
  · rw [if_neg hout] at hl
    exact absurd hl (by simp)

/-! ### Steps of the loop -/

/-- A message without a result may leave the queue at any time. -/
theorem Orderly.drop {message : Message} {queue : List Message} (h : l.Orderly)
    (hq : l.queue = message :: queue) (hm : message.report? = none) :
    ({ l with queue } : Loop).Orderly := by
  refine ⟨?_, h.coherent, h.shown⟩
  have hwaiting : l.waiting = queue.filterMap Message.report? := by
    rw [waiting, hq, List.filterMap_cons_none hm]
  have hphase := h.phase
  rw [hwaiting] at hphase
  exact hphase

/-- An input brings no result, and starts a run only when all others are settled. -/
theorem Orderly.receive_input {i : Input} (h : l.Orderly)
    (hl : l.receive? (.input i) = some l') : l'.Orderly := by
  have heq := eq_of_receive? hl
  have hc := Session.change_handle i l.session
  rw [Message.event] at heq
  generalize l.session.handle i.event = next at heq hc
  obtain ⟨s', d⟩ := next
  subst heq
  have hcoherent := h.coherent.change hc
  cases hc with
  | kept same calm =>
    have hrun : d.run? = none := by rcases calm with rfl | rfl <;> rfl
    refine ⟨?_, hcoherent, ?_⟩
    · simp only [hrun, Message.report?, Option.toList_none, List.append_nil]
      rw [same.isExecuting]
      exact h.phase
    · intro r hr
      simp only [Message.report?, Option.toList_none, List.append_nil]
      exact h.shown r (same.result ▸ hr)
  | cleared idle =>
    refine ⟨?_, hcoherent, ?_⟩
    · simp only [Demand.run?, Message.report?, Option.toList_none, List.append_nil]
      exact h.phase
    · intro r hr
      exact absurd hr (by simp)
  | began idle ready found holds =>
    refine ⟨?_, hcoherent, ?_⟩
    · simp only [Demand.run?, Message.report?, Option.toList_none, List.append_nil]
      cases h.phase with
      | idle quiet settled empty =>
        -- the new run is the last one, and it has sent nothing yet
        exact .busy rfl rfl settled empty
      | busy running split settled sent => exact absurd running (by simp [idle])
    · intro r hr
      exact absurd hr (by simp)

theorem Orderly.receive_discovered {handle : Option Handle} (h : l.Orderly)
    (hl : l.receive? (.discovered handle) = some l') : l'.Orderly := by
  obtain rfl := eq_of_receive? hl
  refine ⟨?_, h.coherent.finishDiscovery handle, ?_⟩
  · simp only [Message.event, Session.handle, Demand.run?, Message.report?, Option.toList_none,
      List.append_nil]
    rw [Session.isExecuting_finishDiscovery]
    exact h.phase
  · intro r hr
    simp only [Message.report?, Option.toList_none, List.append_nil]
    exact h.shown r (Session.result_finishDiscovery handle l.session ▸ hr)

/-- A result that waits is that of the last run, and after it all runs are settled. -/
theorem Orderly.receive_executed {n : Nat} {r : Result} {queue : List Message} (h : l.Orderly)
    (hq : l.queue = .executed n r :: queue)
    (hl : ({ l with queue } : Loop).receive? (.executed n r) = some l') : l'.Orderly := by
  obtain rfl := eq_of_receive? hl
  have hwaiting : l.waiting = (n, r) :: queue.filterMap Message.report? := by
    rw [waiting, hq]
    rfl
  refine ⟨?_, h.coherent.finishExecution r, ?_⟩
  · cases h.phase with
    | idle quiet settled empty =>
      -- no result waits while no run is under way
      rw [empty] at hwaiting
      exact absurd hwaiting (by simp)
    | @busy running done last split settled sent =>
      rw [hwaiting] at sent
      cases hout : last.outcome with
      | none =>
        rw [hout] at sent
        exact absurd sent (by simp)
      | some r' =>
        rw [hout] at sent
        simp only [Option.map_some, Option.toList_some, List.cons.injEq, Prod.mk.injEq] at sent
        obtain ⟨⟨rfl, rfl⟩, hrest⟩ := sent
        refine .idle rfl ?_ hrest
        simp only [Message.event, Session.handle, Demand.run?, Message.report?, Option.toList_none,
          Option.toList_some, List.append_nil, split]
        exact settled.concat hout
  · intro r' hr'
    have hr : r = r' := Option.some.inj hr'
    refine ⟨n, ?_⟩
    simp [Message.report?, hr]

/-- Every move keeps the loop in order. -/
theorem Orderly.move {m : Move} (h : l.Orderly) (hl : l.move? m = some l') : l'.Orderly := by
  cases m with
  | input i =>
    obtain rfl := Option.some.inj hl
    exact h.send rfl
  | search handle =>
    rw [move?] at hl
    by_cases hsearch : l.isSearching = true
    · rw [if_pos hsearch] at hl
      obtain rfl := Option.some.inj hl
      have hsent : (l.send (.discovered handle)).Orderly := h.send rfl
      exact ⟨hsent.phase, hsent.coherent, hsent.shown⟩
    · rw [if_neg hsearch] at hl
      exact absurd hl (by simp)
  | finish n r => exact h.finish hl
  | take =>
    rw [move?] at hl
    cases hq : l.queue with
    | nil =>
      rw [hq] at hl
      exact absurd hl (by simp)
    | cons message queue =>
      rw [hq] at hl
      cases message with
      | input i => exact (h.drop hq rfl).receive_input hl
      | discovered handle => exact (h.drop hq rfl).receive_discovered hl
      | executed n r => exact h.receive_executed hq hl

/-! ### Runs of the loop -/

theorem orderly_start (source : String) (searched : List String) :
    (start source searched).Orderly := by
  refine ⟨.idle rfl settled_nil rfl, ⟨?_, ?_⟩, ?_⟩
  · intro hready
    exact absurd hready (by simp [start, Session.start])
  · intro hrun
    exact absurd hrun (by simp [start, Session.start])
  · intro r hr
    exact absurd hr (by simp [start, Session.start])

theorem Orderly.moveAll {moves : List Move} (h : l.Orderly) (hl : l.moveAll? moves = some l') :
    l'.Orderly := by
  induction moves generalizing l with
  | nil =>
    obtain rfl := Option.some.inj hl
    exact h
  | cons m moves ih =>
    rw [moveAll?, List.foldlM_cons] at hl
    obtain ⟨l₁, hm, hl⟩ := Option.bind_eq_some_iff.1 hl
    exact ih (h.move hm) hl

theorem Orderly.length_runs (h : l.Orderly) :
    l.runs.length = l.taken.length + if l.session.isExecuting then 1 else 0 := by
  cases h.phase with
  | idle quiet settled empty => simp [quiet, settled.length_eq]
  | busy running split settled sent => simp [running, split, settled.length_eq]

theorem Orderly.numbers (h : l.Orderly) : l.taken.map Prod.fst = List.range l.taken.length := by
  cases h.phase with
  | idle quiet settled empty => rw [settled.numbers, settled.length_eq]
  | busy running split settled sent => rw [settled.numbers, settled.length_eq]

/-- A run has a result exactly if this was taken or waits, so none gets lost on the way. -/
theorem Orderly.mem_taken_or_waiting (h : l.Orderly) (n : Nat) (r : Result) :
    (n, r) ∈ l.taken ∨ (n, r) ∈ l.waiting ↔ l.runs[n]?.bind Run.outcome = some r := by
  cases h.phase with
  | idle quiet settled empty => simp only [empty, List.not_mem_nil, or_false, settled.mem_iff]
  | @busy running done last split settled sent =>
    rw [settled.mem_iff, sent, split, Option.mem_toList, Option.map_eq_some_iff]
    rcases Nat.lt_trichotomy n done.length with hlt | rfl | hgt
    · -- a run that was settled before the last one was started
      rw [List.getElem?_append_left hlt]
      constructor
      · rintro (hbind | ⟨r', -, heq⟩)
        · exact hbind
        · exact absurd (Prod.mk.inj heq).1 (by omega)
      · exact .inl
    · simp
    · have hdone : done[n]? = none := List.getElem?_eq_none (by omega)
      rw [hdone, getElem?_concat_of_lt hgt]
      constructor
      · rintro (hbind | ⟨r', -, heq⟩)
        · exact hbind
        · exact absurd (Prod.mk.inj heq).1 (by omega)
      · exact .inl

/-- The result that is shown is that of the run that was started last. -/
theorem Orderly.outcome_of_result (h : l.Orderly) {r : Result}
    (hr : l.session.result = some r) :
    ∃ run, l.runs.getLast? = some run ∧ run.outcome = some r := by
  obtain ⟨n, hlast⟩ := h.shown r hr
  cases h.phase with
  | idle quiet settled empty =>
    have heq := congrArg List.getLast? settled.outcomes
    rw [List.getLast?_map, List.getLast?_map, hlast] at heq
    exact Option.map_eq_some_iff.1 heq
  | busy running split settled sent =>
    have hnone := (h.coherent.of_executing running).2
    rw [hr] at hnone
    exact absurd hnone (by simp)

/-- At any time, whatever the order of the messages: at most one run is under way, and it is so
exactly if the session says so; a session that runs something has an interpreter and shows no
result; a result that is shown is that of the run started last; and results are taken in the order
of the runs, none twice, none lost and none changed. -/
theorem inOrder_of_moveAll? (source : String) (searched : List String) (moves : List Move) (l : Loop)
    (h : (start source searched).moveAll? moves = some l) :
    (l.runs.length = l.taken.length + if l.session.isExecuting then 1 else 0) ∧
      (l.session.isExecuting = true →
        l.session.discovery = .ready ∧ l.session.handle?.isSome = true ∧
          l.session.result = none) ∧
      (∀ r, l.session.result = some r →
        ∃ run, l.runs.getLast? = some run ∧ run.outcome = some r) ∧
      l.taken.map Prod.fst = List.range l.taken.length ∧
      ∀ n r, (n, r) ∈ l.taken ∨ (n, r) ∈ l.waiting ↔ l.runs[n]?.bind Run.outcome = some r := by
  have horder := (orderly_start source searched).moveAll h
  refine ⟨horder.length_runs, ?_, ?_, horder.numbers, horder.mem_taken_or_waiting⟩
  · intro hrun
    obtain ⟨hready, hresult⟩ := horder.coherent.of_executing hrun
    exact ⟨hready, horder.coherent.handle_of_ready hready, hresult⟩
  · intro r hr
    exact horder.outcome_of_result hr

/-- An interpreter is found and a run is started; while it is under way, another one is asked for in
vain, and its result comes before the loop has seen that. -/
def oneRun : List Move :=
  [.search (some ⟨"/usr/bin/php", "PHP 8"⟩), .take, .input (.key ⟨.function 5, false⟩), .take,
    .input (.key ⟨.char 'r', true⟩), .finish 0 (.completed "1" 0), .take, .take]

theorem inOrder_of_oneRun :
    ∃ l, (start "1;" []).moveAll? oneRun = some l ∧ l.session.result = some (.completed "1" 0) ∧
      l.runs.length = 1 ∧
      l.runs.length = l.taken.length + if l.session.isExecuting then 1 else 0 := by
  refine ⟨_, rfl, rfl, rfl, ?_⟩
  exact (inOrder_of_moveAll? "1;" [] oneRun _ rfl).1

end Loop

end Scratchpad
