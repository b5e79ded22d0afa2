import Scratchpad.Proofs.Execution.Verdict

/-!
# How a run is classified

A snippet that was to be run comes to one of several ends, its `Fate`, and a result tells them all
by one exit code, from which the classification is read. What can be read off it is the status that
the program ended with, or that there was none: a program that was killed, or whose output was lost,
is told apart neither from one that was never started nor from one that was never found.

`Fate.Classifies` says what a classification has to tell. The main statement, `classified_execute`,
is that it does so exactly if no program that was started was cut short.
-/

namespace Scratchpad.Execution

/-- What became of a snippet that was to be run. -/
inductive Fate where
  /-- There was no interpreter. -/
  | noInterpreter
  /-- The interpreter could not be started. -/
  | notStarted
  /-- The interpreter was started, but what it wrote could not be collected. -/
  | notCaptured
  /-- The interpreter was started and came to its end. -/
  | ended (ending : Ending)
  deriving DecidableEq, Repr

/-- What became of an attempt to run a program. -/
def Launch.fate : Launch → Fate
  | notStarted _ => .notStarted
  | notCaptured _ => .notCaptured
  | finished _ ending => .ended ending

/-- What becomes of a snippet. -/
def Service.fate {σ : Type} (host : Host σ) (service : Service) (source : String) (s : σ) : Fate :=
  match service.handle with
  | none => .noInterpreter
  | some handle => (host.launch s handle.path [Interpreter.codeFlag, source]).1.fate

namespace Fate

/-- A program was started. -/
def HasStarted (fate : Fate) : Prop := fate ≠ noInterpreter ∧ fate ≠ notStarted

/-- A program was started, but no status came of it. -/
def IsCutShort (fate : Fate) : Prop :=
  fate = notCaptured ∨ ∃ signal, fate = ended (.killed signal)

/-- The status that a program ended with, if one did. -/
def status? : Fate → Option Nat
  | ended ending => ending.status?
  | _ => none

/-- A classification tells what happened: that the program exited with status zero, with which other
status it exited, or that no program was started. -/
structure Classifies (failure : Option Failure) (fate : Fate) : Prop where
  none_iff : failure = none ↔ fate = ended (.exited 0)
  nonZeroExit_iff : ∀ n : Int, failure = some (.nonZeroExit n) ↔
    ∃ status : Nat, status ≠ 0 ∧ n = status ∧ fate = ended (.exited status)
  notRun_iff : failure = some .notRun ↔ ¬ fate.HasStarted

variable {fate : Fate} {status : Nat}

theorem status?_eq_some_iff : fate.status? = some status ↔ fate = ended (.exited status) := by
  cases fate with
  | ended ending => cases ending <;> simp [status?, Ending.status?]
  | _ => simp [status?]

theorem status?_eq_none_iff : fate.status? = none ↔ ¬ fate.HasStarted ∨ fate.IsCutShort := by
  cases fate with
  | ended ending => cases ending <;> simp [status?, Ending.status?, HasStarted, IsCutShort]
  | _ => simp [status?, HasStarted, IsCutShort]

theorem IsCutShort.hasStarted (h : fate.IsCutShort) : fate.HasStarted := by
  rcases h with rfl | ⟨signal, rfl⟩ <;> exact ⟨by simp, by simp⟩

end Fate

theorem Service.status?_fate {σ : Type} (host : Host σ) (service : Service) (source : String)
    (s : σ) : (service.fate host source s).status? = service.status? host source s := by
  obtain ⟨handle⟩ := service
  cases handle with
  | none => rfl
  | some handle =>
    have hlaunch : ∀ launch : Launch, launch.fate.status? = launch.status? := by
      intro launch
      cases launch <;> rfl
    exact hlaunch _

/-! ### What a classification is read off -/

namespace Result.Reports

variable {r : Result} {status : Option Nat}

theorem failure?_of_none (h : r.Reports none) : r.failure? = some .notRun := by
  have hcode : r.exitCode = noExitCode := (h.of_none rfl).1
  rw [failure?, hcode]
  rfl

theorem failure?_of_some {n : Nat} (h : r.Reports (some n)) :
    r.failure? = if n = 0 then none else some (.nonZeroExit n) := by
  have hcode : r.exitCode = n := h.of_some n rfl
  have hne : (n : Int) ≠ noExitCode := by
    rw [noExitCode]
    omega
  rw [failure?, hcode, if_neg hne]
  simp only [Int.natCast_eq_zero]

theorem failure?_eq_none_iff (h : r.Reports status) : r.failure? = none ↔ status = some 0 := by
  cases status with
  | none => simp [h.failure?_of_none]
  | some n => simp [h.failure?_of_some]

theorem failure?_eq_nonZeroExit_iff (h : r.Reports status) (n : Int) :
    r.failure? = some (.nonZeroExit n) ↔ ∃ m : Nat, m ≠ 0 ∧ n = m ∧ status = some m := by
  cases status with
  | none => simp [h.failure?_of_none]
  | some k =>
    rw [h.failure?_of_some]
    by_cases hk : k = 0
    · simp [hk]
    · simp [hk, eq_comm]

theorem failure?_eq_notRun_iff (h : r.Reports status) :
    r.failure? = some .notRun ↔ status = none := by
  cases status with
  | none => simp [h.failure?_of_none]
  | some n => simp [h.failure?_of_some]

end Result.Reports

/-- The classification of a run tells the status that the program ended with, and otherwise that
nothing ran, also of a program that was cut short. So it tells what happened exactly if no program
was. -/
theorem classified_execute {σ : Type} (host : Host σ) (service : Service) (source : String)
    (s : σ) :
    let failure := (service.execute host source s).1.failure?
    let fate := service.fate host source s
    (failure = none ↔ fate = .ended (.exited 0)) ∧
      (∀ n : Int, failure = some (.nonZeroExit n) ↔
        ∃ status : Nat, status ≠ 0 ∧ n = status ∧ fate = .ended (.exited status)) ∧
      (failure = some .notRun ↔ ¬ fate.HasStarted ∨ fate.IsCutShort) ∧
      (Fate.Classifies failure fate ↔ ¬ fate.IsCutShort) := by
  intro failure fate
  have hreports : (service.execute host source s).1.Reports fate.status? :=
    service.status?_fate host source s ▸ service.reports_execute host source s
  have hnone : failure = none ↔ fate = .ended (.exited 0) :=
    hreports.failure?_eq_none_iff.trans Fate.status?_eq_some_iff
  have hexit : ∀ n : Int, failure = some (.nonZeroExit n) ↔
      ∃ status : Nat, status ≠ 0 ∧ n = status ∧ fate = .ended (.exited status) := by
    intro n
    simpa only [Fate.status?_eq_some_iff] using hreports.failure?_eq_nonZeroExit_iff n
  have hnotRun : failure = some .notRun ↔ ¬ fate.HasStarted ∨ fate.IsCutShort :=
    hreports.failure?_eq_notRun_iff.trans Fate.status?_eq_none_iff
  refine ⟨hnone, hexit, hnotRun, fun h hcut => ?_, fun hcut => ⟨hnone, hexit, ?_⟩⟩
  · exact h.notRun_iff.1 (hnotRun.2 (.inr hcut)) hcut.hasStarted
  · rw [hnotRun, or_iff_left hcut]

/-- A host on which every program writes a letter and is killed. -/
def killing : Host Unit where
  hasEntry _ _ := true
  hasFile _ _ := true
  read _ _ := .ok []
  standardInput _ := []
  launch _ _ _ := (.finished [⟨.standard, [120]⟩] (.killed 9), ())
  makeDirectory _ _ := (none, ())
  makeFile _ _ := .ok ()

/-- A program that was started, wrote something and was killed is classified as if nothing had
run. -/
theorem classified_killed :
    let r := (Service.execute killing ⟨some ⟨"/bin/php", ""⟩⟩ "1;" ()).1
    let fate := Service.fate killing ⟨some ⟨"/bin/php", ""⟩⟩ "1;" ()
    fate = .ended (.killed 9) ∧ fate.HasStarted ∧ r.output = "x" ∧ r.failure? = some .notRun ∧
      ¬ Fate.Classifies r.failure? fate := by
  intro r fate
  have hstarted : fate.HasStarted := ⟨by decide, by decide⟩
  have hfailure : r.failure? = some .notRun := rfl
  have houtput : r.output = "x" := by
    have hdecode : Text.decode (Text.encode ['x']) = ['x'] := Text.decode_encode ['x']
    have hempty : Text.decode [] = [] := Text.decode_encode []
    exact congrArg String.ofList (congrArg₂ (· ++ ·) hdecode hempty)
  exact ⟨rfl, hstarted, houtput, hfailure, fun h => h.notRun_iff.1 hfailure hstarted⟩

end Scratchpad.Execution
