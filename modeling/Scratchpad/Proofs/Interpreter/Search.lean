import Scratchpad.Interpreter.Handle
import Scratchpad.Proofs.Interpreter.Candidates
import Scratchpad.Proofs.Text.FirstLine

/-!
# The search for an interpreter

A host that keeps a record of the programs it runs (`Host.recording`) shows what a search does to
its surroundings. `Ends` says, for any host and any candidates, how a search ends: with the first
candidate that answers when its turn comes, or with none, and which programs were run until then. The
turn of a candidate comes when those before it were tried, because a program may change what is there.

The main statement, `discovery_in_order`, joins this with the order of the candidates.
-/

namespace Scratchpad

open Scratchpad.Execution Scratchpad.Text

/-- A program that was run, with its arguments. -/
structure Call where
  program : String
  arguments : List String
  deriving DecidableEq, Repr

/-- A host that also keeps the calls it gets, in their order. -/
def Host.recording {σ : Type} (host : Host σ) : Host (σ × List Call) where
  hasEntry s path := host.hasEntry s.1 path
  hasFile s path := host.hasFile s.1 path
  read s path := host.read s.1 path
  standardInput s := host.standardInput s.1
  launch s program arguments :=
    ((host.launch s.1 program arguments).1,
      ((host.launch s.1 program arguments).2, s.2 ++ [⟨program, arguments⟩]))
  makeDirectory s path :=
    ((host.makeDirectory s.1 path).1, ((host.makeDirectory s.1 path).2, s.2))
  makeFile s path := (host.makeFile s.1 path).map fun t => (t, s.2)

namespace Interpreter

variable {σ : Type} (host : Host σ)

/-- The call that asks a candidate for its version. -/
def versionCall (path : String) : Call := ⟨path, ["--version"]⟩

/-- A candidate leads to something, and when it is asked for its version it writes `writes` and exits
with status zero. -/
def Answers (s : σ) (path : String) (writes : List Write) : Prop :=
  host.hasEntry s path = true ∧
    (host.launch s path ["--version"]).1 = .finished writes (.exited 0)

/-- The host after a candidate was tried: if it leads to something, it was asked for its version. -/
def tried (s : σ) (path : String) : σ :=
  if host.hasEntry s path then (host.launch s path ["--version"]).2 else s

/-- The calls that trying a candidate makes. -/
def callsFor (s : σ) (path : String) : List Call :=
  if host.hasEntry s path then [versionCall path] else []

/-- The host after candidates were tried one after the other. -/
def triedAll (s : σ) (paths : List String) : σ := paths.foldl (tried host) s

/-- The calls that are made when candidates are tried one after the other. -/
def callsForAll : σ → List String → List Call
  | _, [] => []
  | s, path :: rest => callsFor host s path ++ callsForAll (tried host s path) rest

/-- No candidate answers when its turn comes. -/
def NoneAnswers (s : σ) (paths : List String) : Prop :=
  ∀ before path after, paths = before ++ path :: after →
    ∀ writes, ¬ Answers host (triedAll host s before) path writes

/-- What a search among candidates finds, which calls it makes, and how it leaves the host. -/
inductive Ends (s : σ) (paths : List String) : Option Handle → List Call → σ → Prop where
  /-- A candidate answers, none before it does, and none after it is tried. -/
  | found {before after : List String} {path version : String} {writes : List Write}
      (split : paths = before ++ path :: after) (first : NoneAnswers host s before)
      (answers : Answers host (triedAll host s before) path writes)
      (told : IsFirstLine (outputOf writes).toList version.toList) :
      Ends s paths (some ⟨path, version⟩) (callsForAll host s (before ++ [path]))
        (triedAll host s (before ++ [path]))
  /-- No candidate answers, and all are tried. -/
  | exhausted (unanswered : NoneAnswers host s paths) :
      Ends s paths none (callsForAll host s paths) (triedAll host s paths)

variable {host} {s t : σ} {path : String} {rest : List String} {launch : Launch}
  {handle : Option Handle} {calls : List Call}

/-! ### Answers -/

/-- Only a program that exits with status zero leaves the exit code zero; one that was killed, or
could not be started, does not. -/
theorem exitCode_result_eq_zero_iff (launch : Launch) :
    launch.result.exitCode = 0 ↔ ∃ writes, launch = .finished writes (.exited 0) := by
  cases launch with
  | notStarted cause => simp [Launch.result, Result.ofProblem, noExitCode]
  | notCaptured cause => simp [Launch.result, Result.ofProblem, noExitCode]
  | finished writes ending =>
    cases ending with
    | exited status => simp [Launch.result, Result.completed, Ending.exitCode]
    | killed signal => simp [Launch.result, Result.completed, Ending.exitCode, noExitCode]

theorem handleOf?_of_answers {writes : List Write} (h : Answers host s path writes) :
    handleOf? path (host.launch s path [versionFlag]).1.result =
      some ⟨path, String.ofList (firstLine (outputOf writes).toList)⟩ := by
  have hcode : (host.launch s path [versionFlag]).1.result.exitCode = 0 :=
    (exitCode_result_eq_zero_iff _).2 ⟨writes, h.2⟩
  have houtput : (host.launch s path [versionFlag]).1.result.output = outputOf writes := by
    rw [versionFlag, h.2]
    rfl
  rw [handleOf?, if_pos hcode, houtput]

theorem handleOf?_of_not_answers (hentry : host.hasEntry s path = true)
    (h : ∀ writes, ¬ Answers host s path writes) :
    handleOf? path (host.launch s path [versionFlag]).1.result = none := by
  rw [handleOf?, if_neg]
  intro hcode
  obtain ⟨writes, hwrites⟩ := (exitCode_result_eq_zero_iff _).1 hcode
  exact h writes ⟨hentry, hwrites⟩

/-! ### Candidates before others -/

theorem noneAnswers_nil : NoneAnswers host s [] := by
  intro before path after hsplit
  exact absurd hsplit (by simp)

theorem noneAnswers_cons_iff :
    NoneAnswers host s (path :: rest) ↔
      (∀ writes, ¬ Answers host s path writes) ∧ NoneAnswers host (tried host s path) rest := by
  constructor
  · intro h
    refine ⟨h [] path rest rfl, ?_⟩
    rintro before p after rfl
    exact h (path :: before) p after rfl
  · rintro ⟨hpath, hrest⟩ before p after hsplit
    cases before with
    | nil =>
      obtain ⟨rfl, rfl⟩ := List.cons.inj hsplit
      exact hpath
    | cons q before =>
      obtain ⟨rfl, rfl⟩ := List.cons.inj hsplit
      exact hrest before p after rfl

/-- A candidate that does not answer only adds its call to those of the search behind it. -/
theorem Ends.cons (hpath : ∀ writes, ¬ Answers host s path writes)
    (h : Ends host (tried host s path) rest handle calls t) :
    Ends host s (path :: rest) handle (callsFor host s path ++ calls) t := by
  cases h with
  | @found before after p version writes split first answers told =>
    exact @Ends.found _ _ s (path :: rest) (path :: before) after p version writes
      (by rw [split]; rfl) (noneAnswers_cons_iff.2 ⟨hpath, first⟩) answers told
  | exhausted unanswered => exact .exhausted (noneAnswers_cons_iff.2 ⟨hpath, unanswered⟩)

/-- A candidate that answers ends the search. -/
theorem Ends.of_answers {writes : List Write} (h : Answers host s path writes)
    (rest : List String) :
    Ends host s (path :: rest) (some ⟨path, String.ofList (firstLine (outputOf writes).toList)⟩)
      [versionCall path] (tried host s path) := by
  have hends := @Ends.found _ host s (path :: rest) [] rest path
    (String.ofList (firstLine (outputOf writes).toList)) writes rfl noneAnswers_nil h
    (by rw [String.toList_ofList]; exact isFirstLine_firstLine _)
  have hcalls : callsForAll host s ([] ++ [path]) = [versionCall path] := by
    simp [callsForAll, callsFor, h.1]
  rwa [hcalls] at hends

/-! ### Searches -/

theorem locate_cons_of_answers {writes : List Write} (h : Answers host s path writes)
    (rest : List String) :
    locate host (path :: rest) s =
      (some ⟨path, String.ofList (firstLine (outputOf writes).toList)⟩, tried host s path) := by
  rw [tried, if_pos h.1]
  exact locate_cons_of_probe host rest h.1 rfl (handleOf?_of_answers h)

theorem locate_cons_of_not_answers (h : ∀ writes, ¬ Answers host s path writes)
    (rest : List String) :
    locate host (path :: rest) s = locate host rest (tried host s path) := by
  rw [tried]
  by_cases hentry : host.hasEntry s path = true
  · rw [if_pos hentry]
    exact locate_cons_of_rejected host rest hentry rfl (handleOf?_of_not_answers hentry h)
  · rw [if_neg hentry]
    exact locate_cons_of_missing host path rest s (by simpa using hentry)

theorem answers_recording_iff {record : List Call} {writes : List Write} :
    Answers host.recording (s, record) path writes ↔ Answers host s path writes := Iff.rfl

theorem tried_recording (s : σ) (record : List Call) (path : String) :
    tried host.recording (s, record) path =
      (tried host s path, record ++ callsFor host s path) := by
  simp only [tried, callsFor, Host.recording, versionCall]
  by_cases hentry : host.hasEntry s path = true
  · simp [hentry]
  · simp [hentry]

/-- A search ends as described, its calls are those that the host has recorded, and the record makes
no difference to it. -/
theorem exists_ends (s : σ) (record : List Call) (paths : List String) :
    ∃ handle calls t, locate host.recording paths (s, record) = (handle, (t, record ++ calls)) ∧
      locate host paths s = (handle, t) ∧ Ends host s paths handle calls t := by
  -- Trying a candidate changes the host and the record, so both are general.
  induction paths generalizing s record with
  | nil => exact ⟨none, [], s, by simp, rfl, .exhausted noneAnswers_nil⟩
  | cons path rest ih =>
    by_cases hanswers : ∃ writes, Answers host s path writes
    · obtain ⟨writes, hwrites⟩ := hanswers
      refine ⟨_, _, _, ?_, locate_cons_of_answers hwrites rest, .of_answers hwrites rest⟩
      rw [locate_cons_of_answers (answers_recording_iff.2 hwrites), tried_recording, callsFor,
        if_pos hwrites.1]
    · have hnone : ∀ writes, ¬ Answers host s path writes := not_exists.1 hanswers
      obtain ⟨handle, calls, t, hrecorded, hlocate, hends⟩ :=
        ih (tried host s path) (record ++ callsFor host s path)
      have hnone' : ∀ writes, ¬ Answers host.recording (s, record) path writes := hnone
      refine ⟨handle, _, t, ?_, ?_, hends.cons hnone⟩
      · rw [locate_cons_of_not_answers hnone', tried_recording, hrecorded, List.append_assoc]
      · rw [locate_cons_of_not_answers hnone, hlocate]

theorem Ends.eq_none_iff {paths : List String} (h : Ends host s paths handle calls t) :
    handle = none ↔ NoneAnswers host s paths := by
  cases h with
  | found split first answers told =>
    refine ⟨fun hnone => absurd hnone (by simp), fun hnone => ?_⟩
    exact absurd answers (hnone _ _ _ split _)
  | exhausted unanswered => simp [unanswered]

/-- The candidates are the path from the command line, the parts of the settings' value between its
colons, and the built-in paths, in this order and without empty ones of the first two; paths that
were joined with colons in a variable come back as they were. On every host, a search among
candidates asks each that leads to something at its turn for its version, once for each time it is
listed, up to the first that exits with status zero, and runs nothing else; this one is found, with
the first line of what it wrote, and nothing is found exactly if there is none. -/
theorem discovery_in_order :
    (∀ (settings : Settings) (override : Option String),
      ∃ parts, BetweenColons parts (pathsValue settings).toList ∧
        candidates settings override =
          (override.toList.filter fun p => !p.isEmpty) ++
            ((parts.filter fun p => !p.isEmpty).map String.ofList ++ builtIn)) ∧
      (∀ (path : String) (file override : Option String) (env : Environment) (paths : List String),
        (∀ p ∈ paths, p ≠ "" ∧ ':' ∉ p.toList) →
        IsLast (fun v => v.1 = Settings.interpreterPathsKey) env
          (Settings.interpreterPathsKey, ":".intercalate paths) →
        candidates (.ofSources path file env) override =
          (override.toList.filter fun p => !p.isEmpty) ++ (paths ++ builtIn)) ∧
      (∀ {σ : Type} (host : Host σ) (paths : List String) (s : σ),
        ∃ handle calls t, locate host.recording paths (s, []) = (handle, (t, calls)) ∧
          locate host paths s = (handle, t) ∧ Ends host s paths handle calls t ∧
          (handle = none ↔ NoneAnswers host s paths)) ∧
      ∀ text line, IsFirstLine text line → '\n' ∉ line ∧ (text = [] → line = []) := by
  refine ⟨?_, ?_, ?_, fun text line h => ⟨h.not_mem, h.eq_nil⟩⟩
  · intro settings override
    have hparts := betweenColons_splitOn (pathsValue settings).toList
    exact ⟨_, hparts, candidates_eq settings override hparts⟩
  · intro path file override env paths hpaths hlast
    exact candidates_of_joined path file override hpaths hlast
  · intro σ host paths s
    obtain ⟨handle, calls, t, hrecorded, hlocate, hends⟩ := @exists_ends σ host s [] paths
    exact ⟨handle, calls, t, hrecorded, hlocate, hends, hends.eq_none_iff⟩

/-- The paths of a variable stand between that of the command line and the built-in ones. -/
theorem discovery_in_order_two :
    candidates (.ofSources "/rc" none [("GOBI_INTERPRETER_PATHS", "/a:/b")]) (some "/c") =
      ["/c", "/a", "/b"] ++ builtIn :=
  discovery_in_order.2.1 "/rc" none (some "/c") [("GOBI_INTERPRETER_PATHS", "/a:/b")] ["/a", "/b"]
    (by decide) ⟨[], [], rfl, rfl, by simp⟩

end Interpreter

end Scratchpad
