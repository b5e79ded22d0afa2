import Scratchpad.Host
import Scratchpad.Text.Lines

/-!
# Finding the interpreter

A candidate is an interpreter if its path leads to something and running it with `--version` ends
with status zero. The first such candidate is taken, together with the first line that it printed;
no candidate after it is touched.
-/

namespace Scratchpad.Interpreter

open Scratchpad.Execution

/-- An interpreter that was found: its path, and the line with which it told its version. -/
structure Handle where
  path : String
  version : String
  deriving DecidableEq, Repr

/-- The argument that asks an interpreter for its version. -/
def versionFlag : String := "--version"

/-- The argument that makes an interpreter run the next argument as a snippet. -/
def codeFlag : String := "-r"

/-- The handle that a probed candidate gives, if the probe ended well. -/
def handleOf? (path : String) (probe : Result) : Option Handle :=
  if probe.exitCode = 0 then
    some ⟨path, String.ofList (Text.firstLine probe.output.toList)⟩
  else none

/-- What became of a candidate. -/
inductive Attempt where
  /-- Its path leads to nothing. -/
  | missing (path : String)
  /-- It was asked for its version. -/
  | probed (path : String) (launch : Launch)
  deriving DecidableEq, Repr

/-- The handle that an attempt gives. -/
def Attempt.handle? : Attempt → Option Handle
  | missing _ => none
  | probed path launch => handleOf? path launch.result

/-- Tries the candidates in order, up to the first that is an interpreter. -/
def search {σ : Type} (host : Host σ) : List String → σ → List Attempt × σ
  | [], s => ([], s)
  | path :: rest, s =>
    if host.hasEntry s path then
      let (launch, s) := host.launch s path [versionFlag]
      if (handleOf? path launch.result).isSome then ([.probed path launch], s)
      else
        let (attempts, s) := search host rest s
        (.probed path launch :: attempts, s)
    else
      let (attempts, s) := search host rest s
      (.missing path :: attempts, s)

/-- The interpreter that a search has found. -/
def found? (attempts : List Attempt) : Option Handle := attempts.findSome? Attempt.handle?

/-- The first candidate that is an interpreter. -/
def locate {σ : Type} (host : Host σ) (candidates : List String) (s : σ) : Option Handle × σ :=
  let (attempts, s) := search host candidates s
  (found? attempts, s)

@[simp] theorem search_nil {σ : Type} (host : Host σ) (s : σ) : search host [] s = ([], s) := rfl

@[simp] theorem locate_nil {σ : Type} (host : Host σ) (s : σ) : locate host [] s = (none, s) := rfl

/-- A candidate that leads nowhere is passed over. -/
theorem locate_cons_of_missing {σ : Type} (host : Host σ) (path : String) (rest : List String)
    (s : σ) (h : host.hasEntry s path = false) :
    locate host (path :: rest) s = locate host rest s := by
  simp [locate, search, h, found?, List.findSome?_cons, Attempt.handle?]

/-- A candidate that is an interpreter is found, whatever stands after it. -/
theorem locate_cons_of_probe {σ : Type} (host : Host σ) {path : String} (rest : List String)
    {s s' : σ} {launch : Launch} {handle : Handle} (he : host.hasEntry s path = true)
    (hl : host.launch s path [versionFlag] = (launch, s'))
    (hh : handleOf? path launch.result = some handle) :
    locate host (path :: rest) s = (some handle, s') := by
  simp [locate, search, he, hl, hh, found?, Attempt.handle?]

/-- A candidate that is no interpreter is passed over once it has run. -/
theorem locate_cons_of_rejected {σ : Type} (host : Host σ) {path : String} (rest : List String)
    {s s' : σ} {launch : Launch} (he : host.hasEntry s path = true)
    (hl : host.launch s path [versionFlag] = (launch, s'))
    (hh : handleOf? path launch.result = none) :
    locate host (path :: rest) s = locate host rest s' := by
  simp [locate, search, he, hl, hh, found?, Attempt.handle?]

end Scratchpad.Interpreter
