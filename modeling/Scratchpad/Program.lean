import Scratchpad.Arguments.Reading
import Scratchpad.Command.Highlight
import Scratchpad.Command.Run
import Scratchpad.Command.Which
import Scratchpad.Interpreter.Candidates
import Scratchpad.Machine.Loader
import Scratchpad.Records.Filter
import Scratchpad.Settings.Load

/-!
# The program

One call of the program on a host: the arguments are read first, then the settings; the editor keeps
its records in a file, the other commands on the standard error stream. A command that fails leaves
a report and the status one.
-/

namespace Scratchpad.Program

open Scratchpad.Arguments Scratchpad.Execution Scratchpad.Interpreter Scratchpad.Records

/-- What a call of the program leaves. -/
structure Outcome where
  status : Nat
  output : String
  report : String
  /-- The notices on the standard error stream, which stand in front of the report. -/
  notices : List Notice
  deriving DecidableEq, Repr

/-- The name and the version of the program. -/
def versionLine : String := "gobi 0.1.0\n"

/-- The name of the file that records are kept in. -/
def recordFile : List Char := "gobi.log".toList

/-- The status of a call that failed. -/
def failureStatus : Nat := 1

/-- The status of a call that had to be broken off. -/
def brokenStatus : Nat := 101

/-- The outcome of a call that only replies. -/
def replied (r : Reply) : Outcome :=
  ⟨r.exitStatus, if r = .version then versionLine else "", "", []⟩

/-- The outcome of a call that failed. -/
def failed (r : Report) (notices : List Notice) : Outcome := ⟨failureStatus, "", r.text, notices⟩

/-- The outcome of a call that had to be broken off. -/
def broken (report : String) : Outcome := ⟨brokenStatus, "", report, []⟩

/-- The filter for records, and the notices about parts of it that were ignored. A directive that
is cut inside a character breaks the call off. -/
def recordFilter (settings : Settings) (env : Environment) :
    Except Outcome (Filter × List Notice) :=
  match chosenFilter? (Table.get? "RUST_LOG" env) settings.logFilter with
  | some f => .ok f
  | none => .error (broken "a directive of the filter is cut inside a character\n")

/-- The report of an editor that has no terminal. -/
def noTerminal : Report := ⟨"The editor requires a proper terminal environment", none⟩

/-- The snippet that an editor opens with. -/
def editorSource {σ : Type} (host : Host σ) (settings : Settings) (file : Option String) (s : σ) :
    Except Command.ScriptProblem String :=
  match file with
  | some path => Command.readScript host path s
  | none => .ok settings.defaultSource

/-- Opens the file for records. The answer is the note about a directory that cannot be made; a file
that cannot be made breaks the call off. -/
def openRecords {σ : Type} (host : Host σ) (directory : String) (s : σ) :
    Except Outcome String × σ :=
  match host.makeDirectory s directory with
  | (some cause, s) =>
    (.ok ("[gobi] failed to create log directory " ++ directory ++ ": " ++ cause ++ "\n"), s)
  | (none, s) =>
    match host.makeFile s (String.ofList (Path.join directory.toList recordFile)) with
    | .ok s => (.ok "", s)
    | .error cause => (.error (broken ("failed to create log file: " ++ cause ++ "\n")), s)

/-- The editor without a terminal: it reads its script and gives up. Its records are kept in the
file. -/
def edit {σ : Type} (host : Host σ) (settings : Settings) (env : Environment) (file : Option String)
    (s : σ) : Outcome × σ :=
  match openRecords host (settings.logDirectory (.ofEnvironment env)) s with
  | (.error outcome, s) => (outcome, s)
  | (.ok note, s) =>
    match if note.isEmpty then recordFilter settings env else .ok (⟨[]⟩, []) with
    | .error outcome => (outcome, s)
    | .ok (_, ignored) =>
      let report := match editorSource host settings file s with
        | .error p => p.report
        | .ok _ => noTerminal
      (⟨failureStatus, "", note ++ report.text, ignored⟩, s)

/-- The records about a program that was to be run. -/
def launchRecords : Launch → List Record
  | .notStarted _ => [.processNotStarted]
  | .notCaptured _ => [.streamWatched, .processStarted, .processNotStarted]
  | .finished _ _ => [.streamWatched, .processStarted, .processFinished]

/-- The records about a candidate for the interpreter. -/
def attemptRecords (a : Attempt) : List Record :=
  match a with
  | .missing _ => [.candidateMissing]
  | .probed _ launch =>
    launchRecords launch ++
      [if a.handle?.isSome then .interpreterFound else .candidateRejected]

/-- The records about a search for the interpreter. -/
def searchRecords (attempts : List Attempt) : List Record :=
  attempts.flatMap attemptRecords ++
    if (found? attempts).isSome then [] else [.interpreterMissing]

/-- One call of the program with arguments that were understood; its output is no terminal. -/
def carryOut {σ : Type} (host : Host σ) (env : Environment) (invocation : Invocation) (s : σ) :
    Outcome × σ :=
  let settings := Settings.load host s env
  let candidates := Interpreter.candidates settings invocation.interpreter
  let noticesOf (f : Filter × List Notice) (records : List Record) : List Notice :=
    f.2 ++ kept f.1 (.settingsLoaded :: records)
  match invocation.command.getD (.edit none), recordFilter settings env with
  | .edit file, _ => edit host settings env file s
  | _, .error outcome => (outcome, s)
  | .run options, .ok filter =>
    let (attempts, s) := search host candidates s
    let notices := noticesOf filter (searchRecords attempts)
    match Command.run host ⟨found? attempts⟩ options false s with
    | (.ok (status, output), s) => (⟨status, output, "", notices⟩, s)
    | (.error p, s) => (failed p.report notices, s)
  | .highlight file json, .ok filter =>
    match Command.highlight host file json false s with
    | .ok output => (⟨0, output, "", noticesOf filter []⟩, s)
    | .error r => (failed r (noticesOf filter []), s)
  | .which, .ok filter =>
    let (attempts, s) := search host candidates s
    let (status, output) := Command.which (found? attempts) candidates
    (⟨status, output, "", noticesOf filter (searchRecords attempts)⟩, s)

/-- The variable that says how many threads do the work. -/
def workersKey : String := "TOKIO_WORKER_THREADS"

/-- More threads than this cannot even be counted. -/
def workersLimit : Nat := Nat.pow 2 60

/-- Whether there can be as many threads as a text says: it has to be a positive number. -/
def areWorkers (text : String) : Bool :=
  match Severity.numberOf? text.toList with
  | some n => 0 < n && n < workersLimit
  | none => false

/-- The notices about libraries that the environment asks for. -/
def libraryNotices (env : Environment) : List Notice :=
  let list := ((Table.get? "LD_PRELOAD" env).getD "").toList
  (Machine.Loader.libraries list).map .missingLibrary

/-- One call of the program once it is loaded. The threads are there before anything is read. -/
def start {σ : Type} (host : Host σ) (env : Environment) (arguments : List String) (s : σ) :
    Outcome × σ :=
  if !(Table.get? workersKey env).all areWorkers then
    (broken (workersKey ++ " is no number of threads\n"), s)
  else
    match parse arguments with
    | .error r => (replied r, s)
    | .ok invocation => carryOut host env invocation s

/-- One call of the program. -/
def run {σ : Type} (host : Host σ) (env : Environment) (arguments : List String) (s : σ) :
    Outcome × σ :=
  let (outcome, s) := start host env arguments s
  ({ outcome with notices := libraryNotices env ++ outcome.notices }, s)

end Scratchpad.Program
