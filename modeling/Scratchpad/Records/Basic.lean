/-!
# Records

What the program notes about its own work. A record has a severity, a topic and fields, which
filters ask about. Where a program was started, the streams that it writes to are watched, and that
is noted too.
-/

namespace Scratchpad.Records

/-- How much a record matters. -/
inductive Severity where
  | error
  | warning
  | info
  | debug
  | trace
  deriving DecidableEq, Repr

namespace Severity

/-- The number of a severity: the more it matters, the less. -/
def rank : Severity → Nat
  | error => 1
  | warning => 2
  | info => 3
  | debug => 4
  | trace => 5

/-- The number that decimal digits stand for, after a plus sign or none. -/
def numberOf? (word : List Char) : Option Nat :=
  let digits := if word.head? = some '+' then word.tail else word
  if digits.isEmpty || !digits.all Char.isDigit then none
  else some (digits.foldl (fun n c => 10 * n + (c.toNat - '0'.toNat)) 0)

/-- The rank that a word of a filter allows: a number from zero to five, or a name in any case. -/
def rankOf? (word : List Char) : Option Nat :=
  match numberOf? word with
  | some n => if n ≤ 5 then some n else none
  | none =>
    match String.ofList (word.map Char.toLower) with
    | "" => some 1
    | "off" => some 0
    | "error" => some 1
    | "warn" => some 2
    | "info" => some 3
    | "debug" => some 4
    | "trace" => some 5
    | _ => none

end Severity

/-- A record about one thing that happened. -/
inductive Record where
  | settingsLoaded
  /-- A candidate for the interpreter leads nowhere. -/
  | candidateMissing
  /-- A candidate was run, and its end was no success. -/
  | candidateRejected
  | interpreterFound
  | interpreterMissing
  | processStarted
  /-- A stream of a process is watched from now on. -/
  | streamWatched
  | processFinished
  | processNotStarted
  deriving DecidableEq, Repr

namespace Record

/-- How much a record matters. -/
def severity : Record → Severity
  | settingsLoaded => .debug
  | candidateMissing => .debug
  | candidateRejected => .debug
  | interpreterFound => .info
  | interpreterMissing => .warning
  | processStarted => .debug
  | streamWatched => .trace
  | processFinished => .info
  | processNotStarted => .debug

/-- The topic of a record. -/
def topic : Record → String
  | settingsLoaded => "gobi"
  | candidateMissing => "gobi::interpreter"
  | candidateRejected => "gobi::interpreter"
  | interpreterFound => "gobi::interpreter"
  | interpreterMissing => "gobi::interpreter"
  | processStarted => "gobi::process"
  | streamWatched => "mio::poll"
  | processFinished => "gobi::process"
  | processNotStarted => "gobi::process"

/-- The names of the fields of a record. -/
def fields : Record → List String
  | settingsLoaded => ["message", "config"]
  | candidateMissing => ["message", "path"]
  | candidateRejected => ["message", "path", "exit_code"]
  | interpreterFound => ["message", "path", "version"]
  | interpreterMissing => ["message", "candidates"]
  | processStarted => ["message", "program", "pid"]
  | streamWatched => ["message", "log.target", "log.module_path", "log.file", "log.line"]
  | processFinished => ["message", "program", "exit_code", "output_bytes", "elapsed_ms"]
  | processNotStarted => ["message", "error"]

end Record

end Scratchpad.Records
