import Scratchpad.Number.Double
import Scratchpad.Utility.Basic

/-!
# Utilities about the surroundings

Those that show or change what a program runs in: its variables, its directory, its user, the system
and the time.
-/

namespace Scratchpad.Utility

open Scratchpad.Machine Scratchpad.Number Scratchpad.Text

/-- The variables with one of them set; it keeps its place. -/
def withVariable (e : Bindings) (name value : Bytes) : Bindings :=
  if e.any fun v => v.1 = name then e.map fun v => if v.1 = name then (name, value) else v
  else e ++ [(name, value)]

/-- The variables, one after the other. -/
def environmentText (e : Bindings) (ended : Char) : Bytes :=
  e.flatMap fun v => v.1 ++ '=' :: v.2 ++ [ended]

/-- Becomes a program that is looked for; the answer is why that is impossible. A file that the
system cannot execute is taken for a script. -/
def become (name : Bytes) (args : List Bytes) (e : Bindings) : Routine Fault := do
  let attempt (path : Bytes) : Routine Fault := do
    match ← Routine.ask (.execute path name args e) with
    | .notExecutableFormat =>
      let shell := "/bin/sh".toList
      Routine.ask (.execute shell shell (path :: args) e)
    | f => pure f
  if name.contains '/' then attempt name
  else through attempt .noEntry (((e.lookup "PATH".toList).getD "/bin:/usr/bin".toList).splitOn ':')
where
  through (attempt : Bytes → Routine Fault) (fault : Fault) : List Bytes → Routine Fault
    | [] => pure fault
    | d :: ds => do
      match ← attempt (if d.isEmpty then name else d ++ '/' :: name) with
      | .noEntry => through attempt fault ds
      | .notDirectory => through attempt fault ds
      | f => through attempt f ds

/-- Becomes a program, or ends with a message. -/
def becomeOrFail (c : Call) (name : Bytes) (args : List Bytes) (e : Bindings) : Routine Nat := do
  let f ← become name args e
  c.fail (cited name ++ ": ".toList ++ f.text.toList) (if f = .noEntry then 127 else 126)

/-- The arguments of `env` where the one argument of an option `-S` stands for all the words in it;
behind the options, nothing has such a meaning. -/
def withSplitArgument : List Bytes → List Bytes
  | [] => []
  | ['-', 'S'] :: text :: rest => wordsOf text ++ rest
  | ('-' :: 'S' :: text) :: rest => wordsOf text ++ rest
  | ['-', c] :: value :: rest =>
    if c = 'u' || c = 'C' then ['-', c] :: value :: withSplitArgument rest
    else ['-', c] :: withSplitArgument (value :: rest)
  | a :: rest =>
    if "--split-string=".toList.isPrefixOf a then wordsOf (a.drop 15) ++ rest
    else if a.head? = some '-' && a != ['-'] && a != ['-', '-'] then a :: withSplitArgument rest
    else a :: rest
termination_by args => args.length
where
  wordsOf (text : Bytes) : List Bytes :=
    ((text.map fun c => if c = '\t' then ' ' else c).splitOn ' ').filter fun w => !w.isEmpty

/-- Shows the variables, or runs a program with other ones. -/
def env (c : Call) : Routine Nat := do
  let arguments := withSplitArgument c.arguments
  let (os, args) ← { c with arguments }.options (.before "iu:0C:v"
    [("ignore-environment", 'i'), ("null", '0'), ("unset", 'u'), ("chdir", 'C'),
      ("debug", 'v')]) 125
  let tell (message : Bytes) : Routine Unit := do
    if given os 'v' then
      let _ ← Routine.writeAll 2 (message ++ ['\n'])
  let (emptied, args) := match args with
    | ['-'] :: rest => (true, rest)
    | args => (false, args)
  let emptied := emptied || given os 'i'
  let unset := if emptied then [] else (os.filter fun o => o.1 = 'u').map Prod.snd
  if emptied then tell "cleaning environ".toList
  Routine.forEach unset fun name => tell ("unset:    ".toList ++ name)
  let start := if emptied then [] else c.environment
  let start := unset.foldl (fun e name => e.filter fun v => v.1 != name) start
  let settings := args.takeWhile fun a => a.contains '='
  Routine.forEach settings fun a => tell ("setenv:   ".toList ++ a)
  let e := settings.foldl (fun e a => match cutAt? '=' a with
    | some (n, v) => withVariable e n v
    | none => e) start
  let ended := if given os '0' then '\x00' else '\n'
  match args.drop settings.length with
  | [] =>
    if (lastOf os 'C').isSome then
      c.misused "must specify command with --chdir (-C)".toList 125
    else
      c.put (environmentText e ended)
      pure 0
  | program :: args =>
    if given os '0' then c.misused "cannot specify --null (-0) with command".toList 125
    else
      match lastOf os 'C' with
      | none => pure ()
      | some d =>
        tell ("chdir:    ".toList ++ quoted d)
        match ← Routine.ask (.enter d) with
        | .ok _ => pure ()
        | .error f =>
          c.fail ("cannot change directory to ".toList ++ cited d ++ ": ".toList ++
            f.text.toList) 125
      tell ("executing: ".toList ++ program)
      Routine.forEach ((program :: args).zipIdx) fun a =>
        tell ("   arg[".toList ++ Bytes.ofNat a.2 ++ "]= ".toList ++ quoted a.1)
      becomeOrFail c program args e

/-- Shows the values of variables. -/
def printenv (c : Call) : Routine Nat := do
  let (os, names) ← c.options (.before "0" [("null", '0')]) 2
  let ended := if given os '0' then '\x00' else '\n'
  if names.isEmpty then
    c.put (environmentText c.environment ended)
    pure 0
  else
    let values := names.map fun n => if n.contains '=' then none else c.environment.lookup n
    c.put (values.flatMap fun v => match v with
      | some v => v ++ [ended]
      | none => [])
    pure (if values.all Option.isSome then 0 else 1)

/-- The path of a place. -/
def placePath (p : Place) : Bytes := if p.isEmpty then ['/'] else p.flatMap fun n => '/' :: n

/-- Shows the working directory. -/
def pwd (c : Call) : Routine Nat := do
  let (_, args) ← c.options (.among "LP" [("logical", 'L'), ("physical", 'P')]) 1
  if !args.isEmpty then c.complain "ignoring non-option arguments".toList
  c.put (placePath (← Routine.ask .here) ++ ['\n'])
  pure 0

/-- How many microseconds a text such as `0.5m` stands for; endless times are long, and other texts
stand for none. -/
def duration? (text : Bytes) : Option Nat :=
  let r := Double.read text
  let factor : Option Nat := match text.drop r.length with
    | [] => some 1
    | ['s'] => some 1
    | ['m'] => some 60
    | ['h'] => some 3600
    | ['d'] => some 86400
    | _ => none
  if r.length = 0 then none
  else
    match r.value, factor with
    | .finite false m e, some f => some (f * Double.scaled m e 6)
    | .finite true 0 _, some _ => some 0
    | .infinite false, some _ => some endless
    | _, _ => none
where
  endless : Nat := 1000000000000000

/-- Waits. -/
def sleep (c : Call) : Routine Nat := do
  let (_, args) ← c.options (.before "" []) 1
  if args.isEmpty then c.misused "missing operand".toList 1
  else
    let wrong := args.filter fun a => (duration? a).isNone
    Routine.forEach wrong fun a => c.complain ("invalid time interval ".toList ++ cited a)
    if !wrong.isEmpty then c.refuse 1
    else
      let now ← Routine.ask .time
      Routine.ask (.sleepUntil (now + (args.map fun a => (duration? a).getD 0).foldr (· + ·) 0))
      pure 0

/-- Shows what the system is called. -/
def uname (c : Call) : Routine Nat := do
  let (os, args) ← c.options (.among "asnrvmpio"
    [("all", 'a'), ("kernel-name", 's'), ("nodename", 'n'), ("kernel-release", 'r'),
      ("kernel-version", 'v'), ("machine", 'm'), ("processor", 'p'), ("hardware-platform", 'i'),
      ("operating-system", 'o')]) 1
  match args with
  | a :: _ => c.misused ("extra operand ".toList ++ cited a) 1
  | [] =>
    let all := given os 'a'
    let shown := [('s', "Linux"), ('n', "localhost"), ('r', "6.1.0"), ('v', "#1 SMP"),
      ('m', "x86_64"), ('p', "x86_64"), ('i', "x86_64"), ('o', "GNU/Linux")].filter fun p =>
        given os p.1 || (all && p.1 != 'p' && p.1 != 'i') || (os.isEmpty && p.1 = 's')
    c.put (spaced (shown.map fun p => p.2.toList) ++ ['\n'])
    pure 0

/-- Shows who the user is, by name. -/
def whoami (c : Call) : Routine Nat := do
  let (_, args) ← c.options (.among "" []) 1
  match args with
  | a :: _ => c.misused ("extra operand ".toList ++ cited a) 1
  | [] =>
    c.put "root\n".toList
    pure 0

/-- Shows who the user is, by number and by name. -/
def showUser (c : Call) : Routine Nat := do
  let (os, args) ← c.options (.among "agGnruzZ"
    [("context", 'Z'), ("group", 'g'), ("groups", 'G'), ("name", 'n'), ("real", 'r'), ("user", 'u'),
      ("zero", 'z')]) 1
  let kinds := (os.map Prod.fst).filter fun l => "ugG".toList.contains l
  if given os 'Z' then
    c.fail "--context (-Z) works only on an SELinux-enabled kernel".toList 1
  else if kinds.any fun l => kinds.any (· != l) then
    c.fail "cannot print \"only\" of more than one choice".toList 1
  else if kinds.isEmpty && (given os 'n' || given os 'r') then
    c.fail "cannot print only names or real IDs in default format".toList 1
  else if kinds.isEmpty && given os 'z' then
    c.fail "option --zero not permitted in default format".toList 1
  else
    let several := 1 < args.length
    let text : Bytes :=
      if kinds.isEmpty then "uid=0(root) gid=0(root) groups=0(root)".toList
      else if given os 'n' then "root".toList
      else ['0']
    let ending : Bytes :=
      if !given os 'z' then ['\n']
      else if several && given os 'G' then ['\x00', '\x00']
      else ['\x00']
    if args.isEmpty then
      c.put (text ++ ending)
      pure 0
    else each (text ++ ending) 0 args
where
  each (row : Bytes) (status : Nat) : List Bytes → Routine Nat
    | [] => pure status
    | name :: names => do
      if name = "root".toList || name = ['0'] || name = ['+', '0'] then
        c.put row
        each row status names
      else
        c.complain (quoted name ++ ": no such user".toList)
        each row 1 names

/-- Shows the terminal of the input, which is none. -/
def tty (c : Call) : Routine Nat := do
  let (os, args) ← c.options (.among "s" [("silent", 's'), ("quiet", 's')]) 2
  match args with
  | a :: _ => c.misused ("extra operand ".toList ++ cited a) 2
  | [] => pure ()
  if !given os 's' then c.put "not a tty\n".toList
  pure 1

end Scratchpad.Utility
