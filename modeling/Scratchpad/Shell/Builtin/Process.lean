import Scratchpad.Shell.Builtin.Basic
import Scratchpad.Shell.Job
import Scratchpad.Shell.Printf
import Scratchpad.Text.Split

/-!
# Processes and signals

The commands that send signals and say what is done on them, those that wait for other processes,
and those about the limits of the shell.
-/

namespace Scratchpad.Shell

open Scratchpad.Machine Scratchpad.Text

namespace Builtin

/-- The rights that a mask leaves, in letters. -/
def rights (mask : Nat) : Bytes :=
  let part (who : Char) (bits : Nat) : Bytes :=
    who :: '=' :: ((if bits / 4 % 2 = 0 then ['r'] else []) ++
      (if bits / 2 % 2 = 0 then ['w'] else []) ++ (if bits % 2 = 0 then ['x'] else []))
  part 'u' (mask / 64) ++ ',' :: part 'g' (mask / 8) ++ ',' :: part 'o' mask

/-- The rights after changes in letters, such as `u=rwx,g-w`. Those of a group that are named as
rights are the ones from before all changes. -/
def changedRights? (old : Nat) (text : Bytes) : Option Nat := change (text.length + 1) [] old text
where
  change (fuel : Nat) (groups : List Nat) (rights : Nat) (cs : Bytes) : Option Nat :=
    match fuel with
    | 0 => none
    | fuel + 1 =>
      if cs.isEmpty then some rights
      else
        let who := cs.takeWhile fun c => c == 'u' || c == 'g' || c == 'o' || c == 'a'
        let groups := groups ++ who.flatMap groupsOf
        let groups := if groups.isEmpty then groupsOf 'a' else groups
        match cs.drop who.length with
        | [] => some rights
        | o :: rest =>
          if !isOperator o then none
          else
            let letters := rest.takeWhile fun c => "rwxugoXs".toList.contains c
            let bits := letters.foldl (fun n c => n ||| bitsOf c) 0
            let rights := [6, 3, 0].foldl (fun (n : Nat) (g : Nat) =>
              if groups.contains g then adjust o bits g n else n) rights
            match rest.drop letters.length with
            | ',' :: rest => change fuel [] rights rest
            | rest => if rest.head?.all isOperator then change fuel groups rights rest else none
  isOperator (c : Char) : Bool := c == '=' || c == '+' || c == '-'
  groupsOf (c : Char) : List Nat :=
    if c = 'u' then [6] else if c = 'g' then [3] else if c = 'o' then [0] else [6, 3, 0]
  bitsOf (c : Char) : Nat :=
    match c with
    | 'r' => 4
    | 'w' => 2
    | 'x' => 1
    | 'u' => old / 64 % 8
    | 'g' => old / 8 % 8
    | 'o' => old % 8
    | 'X' => if old &&& 73 = 0 then 0 else 1
    | _ => 0
  adjust (o : Char) (bits shift n : Nat) : Nat :=
    let now := n / Nat.pow 2 shift % 8
    let new := if o = '=' then bits else if o = '+' then now ||| bits else now &&& (7 - bits)
    n - now * Nat.pow 2 shift + new * Nat.pow 2 shift

/-- Shows or sets which rights new files do not get. -/
def umask (args : List Bytes) : Action Nat := do
  let (os, args) ← optionsOf "S" args
  let sh ← get
  match args.head? with
  | none =>
    let digits := Nat.toDigits 8 sh.mask
    Action.put ((if os.isEmpty then List.replicate (4 - digits.length) '0' ++ digits
      else rights sh.mask) ++ ['\n'])
    pure 0
  | some a =>
    if a.head?.any Char.isDigit then
      if a.all isOctal then
        let mask := a.foldl (fun (n : Nat) (c : Char) => 8 * n + (c.toNat - '0'.toNat)) 0
        set { sh with mask := mask % 512 }
        pure 0
      else Action.fail ("Illegal number: ".toList ++ a)
    else
      match changedRights? (511 - sh.mask) a with
      | some rights =>
        set { sh with mask := 511 - rights }
        pure 0
      | none => Action.fail ("Illegal mode: ".toList ++ a)

/-- The limits of the system, by their letters. -/
def limits : List (Char × String × Option Nat) :=
  [('t', "time(seconds)        ", none), ('f', "file(blocks)         ", none),
   ('d', "data(kbytes)         ", none), ('s', "stack(kbytes)        ", some 8192),
   ('c', "coredump(blocks)     ", some 0), ('m', "memory(kbytes)       ", none),
   ('l', "locked memory(kbytes) ", some 8192), ('p', "process              ", none),
   ('n', "nofiles              ", some 1024), ('v', "vmemory(kbytes)      ", none),
   ('w', "locks                ", none), ('r', "rtprio               ", some 0)]

/-- Shows limits of the system; setting one has no effect. -/
def ulimit (args : List Bytes) : Action Nat := do
  let (os, args) ← optionsOf "HSatfdscmlpnvwr" args
  let shown (n : Option Nat) : Bytes := match n with
    | some n => Bytes.ofNat n ++ ['\n']
    | none => "unlimited\n".toList
  if os.any fun o => o.1 = 'a' then
    Action.put (limits.flatMap fun l => l.2.1.toList ++ shown l.2.2)
  else if args.isEmpty then
    let which := ((os.map Prod.fst).filter fun c => c != 'H' && c != 'S').getLast?.getD 'f'
    Action.put (shown (((limits.find? fun l => l.1 = which).map fun l => l.2.2).getD none))
  pure 0

/-- Shows the time that was used, which is none. -/
def times : Action Nat := do
  Action.put "0m0.000000s 0m0.000000s\n0m0.000000s 0m0.000000s\n".toList
  pure 0

/-- The signal that a command names, by its number or by its name. -/
def signal? (text : Bytes) : Option Signal :=
  if text.isEmpty then none
  else if text.map Char.toUpper = "EXIT".toList then some 0
  else Signal.ofText? text

/-- Shows or sets what is done on signals and at the end. -/
def trap (args : List Bytes) : Action Nat := do
  match ← plain args with
  | [] =>
    let sh ← get
    let traps := sh.traps.mergeSort fun a b => a.1 ≤ b.1
    Action.put (traps.flatMap fun t =>
      "trap -- ".toList ++ quoted t.2 ++ ' ' ::
        (if t.1 = 0 then "EXIT".toList else Signal.name t.1) ++ ['\n'])
    pure 0
  | [name] => change none [name]
  | action :: names =>
    if ((Bytes.toNat? action).any fun n => n ≤ Signal.last) then change none (action :: names)
    else change (if action = ['-'] then none else some action) names
where
  change (action : Option Bytes) : List Bytes → Action Nat
    | [] => pure 0
    | n :: ns => do
      match signal? n with
      | none =>
        let _ ← Action.write 2 ("trap: ".toList ++ n ++ ": bad trap\n".toList)
        pure 1
      | some s =>
        let sh ← get
        let others := sh.traps.filter fun t => t.1 != s
        set { sh with traps := match action with
          | some a => (s, a) :: others
          | none => others }
        if s != 0 && !sh.deaf.contains s && !s.isFinal then
          Action.ask (.react s (match action with
            | none => .usual
            | some [] => .ignored
            | some _ => .caught))
        change action ns

/-- Sends signals. -/
def kill (args : List Bytes) : Action Nat := do
  let usage : Action Nat := Action.fail
    ("Usage: kill [-s sigspec | -signum | -sigspec] [pid | job]... or\n" ++
      "kill -l [exitstatus]").toList
  let (list, signal, targets) ← match args with
    | ('-' :: s) :: rest =>
      match named s with
      | some n => pure (false, some n, rest)
      | none => do
        let (os, targets) ← optionsOf "ls:" args
        let signal ← os.foldlM (fun signal o => do
          if o.1 = 's' then
            match named o.2 with
            | some n => pure (some n)
            | none => Action.fail ("invalid signal number or name: ".toList ++ o.2)
          else pure signal) (none : Option Signal)
        pure (os.any fun o => o.1 = 'l', signal, targets)
    | _ => pure (false, none, args)
  if list then
    if signal.isSome then usage
    else
      match targets.head? with
      | none =>
        Action.put ("0\n".toList ++
          (List.range Signal.last).flatMap fun n => Signal.name (n + 1) ++ ['\n'])
        pure 0
      | some a =>
        let n ← number a
        let n := if 128 < n then n - 128 else n
        if 0 < n && n ≤ Signal.last then
          Action.put (Signal.name n ++ ['\n'])
          pure 0
        else Action.fail ("invalid signal number or exit status: ".toList ++ a)
  else if targets.isEmpty then usage
  else
    targets.foldlM (fun status t => do
      let target ← match t with
        | '%' :: _ => do pure (-((← jobOf false t).processes.headD (0, none)).1 : Int)
        | '-' :: n => do pure (-(((← number n) : Nat) : Int))
        | n => do pure ((← number n : Nat) : Int)
      match ← Action.ask (.signal target (signal.getD 15)) with
      | .ok _ => pure status
      | .error f =>
        Action.complain (f.text.toList ++ ['\n'])
        pure 1) 0
where
  named (s : Bytes) : Option Signal :=
    if s.isEmpty then none
    else if s.all Char.isDigit then Signal.ofText? s
    else if s.head?.any Char.isDigit then none
    else Signal.ofName? s

/-- Waits for jobs: those that are named by a process or a number, or all. -/
def wait (args : List Bytes) : Action Nat := do
  match ← plain args with
  | [] =>
    let came ← awaitJobs Routine.patience none fun sh => sh.jobs.any fun j => !j.isDone
    if came.isNone then
      modify fun sh => { sh with jobs := sh.jobs.map fun j => { j with waited := true } }
    pure ((came.map (128 + ·)).getD 0)
  | names => each 127 names
where
  each (status : Nat) : List Bytes → Action Nat
    | [] => pure status
    | n :: ns => do
      let found ← match n with
        | '%' :: _ => do pure (some (← jobOf false n))
        | _ => do
          let id ← number n
          pure ((← get).jobs.find? fun j => (j.processes.getLast?.map Prod.fst) = some id)
      match found with
      | none => each status ns
      | some j =>
        let running (sh : State) : Bool := sh.jobs.any fun k => k.number == j.number && !k.isDone
        match ← awaitJobs Routine.patience (some j.number) running with
        | some s => pure (128 + s)
        | none =>
          modify fun sh => sh.updateJob j.number fun j => { j with waited := true }
          let ended := (← get).jobs.find? fun k => k.number == j.number
          each ((ended.map Job.status).getD 0) ns

/-- A job as it is shown: its number, whether it is the current one or the one before, and its
state. The processes of a pipeline may be shown one by one. -/
def shown (sh : State) (ids : Bool) (j : Job) : Bytes :=
  let isAt (i : Nat) : Bool := (sh.jobs[i]?.map Job.number) == some j.number
  let mark := if isAt 0 then '+' else if isAt 1 then '-' else ' '
  let number := '[' :: Bytes.ofNat j.number ++ "] ".toList ++ [mark, ' ']
  let id (p : Nat × Option Execution.Ending) : Bytes := Bytes.ofNat p.1 ++ [' ']
  let start := number ++ (match j.processes with
    | p :: _ => if ids then id p else []
    | [] => []) ++ j.described
  let first := start ++ List.replicate (max 1 (33 - start.length)) ' '
  let rest := j.processes.drop 1
  if ids then
    first ++ rest.flatMap (fun p =>
      let line := " |\n".toList ++ List.replicate number.length ' ' ++ id p
      line ++ List.replicate (max 1 (36 - line.length)) ' ') ++ ['\n']
  else first ++ rest.flatMap (fun _ => " | ".toList) ++ ['\n']

/-- Shows jobs. Those that have ended are forgotten after that. -/
def jobs (args : List Bytes) : Action Nat := do
  let (os, names) ← optionsOf "lp" args
  let mode := (os.getLast?.map Prod.fst).getD ' '
  let tell (j : Job) : Action Unit := do
    let sh ← get
    Action.put (if mode = 'p' then Bytes.ofNat (j.processes.headD (0, none)).1 ++ ['\n']
      else shown sh (mode = 'l') j)
    if mode != 'p' && j.isDone then
      set { sh with jobs := sh.jobs.filter fun k => k.number != j.number }
  if names.isEmpty then
    noteEndings Routine.patience
    Action.forEach (← get).jobs tell
  else
    Action.forEach names fun n => do tell (← jobOf false n)
  pure 0

/-- Brings a job to the front or sends it to the back, for which it has to be under control. -/
def resume (args : List Bytes) : Action Nat := do
  let names ← plain args
  let _ ← Action.collect (if names.isEmpty then [[]] else names) (jobOf true)
  pure 0

end Builtin

end Scratchpad.Shell
