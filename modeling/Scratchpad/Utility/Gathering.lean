import Scratchpad.Utility.Running

/-!
# Building commands

`xargs` runs a program with arguments that it reads: as many at once as are allowed, those of so
many lines, or one line in place of a mark.
-/

namespace Scratchpad.Utility

open Scratchpad.Machine Scratchpad.Execution Scratchpad.Text

/-- Why arguments cannot be read from a text. -/
inductive Unquoted where
  | single
  | double
  deriving DecidableEq, Repr

/-- The words of a text, each with whether its line ends behind it, and why it could not be read to
its end. Quotes and backslashes protect blanks, which otherwise end words if `split`; a quote has to
end on its line. -/
def quotedWords (split : Bool) (word : Option Bytes) : Bytes → List (Bytes × Bool) × Option Unquoted
  | [] => (match word with
    | some w => [(w.reverse, true)]
    | none => [], none)
  | '\\' :: c :: cs => quotedWords split (some (c :: word.getD [])) cs
  | c :: cs =>
    if c = '\n' || ((split || word.isNone) && (c = ' ' || c = '\t')) then
      let (rest, flaw) := quotedWords split none cs
      (match word with
        | some w => (w.reverse, c = '\n') :: rest
        | none => rest, flaw)
    else if c = '\'' || c = '"' then
      let inner := cs.takeWhile fun d => d != c && d != '\n'
      match h : cs.drop inner.length with
      | d :: rest =>
        if d = c then
          have : rest.length < cs.length + 1 := by
            have := congrArg List.length h
            simp at this
            omega
          quotedWords split (some (inner.reverse ++ word.getD [])) rest
        else ([], some (if c = '"' then .double else .single))
      | [] => ([], some (if c = '"' then .double else .single))
    else quotedWords split (some (c :: word.getD [])) cs
termination_by cs => cs.length

/-- Words in groups of which none has more than `most` words, or more than `longest` characters with
blanks behind them. -/
def grouped (most : Option Nat) (longest : Nat) (group : List Bytes) (size : Nat) :
    List Bytes → List (List Bytes)
  | [] => if group.isEmpty then [] else [group.reverse]
  | w :: ws =>
    let size' := size + w.length + 1
    if !group.isEmpty && (most.any (· ≤ group.length) || longest < size') then
      group.reverse :: grouped most longest [w] (w.length + 1) ws
    else grouped most longest (w :: group) size' ws

/-- Words in groups of so many lines. -/
def byLines (n : Nat) (group : List Bytes) (lines : Nat) : List (Bytes × Bool) → List (List Bytes)
  | [] => if group.isEmpty then [] else [group.reverse]
  | (w, ended) :: ws =>
    let lines := if ended then lines + 1 else lines
    if n ≤ lines then (w :: group).reverse :: byLines n [] 0 ws
    else byLines n (w :: group) lines ws

/-- A text with another one in all places of a third one. -/
def substituted (mark value : Bytes) (fuel : Nat) (text : Bytes) : Bytes :=
  match fuel with
  | 0 => text
  | fuel + 1 =>
    match text with
    | [] => []
    | c :: cs =>
      if !mark.isEmpty && mark.isPrefixOf text then
        value ++ substituted mark value fuel (text.drop mark.length)
      else c :: substituted mark value fuel cs

/-- Runs a program with nothing to read, and waits for it. The answer tells whether it could be run,
and how the process ended. -/
def runAndWait (c : Call) (name : Bytes) (args : List Bytes) : Routine (Bool × Ending) := do
  let (outlet, inlet) ← Routine.ask .pipe
  let id ← Routine.fork do
    let _ ← Routine.ask (.close outlet)
    -- The copy is closed when the program starts, so that something is read only if it does not.
    let copy ← Routine.ask (.keep inlet)
    let _ ← Routine.ask (.close inlet)
    let _ ← Routine.ask (.close 0)
    let _ ← Routine.ask (.openFile "/dev/null".toList .read)
    let f ← become name args c.environment
    c.complain (name ++ ": ".toList ++ f.text.toList)
    match copy with
    | .ok d =>
      let _ ← Routine.writeAll d ['!']
    | .error _ => pure ()
    pure (if f = .noEntry then 127 else 126)
  let _ ← Routine.ask (.close inlet)
  let told ← Routine.readAll outlet
  let _ ← Routine.ask (.close outlet)
  match ← Routine.ask (.await (some [id]) .untilEnd) with
  | .ended _ e => pure (told.toOption = some [], e)
  | _ => pure (true, .exited 0)

/-- A word of a command, with quotes only where it needs them. -/
def shownWord (w : Bytes) : Bytes :=
  if isPlain (w.map fun c => if c = ':' then '.' else c) then w else quoted w

/-- Runs programs one after the other; yields the status. -/
def runEach (c : Call) (told : Bool) (status : Nat) : List (List Bytes) → Routine Nat
  | [] => pure status
  | command :: rest => do
    let name := command.headD []
    if told then
      let _ ← Routine.writeAll 2 (spaced (command.map shownWord) ++ ['\n'])
    match ← runAndWait c name (command.drop 1) with
    | (false, .exited n) => pure n
    | (_, .exited 0) => runEach c told status rest
    | (_, .exited 255) => c.fail (name ++ ": exited with status 255; aborting".toList) 124
    | (_, .exited _) => runEach c told 123 rest
    | (_, .killed s) => c.fail (name ++ ": terminated by signal ".toList ++ Bytes.ofNat s) 125

namespace Gathering

/-- How arguments are put into commands. -/
structure Wish where
  mark : Option Bytes
  lines : Option Nat
  most : Option Nat
  longest : Nat
  delimiter : Option Char
  /-- The word that ends the input. -/
  finish : Option Bytes

/-- The options of `xargs`. -/
def known : Options :=
  .before "0a:d:E:e::I:i::L:l::n:P:prs:tx"
    [("null", '0'), ("arg-file", 'a'), ("delimiter", 'd'), ("eof", 'e'), ("replace", 'i'),
      ("max-lines", 'l'), ("max-args", 'n'), ("max-procs", 'P'), ("interactive", 'p'),
      ("no-run-if-empty", 'r'), ("max-chars", 's'), ("verbose", 't'), ("exit", 'x')]

/-- Warns that of two options only the later one counts. -/
def exclude (c : Call) (previous : Bool) (option excluded : String) : Routine Unit := do
  if previous then
    c.complain ("warning: options ".toList ++ excluded.toList ++ " and ".toList ++ option.toList ++
      " are mutually exclusive, ignoring previous ".toList ++ excluded.toList ++ " value".toList)

/-- The number that an option gives, which is at least `least`. -/
def number (c : Call) (letter : Char) (least : Nat) (text : Bytes) : Routine Nat :=
  let digits := if text.head? = some '-' then text.drop 1 else text
  match Bytes.toNat? digits with
  | none =>
    c.misused ("invalid number \"".toList ++ text ++ "\" for -".toList ++
      letter :: " option".toList) 1
  | some n =>
    if n < least || (text.head? = some '-' && n != 0) then
      c.misused ("value ".toList ++ text ++ " for -".toList ++ letter ::
        " option should be >= ".toList ++ Bytes.ofNat least) 1
    else pure n

/-- The character that separates arguments. -/
def delimiterOf (c : Call) (text : Bytes) : Routine Char :=
  match text with
  | [d] => pure d
  | ['\\', d] =>
    match [('0', '\x00'), ('a', '\x07'), ('b', '\x08'), ('f', '\x0c'), ('n', '\n'), ('r', '\r'),
        ('t', '\t'), ('v', '\x0b'), ('\\', '\\')].lookup d with
    | some d => pure d
    | none =>
      c.fail ("Invalid escape sequence ".toList ++ text ++
        " in input delimiter specification.".toList) 1
  | _ =>
    c.fail ("Invalid input delimiter specification ".toList ++ text ++
      (": the delimiter must be either a single character or an escape sequence starting with " ++
        "\\.").toList) 1

/-- Takes one more option into account. -/
def follow (c : Call) (w : Wish) (o : Char × Bytes) : Routine Wish := do
  match o.1 with
  | '0' => pure { w with delimiter := some '\x00' }
  | 'd' => do pure { w with delimiter := some (← delimiterOf c o.2) }
  | 'E' => pure { w with finish := if o.2.isEmpty then none else some o.2 }
  | 'e' => pure { w with finish := if o.2.isEmpty then none else some o.2 }
  | 'I' => marked o.2
  | 'i' => marked (if o.2.isEmpty then "\x7b\x7d".toList else o.2)
  | 'L' => do lined "-L" (← number c 'L' 1 o.2)
  | 'l' => do lined "--max-lines/-l" (← if o.2.isEmpty then pure 1 else number c 'l' 1 o.2)
  | 'n' => do
    let n ← number c 'n' 1 o.2
    exclude c w.lines.isSome "--max-args/-n" "--max-lines"
    if w.mark.isSome && n = 1 then pure w
    else
      exclude c w.mark.isSome "--max-args/-n" "--replace"
      pure { w with most := some n, lines := none, mark := none }
  | 'P' => do
    let _ ← number c 'P' 0 o.2
    pure w
  | 's' => do pure { w with longest := ← number c 's' 1 o.2 }
  | _ => pure w
where
  marked (mark : Bytes) : Routine Wish := do
    exclude c w.most.isSome "--replace/-I/-i" "--max-args"
    exclude c w.lines.isSome "--replace/-I/-i" "--max-lines"
    pure { w with mark := some mark, most := none, lines := none }
  lined (option : String) (n : Nat) : Routine Wish := do
    exclude c w.most.isSome option "--max-args"
    exclude c w.mark.isSome option "--replace"
    pure { w with lines := some n, most := none, mark := none }

/-- The arguments in a text, each with whether its line ends behind it, and why it could not be read
to its end. -/
def argumentsIn (w : Wish) (text : Bytes) : List (Bytes × Bool) × Option Unquoted :=
  match w.delimiter with
  | some d => ((recordsOf d text).1.map fun p => (p, true), none)
  | none =>
    let (words, flaw) := quotedWords w.mark.isNone none text
    match w.finish with
    | some e =>
      let front := words.takeWhile fun a => a.1 != e
      (front, if front.length < words.length then none else flaw)
    | none => (words, flaw)

end Gathering

open Gathering in
/-- Runs a program with arguments that are read from the input. -/
def xargs (c : Call) : Routine Nat := do
  let (os, command) ← c.options known 1
  let w ← os.foldlM (follow c) ⟨none, none, none, 131072, none, none⟩
  if w.delimiter.isSome && w.finish.isSome then
    c.complain "warning: the -E option has no effect if -0 or -d is used.\n".toList
  let command := if command.isEmpty then ["echo".toList] else command
  let path := (lastOf os 'a').getD ['-']
  let text ← match ← readFile path with
    | .ok text => pure text
    | .error f =>
      if path = ['-'] then pure []
      else
        c.fail ("Cannot open input file ".toList ++ quoted path ++ ": ".toList ++ f.text.toList) 1
  if w.delimiter.isNone && text.contains '\x00' then
    c.complain ("WARNING: a NUL character occurred in the input.  It cannot be passed through " ++
      "in the argument list.  Did you mean to use the --null option?").toList
  let (words, flaw) := argumentsIn w text
  let words := words.map fun a => (a.1.takeWhile (· != '\x00'), a.2)
  let own := (command.map fun a => a.length + 1).foldr (· + ·) 0
  let fitting := words.takeWhile fun a => own + a.1.length < w.longest
  let long := fitting.length < words.length
  let words := fitting
  let commands := match w.mark, w.lines with
    | some mark, _ =>
      words.map fun a => command.map fun part => substituted mark a.1 (part.length + 1) part
    | none, some n => (byLines n [] 0 words).map fun g => command ++ g
    | none, none =>
      (grouped w.most (w.longest - own) [] 0 (words.map Prod.fst)).map fun g => command ++ g
  let commands :=
    if commands.isEmpty && !long && !given os 'r' && w.mark.isNone then [command] else commands
  if given os 'p' && !commands.isEmpty then
    let _ ← Routine.writeAll 2 (spaced ((commands.headD []).map shownWord))
    c.fail "failed to open /dev/tty for reading: No such device or address".toList 1
  let status ← runEach c (given os 't') 0 commands
  match flaw with
  | none => if long then c.fail "argument line too long".toList 1 else pure status
  | some u =>
    c.fail ("unmatched ".toList ++ (if u = .single then "single" else "double").toList ++
      " quote; by default quotes are special to xargs unless you use the -0 option".toList) 1

end Scratchpad.Utility
