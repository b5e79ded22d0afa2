import Scratchpad.Utility.Lines
import Scratchpad.Utility.Stream.Script

/-!
# Editing streams

`sed` carries out a script for each line of its input. The line is kept in one place, a second place
holds what is stored there, and what is left in the first one is written at the end of each round.
-/

namespace Scratchpad.Utility

open Scratchpad.Machine Scratchpad.Text

namespace Stream

/-- What is written when the next line is read. -/
inductive Queued where
  | text (cs : Bytes)
  | file (path : Bytes)

/-- Where a range that has begun ends. -/
inductive RangeEnd where
  | line (n : Nat)
  | address (a : Address)

/-- How a script is carried out. -/
structure Order where
  commands : Array Command
  quiet : Bool
  /-- The width of lines that are shown with escapes; absent if they are not cut. -/
  width : Option Nat
  /-- The files that commands write to, with their descriptors. -/
  files : List (Bytes × Nat)

/-- Where editing stands. -/
structure Desk where
  /-- The character that ends lines. -/
  ending : Char
  source : Option (Bytes × LineSource)
  /-- The file of the current line. -/
  name : Bytes
  paths : List Bytes
  /-- The next line, if it was read before it was needed. -/
  ahead : Option Line
  number : Nat
  line : Bytes
  /-- Whether the line had an end. -/
  ended : Bool
  stored : Bytes
  /-- Whether the line that was stored had an end. -/
  storedEnded : Bool
  queue : List Queued
  /-- The files that are read line by line. -/
  readers : List (Bytes × Option LineSource)
  /-- Whether something was replaced since the last line was read or the last jump was made because
  of that. -/
  changed : Bool
  ranges : List (Nat × RangeEnd)
  lastPattern : Option Regular
  /-- Whether the end of the last line that was written is still to be written. -/
  unended : Bool
  /-- The files for which that is so too. -/
  unendedFiles : List Bytes
  /-- What was written in the place of the file, the last pieces first; absent if it goes to the
  output. -/
  kept : Option (List Bytes)
  status : Nat

/-- How a round goes on after a command. -/
inductive Flow where
  | to (place : Nat)
  /-- The round is over; `written` tells whether the line is written. -/
  | finished (written : Bool)
  /-- The next round begins without a new line. -/
  | again
  | quit (written : Bool) (status : Nat)

namespace Desk

/-- Writes bytes. -/
def put (c : Call) (d : Desk) (bytes : Bytes) : Routine Desk := do
  match d.kept with
  | some out => pure { d with kept := some (bytes :: out) }
  | none =>
    c.put bytes
    pure d

/-- Writes a text on lines of its own. -/
def emit (c : Call) (d : Desk) (text : Bytes) (ended : Bool) : Routine Desk := do
  let d ← d.put c ((if d.unended then [d.ending] else []) ++ text ++
    if ended then [d.ending] else [])
  pure { d with unended := !ended }

/-- Writes bytes after the end of the last line. -/
def emitRaw (c : Call) (d : Desk) (bytes : Bytes) : Routine Desk := do
  let d ← d.put c ((if d.unended then [d.ending] else []) ++ bytes)
  pure { d with unended := false }

/-- The next line of the input. -/
def pull (c : Call) (d : Desk) : Routine (Option Line × Desk) :=
  Routine.loop Routine.patience (fun (d : Desk) => do
    match d.ahead, d.source, d.paths with
    | some line, _, _ => pure (.inr (some line, { d with ahead := none }))
    | none, some (path, source), _ =>
      let (r, next) ← source.next
      match r with
      | .ok (some line) =>
        pure (.inr (some line, { d with source := some (path, next), name := path }))
      | .ok none =>
        closeInput source.descriptor
        pure (.inl { d with source := none })
      | .error f => c.fail ("read error on ".toList ++ path ++ ": ".toList ++ f.text.toList) 4
    | none, none, [] => pure (.inr (none, d))
    | none, none, path :: paths =>
      match ← openInput path with
      | .ok n => pure (.inl { d with source := some (path, .ofDescriptor n d.ending), paths })
      | .error f =>
        c.complain ("can't read ".toList ++ path ++ ": ".toList ++ f.text.toList)
        pure (.inl { d with paths, status := 2 })) (fun d => (none, d)) d

/-- Whether the current line is the last one. -/
def isLast (c : Call) (d : Desk) : Routine (Bool × Desk) := do
  match d.ahead with
  | some _ => pure (false, d)
  | none =>
    let (line, d) ← d.pull c
    pure (line.isNone, { d with ahead := line })

/-- Writes what was put off until the next line. -/
def flush (c : Call) (d : Desk) : Routine Desk := do
  let d ← if d.queue.isEmpty || !d.unended then pure d else d.emitRaw c []
  let d ← d.queue.foldlM (fun d q => do
    match q with
    | .text cs => if cs.isEmpty then pure d else d.emitRaw c cs
    | .file path =>
      match ← readFile path with
      | .ok [] => pure d
      | .ok text => d.emitRaw c text
      | .error _ => pure d) d
  pure { d with queue := [] }

/-- Reads the next line, which is joined to the current one if `joined`; tells whether there is one.
-/
def advance (c : Call) (d : Desk) (joined : Bool) : Routine (Bool × Desk) := do
  let d ← d.flush c
  let (line, d) ← d.pull c
  match line with
  | none => pure (false, d)
  | some l =>
    pure (true, { d with
      number := d.number + 1
      line := if joined then d.line ++ d.ending :: l.text else l.text
      ended := l.ended
      changed := if joined then d.changed else false })

/-- Whether the current line matches an expression, or the one that was used last. -/
def fits (c : Call) (d : Desk) (r : Option Regular) (folded : Bool) : Routine (Bool × Desk) := do
  match r.orElse fun _ => d.lastPattern with
  | none => c.fail "-e expression #1, char 0: no previous regular expression".toList 1
  | some r => pure ((r.search? folded d.line).isSome, { d with lastPattern := some r })

/-- Whether an address means the current line. -/
def isAt (c : Call) (d : Desk) : Address → Routine (Bool × Desk)
  | .line n => pure (d.number = n, d)
  | .last => d.isLast c
  | .every first step => pure (first ≤ d.number && (d.number - first) % step = 0, d)
  | .matching r folded => d.fits c r folded

/-- Begins a range at the current line, unless it ends there. -/
def started (d : Desk) (place : Nat) (u : Until) : Desk :=
  let ending (e : RangeEnd) : Desk := { d with ranges := (place, e) :: d.ranges }
  let upTo (n : Nat) : Desk := if n ≤ d.number then d else ending (.line n)
  match u with
  | .address (.line n) => upTo n
  | .address a => ending (.address a)
  | .after n => upTo (d.number + n)
  | .multiple n => if n = 0 then d else upTo ((d.number / n + 1) * n)

/-- The desk without the range of a command. -/
def leave (d : Desk) (place : Nat) : Desk :=
  { d with ranges := d.ranges.filter fun r => r.1 != place }

/-- Whether the command at a place applies to the current line. -/
def applies (c : Call) (d : Desk) (place : Nat) (s : Selection) : Routine (Bool × Desk) := do
  let (hit, d) ← match s.first, s.last with
    | none, _ => pure (true, d)
    | some a, none => d.isAt c a
    | some a, some u =>
      match d.ranges.lookup place with
      | some (.line n) => pure (d.number ≤ n, if n ≤ d.number then d.leave place else d)
      | some (.address e) => do
        let (hit, d) ← d.isAt c e
        pure (true, if hit then d.leave place else d)
      | none =>
        match a, u with
        | .line 0, .address e =>
          if d.number = 1 then do
            let (hit, d) ← d.isAt c e
            pure (true, if hit then d else d.started place u)
          else pure (false, d)
        | a, u => do
          let (hit, d) ← d.isAt c a
          pure (hit, if hit then d.started place u else d)
  pure (hit != s.negated, d)

end Desk

/-- How the case of the letters of a replacement is changed: of all that follow, and of the next
one. -/
structure Cases where
  all : Case
  next : Option Case

/-- A byte in a case; one that is no character has none, and becomes the last byte of all. -/
def Case.of (k : Case) (c : Char) : Char :=
  match k with
  | .upper => if '\x80' ≤ c then '\xff' else c.toUpper
  | .lower => if '\x80' ≤ c then '\xff' else c.toLower
  | .unchanged => c

/-- What pieces stand for after a match. -/
def replacementOf (m : Regular.Match) (k : Cases) : List Piece → Bytes
  | [] => []
  | .casing c :: ps => replacementOf m ⟨c, none⟩ ps
  | .nextCase c :: ps => replacementOf m { k with next := some c } ps
  | .text cs :: ps => cased cs ps
  | .group n :: ps => cased (if n = 0 then m.text else (m.groups.lookup n).getD []) ps
where
  cased (cs : Bytes) (ps : List Piece) : Bytes :=
    match cs with
    | [] => replacementOf m k ps
    | c :: rest =>
      (k.next.getD k.all).of c :: rest.map k.all.of ++ replacementOf m { k with next := none } ps

/-- A text with matches replaced, and whether there were any. `count` is how many were found before;
`abutting` tells whether a match ended where reading stands. -/
def replaced (r : Regular) (s : Substitution) (fuel count : Nat) (abutting : Bool)
    (passed rest : Bytes) : Bytes × Bool :=
  match fuel with
  | 0 => (rest, false)
  | fuel + 1 =>
    match r.searchFrom? s.folded passed rest with
    | none => (rest, false)
    | some m =>
      let front := m.before.drop passed.length
      let passed := m.text.reverse ++ m.before.reverse
      let goOn (count : Nat) (here : Bytes) (hit : Bool) : Bytes × Bool :=
        if m.text.isEmpty then
          match m.after with
          | [] => (front ++ here, hit)
          | c :: cs =>
            let (more, found) := replaced r s fuel count false (c :: passed) cs
            (front ++ here ++ c :: more, hit || found)
        else
          let (more, found) := replaced r s fuel count true passed m.after
          (front ++ here ++ more, hit || found)
      if m.text.isEmpty && abutting && front.isEmpty then goOn count [] false
      else if count + 1 < s.firstMatch then goOn (count + 1) m.text false
      else
        let here := replacementOf m ⟨.unchanged, none⟩ s.pieces
        if s.every then goOn (count + 1) here true else (front ++ here ++ m.after, true)

/-- Writes a text to a file as a line. -/
def writeLine (c : Call) (o : Order) (d : Desk) (path text : Bytes) (ended : Bool) :
    Routine Desk := do
  let bytes := (if d.unendedFiles.contains path then [d.ending] else []) ++ text ++
    if ended then [d.ending] else []
  if path = "/dev/stdout".toList then c.put bytes
  else
    let _ ← Routine.writeAll ((o.files.lookup path).getD 2) bytes
  let others := d.unendedFiles.filter (· != path)
  pure { d with unendedFiles := if ended then others else path :: others }

/-- What a command of the shell writes. -/
def outputOf (c : Call) (command : Bytes) : Routine Bytes := do
  let (outlet, inlet) ← Routine.ask .pipe
  let id ← Routine.fork do
    let _ ← Routine.ask (.close outlet)
    let _ ← Routine.ask (.copy inlet 1)
    let _ ← Routine.ask (.close inlet)
    let _ ← Routine.ask
      (.execute "/bin/sh".toList "sh".toList ["-c".toList, command] c.environment)
    pure 127
  let _ ← Routine.ask (.close inlet)
  let text ← Routine.readAll outlet
  let _ ← Routine.ask (.close outlet)
  let _ ← Routine.ask (.await (some [id]) .untilEnd)
  pure (text.toOption.getD [])

/-- The desk with the output of the line, taken as a command of the shell, in its place. -/
def executed (c : Call) (d : Desk) : Routine Desk := do
  let text ← outputOf c d.line
  pure { d with line := if text.getLast? = some d.ending then text.dropLast else text }

/-- The next line of a file that is read line by line, with its end. -/
def nextLineOf (d : Desk) (path : Bytes) : Routine (Option Bytes × Desk) := do
  let reader ← match d.readers.lookup path with
    | some r => pure r
    | none =>
      match ← openInput path with
      | .ok n => pure (some (LineSource.ofDescriptor n d.ending))
      | .error _ => pure none
  let keep (r : Option LineSource) : Desk :=
    { d with readers := (path, r) :: d.readers.filter fun e => e.1 != path }
  match reader with
  | none => pure (none, keep none)
  | some source =>
    match ← source.next with
    | (.ok (some line), source) =>
      pure (some (line.text ++ if line.ended then [d.ending] else []), keep (some source))
    | (_, _) => pure (none, keep none)

/-- A byte of a line that is shown with escapes. -/
def listed (c : Char) : Bytes :=
  if c = '\\' then ['\\', '\\'] else if isShown c then [c] else escaped c

/-- A line with escapes, cut to a width; `column` is where writing stands. -/
def listing (ending : Char) (width : Option Nat) (column : Nat) : Bytes → Bytes
  | [] => ['$']
  | c :: cs =>
    let text := listed c
    if width.any (· < column + text.length) then
      '\\' :: ending :: text ++ listing ending width text.length cs
    else text ++ listing ending width (column + text.length) cs

/-- The place of a label; of none, the end of the script. -/
def placeOf (o : Order) (name : Bytes) : Nat :=
  if name.isEmpty then o.commands.size
  else
    (o.commands.findIdx? fun c => match c.deed with
      | .label n => n = name
      | _ => false).getD o.commands.size

/-- Carries out a command that applies, and tells how the round goes on. -/
def carryOut (c : Call) (o : Order) (d : Desk) (place : Nat) (k : Deed) :
    Routine (Flow × Desk) := do
  let after : Flow := .to (place + 1)
  let firstLine := d.line.takeWhile (· != d.ending)
  let several := d.line.contains d.ending
  match k with
  | .block _ => pure (after, d)
  | .blockEnd => pure (after, d)
  | .label _ => pure (after, d)
  | .append text => pure (after, { d with queue := d.queue ++ [.text text] })
  | .read path => pure (after, { d with queue := d.queue ++ [.file path] })
  | .readLine path =>
    let (text, d) ← nextLineOf d path
    pure (after, { d with queue := d.queue ++ (text.map Queued.text).toList })
  | .insert text => do pure (after, ← if text.isEmpty then pure d else d.emit c text.dropLast true)
  | .change text =>
    let d ← if (d.ranges.lookup place).isSome || text.isEmpty then pure d
      else d.emit c text.dropLast true
    pure (.finished false, d)
  | .jump name => pure (.to (placeOf o name), d)
  | .jumpIfChanged name =>
    pure (if d.changed then .to (placeOf o name) else after, { d with changed := false })
  | .jumpUnlessChanged name =>
    pure (if d.changed then after else .to (placeOf o name), { d with changed := false })
  | .delete => pure (.finished false, d)
  | .deleteLine =>
    if several then
      pure (.again, { d with line := d.line.drop (firstLine.length + 1) })
    else pure (.finished false, d)
  | .empty => pure (after, { d with line := [] })
  | .store => pure (after, { d with stored := d.line, storedEnded := d.ended })
  | .storeMore =>
    pure (after, { d with stored := d.stored ++ d.ending :: d.line, storedEnded := d.ended })
  | .fetch => pure (after, { d with line := d.stored, ended := d.storedEnded })
  | .fetchMore =>
    pure (after, { d with line := d.line ++ d.ending :: d.stored, ended := d.storedEnded })
  | .exchange =>
    pure (after, { d with
      line := d.stored, ended := d.storedEnded, stored := d.line, storedEnded := d.ended })
  | .next =>
    let (last, d) ← d.isLast c
    if last then pure (.finished true, d)
    else
      let d ← if o.quiet then pure d else d.emit c d.line d.ended
      let (_, d) ← d.advance c false
      pure (after, d)
  | .nextMore =>
    let (last, d) ← d.isLast c
    if last then pure (.finished true, d)
    else
      let (_, d) ← d.advance c true
      pure (after, d)
  | .print => do pure (after, ← d.emit c d.line d.ended)
  | .printLine => do pure (after, ← d.emit c firstLine (several || d.ended))
  | .number => do pure (after, ← d.emit c (Bytes.ofNat d.number) true)
  | .list width =>
    let width := match width with
      | some 0 => none
      | some n => some (max 1 (n - 1))
      | none => o.width
    pure (after, ← d.emit c (listing d.ending width 0 d.line) true)
  | .name => do pure (after, ← d.emit c d.name true)
  | .execute command =>
    if command.isEmpty then do pure (after, ← executed c d)
    else
      let text ← outputOf c command
      pure (after, ← d.emitRaw c text)
  | .quit status => pure (.quit true status, d)
  | .quitSilently status => pure (.quit false status, d)
  | .write path => do pure (after, ← writeLine c o d path d.line d.ended)
  | .writeFirst path => do
    pure (after, ← writeLine c o d path firstLine (several || d.ended))
  | .replace pairs =>
    pure (after, { d with line := d.line.map fun ch => (pairs.lookup ch).getD ch })
  | .substitute s =>
    match s.pattern.orElse fun _ => d.lastPattern with
    | none => c.fail "-e expression #1, char 0: no previous regular expression".toList 1
    | some r =>
      let (line, hit) := replaced r s (d.line.length + 2) 0 false [] d.line
      let d := { d with lastPattern := some r }
      if !hit then pure (after, d)
      else
        let d := { d with line, changed := true }
        let d ← if s.executed then executed c d else pure d
        let d ← if s.printed then d.emit c d.line d.ended else pure d
        let d ← match s.file with
          | some path => writeLine c o d path d.line d.ended
          | none => pure d
        pure (after, d)

/-- Carries out the commands of a script for the current line. -/
def round (c : Call) (o : Order) (d : Desk) : Routine (Flow × Desk) :=
  Routine.loop Routine.patience (fun (s : Nat × Desk) => do
    match o.commands[s.1]? with
    | none => pure (.inr (.finished true, s.2))
    | some k =>
      let (hit, d) ← s.2.applies c s.1 k.selection
      if !hit then
        pure (.inl (match k.deed with
          | .block behind => (behind, d)
          | _ => (s.1 + 1, d)))
      else
        match ← carryOut c o d s.1 k.deed with
        | (.to place, d) => pure (.inl (place, d))
        | r => pure (.inr r)) (fun s => (.finished true, s.2)) (0, d)

/-- Carries out a script for all lines; the status is there if the script was left. -/
def edit (c : Call) (o : Order) (d : Desk) : Routine (Option Nat × Desk) :=
  Routine.loop Routine.patience (fun (s : Bool × Desk) => do
    let (there, d) ← if s.1 then s.2.advance c false else pure (true, s.2)
    if !there then
      pure (.inr (none, d))
    else
      let (flow, d) ← round c o d
      let written := match flow with
        | .to _ => true
        | .finished written => written
        | .again => false
        | .quit written _ => written
      let d ← if written && !o.quiet then d.emit c d.line d.ended else pure d
      match flow with
      | .again => do
        let d ← d.flush c
        pure (.inl (false, d))
      | .quit written status => do
        let d ← if written then d.flush c else pure d
        let d ← if written && d.unended then d.emitRaw c [] else pure d
        pure (.inr (some status, d))
      | _ => do
        let d ← d.flush c
        pure (.inl (true, d))) (fun s => (none, s.2)) (true, d)

/-- The files that the commands of a script write to. -/
def targets (cs : List Command) : List Bytes :=
  (cs.filterMap fun c => match c.deed with
    | .write path => some path
    | .writeFirst path => some path
    | .substitute s => s.file
    | _ => none).filter fun p =>
      p != "/dev/stdout".toList && p != "/dev/stderr".toList

/-- Opens the files that a script writes to. -/
def openTargets (c : Call) : List Bytes → Routine (List (Bytes × Nat))
  | [] => pure []
  | path :: paths => do
    match ← Routine.ask (.openFile path .write) with
    | .ok d => do pure ((path, d) :: (← openTargets c paths))
    | .error f =>
      c.fail ("couldn't open file ".toList ++ path ++ ": ".toList ++ f.text.toList) 4

/-- The start of editing some files. -/
def deskOf (ending : Char) (paths : List Bytes) (inPlace : Bool) : Desk :=
  { ending, source := none, name := ['-'], paths, ahead := none, number := 0, line := []
    ended := true, stored := [], storedEnded := true, queue := [], readers := [], changed := false
    ranges := [], lastPattern := none, unended := false, unendedFiles := []
    kept := if inPlace then some [] else none, status := 0 }

/-- Edits files one by one: each in its own place if there is a suffix, under which, unless it is
empty, the old file stays. -/
def editEach (c : Call) (o : Order) (ending : Char) (suffix : Option Bytes) (unended : Bool)
    (status : Nat) : List Bytes → Routine Nat
  | [] => pure status
  | path :: paths => do
    let (r, d) ← edit c o { deskOf ending [path] suffix.isSome with unended }
    match suffix, d.kept with
    | some suffix, some out =>
      if d.status = 0 then
        if !suffix.isEmpty then
          let _ ← Routine.ask (.rename path (path ++ suffix))
        match ← Routine.ask (.openFile path .write) with
        | .ok n =>
          let _ ← Routine.writeAll n out.reverse.flatten
          let _ ← Routine.ask (.close n)
        | .error _ => pure ()
    | _, _ => pure ()
    match r with
    | some s => pure s
    | none =>
      editEach c o ending suffix (d.unended && suffix.isNone) (max status d.status) paths

end Stream

/-- The scripts that options give, one after the other. -/
def scriptTexts (c : Call) : List (Char × Bytes) → Routine (List Bytes)
  | [] => pure []
  | ('e', text) :: os => do pure (text :: (← scriptTexts c os))
  | ('f', path) :: os => do
    match ← readFile path with
    | .ok text => do
      let (lines, _) := linesOf text
      pure (['\n'].intercalate lines :: (← scriptTexts c os))
    | .error f =>
      c.fail ("couldn't open file ".toList ++ path ++ ": ".toList ++ f.text.toList) 4
  | _ :: os => scriptTexts c os

/-- Edits its input as a script says. -/
def sed (c : Call) : Routine Nat := do
  -- The suffix after the option to edit in place belongs to it, and is never the next argument.
  let inPlace := c.arguments.filter fun a =>
    "-i".toList.isPrefixOf a || "--in-place".toList.isPrefixOf a
  let suffix : Option Bytes := inPlace.getLast?.map fun a =>
    if "--in-place=".toList.isPrefixOf a then a.drop 11
    else if "--".toList.isPrefixOf a then [] else a.drop 2
  let rest := c.arguments.filter fun a => !inPlace.contains a
  let (os, args) ← { c with arguments := rest }.options (.among "e:Ef:l:nrsuz\x01"
    [("expression", 'e'), ("line-length", 'l'), ("posix", '\x01'), ("regexp-extended", 'E'),
      ("file", 'f'), ("quiet", 'n'), ("silent", 'n'), ("separate", 's'), ("unbuffered", 'u'),
      ("null-data", 'z')]) 1
  let explicit := os.any fun o => o.1 = 'e' || o.1 = 'f'
  if !explicit && args.isEmpty then c.misused "no script specified".toList 1
  else
    let texts ← scriptTexts c (if explicit then os else [('e', args.headD [])])
    let paths := if explicit then args else args.drop 1
    let text := ['\n'].intercalate texts
    let width : Option Nat := match lastOf os 'l' with
      | none => some 69
      | some text =>
        match (Bytes.toNat? (text.takeWhile Char.isDigit)).getD 0 with
        | 0 => none
        | n + 1 => some n
    match Stream.script (given os 'E' || given os 'r') text with
    | .error (none, why) => c.fail why 1
    | .error (some position, why) =>
      -- The position is counted in the script in which it lies.
      let lengths := texts.map fun t => t.length + 1
      let before := (List.range texts.length).filter fun i =>
        0 < i && (lengths.take i).foldr (· + ·) 0 < position
      let start := (lengths.take before.length).foldr (· + ·) 0
      c.fail ("-e expression #".toList ++ Bytes.ofNat (before.length + 1) ++ ", char ".toList ++
        Bytes.ofNat (position - start) ++ ": ".toList ++ why) 1
    | .ok commands =>
      let missing := commands.findSome? fun k =>
        let lacks (name : Bytes) : Option Bytes :=
          let known := commands.any fun l => match l.deed with
            | .label n => n = name
            | _ => false
          if name.isEmpty || known then none else some name
        match k.deed with
        | .jump name => lacks name
        | .jumpIfChanged name => lacks name
        | .jumpUnlessChanged name => lacks name
        | _ => none
      match missing with
      | some name => c.fail ("can't find label for jump to \x60".toList ++ name ++ ['\'']) 4
      | none =>
        let order : Stream.Order :=
          { commands := commands.toArray
            width
            quiet := given os 'n' || ("#n\n".toList.isPrefixOf text || text = "#n".toList)
            files := ← Stream.openTargets c (Stream.targets commands) }
        let paths := if paths.isEmpty then [['-']] else paths
        if suffix.isSome || given os 's' then
          Stream.editEach c order (endingBy os) suffix false 0 paths
        else
          let (r, d) ← Stream.edit c order (Stream.deskOf (endingBy os) paths false)
          pure (r.getD d.status)

end Scratchpad.Utility
