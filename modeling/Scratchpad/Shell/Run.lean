import Scratchpad.Shell.Builtin.Directory
import Scratchpad.Shell.Builtin.Lookup
import Scratchpad.Shell.Builtin.Output
import Scratchpad.Shell.Builtin.Process
import Scratchpad.Shell.Builtin.Reading
import Scratchpad.Shell.Builtin.Variables
import Scratchpad.Shell.Redirect

/-!
# Carrying out commands

`carryOut` carries out a command in the process of the shell; programs, subshells and the stages of
pipelines get processes of their own. Between commands the shell heeds the signals that came. `fuel`
bounds how long a shell goes on; one that runs out of it ends.
-/

namespace Scratchpad.Shell

open Scratchpad.Machine Scratchpad.Execution Scratchpad.Text

/-- The circumstances under which a command is carried out. -/
structure Standing where
  /-- Whether its outcome is looked at, so that its failure does not end a script. -/
  tested : Bool
  /-- Whether the process has nothing to do after it. -/
  last : Bool
  deriving DecidableEq, Repr

namespace Standing

/-- A command among others. -/
def usual : Standing := ⟨false, false⟩

/-- A condition. -/
def condition : Standing := ⟨true, false⟩

/-- The whole of a process. -/
def whole : Standing := ⟨false, true⟩

/-- A command that others follow. -/
def followed (m : Standing) : Standing := { m with last := false }

/-- A command that nothing follows. -/
def final (m : Standing) : Standing := { m with last := true }

end Standing

/-- The words of a command after their expansion. -/
structure Call where
  /-- All words. -/
  shown : List Bytes
  /-- The name of the command, and its arguments. -/
  words : List Bytes
  /-- Whether it is, or was called by, a command of the shell; and if so, whether that is a special
  one. -/
  special : Option Bool
  /-- Whether functions are passed over. -/
  plain : Bool
  /-- Whether programs are looked for in the directories of the system only. -/
  systemPath : Bool
  deriving DecidableEq, Repr

namespace Call

/-- No words. -/
def empty : Call := ⟨[], [], none, false, false⟩

/-- Whether assignments in front of the words hold only as long as the command. -/
def hides (c : Call) : Bool := !c.words.isEmpty && c.special != some true

/-- Whether the command is the one that replaces the shell. -/
def isExec (c : Call) : Bool := c.words.head? = some "exec".toList

end Call

/-- The directories of the system in which programs are looked for. -/
def systemDirectories : List Bytes :=
  ["/usr/local/sbin", "/usr/local/bin", "/usr/sbin", "/usr/bin", "/sbin", "/bin"].map String.toList

/-- The commands that take assignments as arguments. -/
def assigningCommands : List Bytes :=
  ["alias", "export", "local", "readonly"].map String.toList

/-- The function of a name. -/
def State.function? (sh : State) (name : Bytes) : Option Command := sh.functions.lookup name

/-- Whether a command is one of the shell. -/
def State.isBuiltin (sh : State) (plain : Bool) (name : Bytes) : Bool :=
  Builtin.isKnown name && (plain || (sh.function? name).isNone)

/-- The first lines of a text, with their ends. -/
def firstLines : Nat → Bytes → Bytes
  | 0, _ => []
  | _ + 1, [] => []
  | n + 1, c :: cs => c :: firstLines (if c = '\n' then n else n + 1) cs

/-- Goes to a line. -/
def atLine (line : Nat) : Action Unit := modify fun sh => { sh with line }

/-- Whether the shell is leaving something. -/
def isLeaving : Action Bool := do pure ((← get).leaving != .nothing)

/-- Carries out an action, and another one after it even if it broke off. -/
def andAfterwards {α : Type} (a : Action α) (after : Action Unit) : Action α := do
  let r ← Action.outcome a
  after
  match r with
  | .ok v => pure v
  | .error s => Action.stop s

/-- What of `break` and `continue` is left to do outside of a loop, and whether the loop is left. -/
def leaveLoop : Action (Option Leaving) := do
  let leaving := (← get).leaving
  let (seen, left) : Option Leaving × Leaving := match leaving with
    | .nothing => (none, .nothing)
    | .loops (n + 2) => (some .nothing, .loops (n + 1))
    | .loops _ => (some .nothing, .nothing)
    | .rounds (n + 2) => (some .nothing, .rounds (n + 1))
    | .rounds _ => (none, .nothing)
    | .function given => (some (.function given), .function given)
  modify fun sh => { sh with leaving := left }
  pure seen

/-- Makes a shell a copy that knows nothing of the jobs, and reacts to signals as usual. -/
def becomeCopy : Action Unit := do
  let sh ← get
  let (caught, ignored) := sh.traps.partition fun t => !t.2.isEmpty
  Action.forEach caught fun t => do
    if t.1 = 0 || sh.deaf.contains t.1 then pure ()
    else Action.ask (.react t.1 .usual)
  set { sh with traps := ignored, jobs := [], pending := [] }

/-- Makes a shell run beside another one: it cannot be interrupted, and the first process of a
pipeline has nothing to read. -/
def standBack (first : Bool) : Action Unit := do
  Action.forEach [2, 3] fun s => do
    Action.ask (.react s .ignored)
    modify fun sh => { sh with deaf := s :: sh.deaf }
  if first then
    let _ ← Action.ask (.close 0)
    let _ ← Action.ask (.openFile "/dev/null".toList .read)

/-- Becomes a program. The answer is why that is impossible. A file that the system cannot execute
is taken for a script. -/
def execute (path : Bytes) (words : List Bytes) : Action Fault := do
  let environment := (← get).environment
  match ← Action.ask (.execute path (words.headD []) (words.drop 1) environment) with
  | .notExecutableFormat =>
    let shell := "/bin/sh".toList
    Action.ask (.execute shell shell (path :: words.drop 1) environment)
  | f => pure f

/-- Becomes the first program of a name that can be executed. -/
def executeFirst (words : List Bytes) (fault : Fault) : List Bytes → Action Fault
  | [] => pure fault
  | d :: ds => do
    let name := words.headD []
    match ← execute (if d.isEmpty then name else d ++ '/' :: name) words with
    | .noEntry => executeFirst words fault ds
    | .notDirectory => executeFirst words fault ds
    | f => executeFirst words f ds

/-- Becomes a program, or ends. -/
def replaceBy (words directories : List Bytes) : Action Nat := do
  let name := words.headD []
  let fault ←
    if name.contains '/' then execute name words else executeFirst words .noEntry directories
  Action.complain (name ++ ": ".toList ++ Builtin.faultText fault)
  Action.setStatus (Builtin.faultStatus fault)
  Action.stop .exit

/-- Runs a program, which is known to be there if its name has no slash. -/
def runProgram (m : Standing) (words directories : List Bytes) : Action Nat := do
  if m.last && !(← get).hasTraps then replaceBy words directories
  else
    let id ← Action.fork fun sh => do
      let (_, sh) ← replaceBy words directories sh
      pure sh.status
    awaitCommand [id]

/-- Looks for a program before it is needed, so that it is remembered. -/
def remember : Command → Action Unit
  | .simple _ _ (w :: _) _ => do
    match bare? w with
    | some name =>
      if isName name && !Builtin.isKnown name && ((← get).function? name).isNone then
        let _ ← Builtin.find name
      else pure ()
    | none => pure ()
  | _ => pure ()

/-- Leaves loops, or starts their next round. -/
def Builtin.leaveLoops (args : List Bytes) (leaving : Nat → Leaving) : Action Nat := do
  let n ← match args.head? with
    | none => pure 1
    | some a => do
      let n ← Builtin.number a
      if n = 0 then Action.fail ("Illegal number: ".toList ++ a) else pure n
  let n := min n (← get).loops
  if n != 0 then modify fun sh => { sh with leaving := leaving n }
  pure 0

/-- Ends the shell. -/
def Builtin.exit (args : List Bytes) : Action Nat := do
  let sh ← get
  let status ← match args.head? with
    | some a => Builtin.number a
    | none => pure (sh.saved.getD sh.status)
  Action.setStatus status
  Action.stop .exit

/-- Leaves a function or a script. -/
def Builtin.goBack (args : List Bytes) : Action Nat := do
  let status ← match args.head? with
    | some a => Builtin.number a
    | none => do pure (← get).status
  modify fun sh => { sh with leaving := .function args.head?.isSome }
  pure status

/-- Tells what a command means; without being asked to, does nothing. -/
def Builtin.command (args : List Bytes) : Action Nat := do
  let (os, names) ← Builtin.optionsOf "pvV" args
  let long := os.any fun o => o.1 = 'V'
  match names.head? with
  | some name =>
    if long || os.any fun o => o.1 = 'v' then Builtin.describe long name else pure 0
  | none => pure 0

/-- The commands of the shell that carry out no other ones, by their names. -/
def simpleBuiltins : List (Bytes × (List Bytes → Action Nat)) :=
  [(":", fun _ => pure 0), ("true", fun _ => pure 0), ("false", fun _ => pure 1),
   ("alias", Builtin.changeAliases), ("bg", Builtin.resume),
   ("break", fun args => Builtin.leaveLoops args .loops), ("cd", Builtin.cd), ("chdir", Builtin.cd),
   ("command", Builtin.command), ("continue", fun args => Builtin.leaveLoops args .rounds),
   ("echo", Builtin.echo), ("exit", Builtin.exit),
   ("export", Builtin.markVariables "export".toList), ("fg", Builtin.resume),
   ("getopts", Builtin.getopts), ("hash", Builtin.hash), ("jobs", Builtin.jobs),
   ("kill", Builtin.kill), ("local", Builtin.makeLocal),
   ("printf", Builtin.printf), ("pwd", Builtin.pwd), ("read", Builtin.read),
   ("readonly", Builtin.markVariables "readonly".toList), ("return", Builtin.goBack),
   ("set", Builtin.setOptions), ("shift", Builtin.shift), ("test", Builtin.test "test".toList),
   ("[", Builtin.test ['[']), ("times", fun _ => Builtin.times), ("trap", Builtin.trap),
   ("type", Builtin.type), ("ulimit", Builtin.ulimit), ("umask", Builtin.umask),
   ("unalias", Builtin.unalias), ("unset", Builtin.unset), ("wait", Builtin.wait)].map fun b =>
    (b.1.toList, b.2)

/-- How many functions may call each other. -/
def deepestCall : Nat := 1000

mutual

/-- Carries out a command, and yields its status. -/
def carryOut (fuel : Nat) (m : Standing) (c : Command) : Action Nat :=
  match fuel with
  | 0 => Action.stop .exit
  | fuel + 1 => do
    match c with
    | .nothing => heed fuel
    | c =>
      if (← get).has 'n' then heed fuel
      else
        heed fuel
        let status ← perform fuel m c
        Action.setStatus status
        heed fuel
        let counts := match c with
          | .simple _ _ _ _ => true
          | .subshell _ _ _ => true
          | .background _ => true
          | .pipeline _ => true
          | _ => false
        if counts && !m.tested && status != 0 && (← get).has 'e' then Action.stop .exit
    pure (← get).status

/-- Carries out the commands for the signals that came. -/
def heed (fuel : Nat) : Action Unit :=
  match fuel with
  | 0 => pure ()
  | fuel + 1 => do
    match ← receiveSignals with
    | [] => pure ()
    | came =>
      let outer := (← get).saved
      let status := outer.getD (← get).status
      modify fun sh => { sh with saved := some status, pending := [] }
      let signals := (List.range (Signal.last + 1)).filter came.contains
      heedEach fuel status signals
      modify fun sh => { sh with saved := outer }

/-- Carries out the commands for some signals, unless the shell is leaving something. -/
def heedEach (fuel : Nat) (status : Nat) (signals : List Signal) : Action Unit :=
  match fuel with
  | 0 => pure ()
  | fuel + 1 => do
    match signals with
    | [] => pure ()
    | s :: rest =>
      let sh ← get
      if sh.leaving != .nothing then set { sh with pending := sh.pending ++ signals }
      else
        match sh.traps.lookup s with
        | none => pure ()
        | some text =>
          let _ ← carryOutText fuel .usual text
          if (← get).leaving != .function true then Action.setStatus status
        heedEach fuel status rest

/-- Carries out the commands of a text that belongs to the script. -/
def carryOutText (fuel : Nat) (m : Standing) (text : Bytes) : Action Nat :=
  match fuel with
  | 0 => Action.stop .exit
  | fuel + 1 => do
    let sh ← get
    andAfterwards (carryOutLines fuel m false 0 (.ofText sh.aliases text))
      (modify fun after => { after with readTo := sh.readTo })

/-- Carries out the commands of a source, line by line, and yields the status of the last one. The
lines of a file may be `shown` as they are read. -/
def carryOutLines (fuel : Nat) (m : Standing) (shown : Bool) (status : Nat) (source : Source) :
    Action Nat :=
  match fuel with
  | 0 => Action.stop .exit
  | fuel + 1 => do
    let sh ← get
    let next := nextCommand.run { source with aliases := sh.aliases }
    if shown && sh.has 'v' then
      let _ ← Action.write 2 (match next with
        | .ok (_, after) => source.rest.take (source.rest.length - after.rest.length)
        | .error e => firstLines (e.line + 1 - source.line) source.rest)
    match next with
    | .error e =>
      atLine e.line
      Action.fail e.problem.message
    | .ok (none, _) => pure status
    | .ok (some c, source) =>
      modify fun sh => { sh with readTo := source.line }
      let atEnd := match source.pushed with
        | some .scriptEnd => true
        | _ => false
      let new ← carryOut fuel ⟨m.tested, m.last && atEnd⟩ c
      let status := match c with
        | .nothing => status
        | _ => new
      if ← isLeaving then pure status else carryOutLines fuel m shown status source

/-- Carries out a script in a file of its own, which can be left on its own. -/
def carryOutScript (fuel : Nat) (text : Bytes) : Action Nat :=
  match fuel with
  | 0 => Action.stop .exit
  | fuel + 1 => do
    let outer ← get
    let status ← andAfterwards (carryOutLines fuel .usual true 0 (.ofText outer.aliases text))
      (modify fun sh => { sh with readTo := outer.readTo })
    modify fun sh => { sh with leaving := match sh.leaving with
      | .function _ => .nothing
      | l => l }
    pure status

/-- Carries out what a process of the shell has to do, and what was set for its end. -/
def carryOutWhole (fuel : Nat) (a : Action Nat) : State → Routine Nat :=
  match fuel with
  | 0 => fun sh => pure sh.status
  | fuel + 1 => fun sh => do
    let (_, sh) ← a sh
    match sh.traps.lookup 0 with
    | none => pure sh.status
    | some text =>
      let status := sh.status
      let sh := { sh with
        traps := sh.traps.filter fun t => t.1 != 0
        leaving := .nothing
        saved := some status }
      let (r, sh) ← carryOutText fuel .usual text sh
      pure (match r with
        | .ok _ => status
        | .error _ => sh.status)

/-- Starts a copy of the shell. -/
def startCopy (fuel : Nat) (a : Action Nat) : Action Nat :=
  match fuel with
  | 0 => pure 0
  | fuel + 1 =>
    Action.fork (carryOutWhole fuel (do
      becomeCopy
      a))

/-- The output of a command that a copy of the shell carries out. -/
def capture (fuel : Nat) (c : Command) : Action Bytes :=
  match fuel with
  | 0 => pure []
  | fuel + 1 => do
    match c with
    | .nothing => pure []
    | c =>
      let (outlet, inlet) ← Action.ask .pipe
      let id ← startCopy fuel (do
        let _ ← Action.ask (.close outlet)
        moveTo inlet 1
        carryOut fuel .whole c)
      let _ ← Action.ask (.close inlet)
      let out ← Action.lift (Routine.readAll outlet)
      let _ ← Action.ask (.close outlet)
      let status ← awaitCommand [id]
      modify fun sh => { sh with outputStatus := status }
      pure (match out with
        | .ok bytes => bytes
        | .error _ => [])

/-- Carries out a command and yields its status, which is not set yet. -/
def perform (fuel : Nat) (m : Standing) (c : Command) : Action Nat :=
  match fuel with
  | 0 => Action.stop .exit
  | fuel + 1 => do
    match c with
    | .nothing => pure (← get).status
    | .simple line assignments words redirections =>
      atLine line
      simple fuel m assignments words redirections
    | .negated c =>
      let status ← carryOut fuel .condition c
      pure (if ← isLeaving then status else if status = 0 then 1 else 0)
    | .pipeline stages => awaitCommand (← startStages fuel m.final none none stages)
    | .andThen a b =>
      let status ← carryOut fuel .condition a
      if status != 0 || (← isLeaving) then pure status else carryOut fuel m b
    | .orElse a b =>
      let status ← carryOut fuel .condition a
      if status = 0 || (← isLeaving) then pure status else carryOut fuel m b
    | .sequence a b =>
      let status ← carryOut fuel m.followed a
      if ← isLeaving then pure status else carryOut fuel m b
    | .background c =>
      let ids ← match c with
        | .pipeline stages => startStages fuel m.final none (some true) stages
        | .redirected line c redirections => do
          atLine line
          let ts ← targets (capture fuel) redirections
          pure [← startCopy fuel (do
            standBack true
            let (_, fine) ← connect (capture fuel) false [] ts
            if fine then carryOut fuel .whole c else do pure (← get).status)]
        | c => do
          pure [← startCopy fuel (do
            standBack true
            carryOut fuel .whole c)]
      modify fun sh => sh.withJob ids
      pure 0
    | .subshell line c redirections =>
      atLine line
      let ts ← targets (capture fuel) redirections
      let inner : Action Nat := do
        let (_, fine) ← connect (capture fuel) false [] ts
        if fine then carryOut fuel m.final c else do pure (← get).status
      if m.last && !(← get).hasTraps then
        becomeCopy
        inner
      else awaitCommand [← startCopy fuel inner]
    | .redirected line c redirections =>
      atLine line
      let (kept, fine) ← connect (capture fuel) true [] (← targets (capture fuel) redirections)
      andAfterwards (do
          if fine then carryOut fuel m.followed c
          else
            Action.setStatus 2
            if !m.tested && (← get).has 'e' then Action.stop .exit else pure 2)
        (restore kept)
    | .branch condition yes no =>
      let status ← carryOut fuel .condition condition
      if ← isLeaving then pure status
      else if status = 0 then carryOut fuel m yes
      else
        match no with
        | .nothing => pure 0
        | no => carryOut fuel m no
    | .loop outcome condition body =>
      inLoop (rounds fuel m.followed outcome condition body 0)
    | .each line name words body =>
      atLine line
      let values ← expandFields (capture fuel) words
      inLoop (roundsFor fuel m.followed name values body 0)
    | .choose line word arms =>
      atLine line
      choose fuel m (← expandText (capture fuel) .text word) arms
    | .define name body =>
      modify fun sh =>
        { sh with functions := (name, body) :: sh.functions.filter fun f => f.1 != name }
      Builtin.forget name
      pure 0
where
  /-- Carries out a loop. -/
  inLoop (a : Action Nat) : Action Nat := do
    modify fun sh => { sh with loops := sh.loops + 1 }
    let status ← a
    modify fun sh => { sh with loops := sh.loops - 1 }
    pure status

/-- Starts the stages of a pipeline, each with the output of the one before as its input, and yields
the numbers of their processes. `beside` tells that they run beside the shell, and whether the next
one is the first. -/
def startStages (fuel : Nat) (m : Standing) (input : Option Nat) (beside : Option Bool)
    (stages : List Command) : Action (List Nat) :=
  match fuel with
  | 0 => pure []
  | fuel + 1 => do
    match stages with
    | [] => pure []
    | c :: rest =>
      remember c
      let joint ← if rest.isEmpty then pure none else do pure (some (← Action.ask .pipe))
      let id ← startCopy fuel (do
        match beside with
        | some first => standBack first
        | none => pure ()
        match joint with
        | some (outlet, _) =>
          let _ ← Action.ask (.close outlet)
        | none => pure ()
        match input with
        | some d => moveTo d 0
        | none => pure ()
        match joint with
        | some (_, inlet) => moveTo inlet 1
        | none => pure ()
        carryOut fuel m c)
      match input with
      | some d =>
        let _ ← Action.ask (.close d)
      | none => pure ()
      match joint with
      | some (_, inlet) =>
        let _ ← Action.ask (.close inlet)
      | none => pure ()
      pure (id :: (← startStages fuel m (joint.map Prod.fst) (beside.map fun _ => false) rest))

/-- Carries out a body as long as a condition has an outcome. -/
def rounds (fuel : Nat) (m : Standing) (outcome : Bool) (condition body : Command) (status : Nat) :
    Action Nat :=
  match fuel with
  | 0 => Action.stop .exit
  | fuel + 1 => do
    let leaving := (← get).leaving
    let tested ← carryOut fuel .condition condition
    let skipping := (← get).leaving != leaving
    match ← leaveLoop with
    | some (.function given) => pure (if given then tested else status)
    | some _ => pure status
    | none =>
      if skipping then rounds fuel m outcome condition body status
      else if (tested == 0) != outcome then pure status
      else
        let status ← carryOut fuel m body
        match ← leaveLoop with
        | some _ => pure status
        | none => rounds fuel m outcome condition body status

/-- Carries out a body for each of some values of a variable. -/
def roundsFor (fuel : Nat) (m : Standing) (name : Bytes) (values : List Bytes) (body : Command)
    (status : Nat) : Action Nat :=
  match fuel with
  | 0 => Action.stop .exit
  | fuel + 1 => do
    match values with
    | [] => pure status
    | v :: vs =>
      Action.assign name v
      let status ← carryOut fuel m body
      match ← leaveLoop with
      | some _ => pure status
      | none => roundsFor fuel m name vs body status

/-- Carries out the first arm that has a pattern for a text. -/
def choose (fuel : Nat) (m : Standing) (text : Bytes) (arms : List (List Word × Command)) :
    Action Nat :=
  match fuel with
  | 0 => Action.stop .exit
  | fuel + 1 => do
    match arms with
    | [] => pure 0
    | (patterns, c) :: arms =>
      if ← fitsAny fuel text patterns then
        match c with
        | .nothing => pure 0
        | c => carryOut fuel m c
      else choose fuel m text arms

/-- Whether a text fits one of some patterns; those after the first are not expanded. -/
def fitsAny (fuel : Nat) (text : Bytes) (patterns : List Word) : Action Bool :=
  match fuel with
  | 0 => pure false
  | fuel + 1 => do
    match patterns with
    | [] => pure false
    | p :: ps =>
      if Glob.fits (← expandPattern (capture fuel) p) text then pure true
      else fitsAny fuel text ps

/-- Expands words until there is a field, and yields the fields and the words that are left. -/
def someFields (fuel : Nat) (fields : List Bytes) (words : List Word) :
    Action (List Bytes × List Word) :=
  match fuel with
  | 0 => pure (fields, words)
  | fuel + 1 => do
    match fields, words with
    | [], w :: ws => someFields fuel (← expandField (capture fuel) w) ws
    | _, _ => pure (fields, words)

/-- What follows the name of the command that calls another one by its name: whether the other one
is looked for in the directories of the system, or nothing if none is called; and the fields and
words. -/
def calledByName (fuel : Nat) (systemPath : Bool) (seen fields : List Bytes) (words : List Word) :
    Action (Option (Bool × List Bytes) × List Bytes × List Word) :=
  match fuel with
  | 0 => pure (none, seen ++ fields, words)
  | fuel + 1 => do
    let (fields, words) ← someFields fuel fields words
    match fields with
    | [] => pure (none, seen, words)
    | ['-', '-'] :: rest =>
      let (rest, words) ← someFields fuel rest words
      if rest.isEmpty then pure (none, seen ++ fields, words)
      else pure (some (systemPath, seen ++ [['-', '-']]), rest, words)
    | ('-' :: c :: cs) :: rest =>
      if (c :: cs).all (· = 'p') then
        calledByName fuel true (seen ++ ['-' :: c :: cs]) rest words
      else pure (none, seen ++ fields, words)
    | _ => pure (some (systemPath, seen), fields, words)

/-- The call that words make, after those that were expanded. -/
def callOf (fuel : Nat) (call : Call) (fields : List Bytes) (words : List Word) : Action Call :=
  match fuel with
  | 0 => pure call
  | fuel + 1 => do
    let (fields, words) ← someFields fuel fields words
    match fields with
    | [] => pure call
    | name :: rest =>
      let ours := (← get).isBuiltin call.plain name
      let call := if ours && call.special.isNone then
          { call with special := some (specialCommands.contains name) }
        else call
      if ours && name = "command".toList then
        match ← calledByName fuel call.systemPath [] rest words with
        | (some (systemPath, seen), fields, words) =>
          callOf fuel { call with shown := call.shown ++ name :: seen, plain := true, systemPath }
            fields words
        | (none, rest, words) => arguments fuel call false (name :: rest) words
      else arguments fuel call (ours && assigningCommands.contains name) fields words

/-- The call with the rest of its words, where assignments are no fields if `assigning`. -/
def arguments (fuel : Nat) (call : Call) (assigning : Bool) (fields : List Bytes)
    (words : List Word) : Action Call :=
  match fuel with
  | 0 => pure call
  | fuel + 1 => do
    let more ← Action.collect words fun w => do
      match (if assigning then assignmentOf? w else none) with
      | some (name, value) =>
        pure [name ++ '=' :: (← expandText (capture fuel) .value value)]
      | none => expandField (capture fuel) w
    let all := fields ++ more.flatten
    pure { call with shown := call.shown ++ all, words := all }

/-- Makes an assignment in front of a call, and yields it as it is shown. -/
def assignFor (fuel : Nat) (call : Call) (name : Bytes) (value : Word) : Action Bytes :=
  match fuel with
  | 0 => pure []
  | fuel + 1 => do
    let value ← expandText (capture fuel) .value value
    if call.hides then Builtin.hide name
    Action.assign name value
    if call.hides || (call.isExec && 1 < call.words.length) then
      modify fun sh => sh.put { sh.binding name with exported := true }
    pure (name ++ '=' :: value)

/-- Shows a command before it is carried out. -/
def trace (fuel : Nat) (words : List Bytes) : Action Unit :=
  match fuel with
  | 0 => pure ()
  | fuel + 1 => do
    let sh ← get
    if sh.has 'x' then
      set (sh.withOption 'x' false)
      let start ← match textWord sh.aliases (sh.get "PS4") with
        | .ok w => expandText (capture fuel) .document w
        | .error _ => pure []
      modify fun sh => sh.withOption 'x' true
      let _ ← Action.write sh.shownOn (start ++ Builtin.spaced words ++ ['\n'])

/-- Carries out assignments, words and redirections. -/
def simple (fuel : Nat) (m : Standing) (assignments : List (Bytes × Word)) (words : List Word)
    (redirections : List Redirection) : Action Nat :=
  match fuel with
  | 0 => Action.stop .exit
  | fuel + 1 => do
    modify fun sh => { sh with outputStatus := 0 }
    let call ← callOf fuel .empty [] words
    let ts ← targets (capture fuel) redirections
    if call.hides then modify fun sh => { sh with hidden := [] :: sh.hidden }
    let (kept, fine) ← connect (capture fuel) true [] ts
    andAfterwards (do
        if !fine then
          Action.setStatus 2
          if call.special = some true then Action.stop .fault else pure 2
        else
          let shownOn := (← get).shownOn
          modify fun sh => { sh with shownOn := ((kept.lookup 2).bind id).getD 2 }
          let made ← Action.collect assignments fun a => assignFor fuel call a.1 a.2
          trace fuel (made ++ call.shown)
          modify fun sh => { sh with shownOn }
          invoke fuel m call)
      (do
        if call.isExec then forget kept else restore kept
        if call.hides then Builtin.unhide)

/-- Carries out a call, after what stands in front of it. -/
def invoke (fuel : Nat) (m : Standing) (call : Call) : Action Nat :=
  match fuel with
  | 0 => Action.stop .exit
  | fuel + 1 => do
    match call.words with
    | [] => do pure (← get).outputStatus
    | name :: args =>
      let sh ← get
      match (if call.plain then none else sh.function? name) with
      | some body => callFunction fuel m body args
      | none =>
        if Builtin.isKnown name then
          callBuiltin fuel m (call.special = some true) name args
        else
          let directories ←
            if call.systemPath then pure systemDirectories else Builtin.searchPath
          if name.contains '/' then runProgram m call.words directories
          else
            match ← (if call.systemPath then Builtin.search name .noEntry directories
              else Builtin.find name) with
            | .ok _ => runProgram m call.words directories
            | .error f =>
              Action.complain (name ++ ": ".toList ++ Builtin.faultText f)
              pure 127

/-- Carries out a function with arguments. One that is called too deep fails, and counts as called
from then on. -/
def callFunction (fuel : Nat) (m : Standing) (body : Command) (args : List Bytes) : Action Nat :=
  match fuel with
  | 0 => Action.stop .exit
  | fuel + 1 => do
    modify fun sh => { sh with calls := sh.calls + 1 }
    let outer ← get
    if deepestCall < outer.calls then
      Action.fail ("Maximum function recursion depth (".toList ++ Bytes.ofNat deepestCall ++
        ") reached".toList)
    set { outer with
      arguments := args
      loops := 0
      optionIndex := 1
      optionOffset := none }
    andAfterwards (carryOut fuel m.followed body) (modify fun sh =>
      { sh with
        arguments := outer.arguments
        loops := outer.loops
        calls := sh.calls - 1
        optionIndex := outer.optionIndex
        optionOffset := outer.optionOffset
        leaving := match sh.leaving with
          | .function _ => .nothing
          | l => l })

/-- Carries out a command of the shell. A fault of a special one ends the script. -/
def callBuiltin (fuel : Nat) (m : Standing) (special : Bool) (name : Bytes) (args : List Bytes) :
    Action Nat :=
  match fuel with
  | 0 => Action.stop .exit
  | fuel + 1 => do
    let outer := (← get).context
    modify fun sh => { sh with context := some name, mute := false }
    let r ← Action.outcome (builtin fuel m name args)
    let status ← match r with
      | .ok status =>
        if (← get).mute then
          Action.complain (name ++ ": I/O error".toList)
          pure (if status % 2 = 0 then status + 1 else status)
        else pure status
      | .error _ => do pure (← get).status
    modify fun sh => { sh with context := outer, mute := false }
    match r with
    | .ok _ => pure status
    | .error .fault => if special then Action.stop .fault else pure status
    | .error s => Action.stop s

/-- Carries out a command of the shell with arguments. -/
def builtin (fuel : Nat) (m : Standing) (name : Bytes) (args : List Bytes) : Action Nat :=
  match fuel with
  | 0 => Action.stop .exit
  | fuel + 1 => do
    if name = "eval".toList then
      if args.isEmpty then pure 0 else carryOutText fuel m.followed (Builtin.spaced args)
    else if name = "exec".toList then
      if args.isEmpty then pure 0 else replaceBy args (← Builtin.searchPath)
    else if name = ['.'] then
      match (← Builtin.plain args).head? with
      | none => pure 0
      | some path => runFile fuel path
    else
      match simpleBuiltins.lookup name with
      | some f => f args
      | none => pure 0

/-- Carries out the script in a file; without a slash in its path, it is looked for. -/
def runFile (fuel : Nat) (path : Bytes) : Action Nat :=
  match fuel with
  | 0 => Action.stop .exit
  | fuel + 1 => do
    let found ←
      if path.contains '/' then pure (some path)
      else Builtin.script? path (← Builtin.searchPath)
    match found with
    | none => Action.fail (path ++ ": not found".toList)
    | some path =>
      let d ← openFile .read false path
      let text ← Action.lift (Routine.readAll d)
      let _ ← Action.ask (.close d)
      Action.named path (carryOutScript fuel (match text with
        | .ok bytes => bytes
        | .error _ => []))

end

end Scratchpad.Shell
