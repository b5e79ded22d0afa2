import Scratchpad.Utility.Words

/-!
# Utilities about files

Those that make, copy, move and remove files.
-/

namespace Scratchpad.Utility

open Scratchpad.Machine Scratchpad.Text

/-- Does something with each of some values; yields the status, which is one if something failed. -/
def eachOf {α : Type} (f : α → Routine Bool) : List α → Routine Nat
  | [] => pure 0
  | x :: xs => do
    let fine ← f x
    let rest ← eachOf f xs
    pure (if fine then rest else 1)

/-- Makes files that are missing. -/
def touch (c : Call) : Routine Nat := do
  let (os, paths) ← c.options (.among "acd:fhmr:t:" [("no-create", 'c')]) 1
  if paths.isEmpty then c.misused "missing file operand".toList 1
  else
    eachOf (fun path => do
      match ← Routine.ask (.look path) with
      | .ok _ => pure true
      | .error _ =>
        if given os 'c' then pure true
        else
          match ← Routine.ask (.openFile path .append) with
          | .ok d =>
            let _ ← Routine.ask (.close d)
            pure true
          | .error .isDirectory =>
            c.complain ("setting times of ".toList ++ quoted path ++ ": ".toList ++
              Fault.noEntry.text.toList)
            pure false
          | .error f =>
            c.complain ("cannot touch ".toList ++ quoted path ++ ": ".toList ++ f.text.toList)
            pure false) paths

/-- The paths of the directories above a path, and the path. -/
def pathsDownTo (path : Bytes) : List Bytes :=
  let parts := path.splitOn '/'
  let fronts := (List.range parts.length).map fun n => ['/'].intercalate (parts.take (n + 1))
  fronts.filter fun p => !p.isEmpty && p.getLast? != some '/'

/-- Makes directories. -/
def mkdir (c : Call) : Routine Nat := do
  let (os, paths) ← c.options (.among "m:pvZ" [("mode", 'm'), ("parents", 'p'), ("verbose", 'v')]) 1
  let told (path : Bytes) : Routine Unit := do
    if given os 'v' then c.put (c.name ++ ": created directory ".toList ++ quoted path ++ ['\n'])
  let failing (path : Bytes) (f : Fault) : Routine Bool := do
    c.complain ("cannot create directory ".toList ++ quoted path ++ ": ".toList ++ f.text.toList)
    pure false
  if paths.isEmpty then c.misused "missing operand".toList 1
  else
    eachOf (fun path => do
      if !given os 'p' then
        match ← Routine.ask (.makeDirectory path) with
        | .ok _ =>
          told path
          pure true
        | .error f => failing path f
      else
        let status ← eachOf (fun p => do
          match ← Routine.ask (.look p) with
          | .ok .directory => pure true
          | .ok _ => pure false
          | .error _ =>
            match ← Routine.ask (.makeDirectory p) with
            | .ok _ =>
              told p
              pure true
            | .error _ => pure false) (pathsDownTo path)
        if status = 0 then pure true
        else
          -- The first part that is no directory is the one at fault.
          let wrong ← firstWrong (pathsDownTo path)
          let isLast := wrong = (pathsDownTo path).getLast?.getD []
          failing (if isLast then path else wrong)
            (if isLast then .alreadyThere else .notDirectory)) paths
where
  firstWrong : List Bytes → Routine Bytes
    | [] => pure []
    | p :: ps => do
      match ← Routine.ask (.look p) with
      | .ok .directory => firstWrong ps
      | _ => pure p

/-- Removes empty directories, up to the first one that cannot be removed; `what` is how they are
named in a message. -/
def removeDirectories (c : Call) (os : List (Char × Bytes)) (what : String) :
    List Bytes → Routine Bool
  | [] => pure true
  | p :: ps => do
    if given os 'v' then
      c.put (c.name ++ ": removing directory, ".toList ++ quoted p ++ ['\n'])
    match ← Routine.ask (.removeDirectory p) with
    | .ok _ => removeDirectories c os "directory " ps
    | .error f =>
      if f = .notEmpty && given os '\x01' then pure true
      else
        c.complain ("failed to remove ".toList ++ what.toList ++ quoted p ++ ": ".toList ++
          f.text.toList)
        pure false

/-- Removes empty directories. -/
def rmdir (c : Call) : Routine Nat := do
  let (os, paths) ← c.options (.among "pv\x01"
    [("parents", 'p'), ("verbose", 'v'), ("ignore-fail-on-non-empty", '\x01')]) 1
  if paths.isEmpty then c.misused "missing operand".toList 1
  else
    eachOf (fun path => removeDirectories c os ""
      (path :: if given os 'p' then (pathsDownTo path).reverse.drop 1 else [])) paths

/-- The next line of the input, without its end. -/
def readAnswer : Routine Bytes :=
  Routine.loop Routine.patience (fun (line : Bytes) => do
    match ← Routine.ask (.read 0 1) with
    | .ok ['\n'] => pure (.inr line.reverse)
    | .ok [ch] => pure (.inl (ch :: line))
    | _ => pure (.inr line.reverse)) List.reverse []

/-- Asks whether something is to be done. -/
def confirmed (c : Call) (question : Bytes) : Routine Bool := do
  let _ ← Routine.writeAll 2 (c.name ++ ": ".toList ++ question ++ "? ".toList)
  pure ((← readAnswer).head?.any fun ch => ch == 'y' || ch == 'Y')

/-- How files are removed. -/
structure Removal where
  told : Bool
  /-- Whether the user is asked each time. -/
  asked : Bool
  deriving DecidableEq, Repr

/-- Whether something may be removed. -/
def Removal.allows (r : Removal) (c : Call) (what : String) (path : Bytes) : Routine Bool :=
  if r.asked then confirmed c (what.toList ++ quoted path) else pure true

/-- Removes a file or an empty directory. -/
def Removal.remove (r : Removal) (c : Call) (directory : Bool) (path : Bytes) : Routine Bool := do
  let result ← if directory then Routine.ask (.removeDirectory path)
    else Routine.ask (.removeFile path)
  match result with
  | .ok _ =>
    if r.told then
      c.put ((if directory then "removed directory " else "removed ").toList ++ quoted path ++
        ['\n'])
    pure true
  | .error f =>
    c.complain ("cannot remove ".toList ++ quoted path ++ ": ".toList ++ f.text.toList)
    pure false

/-- What a file is called in a question. -/
def fileKind : Node → String
  | .file [] _ => "remove regular empty file "
  | .device _ => "remove character special file "
  | .pipe => "remove fifo "
  | _ => "remove regular file "

/-- Removes what a path leads to, and all that is under it; `depth` bounds how deep that is. -/
def removeTree (c : Call) (r : Removal) (depth : Nat) (path : Bytes) : Routine Bool :=
  match depth with
  | 0 => pure false
  | depth + 1 => do
    match ← Routine.ask (.entries path) with
    | .ok names =>
      let goesOn ← if names.isEmpty then pure true else r.allows c "descend into directory " path
      if !goesOn then pure true
      else
        let status ← eachOf (fun n => removeTree c r depth (path ++ '/' :: n)) names
        if ← r.allows c "remove directory " path then do
          let fine ← r.remove c true path
          pure (fine && status = 0)
        else pure (status = 0)
    | .error _ =>
      let what := match ← Routine.ask (.look path) with
        | .ok node => fileKind node
        | .error _ => fileKind (.file [] false)
      if ← r.allows c what path then r.remove c false path else pure true

/-- How deep directories may stand in each other. -/
def deepestTree : Nat := 1000

/-- Removes one of the files that `rm` is given. -/
def removeGiven (c : Call) (r : Removal) (forced deep single : Bool) (path : Bytes) :
    Routine Bool := do
  let failing (f : Fault) : Routine Bool := do
    c.complain ("cannot remove ".toList ++ quoted path ++ ": ".toList ++ f.text.toList)
    pure false
  let last := lastPart path
  if deep && (last = ['.'] || last = ['.', '.']) then
    c.complain ("refusing to remove '.' or '..' directory: skipping ".toList ++ quoted path)
    pure false
  else if deep && last = ['/'] then
    c.complain "it is dangerous to operate recursively on '/'".toList
    c.complain "use --no-preserve-root to override this failsafe".toList
    pure false
  else
    match ← Routine.ask (.look path) with
    | .error f => if forced && (f = .noEntry || f = .notDirectory) then pure true else failing f
    | .ok .directory =>
      if deep then removeTree c r deepestTree path
      else if single then
        if ← r.allows c "remove directory " path then r.remove c true path else pure true
      else failing .isDirectory
    | .ok node => if ← r.allows c (fileKind node) path then r.remove c false path else pure true

/-- Removes files. -/
def rm (c : Call) : Routine Nat := do
  let (os, paths) ← c.options (.among "dfiIrRv"
    [("dir", 'd'), ("force", 'f'), ("recursive", 'r'), ("verbose", 'v')]) 1
  let forced := given os 'f'
  let deep := given os 'r' || given os 'R'
  let asking := lastAmong os "fiI"
  if paths.isEmpty then
    if forced then pure 0 else c.misused "missing operand".toList 1
  else
    let goesOn ←
      if asking = some 'I' && (deep || 3 < paths.length) then
        confirmed c ("remove ".toList ++ Bytes.ofNat paths.length ++
          (if paths.length = 1 then " argument" else " arguments").toList ++
          (if deep then " recursively" else "").toList)
      else pure true
    if !goesOn then pure 0
    else eachOf (removeGiven c ⟨given os 'v', asking = some 'i'⟩ forced deep (given os 'd')) paths

/-- How files are copied or moved. -/
structure Moving where
  deep : Bool
  told : Bool
  /-- Whether the user is asked before a file is replaced. -/
  asked : Bool
  /-- Whether no file is replaced. -/
  keeps : Bool
  deriving DecidableEq, Repr

/-- What is told of a file that is copied. -/
def Moving.tell (m : Moving) (c : Call) (path target : Bytes) : Routine Unit := do
  if m.told then c.put (quoted path ++ " -> ".toList ++ quoted target ++ ['\n'])

/-- Copies a file; `there` tells whether there is one in its new place. -/
def copyFile (c : Call) (m : Moving) (node : Node) (there : Bool) (path target : Bytes) :
    Routine Bool := do
  match ← readFile path with
  | .error f =>
    c.complain ("cannot open ".toList ++ quoted path ++ " for reading: ".toList ++ f.text.toList)
    pure false
  | .ok text =>
    match ← Routine.ask (.openFile target .write) with
    | .error f =>
      let f := if f = .isDirectory then .notDirectory else f
      c.complain ("cannot create regular file ".toList ++ quoted target ++ ": ".toList ++
        f.text.toList)
      pure false
    | .ok d =>
      let _ ← Routine.writeAll d text
      let _ ← Routine.ask (.close d)
      if node.isExecutable && !there then
        let _ ← Routine.ask (.setExecutable target true)
      m.tell c path target
      pure true

/-- Copies what a path leads to; yields whether that was possible. `top` is the path and the place
from which and to which all is copied: the new place is not copied into itself. -/
def copyTree (c : Call) (m : Moving) (top : Bytes × Bytes) (depth : Nat) (path target : Bytes) :
    Routine Bool :=
  match depth with
  | 0 => pure false
  | depth + 1 => do
    let failing (what : Bytes) : Routine Bool := do
      c.complain what
      pure false
    match ← Routine.ask (.look path) with
    | .error f => failing ("cannot stat ".toList ++ quoted path ++ ": ".toList ++ f.text.toList)
    | .ok node =>
      let isDirectory := node == .directory
      if isDirectory && !m.deep then
        failing ("-r not specified; omitting directory ".toList ++ quoted path)
      else if isDirectory && path != top.1 && (← Routine.ask (.isSame path top.2)) then
        failing ("cannot copy a directory, ".toList ++ quoted top.1 ++ ", into itself, ".toList ++
          quoted top.2)
      else
        match ← Routine.ask (.look target), isDirectory with
        | .error .noEntry, true =>
          match ← Routine.ask (.makeDirectory target) with
          | .error f =>
            failing ("cannot create directory ".toList ++ quoted target ++ ": ".toList ++
              f.text.toList)
          | .ok _ =>
            m.tell c path target
            inside depth path target
        | .error .noEntry, false => copyFile c m node false path target
        | .error f, _ =>
          failing ("cannot stat ".toList ++ quoted target ++ ": ".toList ++ f.text.toList)
        | .ok .directory, true => inside depth path target
        | .ok .directory, false =>
          failing ("cannot overwrite directory ".toList ++ quoted target ++
            " with non-directory".toList)
        | .ok _, true =>
          failing ("cannot overwrite non-directory ".toList ++ quoted target ++
            " with directory ".toList ++ quoted path)
        | .ok _, false =>
          if m.keeps then pure true
          else if !m.asked then copyFile c m node true path target
          else if ← confirmed c ("overwrite ".toList ++ quoted target) then
            copyFile c m node true path target
          else pure false
where
  inside (depth : Nat) (path target : Bytes) : Routine Bool := do
    match ← Routine.ask (.entries path) with
    | .error _ => pure false
    | .ok names =>
      let status ← eachOf (fun n =>
        copyTree c m top depth (path ++ '/' :: n) (target ++ '/' :: n)) names
      pure (status = 0)

/-- A path in a directory. -/
def underDirectory (directory path : Bytes) : Bytes :=
  (if directory.getLast? = some '/' then directory else directory ++ ['/']) ++ lastPart path

/-- What is copied or moved, and where it goes: into a directory, or under a name. -/
def placeFor (c : Call) (os : List (Char × Bytes)) (paths : List Bytes) :
    Routine (List Bytes × (Bytes → Bytes)) := do
  let missing (p : Bytes) : Routine (List Bytes × (Bytes → Bytes)) :=
    c.misused ("missing destination file operand after ".toList ++ cited p) 1
  match lastOf os 't', paths.reverse with
  | _, [] => c.misused "missing file operand".toList 1
  | some directory, _ =>
    match ← Routine.ask (.look directory) with
    | .ok .directory => pure (paths, underDirectory directory)
    | r =>
      let f := match r with
        | .error f => f
        | .ok _ => .notDirectory
      c.fail ("target directory ".toList ++ quoted directory ++ ": ".toList ++ f.text.toList) 1
  | none, [p] => missing p
  | none, target :: sources =>
    if given os 'T' then
      match sources with
      | [_] => pure (sources, fun _ => target)
      | _ => c.misused ("extra operand ".toList ++ cited (paths.getD 2 [])) 1
    else
      match ← Routine.ask (.look target) with
      | .ok .directory => pure (sources.reverse, underDirectory target)
      | r =>
        if 1 < sources.length then
          c.fail ("target ".toList ++ quoted target ++ ": ".toList ++ (match r with
            | .error f => f.text
            | .ok _ => Fault.notDirectory.text).toList) 1
        else pure (sources.reverse, fun _ => target)

/-- The long options of `cp` and `mv`. -/
def movingNames : List (String × Char) :=
  [("force", 'f'), ("interactive", 'i'), ("no-clobber", 'n'), ("no-target-directory", 'T'),
    ("target-directory", 't'), ("update", 'u'), ("verbose", 'v')]

/-- Copies files. -/
def cp (c : Call) : Routine Nat := do
  let (os, paths) ← c.options (.among "adfiHlLnpPrRst:Tuvx"
    (movingNames ++ [("archive", 'a'), ("recursive", 'r')])) 1
  let asking := lastAmong os "ni"
  if given os 'n' then
    c.complain ("warning: behavior of -n is non-portable and may change in future; " ++
      "use --update=none instead").toList
  let (sources, target) ← placeFor c os paths
  let m : Moving :=
    { deep := "rRa".toList.any (given os ·)
      told := given os 'v'
      asked := asking = some 'i'
      keeps := asking = some 'n' }
  eachOf (fun p => do
    let here := target p
    if ← Routine.ask (.isSame p here) then
      c.complain (quoted p ++ " and ".toList ++ quoted here ++ " are the same file".toList)
      pure false
    else copyTree c m (p, here) deepestTree p here) sources

/-- Gives a file another name; yields whether that was possible. -/
def moveFile (c : Call) (m : Moving) (path target : Bytes) : Routine Bool := do
  let failing (what : Bytes) : Routine Bool := do
    c.complain what
    pure false
  match ← Routine.ask (.look path) with
  | .error f => failing ("cannot stat ".toList ++ quoted path ++ ": ".toList ++ f.text.toList)
  | .ok node =>
    let old ← Routine.ask (.look target)
    if ← Routine.ask (.isSame path target) then
      failing (quoted path ++ " and ".toList ++ quoted target ++ " are the same file".toList)
    else
      let isDirectory := node == .directory
      match old, isDirectory with
      | .ok .directory, false =>
        failing ("cannot overwrite directory ".toList ++ quoted target ++
          " with non-directory".toList)
      | .ok (.file _ _), true =>
        failing ("cannot overwrite non-directory ".toList ++ quoted target ++
          " with directory ".toList ++ quoted path)
      | .error .notDirectory, _ =>
        failing ("cannot stat ".toList ++ quoted target ++ ": ".toList ++
          Fault.notDirectory.text.toList)
      | _, _ =>
        let allowed ← if old.toBool && m.asked then
            confirmed c ("overwrite ".toList ++ quoted target)
          else pure true
        if old.toBool && m.keeps then failing ("not replacing ".toList ++ quoted target)
        else if !allowed then pure false
        else
          match ← Routine.ask (.rename path target) with
          | .ok _ =>
            if m.told then
              c.put ("renamed ".toList ++ quoted path ++ " -> ".toList ++ quoted target ++ ['\n'])
            pure true
          | .error .invalid =>
            failing ("cannot move ".toList ++ quoted path ++
              " to a subdirectory of itself, ".toList ++ quoted target)
          | .error .notEmpty =>
            failing ("cannot overwrite ".toList ++ quoted target ++ ": ".toList ++
              Fault.notEmpty.text.toList)
          | .error f =>
            failing ("cannot move ".toList ++ quoted path ++ " to ".toList ++ quoted target ++
              ": ".toList ++ f.text.toList)

/-- Moves files. -/
def mv (c : Call) : Routine Nat := do
  let (os, paths) ← c.options (.among "bfint:Tuv" movingNames) 1
  let (sources, target) ← placeFor c os paths
  let asking := lastAmong os "fin"
  let m : Moving :=
    { deep := true
      told := given os 'v'
      asked := asking = some 'i'
      keeps := asking = some 'n' }
  eachOf (fun p => moveFile c m p (target p)) sources

/-- What a mode such as `+x` or `755` says about executing; absent if it is no mode, and nothing if
it does not say anything. -/
def executing? (mode : Bytes) : Option (Option Bool) :=
  if !mode.isEmpty && mode.all Char.isDigit then
    if mode.all isOctalDigit && mode.length ≤ 4 then
      some (some (mode.any fun c => (c.toNat - '0'.toNat) % 2 = 1))
    else none
  else
    let changes := mode.splitOn ','
    let one (cs : Bytes) : Option (Option Bool) :=
      let rest := cs.dropWhile fun c => "ugoa".toList.contains c
      match rest with
      | o :: letters =>
        if (o = '+' || o = '-' || o = '=') && letters.all fun c => "rwxXst".toList.contains c then
          if letters.contains 'x' then some (some (o != '-'))
          else some (if o = '=' then some false else none)
        else none
      | [] => none
    changes.foldlM (fun acc cs => do
      match ← one cs with
      | some b => some (some b)
      | none => some acc) none
where
  isOctalDigit (c : Char) : Bool := '0' ≤ c && c ≤ '7'

/-- Makes files executable, or not. -/
def chmod (c : Call) : Routine Nat := do
  let isMode (a : Bytes) : Bool := a.head? = some '-' && ((executing? a).isSome) && 1 < a.length
  let (modes, rest) := match c.arguments with
    | a :: rest => if isMode a then ([a], rest) else ([], c.arguments)
    | [] => ([], [])
  let (_, args) ← { c with arguments := rest }.options (.among "cfRv" [("recursive", 'R')]) 1
  match modes ++ args with
  | [] => c.misused "missing operand".toList 1
  | [m] => c.misused ("missing operand after ".toList ++ cited m) 1
  | mode :: paths =>
    match executing? mode with
    | none => c.misused ("invalid mode: ".toList ++ cited mode) 1
    | some change =>
      eachOf (fun p => do
        match ← Routine.ask (.look p) with
        | .error f =>
          c.complain ("cannot access ".toList ++ quoted p ++ ": ".toList ++ f.text.toList)
          pure false
        | .ok _ =>
          match change with
          | some b =>
            let _ ← Routine.ask (.setExecutable p b)
            pure true
          | none => pure true) paths

end Scratchpad.Utility
