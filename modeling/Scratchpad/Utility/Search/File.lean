import Scratchpad.Utility.Lines
import Scratchpad.Utility.Search.Row

/-!
# Searching files

Files are searched line by line, and only as far as the answer needs. A directory can stand for the
files that are in it.
-/

namespace Scratchpad.Utility.Search

open Scratchpad.Machine Scratchpad.Text

/-- Where searching a file stands. -/
structure Standing where
  source : LineSource
  /-- The number of the next line. -/
  number : Nat
  /-- Where the next line begins. -/
  place : Nat
  found : Nat
  /-- The lines before the next one that were not shown, the last one first. -/
  held : List Bytes
  /-- How many lines are still shown because of one before them. -/
  trailing : Nat
  /-- The number of the last line that was shown, or zero. -/
  last : Nat
  /-- Whether the file is no text. -/
  binary : Bool
  /-- Whether lines of other files were shown before. -/
  later : Bool

/-- What stands between groups of lines. -/
def groupMark (o : Order) : Bytes :=
  match o.between with
  | some text => painted o.heading.coloured "36" text ++ ['\n']
  | none => []

/-- Shows a line that was found, and the lines before it that belong to it. -/
def showFound (c : Call) (o : Order) (name : Bytes) (s : Standing) (line : Bytes) :
    Routine Standing := do
  let held := s.held.reverse
  let first := s.number - held.length
  let apart := o.around.isSome && (if s.last = 0 then s.later else s.last + 1 < first)
  let mark := if apart then groupMark o else []
  let start := s.place - (held.map fun l => l.length + 1).foldr (· + ·) 0
  let out := match o.shown with
    | .lines => mark ++ (go first start held).flatten ++ row o name s.number s.place ':' line
    | .parts => mark ++ if o.inverted then [] else partRows o name s.number s.place line
    | _ => []
  if s.binary then pure ()
  else c.put out
  pure { s with found := s.found + 1, held := [], trailing := o.after, last := s.number }
where
  go (number place : Nat) : List Bytes → List Bytes
    | [] => []
    | l :: ls => row o name number place '-' l :: go (number + 1) (place + l.length + 1) ls

/-- Looks at one line; the file is left if the answer is on the right. -/
def step (c : Call) (o : Order) (name : Bytes) (s : Standing) :
    Routine (Standing ⊕ (Standing × Option Fault)) := do
  let full := o.most.any (· ≤ s.found)
  let enough := match o.shown with
    | .lines => full && s.trailing = 0
    | .parts => full
    | .count => full
    | _ => 0 < s.found || o.most = some 0
  if enough || (s.binary && (o.shown = .lines || o.shown = .parts) && 0 < s.found) then
    pure (.inr (s, none))
  else
    let (r, source) ← s.source.next
    let isBinary (text : Bytes) : Bool :=
      o.binaries != .asText && o.ending = '\n' && text.contains '\x00'
    let s := { s with source, binary := s.binary || isBinary source.pending }
    match r with
    | .error f => pure (.inr (s, some f))
    | .ok none => pure (.inr (s, none))
    | .ok (some line) =>
      let s := { s with binary := s.binary || isBinary line.text }
      if s.binary && o.binaries = .passedOver then pure (.inr ({ s with found := 0 }, none))
      else
        -- In a file that is no text a zero byte ends a line too.
        let (text, source) := match if s.binary then cutAt? '\x00' line.text else none with
          | some (front, rest) => (front, s.source.putBack ⟨rest, line.ended⟩)
          | none => (line.text, s.source)
        let s := { s with source }
        let hit := (o.pattern.search? o.folded text).isSome != o.inverted
        let s ←
          if hit && !full then showFound c o name s text
          else if 0 < s.trailing then
            if o.shown = .lines then c.put (row o name s.number s.place '-' text)
            pure { s with trailing := s.trailing - 1, last := s.number }
          else pure { s with held := (text :: s.held).take o.before }
        pure (.inl { s with number := s.number + 1, place := s.place + text.length + 1 })

/-- Searches an open file, `later` if lines of others were shown before; yields how many lines were
found, and why it cannot be read if so. -/
def file (c : Call) (o : Order) (later : Bool) (name : Bytes) (d : Nat) :
    Routine (Nat × Option Fault) := do
  let (s, fault) ← Routine.loop Routine.patience (step c o name) (fun s => (s, none))
    ⟨.ofDescriptor d o.ending, 1, 0, 0, [], 0, 0, false, later⟩
  match fault with
  | some f => if !o.silent then c.complain (name ++ ": ".toList ++ f.text.toList)
  | none => pure ()
  let shownName := painted o.heading.coloured "35" name
  let title := shownName ++ [if o.heading.zeroEnded then '\x00' else '\n']
  let mark := if o.heading.zeroEnded then ['\x00'] else painted o.heading.coloured "36" [':']
  match o.shown with
  | .count =>
    c.put ((if o.heading.named then shownName ++ mark else []) ++ Bytes.ofNat s.found ++ ['\n'])
  | .files => if 0 < s.found then c.put title
  | .otherFiles => if s.found = 0 then c.put title
  | .nothing => pure ()
  | _ => if s.binary && 0 < s.found then c.complain (name ++ ": binary file matches".toList)
  pure (s.found, fault)

/-- What searching files has shown: whether lines were found, and whether something went wrong. -/
structure Outcome where
  found : Bool
  failed : Bool
  /-- Whether nothing more has to be searched. -/
  complete : Bool
  deriving DecidableEq, Repr

/-- Searches what a path leads to. -/
def searchFile (c : Call) (o : Order) (r : Outcome) (path : Bytes) : Routine Outcome := do
  let name := if path = ['-'] then o.label else path
  let complain (what : Bytes) : Routine Outcome := do
    if !o.silent then c.complain (name ++ ": ".toList ++ what)
    pure { r with failed := true }
  match ← openInput path with
  | .error f => complain f.text.toList
  | .ok d =>
    let shows := o.shown = .lines || o.shown = .parts || o.shown = .count
    if (o.shown = .lines || o.shown = .parts) && (← Routine.ask (.feeds 1 d)) then
      closeInput d
      complain "input file is also the output".toList
    else
      let (n, fault) ← file c o (shows && r.found) name d
      closeInput d
      pure
        { found := r.found || 0 < n
          failed := r.failed || fault.isSome
          complete := r.complete || (0 < n && o.shown = .nothing) }

/-- How deep directories may stand in each other. -/
def deepest : Nat := 64

/-- Searches what a path leads to, and if that is a directory the files in it; `front` stands before
the names in it, and `depth` bounds how deep directories are. -/
def searchUnder (c : Call) (o : Order) (depth : Nat) (r : Outcome) (front path : Bytes) :
    Routine Outcome :=
  match depth with
  | 0 => pure r
  | depth + 1 => do
    if r.complete then pure r
    else
      match ← Routine.ask (.entries path) with
      | .error _ => if o.chosen false path then searchFile c o r path else pure r
      | .ok names =>
        if !o.chosen true path then pure r
        else names.foldlM (fun r n => searchUnder c o depth r (front ++ n ++ ['/']) (front ++ n)) r

/-- Searches what paths lead to. -/
def files (c : Call) (o : Order) : Outcome → List Bytes → Routine Outcome
  | r, [] => pure r
  | r, path :: paths => do
    if r.complete then pure r
    else if path = ['-'] then files c o (← searchFile c o r path) paths
    else
      match o.directories, ← Routine.ask (.look path) with
      | .passedOver, .ok .directory => files c o r paths
      | .searched, .ok .directory =>
        -- From the first directory on the names of files are shown.
        let o := { o with heading.named := o.heading.named || !o.nameless }
        let front := if path.getLast? = some '/' then path else path ++ ['/']
        files c o (← searchUnder c o deepest r front path) paths
      | _, _ => files c o (← if o.chosen false path then searchFile c o r path else pure r) paths

end Scratchpad.Utility.Search
