import Scratchpad.Shell.Expansion

/-!
# Redirections

`connect` connects descriptors with files, documents and each other, and keeps what they were
connected with before; `restore` brings that back. A fault in a redirection is no fault of the
script: it only tells that the command cannot be carried out.
-/

namespace Scratchpad.Shell

open Scratchpad.Machine

/-- What a descriptor is to be connected with. -/
inductive Target where
  /-- A file; `fresh` tells that it must not be there with something in it. -/
  | file (access : Access) (fresh : Bool) (path : Bytes)
  /-- Whatever another descriptor is connected with. -/
  | descriptor (n : Nat)
  | nothing
  /-- The text that a word stands for. -/
  | document (w : Word)

/-- The copies of descriptors that were connected with something else; absent for one that was not
connected. -/
abbrev Kept := List (Nat × Option Nat)

namespace Redirection

/-- The descriptor that a redirection is about. -/
def descriptor : Redirection → Nat
  | mk d _ _ => d

/-- The target of a redirection, with its words expanded unless they are a document. -/
def expand (capture : Command → Action Bytes) : Redirection → Action Target
  | mk _ .document w => pure (.document w)
  | mk _ .copy w => do
    match ← expandText capture .text w with
    | ['-'] => pure .nothing
    | [c] =>
      if c.isDigit then pure (.descriptor (c.toNat - '0'.toNat)) else noDescriptor
    | _ => noDescriptor
  | mk _ opening w => do
    let path ← expandText capture .text w
    pure (match opening with
      | .read => .file .read false path
      | .write => .file .write true path
      | .replace => .file .write false path
      | .append => .file .append false path
      | _ => .file .both false path)
where
  noDescriptor : Action Target := do
    modify fun sh => { sh with line := sh.readTo }
    Action.fail Problem.badDescriptor.message

end Redirection

/-- How a fault is described when a file cannot be opened. -/
def openingText (access : Access) (f : Fault) : Bytes :=
  if f = .noEntry || f = .notDirectory then
    (if access = .read then "No such file" else "Directory nonexistent").toList
  else f.text.toList

/-- Opens a file, and yields its descriptor. -/
def openFile (access : Access) (fresh : Bool) (path : Bytes) : Action Nat := do
  let failing (f : Fault) : Action Nat :=
    Action.fail ((if access = .read then "cannot open " else "cannot create ").toList ++ path ++
      ": ".toList ++ openingText access f)
  let present ← if fresh && (← get).has 'C' then Action.ask (.look path) else pure (.error .noEntry)
  match present with
  | .ok (.file _ _) => failing .alreadyThere
  | .ok (.utility _) => failing .alreadyThere
  | _ =>
    match ← Action.ask (.openFile path access) with
    | .ok d => pure d
    | .error f => failing f

/-- A descriptor from which a text can be read. A long one is written by a process of its own. -/
def openText (text : Bytes) : Action Nat := do
  let (outlet, inlet) ← Action.ask .pipe
  if text.length ≤ longest then
    let _ ← Action.write inlet text
  else
    let _ ← Action.lift (Routine.fork (do
      let _ ← Routine.ask (.close outlet)
      let _ ← Routine.writeAll inlet text
      pure 0))
  let _ ← Action.ask (.close inlet)
  pure outlet
where
  longest : Nat := 4096

/-- Connects a descriptor with an open one, which is closed after that. -/
def moveTo (d target : Nat) : Action Unit := do
  if d = target then pure ()
  else
    let _ ← Action.ask (.copy d target)
    let _ ← Action.ask (.close d)

/-- Puts a copy of a descriptor in its place, unless there is one already. -/
def keep (kept : Kept) (d : Nat) : Action Kept := do
  if (kept.lookup d).isSome then pure kept
  else
    match ← Action.ask (.keep d) with
    | .ok copy =>
      let _ ← Action.ask (.close d)
      pure ((d, some copy) :: kept)
    | .error _ => pure ((d, none) :: kept)

/-- Connects a descriptor with a target; `keeping` tells whether what it was connected with is kept.
-/
def connectOne (capture : Command → Action Bytes) (keeping : Bool) (kept : Kept) (d : Nat) :
    Target → Action (Kept × Option Nat)
  | .nothing => do
    let kept ← if keeping then keep kept d else pure kept
    let _ ← Action.ask (.close d)
    pure (kept, none)
  | .descriptor n => do
    if n = d then pure (kept, none)
    else
      let kept ← if keeping then keep kept d else pure kept
      match ← Action.ask (.copy n d) with
      | .ok _ => pure (kept, none)
      | .error _ => pure (kept, some n)
  | .file access fresh path => do
    let opened ← openFile access fresh path
    place opened
  | .document w => do
    let opened ← openText (← expandText capture .document w)
    place opened
where
  place (opened : Nat) : Action (Kept × Option Nat) := do
    if opened = d then
      pure (if keeping && (kept.lookup d).isNone then ((d, none) :: kept, none) else (kept, none))
    else
      let kept ← if keeping then keep kept d else pure kept
      moveTo opened d
      pure (kept, none)

/-- Connects descriptors with their targets, one after the other. The answer tells what was kept,
and whether all went well. -/
def connect (capture : Command → Action Bytes) (keeping : Bool) (kept : Kept) :
    List (Nat × Target) → Action (Kept × Bool)
  | [] => pure (kept, true)
  | (d, target) :: rest => do
    match ← Action.outcome (connectOne capture keeping kept d target) with
    | .ok (kept, none) => connect capture keeping kept rest
    | .ok (kept, some n) => do
      let _ ← Action.outcome (α := Unit)
        (Action.fail (Bytes.ofNat n ++ ": Bad file descriptor".toList))
      pure (kept, false)
    | .error .fault => pure (kept, false)
    | .error s => Action.stop s

/-- The targets of redirections. -/
def targets (capture : Command → Action Bytes) (rs : List Redirection) :
    Action (List (Nat × Target)) :=
  Action.collect rs fun r => do pure (r.descriptor, ← r.expand capture)

/-- Brings back what descriptors were connected with. -/
def restore (kept : Kept) : Action Unit :=
  Action.forEach kept fun k => do
    match k.2 with
    | some copy => moveTo copy k.1
    | none =>
      let _ ← Action.ask (.close k.1)

/-- Gives up what descriptors were connected with. -/
def forget (kept : Kept) : Action Unit :=
  Action.forEach kept fun k => do
    match k.2 with
    | some copy =>
      let _ ← Action.ask (.close copy)
    | none => pure ()

end Scratchpad.Shell
