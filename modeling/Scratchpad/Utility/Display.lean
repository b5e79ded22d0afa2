import Scratchpad.Utility.Basic

/-!
# Utilities that show files

Those that copy files, or parts of them, to the output.
-/

namespace Scratchpad.Utility

open Scratchpad.Machine Scratchpad.Text

/-- How `cat` shows what it copies. -/
structure Showing where
  numbers : Bool
  /-- Whether only lines with something in them get numbers. -/
  numbersFilled : Bool
  ends : Bool
  tabs : Bool
  /-- Whether bytes that cannot be shown are written as texts. -/
  visible : Bool
  /-- Whether empty lines after an empty line are left out. -/
  squeezes : Bool
  deriving DecidableEq, Repr

/-- What is known of the lines that were copied: how many have numbers, and how many line ends were
read last. -/
structure Copied where
  lines : Nat
  ends : Nat
  deriving DecidableEq, Repr

namespace Showing

/-- Whether files are copied as they are. -/
def isPlain (s : Showing) : Bool := s == ⟨false, false, false, false, false, false⟩

/-- A byte as it is shown. -/
def shown (s : Showing) (c : Char) : Bytes :=
  let control (n : Nat) : Bytes :=
    if n < 32 then ['^', Char.ofNat (n + 64)]
    else if n = 127 then "^?".toList
    else [Char.ofNat n]
  if c = '\t' then (if s.tabs then "^I".toList else [c])
  else if !s.visible then [c]
  else if c.toNat < 128 then control c.toNat
  else "M-".toList ++ control (c.toNat - 128)

/-- The number of a line. -/
def lineNumber (n : Nat) : Bytes :=
  let digits := Bytes.ofNat n
  List.replicate (6 - digits.length) ' ' ++ digits ++ ['\t']

/-- A text as it is shown, the last pieces first. -/
def shownText (s : Showing) (k : Copied) (out : List Bytes) : Bytes → List Bytes × Copied
  | [] => (out, k)
  | '\n' :: cs =>
    if s.squeezes && 2 ≤ k.ends then shownText s k out cs
    else
      let numbered := 1 ≤ k.ends && s.numbers && !s.numbersFilled
      let k' : Copied := ⟨if numbered then k.lines + 1 else k.lines, k.ends + 1⟩
      let ended := (if numbered then lineNumber k'.lines else []) ++
        (if s.ends then ['$'] else []) ++ ['\n']
      shownText s k' (ended :: out) cs
  | c :: cs =>
    let numbered := 1 ≤ k.ends && s.numbers
    let k' : Copied := ⟨if numbered then k.lines + 1 else k.lines, 0⟩
    let text := if s.ends && c = '\r' && cs.head? = some '\n' then "^M".toList else s.shown c
    shownText s k' (((if numbered then lineNumber k'.lines else []) ++ text) :: out) cs

@[simp] theorem shownText_nil (s : Showing) (k : Copied) (out : List Bytes) :
    s.shownText k out [] = (out, k) := rfl

end Showing

/-- Copies files to the output. -/
def cat (c : Call) : Routine Nat := do
  let (os, paths) ← c.options (.among "benstuvAET"
    [("number-nonblank", 'b'), ("number", 'n'), ("squeeze-blank", 's'), ("show-nonprinting", 'v'),
      ("show-ends", 'E'), ("show-tabs", 'T'), ("show-all", 'A')]) 1
  let has (cs : String) : Bool := os.any fun o => cs.toList.contains o.1
  let showing : Showing := ⟨has "bn", has "b", has "eEA", has "tTA", has "etvA", has "s"⟩
  match ← Routine.ask (.write 1 []) with
  | .error .badDescriptor =>
    c.fail ("standard output: ".toList ++ Fault.badDescriptor.text.toList) 1
  | _ => pure ()
  let paths := if paths.isEmpty then [['-']] else paths
  let (status, _) ← each showing (0, ⟨0, 1⟩) paths
  if paths.contains ['-'] then
    match ← Routine.ask (.close 0) with
    | .ok _ => pure status
    | .error f => c.fail ("closing standard input: ".toList ++ f.text.toList) 1
  else pure status
where
  copy (showing : Showing) (path : Bytes) (d : Nat) (k : Copied) : Routine (Bool × Copied) :=
    Routine.loop Routine.patience (fun (k : Copied) => do
      match ← Routine.ask (.read d Routine.chunk) with
      | .ok [] => pure (.inr (true, k))
      | .ok bytes =>
        if showing.isPlain then
          c.put bytes
          pure (.inl k)
        else
          let (out, k) := showing.shownText k [] bytes
          c.put out.reverse.flatten
          pure (.inl k)
      | .error f =>
        c.complainOf path f
        pure (.inr (false, k))) (fun k => (true, k)) k
  each (showing : Showing) (s : Nat × Copied) : List Bytes → Routine (Nat × Copied)
    | [] => pure s
    | path :: paths => do
      match ← openInput path with
      | .error f =>
        c.complainOf path f
        each showing (1, s.2) paths
      | .ok d =>
        let (fine, k) ←
          if ← Routine.ask (.feeds 1 d) then
            c.complain (shownName path ++ ": input file is output file".toList)
            pure (false, s.2)
          else copy showing path d s.2
        closeInput d
        each showing (if fine then s.1 else 1, k) paths

/-- The records of a text, the last one first. The text is given turned around, and so is the mark
that separates records; a mark belongs to the record that it ends, or to the one that it begins if
`before`. `skipped` characters belong to a mark that was found. -/
def recordsBackwards (mark : Bytes) (before : Bool) : (skipped : Nat) → (record : Bytes) →
    Bytes → List Bytes
  | _, record, [] => [record]
  | k + 1, record, _ :: cs => recordsBackwards mark before k record cs
  | 0, record, c :: cs =>
    if !mark.isPrefixOf (c :: cs) then recordsBackwards mark before 0 (c :: record) cs
    else if before then
      (mark.reverse ++ record) :: recordsBackwards mark before (mark.length - 1) [] cs
    else record :: recordsBackwards mark before (mark.length - 1) mark.reverse cs

/-- A text with its last record first. -/
def turnedAround (mark : Bytes) (before : Bool) (text : Bytes) : Bytes :=
  (recordsBackwards mark.reverse before 0 [] text.reverse).flatten

/-- Shows files from their last record to their first one. -/
def tac (c : Call) : Routine Nat := do
  let (os, paths) ← c.options (.among "brs:"
    [("before", 'b'), ("regex", 'r'), ("separator", 's')]) 1
  let mark := (lastOf os 's').getD ['\n']
  if given os 'r' && mark.isEmpty then c.fail "separator cannot be empty".toList 1
  else
    let mark := if mark.isEmpty then ['\x00'] else mark
    each (turnedAround mark (given os 'b')) 0 (if paths.isEmpty then [['-']] else paths)
where
  each (f : Bytes → Bytes) (status : Nat) : List Bytes → Routine Nat
    | [] => pure status
    | path :: paths => do
      match ← openInput path with
      | .error e =>
        c.complain ("failed to open ".toList ++ quoted path ++ " for reading: ".toList ++
          e.text.toList)
        each f 1 paths
      | .ok d =>
        match ← Routine.readAll d with
        | .ok text =>
          c.put (f text)
          closeInput d
          each f status paths
        | .error e =>
          c.complain (shownName path ++ ": read error: ".toList ++ e.text.toList)
          closeInput d
          each f 1 paths

/-- Shows files with each line turned around. -/
def rev (c : Call) : Routine Nat := do
  let (_, paths) ← c.options (.among "" []) 1
  each 0 (if paths.isEmpty then [['-']] else paths)
where
  each (status : Nat) : List Bytes → Routine Nat
    | [] => pure status
    | path :: paths => do
      match ← readFile path with
      | .ok text =>
        let (lines, ended) := linesOf text
        c.put (['\n'].intercalate (lines.map List.reverse) ++ if ended then ['\n'] else [])
        each status paths
      | .error f =>
        c.complain ("cannot open ".toList ++ path ++ ": ".toList ++ f.text.toList)
        each 1 paths

/-- Copies its input to the output and to files. -/
def tee (c : Call) : Routine Nat := do
  let (os, paths) ← c.options (.among "aip" [("append", 'a'), ("ignore-interrupts", 'i')]) 1
  if given os 'i' then Routine.ask (.react 2 .ignored)
  let (outputs, fine) ← opened (if given os 'a' then .append else .write) paths
  let r ← Routine.loop Routine.patience (fun (s : List (Bytes × Nat) × Bool) => do
    match ← Routine.ask (.read 0 Routine.chunk) with
    | .ok [] => pure (.inr s.2)
    | .ok bytes => do
      let left ← copy bytes s.1
      pure (.inl (left, s.2 && left.length = s.1.length))
    | .error f =>
      c.complain ("read error: ".toList ++ f.text.toList)
      pure (.inr false)) (fun s => s.2) (("standard output".toList, 1) :: outputs, fine)
  pure (if r then 0 else 1)
where
  opened (access : Access) : List Bytes → Routine (List (Bytes × Nat) × Bool)
    | [] => pure ([], true)
    | path :: paths => do
      match ← Routine.ask (.openFile path access) with
      | .ok d =>
        let (more, fine) ← opened access paths
        pure ((path, d) :: more, fine)
      | .error f =>
        c.complainOf path f
        let (more, _) ← opened access paths
        pure (more, false)
  copy (bytes : Bytes) : List (Bytes × Nat) → Routine (List (Bytes × Nat))
    | [] => pure []
    | o :: rest => do
      match ← Routine.writeAll o.2 bytes with
      | .ok _ => pure (o :: (← copy bytes rest))
      | .error f =>
        c.complain (shownName o.1 ++ ": ".toList ++ f.text.toList)
        copy bytes rest

end Scratchpad.Utility
