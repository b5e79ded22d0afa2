import Scratchpad.Utility.Basic

/-!
# Counting

`wc` counts the lines, words and bytes of files. The counts are brought to one width, which depends
on the sizes of the files.
-/

namespace Scratchpad.Utility

open Scratchpad.Machine

/-- What is counted in a text. -/
structure Count where
  lines : Nat
  words : Nat
  bytes : Nat
  /-- The width of the longest line. -/
  longest : Nat
  deriving DecidableEq, Repr

/-- Where counting stands. -/
structure Counting where
  count : Count
  inWord : Bool
  column : Nat
  deriving DecidableEq, Repr

namespace Count

/-- Nothing. -/
def zero : Count := ⟨0, 0, 0, 0⟩

/-- What is counted in two texts. -/
def add (a b : Count) : Count :=
  ⟨a.lines + b.lines, a.words + b.words, a.bytes + b.bytes, max a.longest b.longest⟩

end Count

namespace Counting

/-- The start of a text. -/
def start : Counting := ⟨.zero, false, 0⟩

/-- Whether a byte separates words. -/
def isSpace (c : Char) : Bool := c == ' ' || ('\t' ≤ c && c ≤ '\r')

/-- Counts one more byte. -/
def step (k : Counting) (c : Char) : Counting :=
  let begins := !isSpace c && !k.inWord
  let column :=
    if c = '\n' || c = '\r' || c = '\x0c' then 0
    else if c = '\t' then k.column + 8 - k.column % 8
    else if isShown c then k.column + 1
    else k.column
  { count :=
      { lines := k.count.lines + if c = '\n' then 1 else 0
        words := k.count.words + if begins then 1 else 0
        bytes := k.count.bytes + 1
        longest := max k.count.longest column }
    inWord := !isSpace c
    column }

end Counting

/-- Counts the bytes of an open file. -/
def countFrom (d : Nat) : Routine (Except Fault Count × Count) :=
  Routine.loop Routine.patience (fun (k : Counting) => do
    match ← Routine.ask (.read d Routine.chunk) with
    | .ok [] => pure (.inr (.ok k.count, k.count))
    | .ok bytes => pure (.inl (bytes.foldl Counting.step k))
    | .error f => pure (.inr (.error f, k.count))) (fun k => (.ok k.count, k.count)) .start

/-- The size of a file, or nothing if it is none that has a size. -/
def sizeOf? (path : Bytes) : Routine (Option (Option Nat)) := do
  match ← Routine.ask (.look path) with
  | .ok (.file content _) => pure (some (some content.length))
  | .ok (.utility _) => pure (some (some FileTree.machineCode.length))
  | .ok _ => pure (some none)
  | .error _ => pure none

/-- The size of the input if it is a file; it is read to its end and back. -/
def inputSize : Routine (Option Nat) := do
  match ← Routine.ask (.goBack 0 0) with
  | .error _ => pure none
  | .ok _ =>
    match ← Routine.readAll 0 with
    | .ok text =>
      let _ ← Routine.ask (.goBack 0 text.length)
      pure (some text.length)
    | .error _ => pure none

/-- The sizes of files. -/
def sizesOf : List Bytes → Routine (List (Option (Option Nat)))
  | [] => pure []
  | p :: ps => do
    let s ← if p = ['-'] then do pure (some (← inputSize)) else sizeOf? p
    pure (s :: (← sizesOf ps))

/-- When the sums of all counts are shown. -/
inductive Totals where
  /-- If there are several files. -/
  | auto
  | always
  | only
  | never
  deriving DecidableEq, Repr

/-- Counts what is in files. -/
def wc (c : Call) : Routine Nat := do
  let (os, paths) ← c.options (.among "clLmw\x01:"
    [("bytes", 'c'), ("chars", 'm'), ("lines", 'l'), ("words", 'w'), ("max-line-length", 'L'),
      ("total", '\x01')]) 1
  let totals ← (os.filter fun o => o.1 = '\x01').foldlM (fun _ o =>
    c.choice "--total" [("auto", Totals.auto), ("always", .always), ("only", .only),
      ("never", .never)] 1 o.2) .auto
  let all := os.all fun o => o.1 = '\x01'
  let fields (k : Count) : List Nat :=
    (if all || given os 'l' then [k.lines] else []) ++
      (if all || given os 'w' then [k.words] else []) ++
      (if given os 'm' then [k.bytes] else []) ++
      (if all || given os 'c' then [k.bytes] else []) ++
      (if given os 'L' then [k.longest] else [])
  let single := (fields .zero).length = 1
  let width ← do
    if totals = .only then pure 1
    else if paths.isEmpty then
      if single then pure 1
      else
        match ← inputSize with
        | some n => pure (Bytes.ofNat n).length
        | none => pure 7
    else if single && paths.length = 1 then pure 1
    else
      let sizes ← sizesOf paths
      if (sizes.head?.bind fun s => s).isNone && (sizes.head?.any Option.isNone) then pure 1
      else
        let total := (sizes.filterMap fun s => s.bind fun n => n).foldr (· + ·) 0
        let least := if sizes.any fun s => s = some none then 7 else 1
        pure (max least (Bytes.ofNat total).length)
  let row (k : Count) (name : Option Bytes) : Bytes :=
    let texts := (fields k).map fun n =>
      let digits := Bytes.ofNat n
      List.replicate (width - digits.length) ' ' ++ digits
    spaced (texts ++ name.toList) ++ ['\n']
  let shown (k : Count) (name : Option Bytes) : Bytes := if totals = .only then [] else row k name
  let (status, total) ←
    if paths.isEmpty then do
      let (r, k) ← countFrom 0
      c.put (shown k none)
      match r with
      | .ok _ => pure (0, k)
      | .error f =>
        c.complain ("standard input: ".toList ++ f.text.toList)
        pure (1, k)
    else each shown (0, .zero) paths
  match totals with
  | .only => c.put (row total none)
  | .always => c.put (row total (some "total".toList))
  | .auto => if 1 < paths.length then c.put (row total (some "total".toList))
  | .never => pure ()
  pure status
where
  each (row : Count → Option Bytes → Bytes) (s : Nat × Count) : List Bytes → Routine (Nat × Count)
    | [] => pure s
    | path :: paths => do
      if path.isEmpty then
        c.complain "invalid zero-length file name".toList
        each row (1, s.2) paths
      else
        match ← openInput path with
        | .error f =>
          c.complainOf path f
          each row (1, s.2) paths
        | .ok d =>
          let (r, k) ← countFrom d
          closeInput d
          match r with
          | .ok _ =>
            c.put (row k (some path))
            each row (s.1, s.2.add k) paths
          | .error f =>
            c.complainOf path f
            c.put (row k (some path))
            each row (1, s.2.add k) paths

end Scratchpad.Utility
