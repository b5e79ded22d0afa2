import Scratchpad.Utility.Quantity

/-!
# Copying blocks

`dd` copies blocks of bytes, skips some and changes some.
-/

namespace Scratchpad.Utility

open Scratchpad.Machine Scratchpad.Text

/-- How `dd` copies. -/
structure Transfer where
  input : Bytes
  output : Option Bytes
  inputBlock : Nat
  outputBlock : Nat
  count : Option Nat
  skipped : Nat
  sought : Nat
  conversions : List Bytes
  status : Bytes

/-- The blocks that are read from an open file: full ones, and whether one is shorter, and the
bytes. -/
def readBlocks (d size : Nat) (count : Option Nat) :
    Routine (Except Fault Unit × Nat × Nat × Bytes) :=
  Routine.loop Routine.patience (fun (s : Nat × Nat × List Bytes) => do
    let done (r : Except Fault Unit) := (r, s.1, s.2.1, s.2.2.reverse.flatten)
    if count.any (· ≤ s.1 + s.2.1) then pure (.inr (done (.ok ())))
    else
      match ← Routine.ask (.read d size) with
      | .ok [] => pure (.inr (done (.ok ())))
      | .ok bytes =>
        pure (.inl (if bytes.length = size then (s.1 + 1, s.2.1, bytes :: s.2.2)
          else (s.1, s.2.1 + 1, bytes :: s.2.2)))
      | .error f => pure (.inr (done (.error f))))
    (fun s => (.ok (), s.1, s.2.1, s.2.2.reverse.flatten)) (0, 0, [])

/-- Copies blocks of bytes. -/
def dd (c : Call) : Routine Nat := do
  let (_, args) ← c.options (.among "" []) 1
  let number (text : Bytes) (positive : Bool) : Routine Nat :=
    match countOf "bcEGkKMPQRTwYZ0" text with
    | .ok n => if positive && n = 0 then invalid text else pure n
    | .error _ => invalid text
  let usual : Transfer := ⟨[], none, 512, 512, none, 0, 0, [], []⟩
  let t ← args.foldlM (fun (t : Transfer) a => do
    let (key, value) := (cutAt? '=' a).getD (a, [])
    match String.ofList key with
    | "if" => pure { t with input := value }
    | "of" => pure { t with output := some value }
    | "bs" => do
      let n ← number value true
      pure { t with inputBlock := n, outputBlock := n }
    | "ibs" => do pure { t with inputBlock := ← number value true }
    | "obs" => do pure { t with outputBlock := ← number value true }
    | "count" => do pure { t with count := some (← number value false) }
    | "skip" => do pure { t with skipped := ← number value false }
    | "seek" => do pure { t with sought := ← number value false }
    | "conv" => pure { t with conversions := value.splitOn ',' }
    | "status" =>
      if (["none", "noxfer", "progress"].map String.toList).contains value then
        pure { t with status := value }
      else c.misused ("invalid status level: ".toList ++ cited value) 1
    | "iflag" => pure t
    | "oflag" => pure t
    | _ => c.misused ("unrecognized operand ".toList ++ cited a) 1) usual
  let opened (r : Except Fault Nat) (path : Bytes) : Routine Nat :=
    match r with
    | .ok d => pure d
    | .error f => c.fail ("failed to open ".toList ++ cited path ++ ": ".toList ++ f.text.toList) 1
  let input ← if t.input.isEmpty then pure 0
    else do opened (← Routine.ask (.openFile t.input .read)) t.input
  let converts (name : String) : Bool := t.conversions.contains name.toList
  let old ← match t.output with
    | some path =>
      if t.sought = 0 && !converts "notrunc" then pure []
      else do
        match ← readFile path with
        | .ok text => pure text
        | .error _ => pure []
    | none => pure []
  let output ← match t.output with
    | none => pure 1
    | some path => do opened (← Routine.ask (.openFile path .write)) path
  let movable ← if t.output.isNone && t.sought != 0 then do
      match ← Routine.ask (.goBack 1 0) with
      | .ok _ => pure true
      | .error f =>
        c.complain ("'standard output': cannot seek: ".toList ++ f.text.toList)
        pure false
    else pure true
  let t := if movable then t else { t with count := some 0, sought := 0 }
  let _ ← readBlocks input t.inputBlock (some t.skipped)
  let (r, full, short, bytes) ← readBlocks input t.inputBlock t.count
  let bytes :=
    if converts "ucase" then bytes.map Char.toUpper
    else if converts "lcase" then bytes.map Char.toLower
    else bytes
  let start := t.sought * t.outputBlock
  let front := (old ++ List.replicate start '\x00').take start
  let behind := if converts "notrunc" then old.drop (start + bytes.length) else []
  let written ← Routine.writeAll output (front ++ bytes ++ behind)
  let (out, status) ← match written with
    | .ok _ => pure (bytes.length, 0)
    | .error f => do
      c.complain ("error writing ".toList ++ cited (t.output.getD "standard output".toList) ++
        ": ".toList ++ f.text.toList)
      pure (0, 1)
  let status ← match r with
    | .ok _ => pure status
    | .error f => do
      c.complain ("error reading ".toList ++ cited (if t.input.isEmpty then "standard input".toList
        else t.input) ++ ": ".toList ++ f.text.toList)
      pure 1
  let records (full short : Nat) (way : String) : Bytes :=
    Bytes.ofNat full ++ '+' :: Bytes.ofNat short ++ " records ".toList ++ way.toList ++ ['\n']
  if t.status ≠ "none".toList then
    let _ ← Routine.writeAll 2 (records full short "in" ++
      records (out / t.outputBlock) (if out % t.outputBlock = 0 then 0 else 1) "out")
    if t.status ≠ "noxfer".toList then
      let _ ← Routine.writeAll 2 (Bytes.ofNat out ++
        (if out = 1 then " byte copied\n" else " bytes copied\n").toList)
  pure (if movable then status else 1)
where
  invalid (text : Bytes) : Routine Nat := c.fail ("invalid number: ".toList ++ cited text) 1

end Scratchpad.Utility
