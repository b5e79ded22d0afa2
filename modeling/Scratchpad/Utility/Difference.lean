import Scratchpad.Number.Double
import Scratchpad.Utility.Display
import Scratchpad.Utility.Quantity

/-!
# Comparing files

`cmp` tells where two files differ first, or all the places where they differ. Bytes in front of the
files can be left out, and the rest can be limited.
-/

namespace Scratchpad.Utility

open Scratchpad.Machine Scratchpad.Number Scratchpad.Text

/-- Where two texts differ first: the position and the line, counted from one, and what is left. -/
def difference (position line : Nat) : Bytes → Bytes → Nat × Nat × Bytes × Bytes
  | a :: as, b :: bs =>
    if a = b then difference (position + 1) (if a = '\n' then line + 1 else line) as bs
    else (position, line, a :: as, b :: bs)
  | as, bs => (position, line, as, bs)

@[simp] theorem difference_nil (position line : Nat) :
    difference position line [] [] = (position, line, [], []) := rfl

namespace Difference

/-- A byte in octal digits, with blanks before them. -/
def octal (c : Char) : Bytes :=
  let ds := Nat.toDigits 8 c.toNat
  List.replicate (3 - ds.length) ' ' ++ ds

/-- A byte in octal digits and as it can be seen. -/
def visible (c : Char) : Bytes :=
  octal c ++ ' ' :: Showing.shown ⟨false, false, false, true, true, false⟩ c

/-- All places where two texts differ. -/
def rows (withBytes : Bool) (a b : Bytes) : Bytes :=
  let width := (Bytes.ofNat (min a.length b.length)).length
  ((a.zip b).zipIdx 1).flatMap fun e =>
    if e.1.1 = e.1.2 then []
    else
      let left := if withBytes then visible e.1.1 else octal e.1.1
      let right := if withBytes then visible e.1.2 else octal e.1.2
      let left := if withBytes then left ++ List.replicate (8 - left.length) ' ' else left
      aligned width e.2 ++ ' ' :: left ++ ' ' :: right ++ ['\n']

/-- What is known of a text that ends before another one. -/
def ending (name text : Bytes) (position line : Nat) (detailed : Bool) : Bytes :=
  "EOF on ".toList ++ name ++
    if position = 1 then " which is empty".toList
    else " after byte ".toList ++ Bytes.ofNat (position - 1) ++
      if !detailed then []
      else if text.getLast? = some '\n' then ", line ".toList ++ Bytes.ofNat (line - 1)
      else ", in line ".toList ++ Bytes.ofNat line

/-- The number that an option or an operand gives. -/
def number? (text : Bytes) : Option Nat :=
  let units := "kKMGTPEZY0"
  let value (base : Nat) (ds rest : Bytes) : Option Nat :=
    (factorOf? units rest).map fun f => Double.valueOf base ds * f
  let isHex (c : Char) : Bool := c.isDigit || ('a' ≤ c.toLower && c.toLower ≤ 'f')
  match text with
  | '0' :: x :: c :: rest =>
    if x.toLower = 'x' && isHex c then
      value 16 ((c :: rest).takeWhile isHex) ((c :: rest).dropWhile isHex)
    else
      let ds := text.takeWhile fun c => '0' ≤ c && c ≤ '7'
      value 8 ds (text.drop ds.length)
  | _ =>
    if (text.head?).any Char.isDigit then
      let ds := text.takeWhile Char.isDigit
      value 10 ds (text.drop ds.length)
    else if (text.head?).any fun c => "kKMGTPEZY".toList.contains c then factorOf? units text
    else none

end Difference

open Difference in
/-- Compares two files. -/
def cmp (c : Call) : Routine Nat := do
  let wrong {α : Type} (message : Bytes) : Routine α := do
    c.complain message
    c.fail ("Try '".toList ++ c.name ++ " --help' for more information.".toList) 2
  let (os, args) ← match (Options.among "bi:ln:s"
      [("print-bytes", 'b'), ("ignore-initial", 'i'), ("verbose", 'l'), ("bytes", 'n'),
        ("quiet", 's'), ("silent", 's')]).read c.arguments with
    | .ok r => pure r
    | .error e => wrong e
  let skip (whole text : Bytes) : Routine Nat :=
    match number? text with
    | some n => pure n
    | none => wrong ("invalid --ignore-initial value '".toList ++ whole ++ ['\''])
  let (skipped, limit) ← os.foldlM (fun (s : (Nat × Nat) × Option Nat) o => do
    match o.1 with
    | 'i' =>
      match cutAt? ':' o.2 with
      | some (a, b) => do
        let m ← skip o.2 a
        let n ← skip b b
        pure ((max s.1.1 m, max s.1.2 n), s.2)
      | none => do
        let n ← skip o.2 o.2
        pure ((max s.1.1 n, max s.1.2 n), s.2)
    | 'n' =>
      match number? o.2 with
      | some n => pure (s.1, some (min n (s.2.getD n)))
      | none => wrong ("invalid --bytes value '".toList ++ o.2 ++ ['\''])
    | _ => pure s) ((0, 0), none)
  if given os 'l' && given os 's' then wrong "options -l and -s are incompatible".toList
  let silent := given os 's'
  let read (path : Bytes) : Routine Bytes := do
    match ← openInput path with
    | .ok d =>
      match ← Routine.readAll d with
      | .ok text =>
        closeInput d
        pure text
      | .error f => c.fail (path ++ ": ".toList ++ f.text.toList) 2
    | .error f => if silent then Routine.exit 2 else c.fail (path ++ ": ".toList ++ f.text.toList) 2
  match args with
  | [] => wrong ("missing operand after '".toList ++ c.arguments.getLastD c.name ++ ['\''])
  | p :: rest =>
    let q := rest.headD ['-']
    let counts := rest.drop 1
    let more (n : Nat) : Option Bytes → Routine Nat
      | some text => do pure (max n (← skip text text))
      | none => pure n
    let m ← more skipped.1 counts[0]?
    let n ← more skipped.2 counts[1]?
    match counts.drop 2 with
    | extra :: _ => wrong ("extra operand '".toList ++ extra ++ ['\''])
    | [] => pure ()
    let part (skipped : Nat) (text : Bytes) : Bytes :=
      match limit with
      | some l => (text.drop skipped).take l
      | none => text.drop skipped
    let a := part m (← read p)
    if p = q && m = n then pure 0
    else
      let b := part n (← read q)
      if given os 'l' then
        let rows := rows (given os 'b') a b
        c.put rows
        if a.length = b.length then pure (if rows.isEmpty then 0 else 1)
        else
          let (short, n) := if a.length < b.length then (p, a.length) else (q, b.length)
          c.complain (ending short [] (n + 1) 1 false)
          pure 1
      else
        match difference 1 1 a b with
        | (_, _, [], []) => pure 0
        | (position, line, x :: _, y :: _) =>
          if !silent then
            let place := Bytes.ofNat position ++ ", line ".toList ++ Bytes.ofNat line
            c.put (p ++ ' ' :: q ++ " differ: ".toList ++
              (if given os 'b' then
                "byte ".toList ++ place ++ " is ".toList ++ visible x ++ ' ' :: visible y
              else "char ".toList ++ place) ++ ['\n'])
          pure 1
        | (position, line, left, _) =>
          let (short, text) := if left.isEmpty then (p, a) else (q, b)
          if !silent then c.complain (ending short text position line true)
          pure 1

end Scratchpad.Utility
