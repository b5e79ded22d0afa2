import Scratchpad.Utility.Key
import Scratchpad.Utility.Quantity

/-!
# Repeated lines

`uniq` joins lines that stand next to each other and are the same, or shows which ones are.
-/

namespace Scratchpad.Utility

open Scratchpad.Machine Scratchpad.Text

/-- Where groups of lines are set apart by an empty one. -/
inductive Apart where
  | nowhere
  /-- Before each group. -/
  | before
  /-- After each group. -/
  | after
  /-- Between the groups. -/
  | between
  /-- Before each group and after the last one. -/
  | around
  deriving DecidableEq, Repr

namespace Repetition

/-- Groups of lines with empty lines to set them apart. -/
def apart (how : Apart) (empty : Bytes) (groups : List Bytes) : Bytes :=
  match how with
  | .nowhere => groups.flatten
  | .before => groups.flatMap (empty ++ ·)
  | .after => groups.flatMap (· ++ empty)
  | .between => (groups.intersperse empty).flatten
  | .around => groups.flatMap (empty ++ ·) ++ (if groups.isEmpty then [] else empty)

@[simp] theorem apart_nil (how : Apart) (empty : Bytes) : apart how empty [] = [] := by
  cases how <;> rfl

/-- What is shown of groups of lines that are the same. -/
structure Wish where
  /-- How groups of all lines are set apart, if all lines are shown. -/
  grouped : Option Apart
  /-- How groups are set apart, if all lines that are repeated are shown. -/
  all : Option Apart
  onlyRepeated : Bool
  onlySingle : Bool
  counted : Bool
  skippedFields : Nat
  /-- Whether the fields to skip were told by digits, to which more can be added. -/
  byDigits : Bool
  skippedBytes : Nat
  width : Option Nat

/-- The options of `uniq`. -/
def known : Options :=
  .among "0123456789cdDf:is:uw:z\x01::\x02::"
    [("count", 'c'), ("repeated", 'd'), ("all-repeated", '\x01'), ("group", '\x02'),
      ("ignore-case", 'i'), ("unique", 'u'), ("skip-fields", 'f'), ("skip-chars", 's'),
      ("check-chars", 'w'), ("zero-terminated", 'z')]

/-- Takes one more option into account. -/
def follow (c : Call) (w : Wish) (o : Char × Bytes) : Routine Wish := do
  match o.1 with
  | 'c' => pure { w with counted := true }
  | 'd' => pure { w with onlyRepeated := true }
  | 'D' => pure { w with onlyRepeated := true, all := some .nowhere }
  | '\x01' =>
    let how ← if o.2.isEmpty then pure .nowhere
      else c.choice "--all-repeated" [("none", .nowhere), ("prepend", .before),
        ("separate", .between)] 1 o.2
    pure { w with onlyRepeated := true, all := some how }
  | '\x02' =>
    let how ← if o.2.isEmpty then pure .between
      else c.choice "--group" [("prepend", .before), ("append", .after), ("separate", .between),
        ("both", .around)] 1 o.2
    pure { w with grouped := some how }
  | 'f' => do
    pure { w with byDigits := false, skippedFields := ← size "invalid number of fields to skip" }
  | 's' => do pure { w with skippedBytes := ← size "invalid number of bytes to skip" }
  | 'u' => pure { w with onlySingle := true }
  | 'w' => do pure { w with width := some (← size "invalid number of bytes to compare") }
  | d =>
    if d.isDigit then
      let before := if w.byDigits then w.skippedFields else 0
      pure { w with byDigits := true, skippedFields := 10 * before + (d.toNat - '0'.toNat) }
    else pure w
where
  size (what : String) : Routine Nat :=
    match countOf "" o.2 with
    | .ok n => pure n
    | .error .malformed => c.fail (o.2 ++ ": ".toList ++ what.toList) 1
    | .error _ => pure largestInteger

/-- The names of files among the arguments; a number after a plus sign tells how many bytes are
skipped. -/
def filesOf (c : Call) (w : Wish) : List Bytes → List Bytes → Routine (Wish × List Bytes)
  | files, [] => pure (w, files)
  | files, a :: rest =>
    match (if a.head? = some '+' then (countOf "" a).toOption else none) with
    | some n => filesOf c { w with skippedBytes := n } files rest
    | none =>
      if files.length = 2 then c.misused ("extra operand ".toList ++ cited a) 1
      else filesOf c w (files ++ [a]) rest

/-- What is shown of a group of lines that are the same. -/
def shown (w : Wish) (ending : Char) (group : List Bytes) : Bytes :=
  let row (line : Bytes) : Bytes := line ++ [ending]
  if group.length = 1 then
    if w.onlyRepeated then [] else count 1 ++ row (group.headD [])
  else
    let last := if w.onlySingle then [] else [group.getLastD []]
    if w.all.isSome then (group.dropLast ++ last).flatMap row
    else if w.onlySingle then []
    else count group.length ++ row (group.headD [])
where
  count (n : Nat) : Bytes := if w.counted then aligned 7 n ++ [' '] else []

end Repetition

open Repetition in
/-- Joins lines next to each other that are the same. -/
def uniq (c : Call) : Routine Nat := do
  let (os, args) ← c.options known 1
  let w ← os.foldlM (follow c) ⟨none, none, false, false, false, 0, false, 0, none⟩
  let (w, paths) ← filesOf c w [] args
  if w.grouped.isSome && (w.onlyRepeated || w.onlySingle || w.counted) then
    c.misused "--group is mutually exclusive with -c/-d/-D/-u".toList 1
  if w.counted && w.all.isSome then
    c.misused "printing all duplicated lines and repeat counts is meaningless".toList 1
  let path := paths.headD ['-']
  let ending := endingBy os
  match ← openInput path with
  | .error f => c.fail (shownName path ++ ": ".toList ++ f.text.toList) 1
  | .ok d =>
    let target ← match paths with
      | [_, target] =>
        if target = ['-'] then pure 1
        else
          match ← Routine.ask (.openFile target .write) with
          | .ok d => pure d
          | .error f => c.fail (shownName target ++ ": ".toList ++ f.text.toList) 1
      | _ => pure 1
    match ← Routine.readAll d with
    | .error f =>
      c.fail ("error reading ".toList ++ quoted path ++ ": ".toList ++ f.text.toList) 1
    | .ok text =>
      let key (line : Bytes) : Bytes :=
        let rest := (dropFields none w.skippedFields line).drop w.skippedBytes
        let rest := match w.width with
          | some n => rest.take n
          | none => rest
        if given os 'i' then rest.map Char.toLower else rest
      let groups := (recordsOf ending text).1.splitBy fun a b => key a == key b
      let out := match w.grouped with
        | some how => apart how [ending] (groups.map fun g => g.flatMap (· ++ [ending]))
        | none =>
          apart (w.all.getD .nowhere) [ending]
            ((groups.map (shown w ending)).filter fun g => !g.isEmpty)
      if target = 1 then c.put out
      else
        let _ ← Routine.writeAll target out
      pure 0

end Scratchpad.Utility
