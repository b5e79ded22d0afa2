import Scratchpad.Utility.Key
import Scratchpad.Utility.Quantity

/-!
# Ordering lines

`sort` orders the lines of files by keys in them or as a whole, puts together files that are in
order, and tells whether a file is.
-/

namespace Scratchpad.Utility

open Scratchpad.Machine Scratchpad.Text

/-- An order of lines. -/
structure LineOrder where
  keys : List Key
  separator : Option Char
  /-- Whether lines with the same keys are compared the other way round. -/
  backwards : Bool
  /-- Whether lines with the same keys are left in their order. -/
  stable : Bool
  deriving DecidableEq, Repr

namespace LineOrder

/-- Compares two lines by their keys. -/
def compareKeys (o : LineOrder) (a b : Bytes) : Ordering :=
  o.keys.foldl (fun r k => r.then (k.comparison.between (k.of o.separator a) (k.of o.separator b)))
    .eq

/-- Compares two lines: if their keys are the same, by all their bytes. -/
def compare (o : LineOrder) (a b : Bytes) : Ordering :=
  match o.compareKeys a b with
  | .eq =>
    if o.stable && !o.keys.isEmpty then .eq
    else
      let r := Comparison.compareBytes a b
      if o.backwards then r.swap else r
  | r => r

/-- Which of several lines comes first, by its place; the earlier one of those that are the same. -/
def first (o : LineOrder) : Nat → List (List Bytes) → Option (Nat × Bytes)
  | _, [] => none
  | n, [] :: columns => o.first (n + 1) columns
  | n, (a :: _) :: columns =>
    match o.first (n + 1) columns with
    | some (m, b) => if o.compare a b = .gt then some (m, b) else some (n, a)
    | none => some (n, a)

/-- Puts files together: the line that comes first is taken again and again. -/
def merge (o : LineOrder) : (fuel : Nat) → List (List Bytes) → List Bytes
  | 0, _ => []
  | fuel + 1, columns =>
    match o.first 0 columns with
    | none => []
    | some (n, a) => a :: o.merge fuel (columns.modify n List.tail)

@[simp] theorem merge_nil (o : LineOrder) (fuel : Nat) : o.merge fuel [] = [] := by
  cases fuel <;> simp [merge, first]

end LineOrder

/-- The lines without those that are the same as the one before. -/
def withoutRepeats (same : Bytes → Bytes → Bool) : List Bytes → List Bytes
  | [] => []
  | [a] => [a]
  | a :: b :: rest =>
    if same a b then withoutRepeats same (a :: rest) else a :: withoutRepeats same (b :: rest)
termination_by ls => ls.length

/-- The first line that stands after one that should follow it, with its number. -/
def disorder? (wrong : Bytes → Bytes → Bool) (n : Nat) : List Bytes → Option (Nat × Bytes)
  | a :: b :: rest => if wrong a b then some (n + 1, b) else disorder? wrong (n + 1) (b :: rest)
  | _ => none

namespace Sorting

/-- What `sort` was asked to do. -/
structure Wish where
  /-- What holds for keys that say nothing of their own, and whether blanks in front do not count
  there. -/
  general : Comparison
  skipping : Bool
  keys : List Key
  separator : Option Char
  /-- The letter of the option that asks only whether a file is in order. -/
  checking : Option Char
  target : Option Bytes

/-- The options of `sort`. -/
def known : Options :=
  .among "bdfghiMnRrVcCk:mo:sS:t:T:uy:z\x01::\x02:\x03:\x04:"
    [("ignore-leading-blanks", 'b'), ("dictionary-order", 'd'), ("ignore-case", 'f'),
      ("general-numeric-sort", 'g'), ("human-numeric-sort", 'h'), ("ignore-nonprinting", 'i'),
      ("month-sort", 'M'), ("numeric-sort", 'n'), ("random-sort", 'R'), ("reverse", 'r'),
      ("version-sort", 'V'), ("check", '\x01'), ("key", 'k'), ("merge", 'm'), ("output", 'o'),
      ("stable", 's'), ("buffer-size", 'S'), ("field-separator", 't'),
      ("temporary-directory", 'T'), ("unique", 'u'), ("zero-terminated", 'z'), ("sort", '\x02'),
      ("parallel", '\x03'), ("random-source", '\x04'), ("compress-program", '\x04'),
      ("batch-size", '\x04')]

/-- Ends because of options that exclude each other. -/
def incompatible {α : Type} (c : Call) (letters : Bytes) : Routine α :=
  c.fail ("options '-".toList ++ letters ++ "' are incompatible".toList) 2

/-- Takes one more option into account. -/
def follow (c : Call) (w : Wish) (o : Char × Bytes) : Routine Wish := do
  match o.1 with
  | 'b' => pure { w with skipping := true }
  | 'c' => check 'c'
  | 'C' => check 'C'
  | '\x01' =>
    if o.2.isEmpty then check 'c'
    else
      check (← c.choice "--check" [("quiet", 'C'), ("silent", 'C'), ("diagnose-first", 'c')] 1 o.2)
  | '\x02' =>
    let way ← c.choice "--sort" [("general-numeric", Way.general), ("human-numeric", .sized),
      ("month", .month), ("numeric", .numeric), ("random", .shuffled), ("version", .version)] 1 o.2
    pure { w with general := way :: w.general }
  | '\x03' =>
    let n ← c.count "invalid --parallel argument" "" 0 2 o.2
    if n = 0 then c.fail "number in parallel must be nonzero".toList 2 else pure w
  | 'k' =>
    match Key.ofText o.2 with
    | .ok k => pure { w with keys := w.keys ++ [k] }
    | .error e => c.fail e 2
  | 'o' =>
    if w.target.any (· != o.2) then c.fail "multiple output files specified".toList 2
    else pure { w with target := some o.2 }
  | 'S' =>
    if (o.2.head?).any Char.isDigit then pure w
    else c.fail ("invalid -S argument ".toList ++ cited o.2) 2
  | 't' =>
    let separator ← match o.2 with
      | [s] => pure s
      | ['\\', '0'] => pure '\x00'
      | [] => c.fail "empty tab".toList 2
      | t => c.fail ("multi-character tab ".toList ++ cited t) 2
    if w.separator.any (· != separator) then c.fail "incompatible tabs".toList 2
    else pure { w with separator := some separator }
  | letter =>
    match Way.lettered.lookup letter with
    | some way => pure { w with general := way :: w.general }
    | none => pure w
where
  check (letter : Char) : Routine Wish :=
    if w.checking.any (· != letter) then incompatible c "cC".toList
    else pure { w with checking := some letter }

/-- The keys of a wish: those that say nothing of their own do as is said in general, and if there
are none, the whole line is one if something is said in general. -/
def Wish.allKeys (w : Wish) : List Key :=
  if w.keys.isEmpty then
    if w.general.isPlain && !w.skipping then [] else [.whole w.skipping w.general]
  else
    w.keys.map fun k =>
      if k.isPlain then
        { k with skipsAtStart := w.skipping, skipsAtEnd := w.skipping, comparison := w.general }
      else k

/-- The texts of files. -/
def texts (c : Call) : List Bytes → Routine (List Bytes)
  | [] => pure []
  | path :: paths => do
    match ← openInput path with
    | .error f =>
      c.fail ("open failed: ".toList ++ shownName path ++ ": ".toList ++ f.text.toList) 2
    | .ok d =>
      match ← Routine.readAll d with
      | .error f =>
        c.fail ("read failed: ".toList ++ shownName path ++ ": ".toList ++ f.text.toList) 2
      | .ok text =>
        closeInput d
        pure (text :: (← texts c paths))

/-- Ends if a file cannot be opened. -/
def verify (c : Call) : List Bytes → Routine Unit
  | [] => pure ()
  | path :: paths => do
    match ← openInput path with
    | .error f =>
      c.fail ("cannot read: ".toList ++ shownName path ++ ": ".toList ++ f.text.toList) 2
    | .ok d =>
      closeInput d
      verify c paths

end Sorting

open Sorting in
/-- Orders lines. -/
def sort (c : Call) : Routine Nat := do
  let (os, paths) ← c.options known 2
  let w ← os.foldlM (follow c) ⟨[], false, [], none, none, none⟩
  let keys := w.allKeys
  match keys.findSome? fun k => k.comparison.conflict? with
  | some letters => incompatible c letters
  | none => pure ()
  let unique := given os 'u'
  let order : LineOrder :=
    ⟨keys, w.separator, w.general.contains .backwards, unique || given os 's'⟩
  let paths := if paths.isEmpty then [['-']] else paths
  let ending := endingBy os
  match w.checking with
  | some letter =>
    if 1 < paths.length then
      c.fail ("extra operand ".toList ++ quoted (paths.getD 1 []) ++ " not allowed with -".toList ++
        [letter]) 2
    if w.target.isSome then incompatible c [letter, 'o']
    let lines := (← texts c paths).flatMap fun t => (recordsOf ending t).1
    let wrong (a b : Bytes) : Bool :=
      let r := order.compare a b
      r == .gt || (unique && r == .eq)
    match disorder? wrong 1 lines with
    | none => pure 0
    | some (n, line) =>
      if letter = 'c' then
        let _ ← Routine.writeAll 2 (c.name ++ ": ".toList ++ paths.headD [] ++ ':' ::
          Bytes.ofNat n ++ ": disorder: ".toList ++ line ++ [ending])
      pure 1
  | none =>
    verify c (paths.filter (· != ['-']))
    let target ← match w.target with
      | none => pure none
      | some path =>
        match ← Routine.ask (.openFile path .append) with
        | .ok d =>
          closeInput d
          pure (some path)
        | .error f =>
          c.fail ("open failed: ".toList ++ shownName path ++ ": ".toList ++ f.text.toList) 2
    let columns := (← texts c paths).map fun t => (recordsOf ending t).1
    let sorted :=
      if given os 'm' then order.merge ((columns.map List.length).foldr (· + ·) 0) columns
      else columns.flatten.mergeSort fun a b => order.compare a b != .gt
    let kept :=
      if unique then withoutRepeats (fun a b => order.compare a b == .eq) sorted else sorted
    let out := kept.flatMap (· ++ [ending])
    match target with
    | none => c.put out
    | some path =>
      match ← Routine.ask (.openFile path .write) with
      | .ok d =>
        let _ ← Routine.writeAll d out
      | .error f =>
        c.fail ("open failed: ".toList ++ shownName path ++ ": ".toList ++ f.text.toList) 2
    pure 0

end Scratchpad.Utility
