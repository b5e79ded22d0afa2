import Scratchpad.Utility.Quantity

/-!
# Parts of lines

`cut` shows some of the bytes or fields of each line. Which ones is told by ranges, and a range may
have no end.
-/

namespace Scratchpad.Utility

open Scratchpad.Machine Scratchpad.Text

/-- A range of places, counted from one; it may have no end. -/
structure Range where
  first : Nat
  last : Option Nat
  deriving DecidableEq, Repr

namespace Range

/-- Whether a place is in a range. -/
def contains (r : Range) (n : Nat) : Bool := r.first ≤ n && r.last.all fun l => n ≤ l

/-- Whether a range goes on at a place. -/
def reaches (r : Range) (n : Nat) : Bool := r.last.all fun l => n ≤ l

/-- Joins a range with those behind it that have places in common with it, and goes on so; they are
ordered by their starts. -/
def joinedFrom (r : Range) : List Range → List Range
  | [] => [r]
  | s :: rest =>
    if r.reaches s.first then
      joinedFrom ⟨r.first, r.last.bind fun a => s.last.map (max a)⟩ rest
    else r :: joinedFrom s rest

/-- Joins ranges that have places in common; they are ordered by their starts. -/
def joined : List Range → List Range
  | [] => []
  | r :: rest => joinedFrom r rest

@[simp] theorem joined_singleton (r : Range) : joined [r] = [r] := rfl

/-- The ranges of the places that are in none of some ranges, from a place on. -/
def outside (start : Nat) : List Range → List Range
  | [] => [⟨start, none⟩]
  | r :: rest =>
    let before := if start < r.first then [⟨start, some (r.first - 1)⟩] else []
    match r.last with
    | none => before
    | some l => before ++ outside (l + 1) rest

/-- What messages call the places of a list. -/
structure Words where
  numbering : String
  double : String
  value : String
  large : String

/-- What messages say of places, which are fields or bytes. -/
def words (fields : Bool) : Words :=
  if fields then
    ⟨"fields are numbered from 1", "invalid field range", "invalid field value ", "field number "⟩
  else
    ⟨"byte/character positions are numbered from 1", "invalid byte or character range",
      "invalid byte/character position ", "byte/character offset "⟩

/-- The number in front of a part of a list, and what follows it; `rest` is the list from there. -/
def number (w : Words) (cs rest : Bytes) : Except Bytes (Option Nat × Bytes × Bytes) :=
  let digits := cs.takeWhile Char.isDigit
  match Bytes.toNat? digits with
  | none => .ok (none, cs, rest)
  | some n =>
    if largestCount ≤ n then
      .error (w.large.toList ++ cited digits ++ " is too large".toList)
    else .ok (some n, cs.drop digits.length, rest.drop digits.length)

/-- The range that a part of a list means; `rest` is the list from there. -/
def ofPart (w : Words) (part rest : Bytes) : Except Bytes Range := do
  let (first, more, rest) ← number w part rest
  match more with
  | [] =>
    match first with
    | none | some 0 => .error w.numbering.toList
    | some n => .ok ⟨n, some n⟩
  | '-' :: more =>
    if first = some 0 then .error w.numbering.toList
    let (last, more, rest) ← number w more (rest.drop 1)
    match more with
    | [] =>
      match first, last with
      | none, none => .error "invalid range with no endpoint: -".toList
      | a, none => .ok ⟨a.getD 1, none⟩
      | a, some b =>
        if b < a.getD 1 then .error "invalid decreasing range".toList else .ok ⟨a.getD 1, some b⟩
    | '-' :: _ => .error w.double.toList
    | _ => .error (w.value.toList ++ cited rest)
  | _ => .error (w.value.toList ++ cited rest)

/-- The ranges that parts of a list mean; each part comes with the list from there. -/
def ofParts (w : Words) : List Bytes → Bytes → Except Bytes (List Range)
  | [], _ => .ok []
  | part :: parts, rest => do
    let r ← ofPart w part rest
    .ok (r :: (← ofParts w parts (rest.drop (part.length + 1))))

/-- The ranges that a list such as `1,3-` means, in their order and joined. -/
def ofList (fields : Bool) (text : Bytes) : Except Bytes (List Range) := do
  let parts := (text.map fun c => if c = ' ' || c = '\t' then ',' else c).splitOn ','
  let ranges ← ofParts (words fields) parts text
  .ok (joined (ranges.mergeSort fun r s => r.first ≤ s.first))

end Range

/-- Shows parts of lines. -/
def cut (c : Call) : Routine Nat := do
  let (os, paths) ← c.options (.among "b:c:d:f:nsz\x01\x02:"
    [("bytes", 'b'), ("characters", 'c'), ("delimiter", 'd'), ("fields", 'f'),
      ("only-delimited", 's'), ("complement", '\x01'), ("output-delimiter", '\x02'),
      ("zero-terminated", 'z')]) 1
  let kinds ← os.foldlM (fun kinds o => do
    if o.1 = 'd' && 1 < o.2.length then
      c.misused "the delimiter must be a single character".toList 1
    else if o.1 = 'b' || o.1 = 'c' || o.1 = 'f' then
      if kinds.isEmpty then pure [o] else c.misused "only one list may be specified".toList 1
    else pure kinds) ([] : List (Char × Bytes))
  match kinds with
  | [] => c.misused "you must specify a list of bytes, characters, or fields".toList 1
  | (kind, list) :: _ =>
    let byFields := kind = 'f'
    if !byFields && (lastOf os 'd').isSome then
      c.misused "an input delimiter may be specified only when operating on fields".toList 1
    if !byFields && given os 's' then
      c.misused ("suppressing non-delimited lines makes sense\n" ++
        "\tonly when operating on fields").toList 1
    match Range.ofList byFields list with
    | .error e => c.misused e 1
    | .ok ranges =>
      let ranges := if given os '\x01' then Range.outside 1 ranges else ranges
      let ending := endingBy os
      let delimiter := ((lastOf os 'd').map fun d => d.headD '\x00').getD '\t'
      let between := (lastOf os '\x02').map fun b => if b.isEmpty then ['\x00'] else b
      let out (text : Bytes) : Bytes :=
        if !byFields then
          (recordsOf ending text).1.flatMap fun l => bytes ranges between l ++ [ending]
        else if delimiter = ending then
          let fields := (recordsOf ending text).1
          if text.isEmpty then []
          else
            row ranges (between.getD [delimiter]) (given os 's') ending
              (1 < fields.length || text.contains ending) fields text
        else
          (recordsOf ending text).1.flatMap fun l =>
            row ranges (between.getD [delimiter]) (given os 's') ending (l.contains delimiter)
              (l.splitOn delimiter) (l ++ [ending])
      each out 0 (if paths.isEmpty then [['-']] else paths)
where
  /-- The bytes of a line in ranges, with what stands between the ranges. -/
  bytes (ranges : List Range) (between : Option Bytes) (line : Bytes) : Bytes :=
    let parts := ranges.map fun r => (line.take (r.last.getD line.length)).drop (r.first - 1)
    ((parts.filter fun p => !p.isEmpty).intersperse (between.getD [])).flatten
  /-- The fields of a line in ranges; a line without delimiters is shown whole or not at all. -/
  row (ranges : List Range) (between : Bytes) (suppressing : Bool) (ending : Char)
      (delimited : Bool) (fields : List Bytes) (line : Bytes) : Bytes :=
    if !delimited then
      if suppressing then [] else if line.getLast? = some ending then line else line ++ [ending]
    else
      let chosen := fields.zipIdx.filter fun f => ranges.any fun r => r.contains (f.2 + 1)
      ((chosen.map Prod.fst).intersperse between).flatten ++ [ending]
  /-- Shows what is to be shown of each file. -/
  each (out : Bytes → Bytes) (status : Nat) : List Bytes → Routine Nat
    | [] => pure status
    | path :: paths => do
      match ← readFile path with
      | .ok text =>
        c.put (out text)
        each out status paths
      | .error f =>
        c.complainOf path f
        each out 1 paths

end Scratchpad.Utility
