import Scratchpad.Regular.Reading
import Scratchpad.Utility.Quantity

/-!
# Numbering lines

`nl` shows lines with their numbers. A text has pages of three sections, which begin with lines that
are marks, and each section has a rule that tells which of its lines get numbers.
-/

namespace Scratchpad.Utility

open Scratchpad.Machine Scratchpad.Text

namespace Numbering

/-- Which lines get numbers. -/
inductive Rule where
  | all
  /-- Those with something in them. -/
  | filled
  | none
  | matching (r : Regular)

/-- A section of a page. -/
inductive Section where
  | header
  | body
  | footer
  deriving DecidableEq, Repr

/-- Where a number stands in its field. -/
inductive Alignment where
  | left
  | right
  /-- With zeroes before it. -/
  | zeroes
  deriving DecidableEq, Repr

/-- How lines are numbered. -/
structure Style where
  rule : Section → Rule
  first : Int
  step : Int
  width : Nat
  separator : Bytes
  alignment : Alignment
  /-- Of so many empty lines in a row one is numbered. -/
  joined : Nat
  /-- Whether each section starts from the first number. -/
  restarts : Bool
  /-- The mark that is repeated on a line where a section begins. -/
  mark : Bytes

/-- Where numbering stands. -/
structure Standing where
  part : Section
  number : Int
  /-- How many empty lines in a row were passed over. -/
  empty : Nat

/-- The rule that a text names; absent if there is none. -/
def ruleOf? (text : Bytes) : Option (Except Regular.Flaw Rule) :=
  match text with
  | 'a' :: _ => some (.ok .all)
  | 't' :: _ => some (.ok .filled)
  | 'n' :: _ => some (.ok .none)
  | 'p' :: expression => some ((Regular.ofText .matching expression).map fun r => .matching r.1)
  | _ => none

/-- A number in its field. -/
def Style.field (s : Style) (n : Int) : Bytes :=
  let digits := Bytes.ofInt n
  let room (c : Char) : Bytes := List.replicate (s.width - digits.length) c
  match s.alignment, n with
  | .left, _ => digits ++ room ' '
  | .right, _ => room ' ' ++ digits
  | .zeroes, .ofNat _ => room '0' ++ digits
  | .zeroes, .negSucc _ => '-' :: room '0' ++ digits.drop 1

/-- The section that begins on a line. -/
def Style.sectionAt? (s : Style) (line : Bytes) : Option Section :=
  if s.mark.isEmpty then none
  else if line = s.mark ++ s.mark ++ s.mark then some .header
  else if line = s.mark ++ s.mark then some .body
  else if line = s.mark then some .footer
  else none

/-- The greatest number of a line. -/
def greatest : Int := largestInteger

/-- The text of a line, and where numbering stands then; absent if there is no number for it. -/
def Style.line? (s : Style) (k : Standing) (line : Bytes) : Option (Bytes × Standing) :=
  match s.sectionAt? line with
  | some part =>
    some (['\n'], { k with part, number := if s.restarts then s.first else k.number })
  | none =>
    let plain := List.replicate (s.width + s.separator.length) ' ' ++ line ++ ['\n']
    let empty := k.empty + if line.isEmpty then 1 else 0
    let (numbered, empty) := match s.rule k.part with
      | .all =>
        if s.joined ≤ 1 then (true, 0)
        else if !line.isEmpty || empty = s.joined then (true, 0)
        else (false, empty)
      | .filled => (!line.isEmpty, k.empty)
      | .none => (false, k.empty)
      | .matching r => ((r.search? false line).isSome, k.empty)
    if !numbered then some (plain, { k with empty })
    else if greatest < k.number || k.number < -greatest - 1 then none
    else
      some (s.field k.number ++ s.separator ++ line ++ ['\n'],
        { k with number := k.number + s.step, empty })

/-- The text of some lines, and where numbering stands then; absent if there is no number for the
line that follows the text. -/
def Style.lines (s : Style) (k : Standing) : List Bytes → List Bytes × Option Standing
  | [] => ([], some k)
  | line :: rest =>
    match s.line? k line with
    | none => ([], none)
    | some (text, k) =>
      let (more, k) := s.lines k rest
      (text :: more, k)

@[simp] theorem Style.lines_nil (s : Style) (k : Standing) : s.lines k [] = ([], some k) := rfl

/-- The options of `nl`. -/
def options : Options :=
  .among "b:d:f:h:i:l:n:ps:v:w:"
    [("header-numbering", 'h'), ("body-numbering", 'b'), ("footer-numbering", 'f'),
      ("starting-line-number", 'v'), ("line-increment", 'i'), ("no-renumber", 'p'),
      ("join-blank-lines", 'l'), ("number-separator", 's'), ("number-width", 'w'),
      ("number-format", 'n'), ("section-delimiter", 'd')]

/-- The style after one more option, and whether all is right so far. -/
def Style.with (c : Call) (s : Style × Bool) (o : Char × Bytes) : Routine (Style × Bool) := do
  let integer (what : String) (low : Int) (high : Int) : Routine Int :=
    c.integer ("invalid " ++ what) "" low high 1 o.2
  let wrong (what : String) : Routine (Style × Bool) := do
    c.complain ("invalid ".toList ++ what.toList ++ ": ".toList ++ cited o.2)
    pure (s.1, false)
  let ruled (part : Section) (name : String) : Routine (Style × Bool) :=
    match ruleOf? o.2 with
    | some (.ok r) =>
      pure ({ s.1 with rule := fun p => if p = part then r else s.1.rule p }, s.2)
    | some (.error f) => c.fail f.message.toList 1
    | none => wrong (name ++ " numbering style")
  let aligned (a : Alignment) : Routine (Style × Bool) := pure ({ s.1 with alignment := a }, s.2)
  match o.1 with
  | 'h' => ruled .header "header"
  | 'b' => ruled .body "body"
  | 'f' => ruled .footer "footer"
  | 'v' => do
    let n ← integer "starting line number" (-greatest - 1) greatest
    pure ({ s.1 with first := n }, s.2)
  | 'i' => do
    let n ← integer "line number increment" (-greatest - 1) greatest
    pure ({ s.1 with step := n }, s.2)
  | 'p' => pure ({ s.1 with restarts := false }, s.2)
  | 'l' => do
    let n ← integer "line number of blank lines" 1 greatest
    pure ({ s.1 with joined := n.toNat }, s.2)
  | 's' => pure ({ s.1 with separator := o.2 }, s.2)
  | 'w' => do
    let n ← integer "line number field width" 1 2147483647
    pure ({ s.1 with width := n.toNat }, s.2)
  | 'n' =>
    match String.ofList o.2 with
    | "ln" => aligned .left
    | "rn" => aligned .right
    | "rz" => aligned .zeroes
    | _ => wrong "line numbering format"
  | _ => pure ({ s.1 with mark := if o.2.length = 1 then o.2 ++ [':'] else o.2 }, s.2)

/-- The usual style. -/
def usual : Style :=
  { rule := fun p => if p = .body then .filled else .none
    first := 1, step := 1, width := 6, separator := ['\t'], alignment := .right, joined := 1
    restarts := true, mark := ['\\', ':'] }

/-- Shows files with numbers. -/
def files (c : Call) (s : Style) (k : Standing) (status : Nat) : List Bytes → Routine Nat
  | [] => pure status
  | path :: paths => do
    match ← readFile path with
    | .error f =>
      c.complainOf path f
      files c s k 1 paths
    | .ok text =>
      let (out, k) := s.lines k (linesOf text).1
      c.put out.flatten
      match k with
      | some k => files c s k status paths
      | none => c.fail "line number overflow".toList 1

end Numbering

/-- Shows lines with their numbers. -/
def nl (c : Call) : Routine Nat := do
  let (os, paths) ← c.options Numbering.options 1
  let (s, fine) ← os.foldlM (Numbering.Style.with c) (Numbering.usual, true)
  if !fine then c.refuse 1
  else Numbering.files c s ⟨.body, s.first, 0⟩ 0 (if paths.isEmpty then [['-']] else paths)

end Scratchpad.Utility
