import Scratchpad.Regular.Basic
import Scratchpad.Text.Split

/-!
# Reading regular expressions

Expressions are written in dialects: in basic ones, parentheses, braces and the like are operators
with a backslash before them, and in extended ones without. `Regular.ofText` reads an expression.
-/

namespace Scratchpad

open Scratchpad.Machine Scratchpad.Text

namespace Regular

/-- How expressions are written. -/
structure Dialect where
  extended : Bool
  /-- Whether an operator that has nothing before it is passed over or stands for itself, and so
  does one that is not complete. -/
  lenient : Bool
  /-- Whether a class of characters without brackets around it is taken for a mistake, and so is a
  range that ends before it starts. -/
  wary : Bool
  /-- Whether the start and the end of every line in a text are meant, not only those of the
  text. -/
  byLine : Bool
  deriving DecidableEq, Repr

namespace Dialect

/-- The dialects in which lines are searched for. -/
def searching (extended : Bool) : Dialect := ⟨extended, true, true, false⟩

/-- The dialects in which streams are edited. -/
def editing (extended byLine : Bool) : Dialect := ⟨extended, false, true, byLine⟩

/-- The dialect in which a text is compared with an expression. -/
def matching : Dialect := ⟨false, true, false, false⟩

/-- The place that the start of a line is. -/
def start (d : Dialect) : Regular := .place (if d.byLine then .lineStart else .textStart)

/-- The place that the end of a line is. -/
def ending (d : Dialect) : Regular := .place (if d.byLine then .lineEnd else .textEnd)

end Dialect

/-- Why a text is no expression. -/
inductive Flaw where
  | emptyBracket
  | openBracket
  | openGroup
  | closedGroup
  | openCount
  | badCount
  | badRange
  | badClass
  | badElement
  | lonelyClass
  | badReference
  | nothingRepeated
  | tooBig
  | trailingBackslash
  deriving DecidableEq, Repr

/-- The text of a flaw. -/
def Flaw.message : Flaw → String
  | emptyBracket => "Invalid regular expression"
  | openBracket => "Unmatched [, [^, [:, [., or [="
  | openGroup => "Unmatched ( or \\("
  | closedGroup => "Unmatched ) or \\)"
  | openCount => "Unmatched \\\x7b"
  | badCount => "Invalid content of \\\x7b\\\x7d"
  | badRange => "Invalid range end"
  | badClass => "Invalid character class name"
  | badElement => "Invalid collation character"
  | lonelyClass => "character class syntax is [[:space:]], not [:space:]"
  | badReference => "Invalid back reference"
  | nothingRepeated => "Invalid preceding regular expression"
  | tooBig => "Regular expression too big"
  | trailingBackslash => "Trailing backslash"

/-- A piece of an expression. -/
inductive Token where
  | atom (r : Regular)
  | groupStart
  | groupEnd
  | bar
  | times (least : Nat) (most : Option Nat)
  /-- An operator that has nothing to repeat and is passed over. -/
  | idle (operator : String)
  deriving Repr

/-- The characters of a class. -/
def classOf? (name : Bytes) : Option (List (Char × Char)) :=
  ([("alpha", [('A', 'Z'), ('a', 'z')]), ("digit", [('0', '9')]),
    ("alnum", [('0', '9'), ('A', 'Z'), ('a', 'z')]), ("upper", [('A', 'Z')]),
    ("lower", [('a', 'z')]), ("space", [('\t', '\r'), (' ', ' ')]),
    ("blank", [('\t', '\t'), (' ', ' ')]), ("punct", [('!', '/'), (':', '@'), ('[', '\x60'),
      ('\x7b', '~')]), ("print", [(' ', '~')]), ("graph", [('!', '~')]),
    ("cntrl", [('\x00', '\x1f'), ('\x7f', '\x7f')]),
    ("xdigit", [('0', '9'), ('A', 'F'), ('a', 'f')])].map fun c => (c.1.toList, c.2)).lookup name

/-- The characters of words. -/
def wordRanges : List (Char × Char) := [('0', '9'), ('A', 'Z'), ('_', '_'), ('a', 'z')]

/-- The white characters. -/
def spaceRanges : List (Char × Char) := [('\t', '\r'), (' ', ' ')]

/-- Cuts a text before the first place where `mark` and a bracket stand. -/
def cutMarked? (mark : Char) : Bytes → Option (Bytes × Bytes)
  | [] => none
  | [_] => none
  | c :: d :: cs =>
    if c = mark && d = ']' then some ([], cs)
    else (cutMarked? mark (d :: cs)).map fun p => (c :: p.1, p.2)

/-- Reads the end of a range, which is a character or one between marks. -/
def rangeEnd (cs : Bytes) : Except Flaw (Char × Bytes) :=
  match cs with
  | [] => .error .openBracket
  | '[' :: '.' :: rest =>
    match cutMarked? '.' rest with
    | none => .error .openBracket
    | some ([c], rest) => .ok (c, rest)
    | some _ => .error .badElement
  | c :: rest => .ok (c, rest)

/-- Reads the inside of a bracket expression up to its end. -/
def ranges (wary : Bool) (fuel : Nat) (first : Bool) (cs : Bytes) :
    Except Flaw (List (Char × Char) × Bytes) :=
  match fuel with
  | 0 => .error .openBracket
  | fuel + 1 =>
    let among (found : List (Char × Char)) (rest : Bytes) :
        Except Flaw (List (Char × Char) × Bytes) := do
      let (more, rest) ← ranges wary fuel false rest
      .ok (found ++ more, rest)
    let single (c : Char) (rest : Bytes) : Except Flaw (List (Char × Char) × Bytes) :=
      match rest with
      | '-' :: after =>
        if after.head? = some ']' then among [(c, c)] rest
        else do
          let (d, after) ← rangeEnd after
          if wary && d < c then .error .badRange else among [(c, d)] after
      | _ => among [(c, c)] rest
    match cs with
    | [] => .error .openBracket
    | '[' :: ':' :: rest =>
      match cutMarked? ':' rest with
      | none => .error .openBracket
      | some (name, rest) =>
        match classOf? name with
        | none => .error .badClass
        | some rs => among rs rest
    | '[' :: '=' :: rest =>
      match cutMarked? '=' rest with
      | none => .error .openBracket
      | some ([c], rest) => among [(c, c)] rest
      | some _ => .error .badElement
    | '[' :: '.' :: rest =>
      match cutMarked? '.' rest with
      | none => .error .openBracket
      | some ([c], rest) => single c rest
      | some _ => .error .badElement
    | ']' :: rest => if first then single ']' rest else .ok ([], rest)
    | c :: rest =>
      if c = '-' && !first && rest.head? != some ']' then .error .badRange else single c rest

/-- Whether the inside of a bracket expression looks like a class, with a colon at each end. -/
def isLonelyClass (inside : Bytes) : Bool :=
  inside.head? == some ':' && inside.getLast? == some ':' && inside.any (· != ':') &&
    !inside.contains '['

/-- Reads a bracket expression after its first bracket. -/
def bracket (d : Dialect) (cs : Bytes) : Except Flaw (Regular × Bytes) := do
  let (negated, inside) := match cs with
    | '^' :: rest => (true, rest)
    | rest => (false, rest)
  if inside.isEmpty then .error .emptyBracket
  else
    let (rs, rest) ← ranges d.wary (inside.length + 1) true inside
    if d.wary && isLonelyClass (inside.take (inside.length - rest.length - 1)) then
      .error .lonelyClass
    else .ok (.set negated rs, rest)

/-- A number in braces up to a comma or to what closes them. -/
inductive Bound where
  | absent
  | number (n : Nat)
  | wrong
  deriving DecidableEq, Repr

/-- Cuts off a number in braces; absent if nothing ends it. -/
def boundOf? (closing : Bytes) : Bytes → Option (Bytes × Bytes)
  | [] => none
  | c :: cs =>
    if c = ',' || closing.isPrefixOf (c :: cs) then some ([], c :: cs)
    else (boundOf? closing cs).map fun p => (c :: p.1, p.2)

/-- The number that a text in braces is. -/
def Bound.ofText (text : Bytes) : Bound :=
  if text.isEmpty then absent
  else
    match Bytes.toNat? text with
    | some n => number n
    | none => wrong

/-- How often something can be repeated at most, if that has a bound. -/
def mostRepeats : Nat := 32767

/-- How often something is repeated, read after the brace before it up to `closing`. The exception
tells with a flaw whether it is a count at all. -/
def count (closing : Bytes) (cs : Bytes) : Except (Flaw × Bool) (Nat × Option Nat × Bytes) :=
  match boundOf? closing cs with
  | none => .error (.openCount, false)
  | some (low, rest) =>
    let upTo (least : Nat) (most : Option Nat) (rest : Bytes) :
        Except (Flaw × Bool) (Nat × Option Nat × Bytes) :=
      if most.any fun m => m < least then .error (.badCount, true)
      else if !closing.isPrefixOf rest then .error (.badCount, true)
      else if mostRepeats < most.getD least then .error (.tooBig, true)
      else .ok (least, most, rest.drop closing.length)
    match Bound.ofText low, rest with
    | .wrong, _ => .error (.badCount, false)
    | .absent, ',' :: more | .number _, ',' :: more =>
      let least := match Bound.ofText low with
        | .number n => n
        | _ => 0
      match boundOf? closing more with
      | none => .error (.openCount, false)
      | some (high, rest) =>
        match Bound.ofText high with
        | .wrong => .error (.badCount, false)
        | .absent => upTo least none rest
        | .number m => upTo least (some m) rest
    | .absent, _ => .error (.badCount, true)
    | .number n, rest => upTo n (some n) rest

/-- What a letter after a backslash stands for in both notations. -/
def escapedAtom? (c : Char) : Option Regular :=
  match c with
  | 'w' => some (.set false wordRanges)
  | 'W' => some (.set true wordRanges)
  | 's' => some (.set false spaceRanges)
  | 'S' => some (.set true spaceRanges)
  | 'b' => some (.place .wordEdge)
  | 'B' => some (.place .inside)
  | '<' => some (.place .wordStart)
  | '>' => some (.place .wordEnd)
  | '\x60' => some (.place .textStart)
  | '\'' => some (.place .textEnd)
  | _ => none

/-- What stands before a piece of an expression. -/
inductive Front where
  /-- Nothing, or the start of a group or of an alternative. -/
  | nothing
  /-- After that only the start of a line. -/
  | lineStart
  | item
  deriving DecidableEq, Repr

/-- Reads the pieces of an expression after what stands in front of them. -/
def tokens (d : Dialect) (fuel : Nat) (front : Front) (cs : Bytes) :
    Except Flaw (List Token) :=
  match fuel with
  | 0 => .ok []
  | fuel + 1 =>
    let atStart := front != .item
    let after (t : Token) (front : Front) (rest : Bytes) : Except Flaw (List Token) := do
      .ok (t :: (← tokens d fuel front rest))
    let literal (c : Char) (rest : Bytes) : Except Flaw (List Token) :=
      after (.atom (.char c)) .item rest
    let often (least : Nat) (most : Option Nat) (c : Char) (rest : Bytes) :
        Except Flaw (List Token) :=
      if !atStart then after (.times least most) .item rest
      else if !d.extended then literal c rest
      else if d.lenient then after (.idle (String.singleton c)) .nothing rest
      else .error .nothingRepeated
    let counted (closing : Bytes) (rest : Bytes) : Except Flaw (List Token) :=
      if atStart && !d.lenient then .error .nothingRepeated
      else if atStart && !d.extended then literal '\x7b' rest
      else
        match count closing rest with
        | .ok (least, most, rest) =>
          if atStart then after (.idle "\x7b...\x7d") .nothing rest
          else after (.times least most) .item rest
        | .error (f, isCount) =>
          if d.extended && d.lenient && !isCount then literal '\x7b' rest else .error f
    match cs with
    | [] => .ok []
    | '\\' :: [] => .error .trailingBackslash
    | '\\' :: c :: rest =>
      if !d.extended && c = '(' then after .groupStart .nothing rest
      else if !d.extended && c = ')' then after .groupEnd .item rest
      else if !d.extended && c = '|' then after .bar .nothing rest
      else if !d.extended && c = '\x7b' then counted ['\\', '\x7d'] rest
      else if !d.extended && c = '+' then often 1 none c rest
      else if !d.extended && c = '?' then often 0 (some 1) c rest
      else if '1' ≤ c && c ≤ '9' then after (.atom (.same (c.toNat - '0'.toNat))) .item rest
      else
        match escapedAtom? c with
        | some r => after (.atom r) .item rest
        | none => literal c rest
    | '[' :: rest => do
      let (r, rest) ← bracket d rest
      after (.atom r) .item rest
    | '.' :: rest => after (.atom .any) .item rest
    | '*' :: rest => often 0 none '*' rest
    | '^' :: rest =>
      if d.extended || front = .nothing then after (.atom d.start) .lineStart rest
      else literal '^' rest
    | '$' :: rest =>
      let last := rest.isEmpty || ['\\', ')'].isPrefixOf rest || ['\\', '|'].isPrefixOf rest
      if d.extended || last then after (.atom d.ending) .item rest else literal '$' rest
    | c :: rest =>
      if d.extended && c = '(' then after .groupStart .nothing rest
      else if d.extended && c = ')' then after .groupEnd .item rest
      else if d.extended && c = '|' then after .bar .nothing rest
      else if d.extended && c = '+' then often 1 none c rest
      else if d.extended && c = '?' then often 0 (some 1) c rest
      else if d.extended && c = '\x7b' then counted ['\x7d'] rest
      else literal c rest

/-- An expression with the repetitions that follow it. -/
def repeats (a : Regular) : List Token → Regular × List Token
  | .times least most :: ts => repeats (.repeated a least most) ts
  | ts => (a, ts)

mutual

/-- Reads alternatives, the groups in which get numbers from `n` on; yields the next number. -/
def alternatives (d : Dialect) (fuel : Nat) (inGroup : Bool) (n : Nat) (ts : List Token) :
    Except Flaw (Regular × Nat × List Token) :=
  match fuel with
  | 0 => .ok (.nothing, n, ts)
  | fuel + 1 => do
    let (r, n, ts) ← row d fuel inGroup .nothing n ts
    match ts with
    | .bar :: ts => do
      let (s, n, ts) ← alternatives d fuel inGroup n ts
      .ok (.either r s, n, ts)
    | .groupEnd :: ts => if inGroup then .ok (r, n, ts) else .error .closedGroup
    | _ => if inGroup then .error .openGroup else .ok (r, n, ts)

/-- Reads what follows an expression that was read, up to a bar or the end of a group. -/
def row (d : Dialect) (fuel : Nat) (inGroup : Bool) (r : Regular) (n : Nat) (ts : List Token) :
    Except Flaw (Regular × Nat × List Token) :=
  match fuel with
  | 0 => .ok (r, n, ts)
  | fuel + 1 => do
    match ts with
    | .atom a :: ts =>
      let (a, ts) := repeats a ts
      match a with
      | .same m =>
        if n ≤ m then .error .badReference else row d fuel inGroup (.sequence r a) n ts
      | a => row d fuel inGroup (.sequence r a) n ts
    | .groupStart :: ts => do
      let (inner, next, ts) ← alternatives d fuel true (n + 1) ts
      let (a, ts) := repeats (.group n inner) ts
      row d fuel inGroup (.sequence r a) next ts
    | .times _ _ :: ts => row d fuel inGroup r n ts
    | .idle _ :: ts => row d fuel inGroup r n ts
    | .groupEnd :: ts =>
      if d.extended && d.lenient && !inGroup then
        let (a, ts) := repeats (.char ')') ts
        row d fuel inGroup (.sequence r a) n ts
      else .ok (r, n, .groupEnd :: ts)
    | ts => .ok (r, n, ts)

end

/-- The expression that a text is, and how many groups it has. -/
def ofText (d : Dialect) (text : Bytes) : Except Flaw (Regular × Nat) := do
  let ts ← tokens d (text.length + 1) .nothing text
  let (r, n, _) ← alternatives d (4 * ts.length + 4) false 1 ts
  .ok (r, n - 1)

/-- The operators in an expression that have nothing to repeat and are passed over. -/
def idleOperators (d : Dialect) (text : Bytes) : List String :=
  match tokens d (text.length + 1) .nothing text with
  | .ok ts => ts.filterMap fun t => match t with
    | .idle operator => some operator
    | _ => none
  | .error _ => []

end Regular

end Scratchpad
