import Scratchpad.Text.Alphanumeric
import Scratchpad.Text.Blank

/-!
# Patterns

A directive can ask that the value of a field is a number or fits a pattern. Patterns are regular
expressions over Unicode, with groups, classes and flags. Only whether a text is a pattern matters
here: `isPattern` reads it once and keeps the flags that decide, the names of the groups and how
deep the parts are nested. The brace that ends a count ends the field as well, so a pattern holds no
counts and no properties with a long name.
-/

namespace Scratchpad.Records

open Scratchpad.Text

/-- What is left of a pattern, and what decides how it is read. -/
structure PatternSource where
  rest : List Char
  /-- Whether blanks and comments between the parts are passed over. -/
  spaced : Bool
  /-- Whether the pattern is about characters and not about bytes. -/
  unicode : Bool
  /-- The names of the groups so far. -/
  names : List (List Char)

/-- A reading that fails where the text is no pattern. -/
abbrev PatternReading := StateT PatternSource Option

/-- A part of a pattern that stands for one character or one place. -/
inductive Primitive where
  /-- A character, and whether it was written as a byte. -/
  | char (c : Char) (asByte : Bool)
  /-- A class with a name of one letter for digits, blanks or word characters. -/
  | shorthand (negated : Bool)
  /-- A class of characters with a common category. -/
  | category
  /-- The start or the end of the text. -/
  | textEdge
  /-- A place at a word, or a place that is none. -/
  | wordEdge
  deriving DecidableEq, Repr

namespace PatternReading

/-- The characters that are left. -/
def rest : PatternReading (List Char) := do pure (← get).rest

/-- Passes over a number of characters. -/
def skip (n : Nat) : PatternReading Unit := modify fun s => { s with rest := s.rest.drop n }

/-- The text after blanks and comments; a comment goes from a number sign to the end of the line. -/
def afterBlanks (fuel : Nat) (cs : List Char) : List Char :=
  match fuel, cs.dropWhile isBlank with
  | fuel + 1, '#' :: cs => afterBlanks fuel (cs.dropWhile (· != '\n'))
  | _, cs => cs

/-- Passes over blanks and comments, where they do not count. -/
def skipBlanks : PatternReading Unit :=
  modify fun s =>
    if s.spaced then { s with rest := afterBlanks s.rest.length s.rest } else s

/-- Passes over one character and the blanks after it; something has to follow. -/
def advance : PatternReading Unit := do
  skip 1
  skipBlanks
  if (← rest).isEmpty then failure

/-- The next character, if there is one, where blanks after a hyphen are looked through. -/
def peekBehindHyphen : PatternReading (Option Char) := do
  let s ← get
  let cs := s.rest.drop 1
  if s.spaced then
    let after := match cs.dropWhile isBlank with
      | '#' :: cs => cs.dropWhile isBlank
      | cs => cs
    pure (after.head?.or cs.head?)
  else pure cs.head?

/-- Whether `c` is a hexadecimal digit. -/
def isHexadecimal (c : Char) : Bool :=
  c.isDigit || ('a' ≤ c && c ≤ 'f') || ('A' ≤ c && c ≤ 'F')

/-- Reads the digits of a character that is written by its number; the letter before them is the
next character. -/
def hexadecimal (digits : Nat) : PatternReading Char := do
  let ds ← (List.range digits).mapM fun _ => do
    advance
    match (← rest).head? with
    | some d => if isHexadecimal d then pure d else failure
    | none => failure
  skip 1
  skipBlanks
  let n := ds.foldl (fun n d => 16 * n +
    (if d.isDigit then d.toNat - '0'.toNat else d.toLower.toNat - 'a'.toNat + 10)) 0
  if n.isValidChar then pure (Char.ofNat n) else failure

/-- Whether `c` stands for itself after a backslash. -/
def isEscapable (c : Char) : Bool :=
  c.toNat < 0x80 && !c.isAlphanum && c != '<' && c != '>'

/-- Reads what a backslash begins. -/
def escaped : PatternReading Primitive := do
  skip 1
  match (← rest).head? with
  | none => failure
  | some c =>
    if c = 'x' then pure (.char (← hexadecimal 2) true)
    else if c = 'u' then pure (.char (← hexadecimal 4) false)
    else if c = 'U' then pure (.char (← hexadecimal 8) false)
    else if c = 'p' || c = 'P' then do
      advance
      let letter := (← rest).headD ' '
      skip 1
      skipBlanks
      if "clmnpszCLMNPSZ".toList.contains letter then pure .category else failure
    else do
      skip 1
      if "dsw".toList.contains c then pure (.shorthand false)
      else if "DSW".toList.contains c then pure (.shorthand true)
      else if "aftnrv".toList.contains c || isEscapable c then pure (.char c false)
      else if c = 'A' || c = 'z' then pure .textEdge
      else if c = 'b' || c = 'B' || c = '<' || c = '>' then pure .wordEdge
      else failure

/-! ### Classes -/

/-- The names of the classes of ASCII characters. -/
def asciiClasses : List (List Char) :=
  ["alnum", "alpha", "ascii", "blank", "cntrl", "digit", "graph", "lower", "print", "punct",
    "space", "upper", "word", "xdigit"].map String.toList

/-- Reads a class with a name between colons, if the text goes on with one, and tells whether it is
negated. -/
def asciiClass? : PatternReading (Option Bool) := do
  match ← rest with
  | '[' :: ':' :: cs =>
    let negated := cs.head? = some '^'
    let cs := if negated then cs.drop 1 else cs
    let name := cs.takeWhile (· != ':')
    if asciiClasses.contains name && (cs.drop name.length).take 2 = [':', ']'] then
      skip ((if negated then 3 else 2) + name.length + 2)
      pure (some negated)
    else pure none
  | _ => pure none

/-- Reads one end of a range, or what stands in its place. -/
def classItem : PatternReading Primitive := do
  match ← rest with
  | '\\' :: _ => escaped
  | c :: _ =>
    skip 1
    pure (.char c false)
  | [] => failure

/-- Fails for a primitive that cannot be an item of a class. A class of bytes has no characters that
take several bytes, and only shorthands that name ASCII characters. -/
def checkItem : Primitive → PatternReading Unit
  | .char c _ => do if !(← get).unicode && 0x80 ≤ c.toNat then failure
  | .shorthand negated => do if !(← get).unicode && negated then failure
  | .category => do if !(← get).unicode then failure
  | _ => failure

/-- Reads an item of a class, which can be a range. -/
def classRange : PatternReading Unit := do
  let first ← classItem
  skipBlanks
  match (← rest).head? with
  | none => failure
  | some c =>
    let next ← peekBehindHyphen
    if c != '-' || next = some ']' || next = some '-' then checkItem first
    else
      advance
      let last ← classItem
      match first, last with
      | .char a _, .char b _ =>
        if b < a then failure
        checkItem first
        checkItem last
      | _, _ => failure

/-- The ways to join classes. -/
inductive ClassOperator where
  | intersection
  | difference
  | symmetricDifference
  deriving DecidableEq, Repr

/-- How deep a class is nested, and whether it holds the bytes that are not ASCII; it holds all of
them or none. -/
structure ClassShape where
  depth : Nat
  beyondAscii : Bool
  deriving DecidableEq, Repr

namespace ClassShape

/-- The class of some items. -/
def union (items : List ClassShape) : ClassShape :=
  match items with
  | [item] => item
  | [] => ⟨0, false⟩
  | _ => ⟨items.foldl (fun n i => max n i.depth) 0 + 1, items.any ClassShape.beyondAscii⟩

/-- A class joined with what stands before it. -/
def join (before : Option (ClassShape × ClassOperator)) (right : ClassShape) : ClassShape :=
  match before with
  | none => right
  | some (left, operator) =>
    ⟨max left.depth right.depth + 1,
      match operator with
      | .intersection => left.beyondAscii && right.beyondAscii
      | .difference => left.beyondAscii && !right.beyondAscii
      | .symmetricDifference => left.beyondAscii != right.beyondAscii⟩

end ClassShape

/-- The operator that a text begins with. -/
def classOperator? : List Char → Option ClassOperator
  | '&' :: '&' :: _ => some .intersection
  | '-' :: '-' :: _ => some .difference
  | '~' :: '~' :: _ => some .symmetricDifference
  | _ => none

/-- Reads hyphens at the front of a class, and tells how many they are. -/
def leadingHyphens (fuel : Nat) : PatternReading Nat := do
  match fuel, (← rest).head? with
  | fuel + 1, some '-' =>
    advance
    pure ((← leadingHyphens fuel) + 1)
  | _, _ => pure 0

/-- What an item with no class in it adds to a class. -/
def plainItem : ClassShape := ⟨0, false⟩

mutual

/-- Reads a class from its bracket on. -/
def bracketed (fuel : Nat) : PatternReading ClassShape := do
  match fuel with
  | 0 => failure
  | fuel + 1 =>
    advance
    let negated := (← rest).head? = some '^'
    if negated then advance
    let hyphens ← leadingHyphens (fuel + 1)
    let bracket := hyphens = 0 && (← rest).head? = some ']'
    if bracket then advance
    let shape ← classItems fuel none
      (List.replicate (hyphens + if bracket then 1 else 0) plainItem)
    let beyondAscii := shape.beyondAscii != negated
    if !(← get).unicode && beyondAscii then failure
    pure ⟨shape.depth + 1, beyondAscii⟩

/-- Reads the items of a class up to its end. -/
def classItems (fuel : Nat) (before : Option (ClassShape × ClassOperator))
    (items : List ClassShape) : PatternReading ClassShape := do
  match fuel with
  | 0 => failure
  | fuel + 1 =>
    skipBlanks
    match ← rest with
    | [] => failure
    | ']' :: _ =>
      skip 1
      pure (ClassShape.join before (.union items))
    | '[' :: _ =>
      match ← asciiClass? with
      | some negated => classItems fuel before (⟨0, negated⟩ :: items)
      | none => classItems fuel before ((← bracketed fuel) :: items)
    | cs =>
      match classOperator? cs with
      | some operator =>
        skip 2
        classItems fuel (some (ClassShape.join before (.union items), operator)) []
      | none =>
        classRange
        classItems fuel before (plainItem :: items)

end

/-! ### Groups -/

/-- Whether `c` can stand in the name of a group. -/
def isNameChar (first : Bool) (c : Char) : Bool :=
  if first then c = '_' || isAlphabetic c
  else c = '_' || c = '.' || c = '[' || c = ']' || isAlphanumeric c

/-- Reads the name of a group and the sign after it; every group has a name of its own. -/
def groupName : PatternReading Unit := do
  let s ← get
  let name := s.rest.takeWhile (· != '>')
  let wellFormed := match name with
    | c :: cs => isNameChar true c && cs.all (isNameChar false)
    | [] => false
  if !wellFormed || name.length = s.rest.length || s.names.contains name then failure
  set { s with names := name :: s.names, rest := s.rest.drop (name.length + 1) }

/-- Reads flags, where a hyphen turns the later ones off, up to the colon or the parenthesis after
them. No flag is given twice. -/
def flags (fuel : Nat) (given : List Char) : PatternReading (List Char) := do
  match fuel, ← rest with
  | fuel + 1, c :: _ =>
    if c = ':' || c = ')' then
      if given.head? = some '-' then failure
      pure given.reverse
    else if "imsUuRx-".toList.contains c && !given.contains c then
      skip 1
      flags fuel (c :: given)
    else failure
  | _, _ => failure

/-- What flags say about one of them; nothing if they do not name it. -/
def flagState? (given : List Char) (flag : Char) : Option Bool :=
  if given.contains flag then some !((given.takeWhile (· != flag)).contains '-') else none

/-- Puts flags into effect. -/
def setFlags (given : List Char) : PatternReading Unit :=
  modify fun s =>
    { s with
      spaced := (flagState? given 'x').getD s.spaced
      unicode := (flagState? given 'u').getD s.unicode }

/-- Reads what stands at the front of a group. The answer tells whether a group follows; flags can
stand alone in their parentheses. -/
def groupStart : PatternReading Bool := do
  skip 1
  skipBlanks
  match ← rest with
  | '?' :: 'P' :: '<' :: _ =>
    skip 3
    groupName
    pure true
  | '?' :: '<' :: c :: _ =>
    if c = '=' || c = '!' then failure
    skip 2
    groupName
    pure true
  | '?' :: cs =>
    skip 1
    let given ← flags (cs.length + 1) []
    let alone := (← rest).head? = some ')'
    if alone && given.isEmpty then failure
    skip 1
    setFlags given
    pure !alone
  | _ => pure true

/-! ### The whole -/

/-- How deep a sequence of parts is nested. Flags that stand alone are parts, but cannot be
repeated: they are absent values. -/
def sequenceDepth (parts : List (Option Nat)) : Nat :=
  let deepest := parts.foldl (fun n p => max n (p.getD 0)) 0
  if parts.length ≤ 1 then deepest else deepest + 1

/-- How deep alternatives are nested. -/
def choiceDepth (branches : List Nat) : Nat :=
  let deepest := branches.foldl max 0
  if branches.length ≤ 1 then deepest else deepest + 1

/-- Reads alternatives up to the parenthesis that ends them or the end of the pattern, and tells how
deep they are nested. The parts of the current one are given, the last one first. -/
def alternatives (fuel : Nat) (branches : List Nat) (parts : List (Option Nat)) :
    PatternReading Nat := do
  match fuel with
  | 0 => failure
  | fuel + 1 =>
    skipBlanks
    match ← rest with
    | [] => pure (choiceDepth (sequenceDepth parts :: branches))
    | ')' :: _ => pure (choiceDepth (sequenceDepth parts :: branches))
    | '|' :: _ =>
      skip 1
      alternatives fuel (sequenceDepth parts :: branches) []
    | '(' :: _ =>
      let outside ← get
      if ← groupStart then
        let depth ← alternatives fuel [] []
        if (← rest).head? != some ')' then failure
        skip 1
        modify fun s => { s with spaced := outside.spaced, unicode := outside.unicode }
        alternatives fuel branches (some (depth + 1) :: parts)
      else alternatives fuel branches (none :: parts)
    | '[' :: _ =>
      let shape ← bracketed fuel
      alternatives fuel branches (some shape.depth :: parts)
    | '\\' :: _ =>
      let unicode := (← get).unicode
      match ← escaped with
      | .char c asByte => if !unicode && asByte && 0x80 ≤ c.toNat then failure
      | .shorthand negated => if !unicode && negated then failure
      | .category => if !unicode then failure
      | .textEdge => pure ()
      | .wordEdge => if unicode then failure
      alternatives fuel branches (some 0 :: parts)
    | c :: cs =>
      if c = '?' || c = '*' || c = '+' then
        match parts with
        | some depth :: parts =>
          skip (if cs.head? = some '?' then 2 else 1)
          alternatives fuel branches (some (depth + 1) :: parts)
        | _ => failure
      else
        if c = '\x7b' || (c = '.' && !(← get).unicode) then failure
        skip 1
        alternatives fuel branches (some 0 :: parts)

end PatternReading

/-- How deep the parts of a pattern can be nested. -/
def deepestPattern : Nat := 250

/-- Whether a text is a pattern. The places at words that are told by Unicode are not supported. -/
def isPattern (cs : List Char) : Bool :=
  match (PatternReading.alternatives (2 * cs.length + 2) [] []).run ⟨cs, false, true, []⟩ with
  | some (depth, s) => s.rest.isEmpty && depth ≤ deepestPattern
  | none => false

/-- Whether a text is a number that has no sign: a decimal fraction, which can have a power of ten,
or one of the names for what is no finite number. -/
def isUnsignedNumber (cs : List Char) : Bool :=
  let whole := cs.takeWhile Char.isDigit
  let (fraction, power) := match cs.drop whole.length with
    | '.' :: ds => (ds.takeWhile Char.isDigit, ds.dropWhile Char.isDigit)
    | ds => ([], ds)
  let powerIsRead := match power with
    | [] => true
    | e :: ds =>
      let ds := match ds with
        | '+' :: ds => ds
        | '-' :: ds => ds
        | ds => ds
      (e = 'e' || e = 'E') && !ds.isEmpty && ds.all Char.isDigit
  (!(whole ++ fraction).isEmpty && powerIsRead) ||
    (["inf", "infinity", "nan"].map String.toList).contains (cs.map Char.toLower)

/-- Whether a text can be asked for as the value of a field. A number with a plus sign is none of
the patterns. -/
def isFieldValue (cs : List Char) : Bool :=
  isPattern cs ||
    match cs with
    | '+' :: ds => isUnsignedNumber ds
    | _ => false

end Scratchpad.Records
