import Scratchpad.Regular.Reading
import Scratchpad.Text.Split
import Scratchpad.Utility.Words

/-!
# Scripts that edit streams

The commands of a script for `sed`, and how they are read. A script is a flat list of commands, in
which the start of a block knows the place behind its end.
-/

namespace Scratchpad.Utility

open Scratchpad.Machine Scratchpad.Text

namespace Stream

/-- Where a command applies. -/
inductive Address where
  | line (n : Nat)
  | last
  /-- Every so many lines from a line on. -/
  | every (first step : Nat)
  /-- The lines that match; without an expression, the one that was used last. -/
  | matching (r : Option Regular) (folded : Bool)

/-- Where a range ends. -/
inductive Until where
  | address (a : Address)
  | after (lines : Nat)
  /-- At the next line whose number is a multiple. -/
  | multiple (n : Nat)

/-- The lines to which a command applies. -/
structure Selection where
  first : Option Address
  last : Option Until
  negated : Bool

/-- How the case of letters is changed. -/
inductive Case where
  | upper
  | lower
  | unchanged
  deriving DecidableEq, Repr

/-- A piece of what is put in the place of a match. -/
inductive Piece where
  | text (cs : Bytes)
  /-- What a group matched; the whole match if the number is zero. -/
  | group (n : Nat)
  | casing (c : Case)
  /-- The case of the next letter only. -/
  | nextCase (c : Case)
  deriving DecidableEq, Repr

/-- What is put in the place of matches. -/
structure Substitution where
  pattern : Option Regular
  folded : Bool
  pieces : List Piece
  /-- The first match that is replaced. -/
  firstMatch : Nat
  /-- Whether all matches after that are replaced too. -/
  every : Bool
  printed : Bool
  /-- Whether places in lines are meant for every line of the text. -/
  byLine : Bool
  /-- Whether the line is a command of the shell then, whose output takes its place. -/
  executed : Bool
  file : Option Bytes

/-- What a command does. -/
inductive Deed where
  /-- Starts a block; the commands in it are passed over where it does not apply. -/
  | block (behind : Nat)
  | blockEnd
  | label (name : Bytes)
  | append (text : Bytes)
  | insert (text : Bytes)
  | change (text : Bytes)
  | jump (name : Bytes)
  | jumpIfChanged (name : Bytes)
  | jumpUnlessChanged (name : Bytes)
  | delete
  | deleteLine
  | empty
  | store
  | storeMore
  | fetch
  | fetchMore
  | exchange
  | next
  | nextMore
  | print
  | printLine
  | number
  /-- Shows the line with escapes, cut to a width. -/
  | list (width : Option Nat)
  | name
  /-- Runs a command of the shell; if it is empty, the line is the command, and its output takes the
  place of the line. -/
  | execute (command : Bytes)
  | quit (status : Nat)
  | quitSilently (status : Nat)
  | read (path : Bytes)
  /-- Reads the next line of a file. -/
  | readLine (path : Bytes)
  | write (path : Bytes)
  /-- Writes the first line. -/
  | writeFirst (path : Bytes)
  | substitute (s : Substitution)
  | replace (pairs : List (Char × Char))

/-- A command. -/
structure Command where
  selection : Selection
  deed : Deed

/-- What is left of a script, how much was read, and the places of the blocks that are open. -/
structure Source where
  rest : Bytes
  position : Nat
  openBlocks : List Nat
  commands : List Command

/-- Reading a script; the exception is why it is wrong, and where if that can be told. -/
abbrev Reading := StateT Source (Except (Option Nat × Bytes))

/-- Fails at the place where reading stands. -/
def fail {α : Type} (why : String) : Reading α := do throw (some (← get).position, why.toList)

/-- The next character, which is not taken. -/
def peek : Reading (Option Char) := do pure (← get).rest.head?

/-- Passes over so many characters. -/
def skip (n : Nat) : Reading Unit :=
  modify fun s => { s with rest := s.rest.drop n, position := s.position + min n s.rest.length }

/-- Takes the characters at the front that fit. -/
def takeWhile (p : Char → Bool) : Reading Bytes := do
  let cs := (← get).rest.takeWhile p
  skip cs.length
  pure cs

/-- Whether a character is a blank. -/
def isBlank (c : Char) : Bool := c == ' ' || c == '\t'

/-- The bracket expression at the front of a text, if there is a whole one. -/
def bracketed (cs : Bytes) : Bytes :=
  match cs with
  | '[' :: rest =>
    let start := if rest.head? = some '^' then 1 else 0
    let start := if (rest.drop start).head? = some ']' then start + 1 else start
    match cutAt? ']' (rest.drop start) with
    | some (inner, _) => if inner.contains '\n' then [] else cs.take (start + inner.length + 2)
    | none => []
  | _ => []

/-- Takes a text up to a delimiter, which is passed over. A backslash before the delimiter goes;
other escapes stay, but `asPattern` a line end has to be one of them, and the delimiter may stand in
brackets. -/
def delimited? (asPattern : Bool) (delimiter : Char) : (fuel : Nat) → Reading (Option Bytes)
  | 0 => pure none
  | fuel + 1 => do
    match (← get).rest with
    | [] => pure none
    | '\\' :: c :: _ =>
      skip 2
      let here := if c = delimiter then [c] else if asPattern && c = 'n' then ['\n'] else ['\\', c]
      pure ((← delimited? asPattern delimiter fuel).map fun more => here ++ more)
    | c :: cs =>
      let element := if asPattern && c = '[' && c != delimiter then bracketed (c :: cs) else []
      if asPattern && c = '\n' then pure none
      else if !element.isEmpty then
        skip element.length
        pure ((← delimited? asPattern delimiter fuel).map fun more => element ++ more)
      else
        skip 1
        if asPattern && c = '[' && c != delimiter then
          skip (cs.takeWhile (· != '\n')).length
          pure none
        else if c = delimiter then pure (some [])
        else pure ((← delimited? asPattern delimiter fuel).map fun more => c :: more)

/-- How much fuel reading a script takes. -/
def fuel : Reading Nat := do pure ((← get).rest.length + 1)

/-- The control character that a letter after a backslash stands for. -/
def control? (c : Char) : Option Char :=
  match c with
  | 'a' => some '\x07'
  | 'f' => some '\x0c'
  | 'n' => some '\n'
  | 'r' => some '\r'
  | 't' => some '\t'
  | 'v' => some '\x0b'
  | _ => none

/-- A pattern with the control characters that are escaped in it. -/
def withControls : Bytes → Bytes
  | '\\' :: 'x' :: a :: b :: cs =>
    if isHex a && isHex b then Char.ofNat (16 * hexValue a + hexValue b) :: withControls cs
    else '\\' :: 'x' :: a :: b :: withControls cs
  | '\\' :: c :: cs =>
    match control? c with
    | some d => d :: withControls cs
    | none => '\\' :: c :: withControls cs
  | c :: cs => c :: withControls cs
  | [] => []

/-- The expression that a text is, and the number of its groups; an empty text is none. -/
def expression (d : Regular.Dialect) (text : Bytes) : Reading (Option Regular × Nat) := do
  if text.isEmpty then pure (none, 0)
  else
    match Regular.ofText d (withControls text) with
    | .ok (r, groups) => pure (some r, groups)
    | .error .lonelyClass => throw (none, Regular.Flaw.lonelyClass.message.toList)
    | .error f => fail f.message

/-- A number at the front. -/
def number? : Reading (Option Nat) := do pure (Bytes.toNat? (← takeWhile Char.isDigit))

/-- The address at the front. -/
def address? (extended : Bool) : Reading (Option Address) := do
  match (← get).rest with
  | '$' :: _ =>
    skip 1
    pure (some .last)
  | '/' :: _ =>
    skip 1
    matching '/'
  | '\\' :: c :: _ =>
    skip 2
    matching c
  | c :: _ =>
    if !c.isDigit then pure none
    else
      let n := (← number?).getD 0
      if (← peek) = some '~' then
        skip 1
        let step := (← number?).getD 0
        pure (some (if step = 0 then .line n else .every n step))
      else pure (some (.line n))
  | [] => pure none
where
  matching (delimiter : Char) : Reading (Option Address) := do
    match ← delimited? true delimiter (← fuel) with
    | none => fail "unterminated address regex"
    | some text =>
      let flags ← takeWhile fun c => c == 'I' || c == 'M'
      let (r, _) ← expression (.editing extended (flags.contains 'M')) text
      pure (some (.matching r (flags.contains 'I')))

/-- The end of a range at the front. -/
def until? (extended : Bool) : Reading (Option Until) := do
  match (← get).rest with
  | '+' :: _ =>
    skip 1
    pure (some (.after ((← number?).getD 0)))
  | '~' :: _ =>
    skip 1
    pure (some (.multiple ((← number?).getD 0)))
  | _ => do pure ((← address? extended).map .address)

/-- Passes over the end of a command. -/
def endOfCommand : Reading Unit := do
  let _ ← takeWhile isBlank
  match ← peek with
  | none => pure ()
  | some '\n' => skip 1
  | some ';' => skip 1
  | some '\x7d' => pure ()
  | some '#' => pure ()
  | some _ =>
    skip 1
    fail "extra characters after command"

/-- The rest of the line, which is passed over. -/
def restOfLine : Reading Bytes := do
  let text ← takeWhile (· != '\n')
  skip 1
  pure text

/-- The name of a file. -/
def fileName : Reading Bytes := do
  let _ ← takeWhile isBlank
  match ← restOfLine with
  | [] => fail "missing filename in r/R/w/W commands"
  | path => pure path

/-- The name of a label to which a command jumps. -/
def target : Reading Bytes := do
  let _ ← takeWhile isBlank
  let name ← takeWhile fun c => !isBlank c && c != '\n' && c != ';' && c != '\x7d'
  endOfCommand
  pure name

/-- The lines of a text up to one that does not end with a backslash. -/
def textLines : (fuel : Nat) → Reading Bytes
  | 0 => pure []
  | fuel + 1 => do
    match (← get).rest with
    | [] => pure []
    | '\n' :: _ =>
      skip 1
      pure []
    | '\\' :: c :: _ =>
      skip 2
      pure ((control? c).getD c :: (← textLines fuel))
    | c :: _ =>
      skip 1
      pure (c :: (← textLines fuel))

/-- The text of a command that adds lines. -/
def addedText : Reading Bytes := do
  let _ ← takeWhile isBlank
  match (← get).rest with
  | [] => fail "expected \\ after \x60a', \x60c' or \x60i'"
  | '\\' :: rest =>
    skip 1
    let blanks := rest.takeWhile isBlank
    if (rest.drop blanks.length).head? = some '\n' then skip (blanks.length + 1)
    if (← peek).isNone then pure []
    else do pure ((← textLines (← fuel)) ++ ['\n'])
  | _ => do pure ((← textLines (← fuel)) ++ ['\n'])

/-- The piece that a character after a backslash stands for. -/
def escapedPiece (c : Char) : Piece :=
  match c with
  | 'U' => .casing .upper
  | 'L' => .casing .lower
  | 'E' => .casing .unchanged
  | 'u' => .nextCase .upper
  | 'l' => .nextCase .lower
  | c => if c.isDigit then .group (c.toNat - '0'.toNat) else .text [(control? c).getD c]

/-- The pieces of a replacement. -/
def pieces : Bytes → List Piece
  | '\\' :: 'x' :: a :: b :: cs =>
    if isHex a && isHex b then .text [Char.ofNat (16 * hexValue a + hexValue b)] :: pieces cs
    else .text ['x'] :: pieces (a :: b :: cs)
  | '\\' :: c :: cs => escapedPiece c :: pieces cs
  | '&' :: cs => .group 0 :: pieces cs
  | c :: cs => .text [c] :: pieces cs
  | [] => []

/-- Reads the flags of a substitution. -/
def flags (s : Substitution) : (fuel : Nat) → Reading Substitution
  | 0 => pure s
  | fuel + 1 => do
    match ← peek with
    | none => pure s
    | some '\n' =>
      skip 1
      pure s
    | some ';' =>
      skip 1
      pure s
    | some '\x7d' => pure s
    | some '#' => pure s
    | some c =>
      if c.isDigit then
        let n := (← number?).getD 0
        if n = 0 then fail "number option to \x60s' command may not be zero"
        else flags { s with firstMatch := n } fuel
      else
        skip 1
        match c with
        | 'g' =>
          if s.every then fail "multiple \x60g' options to \x60s' command"
          else flags { s with every := true } fuel
        | 'p' =>
          if s.printed then fail "multiple \x60p' options to \x60s' command"
          else flags { s with printed := true } fuel
        | 'i' => flags { s with folded := true } fuel
        | 'I' => flags { s with folded := true } fuel
        | 'm' => flags { s with byLine := true } fuel
        | 'M' => flags { s with byLine := true } fuel
        | 'e' => flags { s with executed := true } fuel
        | ' ' => flags s fuel
        | 'w' => do pure { s with file := some (← fileName) }
        | _ => fail "unknown option to \x60s'"

/-- Reads a substitution after its letter. -/
def substitution (extended : Bool) : Reading Substitution := do
  match ← peek with
  | none => fail "unterminated \x60s' command"
  | some delimiter =>
    skip 1
    match ← delimited? true delimiter (← fuel) with
    | none => fail "unterminated \x60s' command"
    | some pattern =>
      match ← delimited? false delimiter (← fuel) with
      | none => fail "unterminated \x60s' command"
      | some replacement =>
        let ps := pieces replacement
        let s ← flags ⟨none, false, ps, 1, false, false, false, false, none⟩ (← fuel)
        let (r, groups) ← expression (.editing extended s.byLine) pattern
        let unknown := ps.findSome? fun p => match p with
          | .group n => if groups < n && r.isSome then some n else none
          | _ => none
        match unknown with
        | some n => fail s!"invalid reference \\{n} on \x60s' command's RHS"
        | none => pure { s with pattern := r }

/-- A text whose escapes are resolved. -/
def plainText : Bytes → Bytes
  | '\\' :: c :: cs => (control? c).getD c :: plainText cs
  | c :: cs => c :: plainText cs
  | [] => []

/-- Reads which characters are put in the place of which others. -/
def replacements : Reading (List (Char × Char)) := do
  match ← peek with
  | none => fail "unterminated \x60y' command"
  | some delimiter =>
    skip 1
    match ← delimited? false delimiter (← fuel) with
    | none => fail "unterminated \x60y' command"
    | some these =>
      match ← delimited? false delimiter (← fuel) with
      | none => fail "unterminated \x60y' command"
      | some those =>
        let these := plainText these
        let those := plainText those
        if these.length ≠ those.length then
          fail "strings for \x60y' command are different lengths"
        else
          endOfCommand
          pure (these.zip those)

/-- Reads the lines to which a command applies. -/
def selection (extended : Bool) : Reading Selection := do
  let first ← address? extended
  let last ← match first with
    | none => pure none
    | some _ =>
      let _ ← takeWhile isBlank
      if (← peek) = some ',' then
        skip 1
        let _ ← takeWhile isBlank
        match ← until? extended with
        | some u => pure (some u)
        | none =>
          skip 1
          fail "unexpected \x60,'"
      else pure none
  let startsBefore := match first, last with
    | some (.line 0), some (.address (.matching _ _)) => false
    | some (.line 0), _ => true
    | _, _ => false
  if startsBefore then
    skip 1
    fail "invalid usage of line address 0"
  else
    let _ ← takeWhile isBlank
    let negated := (← peek) = some '!'
    if negated then skip 1
    let _ ← takeWhile isBlank
    if negated && (← peek) = some '!' then
      skip 1
      fail "multiple \x60!'s"
    else pure ⟨first, last, negated⟩

/-- Reads what a command does, by its letter. -/
def deed (extended : Bool) (letter : Char) (addressed : Bool) : Reading Deed := do
  let simple (d : Deed) : Reading Deed := do
    endOfCommand
    pure d
  let argument : Reading (Option Nat) := do
    let _ ← takeWhile isBlank
    let n ← number?
    endOfCommand
    pure n
  match letter with
  | ':' =>
    if addressed then fail ": doesn't want any addresses"
    else
      let _ ← takeWhile isBlank
      match ← takeWhile fun c => !isBlank c && c != '\n' && c != ';' with
      | [] => fail "\":\" lacks a label"
      | name => simple (.label name)
  | 'a' => do pure (.append (← addedText))
  | 'i' => do pure (.insert (← addedText))
  | 'c' => do pure (.change (← addedText))
  | 'b' => do pure (.jump (← target))
  | 't' => do pure (.jumpIfChanged (← target))
  | 'T' => do pure (.jumpUnlessChanged (← target))
  | 'd' => simple .delete
  | 'D' => simple .deleteLine
  | 'z' => simple .empty
  | 'h' => simple .store
  | 'H' => simple .storeMore
  | 'g' => simple .fetch
  | 'G' => simple .fetchMore
  | 'x' => simple .exchange
  | 'n' => simple .next
  | 'N' => simple .nextMore
  | 'p' => simple .print
  | 'P' => simple .printLine
  | '=' => simple .number
  | 'l' => do pure (.list (← argument))
  | 'F' => simple .name
  | 'e' =>
    let _ ← takeWhile isBlank
    pure (.execute (← restOfLine))
  | 'q' => do pure (.quit ((← argument).getD 0))
  | 'Q' => do pure (.quitSilently ((← argument).getD 0))
  | 'r' => do pure (.read (← fileName))
  | 'R' => do pure (.readLine (← fileName))
  | 'w' => do pure (.write (← fileName))
  | 'W' => do pure (.writeFirst (← fileName))
  | 's' => do pure (.substitute (← substitution extended))
  | 'y' => do pure (.replace (← replacements))
  | c => fail ("unknown command: \x60" ++ String.singleton c ++ "'")

/-- Adds a command to those that were read. -/
def add (c : Command) : Reading Unit := modify fun s => { s with commands := s.commands ++ [c] }

/-- Reads commands up to the end of the script. -/
def commands (extended : Bool) : (fuel : Nat) → Reading Unit
  | 0 => pure ()
  | fuel + 1 => do
    let _ ← takeWhile fun c => isBlank c || c == ';' || c == '\n'
    match ← peek with
    | none =>
      if !(← get).openBlocks.isEmpty then throw (some 0, "unmatched \x60\x7b'".toList)
    | some '#' =>
      let _ ← restOfLine
      commands extended fuel
    | some _ =>
      let sel ← selection extended
      match ← peek with
      | none => fail "missing command"
      | some letter =>
        skip 1
        if letter = '\x7b' then
          modify fun s => { s with openBlocks := s.commands.length :: s.openBlocks }
          add ⟨sel, .block 0⟩
        else if letter = '\x7d' then
          match (← get).openBlocks with
          | [] => fail "unexpected \x60\x7d'"
          | start :: others =>
            add ⟨⟨none, none, false⟩, .blockEnd⟩
            modify fun s => { s with
              openBlocks := others
              commands := s.commands.modify start fun c =>
                { c with deed := .block s.commands.length } }
            endOfCommand
        else
          let d ← deed extended letter sel.first.isSome
          add ⟨sel, d⟩
        commands extended fuel

/-- The commands of a script. -/
def script (extended : Bool) (text : Bytes) : Except (Option Nat × Bytes) (List Command) := do
  let (_, s) ← (commands extended (text.length + 1)).run ⟨text, 0, [], []⟩
  .ok s.commands

end Stream

end Scratchpad.Utility
