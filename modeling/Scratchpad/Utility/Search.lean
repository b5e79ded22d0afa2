import Scratchpad.Shell.Pattern
import Scratchpad.Utility.Quantity
import Scratchpad.Utility.Search.File
import Scratchpad.Utility.Words

/-!
# Searching for lines

`grep` shows the lines of files that match one of some patterns, or tells about them: how many there
are, in which files, which parts match.
-/

namespace Scratchpad.Utility

open Scratchpad.Machine Scratchpad.Text

namespace Search

/-- How patterns are written. -/
inductive Kind where
  | basic
  | extended
  | fixed
  | other
  deriving DecidableEq, Repr

/-- The kind of patterns that a letter asks for. -/
def Kind.ofLetter? (c : Char) : Option Kind :=
  match c with
  | 'G' => some basic
  | 'E' => some extended
  | 'F' => some fixed
  | 'P' => some other
  | _ => none

/-- The dialect of patterns that are no plain texts. -/
def Kind.dialect (k : Kind) : Regular.Dialect := .searching (k != basic)

/-- The pattern that some texts are. -/
def patternOf (kind : Kind) (whole words : Bool) (texts : List Bytes) :
    Except Regular.Flaw Regular := do
  let rs ← texts.mapM fun t =>
    if kind = .fixed then .ok (t.foldr (fun c r => .sequence (.char c) r) .nothing)
    else (Regular.ofText kind.dialect t).map Prod.fst
  let all := match rs.reverse with
    | [] => .set false []
    | r :: rest => rest.foldl (fun acc r => .either r acc) r
  .ok (if whole then .sequence (.place .textStart) (.sequence all (.place .textEnd))
    else if words then .sequence (.place .afterOther) (.sequence all (.place .beforeOther))
    else all)

/-- The options of `grep`; those that have only a long name get control characters for letters. -/
def options : Options :=
  .among ("0123456789A:B:C:D:EFGHILPRTUZabcd:e:f:hilm:noqrsuvwxyz" ++
      "\x01:\x02::\x03:\x04:\x05:\x06:\x07:\x08")
    [("basic-regexp", 'G'), ("extended-regexp", 'E'), ("fixed-regexp", 'F'), ("fixed-strings", 'F'),
      ("perl-regexp", 'P'), ("after-context", 'A'), ("before-context", 'B'),
      ("binary-files", '\x01'), ("binary", 'U'), ("byte-offset", 'b'), ("context", 'C'),
      ("color", '\x02'), ("colour", '\x02'), ("count", 'c'), ("devices", 'D'),
      ("directories", 'd'), ("exclude", '\x03'), ("exclude-dir", '\x04'), ("file", 'f'),
      ("files-with-matches", 'l'), ("files-without-match", 'L'), ("group-separator", '\x07'),
      ("include", '\x05'), ("ignore-case", 'i'), ("initial-tab", 'T'), ("label", '\x06'),
      ("line-buffered", 'u'), ("line-number", 'n'), ("line-regexp", 'x'), ("max-count", 'm'),
      ("no-filename", 'h'), ("no-group-separator", '\x08'), ("no-messages", 's'), ("null", 'Z'),
      ("null-data", 'z'), ("only-matching", 'o'), ("quiet", 'q'), ("recursive", 'r'),
      ("dereference-recursive", 'R'), ("regexp", 'e'), ("invert-match", 'v'), ("silent", 'q'),
      ("text", 'a'), ("with-filename", 'H'), ("word-regexp", 'w')]

/-- What the options say that have to be right one after the other. -/
structure Settings where
  kind : Option Kind
  /-- The digits of an option that is a number. -/
  digits : Bytes
  around : Option Nat
  before : Option Nat
  after : Option Nat
  most : Option Nat
  binaries : Binaries
  directories : Directories

/-- Tells how `grep` is used, and ends. -/
def refuse {α : Type} (c : Call) (message : Option Bytes) : Routine α := do
  match message with
  | some m => c.complain m
  | none => pure ()
  let _ ← Routine.writeAll 2
    ("Usage: ".toList ++ c.name ++ " [OPTION]... PATTERNS [FILE]...\n".toList)
  c.refuse 2

/-- A number of lines around others. -/
def contextOf (c : Call) (text : Bytes) : Routine Nat :=
  match integerOf "" (-largestInteger) largestInteger text with
  | .ok (.ofNat n) => pure n
  | .error .tooLarge => pure largestInteger
  | _ => c.fail (text ++ ": invalid context length argument".toList) 2

/-- The settings after one more option. -/
def Settings.with (c : Call) (s : Settings) : Char × Bytes → Routine Settings
  | (letter, text) =>
    match Kind.ofLetter? letter with
    | some k =>
      if s.kind.any fun j => (j = .other) != (k = .other) then
        c.fail "conflicting matchers specified".toList 2
      else pure { s with kind := some k }
    | none =>
      match letter with
      | 'A' => do pure { s with after := some (← contextOf c text) }
      | 'B' => do pure { s with before := some (← contextOf c text) }
      | 'C' => do pure { s with around := some (← contextOf c text) }
      | 'm' =>
        match integerOf "" (-largestInteger) largestInteger text with
        | .ok (.ofNat n) => pure { s with most := some n }
        | .ok _ => pure { s with most := none }
        | .error .malformed => c.fail "invalid max count".toList 2
        | .error _ => pure { s with most := none }
      | 'a' => pure { s with binaries := .asText }
      | 'I' => pure { s with binaries := .passedOver }
      | '\x01' =>
        match String.ofList text with
        | "binary" => pure { s with binaries := .told }
        | "text" => pure { s with binaries := .asText }
        | "without-match" => pure { s with binaries := .passedOver }
        | _ => c.fail "unknown binary-files type".toList 2
      | 'r' => pure { s with directories := .searched }
      | 'R' => pure { s with directories := .searched }
      | 'd' =>
        match String.ofList text with
        | "read" => pure { s with directories := .read }
        | "recurse" => pure { s with directories := .searched }
        | "skip" => pure { s with directories := .passedOver }
        | _ => do
          c.complain ("invalid argument ".toList ++ cited text ++ " for '--directories'".toList)
          let _ ← Routine.writeAll 2
            "Valid arguments are:\n  - 'read'\n  - 'recurse'\n  - 'skip'\n".toList
          refuse c none
      | _ =>
        if letter.isDigit then do
          let digits := s.digits ++ [letter]
          pure { s with digits, around := some (← contextOf c digits) }
        else pure s

/-- The texts of the patterns that options give. -/
def texts (c : Call) : List (Char × Bytes) → Routine (List Bytes)
  | [] => pure []
  | ('e', text) :: os => do pure (text.splitOn '\n' ++ (← texts c os))
  | ('f', path) :: os => do
    match ← readFile path with
    | .ok text => do pure ((linesOf text).1 ++ (← texts c os))
    | .error f => c.fail (path ++ ": ".toList ++ f.text.toList) 2
  | _ :: os => texts c os

/-- Whether a name is one of those that options with a letter give. -/
def isNamed (os : List (Char × Bytes)) (letter : Char) (path : Bytes) : Bool :=
  (os.filter fun o => o.1 = letter).any fun o =>
    let glob := Shell.Glob.ofText (o.2.map fun c => (c, false))
    Shell.Glob.fits glob (lastPart path) || Shell.Glob.fits glob path

/-- Whether a file, or a directory, is searched. -/
def isChosen (os : List (Char × Bytes)) (directory : Bool) (path : Bytes) : Bool :=
  if directory then !isNamed os '\x04' path
  else !isNamed os '\x03' path && (!given os '\x05' || isNamed os '\x05' path)

/-- What is shown of the lines that are found. -/
def shownBy (os : List (Char × Bytes)) : Shown :=
  if given os 'q' then .nothing
  else
    match lastAmong os "lL" with
    | some 'l' => .files
    | some _ => .otherFiles
    | none => if given os 'c' then .count else if given os 'o' then .parts else .lines

/-- Searches files for patterns; `usual` is how those are written unless an option says something
else. -/
def run (usual : Option Kind) (c : Call) : Routine Nat := do
  match options.read c.arguments with
  | .error e => refuse c (some e)
  | .ok (os, args) =>
    let s ← os.foldlM (Settings.with c) ⟨usual, [], none, none, none, none, .told, .read⟩
    let explicit := os.any fun o => o.1 = 'e' || o.1 = 'f'
    if !explicit && args.isEmpty then refuse c none
    else
      let texts ← texts c (if explicit then os else [('e', args.headD [])])
      let paths := if explicit then args else args.drop 1
      let kind := s.kind.getD .basic
      let shown := shownBy os
      let inverted := given os 'v'
      let certain := s.most = some 0 ||
        (texts = [[]] && inverted && !given os 'x' && !given os 'w')
      if certain && shown ≠ .otherFiles then pure 1
      else
        match patternOf kind (given os 'x') (given os 'w') texts with
        | .error f => c.fail f.message.toList 2
        | .ok pattern =>
          if kind ≠ .fixed then
            Routine.forEach (texts.flatMap (Regular.idleOperators kind.dialect)) fun operator =>
              c.complain ("warning: ".toList ++ operator.toList ++ " at start of expression".toList)
          let naming := lastAmong os "hH"
          let order : Order :=
            { pattern
              folded := given os 'i' || given os 'y'
              inverted, shown
              heading :=
                { named := naming = some 'H' || (naming.isNone && 1 < paths.length)
                  zeroEnded := given os 'Z'
                  numbered := given os 'n'
                  placed := given os 'b'
                  tabbed := given os 'T'
                  coloured := (lastOf os '\x02').any fun w =>
                    ["always", "yes", "force"].contains (String.ofList w) }
              nameless := naming = some 'h'
              ending := endingBy os
              around :=
                if s.around.isNone && s.before.isNone && s.after.isNone then none
                else
                  let usual := s.around.getD 0
                  some (s.before.getD usual, s.after.getD usual)
              between :=
                match lastAmong os "\x07\x08" with
                | some '\x07' => lastOf os '\x07'
                | some _ => none
                | none => some "--".toList
              most := s.most
              silent := given os 's'
              binaries := s.binaries
              directories := s.directories
              label := (lastOf os '\x06').getD "(standard input)".toList
              chosen := isChosen os }
          let r ←
            if !paths.isEmpty then files c order ⟨false, false, false⟩ paths
            else if s.directories = .searched then
              let order := { order with heading.named := order.heading.named || !order.nameless }
              searchUnder c order deepest ⟨false, false, false⟩ [] ['.']
            else files c order ⟨false, false, false⟩ [['-']]
          pure (if r.failed && !(r.found && given os 'q') then 2 else if r.found then 0 else 1)

end Search

/-- Shows the lines of files that match patterns. -/
def grep : Call → Routine Nat := Search.run none

/-- Shows the lines of files that match extended patterns. -/
def egrep (c : Call) : Routine Nat :=
  Search.run (some .extended) { c with name := "grep".toList }

/-- Shows the lines of files in which some texts occur. -/
def fgrep (c : Call) : Routine Nat := Search.run (some .fixed) { c with name := "grep".toList }

end Scratchpad.Utility
