import Scratchpad.Shell.Syntax
import Scratchpad.Text.Split

/-!
# Reading a script

What is left of a script while it is read, with the number of the current line and the aliases that
are in use; the lexemes it is made of; and why it cannot be read.
-/

namespace Scratchpad.Shell

open Scratchpad.Machine Scratchpad.Text

/-- A lexeme of a script. -/
inductive Lexeme where
  | word (w : Word)
  | reserved (text : Bytes)
  | operator (text : Bytes)
  | redirection (descriptor : Nat) (opening : Opening) (noTabs : Bool)
  | lineEnd
  | scriptEnd

/-- How a lexeme is named in a message. -/
def Lexeme.shown : Lexeme → Bytes
  | word _ => "word".toList
  | reserved text => '"' :: text ++ ['"']
  | operator text => '"' :: text ++ ['"']
  | redirection _ _ _ => "redirection".toList
  | lineEnd => "newline".toList
  | scriptEnd => "end of file".toList

/-- Why a script cannot be read. -/
inductive Problem where
  | unterminatedQuote
  | unterminatedSubstitution
  | missingBrace
  | missingParentheses
  | badLoopVariable
  | badFunctionName
  | badDescriptor
  /-- A lexeme where another one is due; the one that is, if only one is. -/
  | unexpected (shown : Bytes) (expected : Option Bytes)
  deriving DecidableEq, Repr

/-- The text of a problem. -/
def Problem.message (p : Problem) : Bytes := "Syntax error: ".toList ++ what p
where
  what : Problem → Bytes
    | unterminatedQuote => "Unterminated quoted string".toList
    | unterminatedSubstitution => "EOF in backquote substitution".toList
    | missingBrace => "Missing '\x7d'".toList
    | missingParentheses => "Missing '))'".toList
    | badLoopVariable => "Bad for loop variable".toList
    | badFunctionName => "Bad function name".toList
    | badDescriptor => "Bad fd number".toList
    | unexpected shown expected =>
      shown ++ " unexpected".toList ++
        match expected with
        | none => []
        | some e => " (expecting ".toList ++ e ++ [')']

/-- A problem, and the line where it shows. -/
structure SyntaxError where
  line : Nat
  problem : Problem
  deriving DecidableEq, Repr

/-- A problem in a document, before the line after it. Something that is not closed in it shows only
there, or in the last line of the script. -/
def SyntaxError.inDocument (e : SyntaxError) (after last : Nat) : SyntaxError :=
  match e.problem with
  | .unterminatedQuote => ⟨after, .missingBrace⟩
  | .missingBrace => ⟨after, .missingBrace⟩
  | .missingParentheses => ⟨after, .missingParentheses⟩
  | .unterminatedSubstitution => ⟨last, .unterminatedSubstitution⟩
  | _ => e

/-- An alias whose text is being read: it ends where so many characters are left. -/
structure ActiveAlias where
  name : Bytes
  left : Nat
  /-- Whether the word after its text may be an alias too. -/
  keepsGoing : Bool

/-- What is left of a script. -/
structure Source where
  rest : Bytes
  line : Nat
  /-- How many lines of documents were taken out, each time with how much is left behind them. -/
  taken : List (Nat × Nat)
  /-- A lexeme that was read but not used. -/
  pushed : Option Lexeme
  aliases : List (Bytes × Bytes)
  active : List ActiveAlias

/-- The source at the beginning of a script. -/
def Source.ofText (aliases : List (Bytes × Bytes)) (text : Bytes) : Source :=
  ⟨text, 1, [], none, aliases, []⟩

/-- At most so many characters of the front of a text, in which lines are joined. -/
def ahead : Nat → Bytes → Bytes
  | n, '\\' :: '\n' :: cs => ahead n cs
  | n + 1, c :: cs => c :: ahead n cs
  | _, _ => []

/-- How long so many characters at the front of a text are, with the joints of lines in front of
them. -/
def lengthAhead : Nat → Bytes → Nat
  | 0, _ => 0
  | n + 1, '\\' :: '\n' :: cs => lengthAhead (n + 1) cs + 2
  | n + 1, _ :: cs => lengthAhead n cs + 1
  | _ + 1, [] => 0

/-- How long the joints of lines at the front of a text are. -/
def jointLength : Bytes → Nat
  | '\\' :: '\n' :: cs => jointLength cs + 2
  | _ => 0

/-- Reading something off a source. -/
abbrev Reading := StateT Source (Except SyntaxError)

namespace Reading

/-- Fails at the current line. -/
def fail {α : Type} (p : Problem) : Reading α := do throw ⟨(← get).line, p⟩

/-- What is left. -/
def rest : Reading Bytes := do pure (← get).rest

/-- The number of the current line. -/
def line : Reading Nat := do pure (← get).line

/-- Passes over the documents that were taken out in front of what is left. -/
def passDocuments : Reading Unit :=
  modify fun s =>
    if s.taken.isEmpty then s
    else
      let (passed, taken) := s.taken.partition fun t => s.rest.length ≤ t.2
      { s with line := passed.foldl (fun n t => n + t.1) s.line, taken }

/-- Passes over so many characters. -/
def skip (n : Nat) : Reading Unit := do
  passDocuments
  modify fun s =>
    { s with rest := s.rest.drop n, line := s.line + (s.rest.take n).count '\n' }

/-- What is left, with its lines joined. -/
def joinedRest : Reading Bytes := do
  let cs ← rest
  pure (ahead cs.length cs)

/-- Passes over so many characters of the joined lines. -/
def skipJoined (n : Nat) : Reading Unit := do skip (lengthAhead n (← rest))

/-- Passes over the joints of lines. -/
def skipJoints : Reading Unit := do skip (jointLength (← rest))

/-- Passes over so many characters of the joined lines, the last of which does not count as the end
of a line. -/
def skipUncounted (n : Nat) : Reading Unit := do
  skip (lengthAhead (n - 1) (← rest))
  modify fun s => { s with rest := s.rest.drop 1 }

/-- Passes over blanks, joined lines and a comment. -/
def skipBlanks (fuel : Nat) : Reading Unit :=
  match fuel with
  | 0 => pure ()
  | fuel + 1 => do
    match ← rest with
    | '\\' :: '\n' :: _ => do
      skip 2
      skipBlanks fuel
    | c :: cs =>
      if c = ' ' || c = '\t' then do
        skip 1
        skipBlanks fuel
      else if c = '#' then skip (1 + (cs.takeWhile (· != '\n')).length)
      else pure ()
    | [] => pure ()

/-- Gives a lexeme back. -/
def giveBack (l : Lexeme) : Reading Unit := modify fun s => { s with pushed := some l }

/-- Fails because of a lexeme where the given one is due. -/
def unexpected {α : Type} (l : Lexeme) (expected : Option Bytes) : Reading α :=
  fail (.unexpected l.shown expected)

end Reading

/-- Which words are special where the next lexeme is read. -/
structure Expecting where
  /-- Ends of lines are passed over. -/
  lines : Bool
  reserved : Bool
  aliases : Bool

namespace Expecting

/-- Only plain words. -/
def words : Expecting := ⟨false, false, false⟩

/-- A command on this line. -/
def command : Expecting := ⟨false, true, true⟩

/-- A command on this or a later line. -/
def anyCommand : Expecting := ⟨true, true, true⟩

end Expecting

/-- The words that have a meaning of their own where a command is due. -/
def reservedWords : List Bytes :=
  ["!", "case", "do", "done", "elif", "else", "esac", "fi", "for", "if", "in", "then", "until",
    "while", "\x7b", "\x7d"].map String.toList

/-- Whether a lexeme ends a list of commands. -/
def Lexeme.endsList : Lexeme → Bool
  | .word _ => false
  | .reserved t =>
    (["do", "done", "elif", "else", "esac", "fi", "then", "\x7d"].map String.toList).contains t
  | .operator o => o == [')'] || o == [';', ';']
  | .redirection _ _ _ => false
  | .lineEnd => false
  | .scriptEnd => true

/-- The operators that are no redirections, longer ones first. -/
def operators : List Bytes := [";;", "&&", "||", ";", "&", "|", "(", ")"].map String.toList

/-- The redirections, longer ones first, with the descriptor that each is about. -/
def redirections : List (Bytes × Nat × Opening × Bool) :=
  [("<<-", 0, .document, true), ("<<", 0, .document, false), ("<&", 0, .copy, false),
   ("<>", 0, .both, false), ("<", 0, .read, false), (">>", 1, .append, false),
   (">&", 1, .copy, false), (">|", 1, .replace, false), (">", 1, .write, false)].map fun r =>
    (r.1.toList, r.2)

/-- The redirection at the front of a text, with a digit for its descriptor, and its length. -/
def redirectionOf? (cs : Bytes) : Option (Nat × Opening × Bool × Nat) :=
  let (given, tail) := match cs with
    | d :: tail => if d.isDigit then (some (d.toNat - '0'.toNat), tail) else (none, cs)
    | [] => (none, cs)
  (redirections.find? fun r => r.1.isPrefixOf tail).map fun r =>
    (given.getD r.2.1, r.2.2.1, r.2.2.2, cs.length - tail.length + r.1.length)

/-- A document that was taken out of lines: its own lines, those behind it, how many were taken, and
whether its end was found. -/
structure Taken where
  body : List Bytes
  behind : List Bytes
  count : Nat
  ended : Bool

/-- The lines up to one that is `mark`, joined where a backslash ends them unless they are taken as
they are, without leading tabs if asked for. -/
def documentLines (mark : Bytes) (noTabs asIs : Bool) (joined : Option Bytes) : List Bytes → Taken
  | [] => ⟨joined.toList, [], 0, false⟩
  | line :: lines =>
    let line := if noTabs && joined.isNone then line.dropWhile (· == '\t') else line
    if joined.isNone && line = mark then ⟨[], lines, 1, true⟩
    else
      let whole := joined.getD [] ++ line
      let slashes := (line.reverse.takeWhile (· == '\\')).length
      if !asIs && slashes % 2 = 1 then
        let t := documentLines mark noTabs asIs (some whole.dropLast) lines
        { t with count := t.count + 1 }
      else
        let t := documentLines mark noTabs asIs none lines
        { t with body := whole :: t.body, count := t.count + 1 }

/-- How long the current line is: it goes on in quotes, in the commands of substitutions, and where
it is joined with the next one. `within` are the openings that have not been closed, the last one
first, and `fresh` tells whether a comment may begin. -/
def lineLength (within : List Char) (fresh : Bool) : Bytes → Nat
  | [] => 0
  | '\\' :: c :: cs =>
    if within.head? = some '\'' then lineLength within false (c :: cs) + 1
    else lineLength within false cs + 2
  | '$' :: '(' :: cs =>
    lineLength (if within.head? = some '\'' then within else '(' :: within) false cs + 2
  | c :: cs =>
    let opens := c = '\'' || c = '"' || c = '\x60'
    match within with
    | [] =>
      if c = '\n' then 0
      else if fresh && c = '#' then 1 + (cs.takeWhile (· != '\n')).length
      else if opens then lineLength [c] false cs + 1
      else lineLength [] (c = ' ' || c = '\t' || c = ';' || c = '&' || c = '|') cs + 1
    | o :: outer =>
      if c = (if o = '(' then ')' else o) then lineLength outer false cs + 1
      else if (opens && o != '\'' && !(o = '"' && c = '\'')) || (c = '(' && o = '(') then
        lineLength (c :: o :: outer) false cs + 1
      else lineLength (o :: outer) false cs + 1

/-- Takes the document that ends with a mark out of the lines behind the current one. The answer is
its text, the number of its first line, that of the line after its mark, and that of the last line
of the script. -/
def takeDocument (mark : Bytes) (noTabs asIs : Bool) : Reading (Bytes × Nat × Nat × Nat) := do
  let s ← get
  let n := lineLength [] false s.rest
  let start := s.line + (s.rest.take n).count '\n' + 1
  match s.rest.drop n with
  | [] => pure ([], start, start, start)
  | _ :: after =>
    let (here, elsewhere) := s.taken.partition fun t => t.2 = after.length
    let before := here.foldl (fun n t => n + t.1) 0
    let t := documentLines mark noTabs asIs none (after.splitOn '\n')
    let count := if t.ended then t.count else t.count - 1
    let text := ['\n'].intercalate t.body
    let left := ['\n'].intercalate t.behind
    set { s with
      rest := s.rest.take n ++ '\n' :: left
      taken := (before + count, left.length) :: elsewhere }
    let line := start + before
    pure (if t.ended && !t.body.isEmpty then text ++ ['\n'] else text, line, line + count,
      line + count + left.count '\n')

end Scratchpad.Shell
