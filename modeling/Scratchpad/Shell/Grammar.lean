import Scratchpad.Shell.Source

/-!
# The grammar of the shell

`nextCommand` reads the commands up to the end of a line, with everything that belongs to commands
which the line leaves open. A script is read and carried out line by line, so a fault in a later
line does not keep the earlier ones from running.

Words are read by `parts`, in one of several modes: what ends a word, and which characters are
special in it, depends on the quotes, braces and parentheses that it stands in.
-/

namespace Scratchpad.Shell

open Scratchpad.Machine Scratchpad.Text

/-- Where the parts of a word stand. -/
inductive Mode where
  /-- Outside of everything. -/
  | word
  /-- The mark of a document, in which no parameter is meant. -/
  | mark
  /-- Between double quotes. -/
  | double
  /-- Between braces, and perhaps in double quotes too. -/
  | braces (quoted : Bool)
  /-- In a document. -/
  | document
  /-- In an arithmetic expression, within so many parentheses. -/
  | number (depth : Nat)
  deriving DecidableEq, Repr

namespace Mode

/-- Whether text in this mode is quoted. -/
def isQuoted : Mode → Bool
  | word => false
  | mark => false
  | double => true
  | braces quoted => quoted
  | document => true
  | number _ => true

/-- Whether a backslash protects a character. -/
def protects (m : Mode) (c : Char) : Bool :=
  !m.isQuoted || c == '\\' || c == '\x60' || c == '$' || (c == '"' && m != document) ||
    (c == '\x7d' && m == braces true)

/-- Whether a character only stands for itself. -/
def isOrdinary (m : Mode) (c : Char) : Bool :=
  if c == '\\' || c == '$' || c == '\x60' then false
  else
    match m with
    | word => !endsWord c && c != '\'' && c != '"'
    | mark => !endsWord c && c != '\'' && c != '"'
    | double => c != '"'
    | braces true => c != '"' && c != '\x7d'
    | braces false => c != '\'' && c != '"' && c != '\x7d'
    | document => true
    | number _ => c != '(' && c != ')'
where
  endsWord (c : Char) : Bool :=
    c == ' ' || c == '\t' || c == '\n' || c == ';' || c == '&' || c == '|' || c == '<' ||
      c == '>' || c == '(' || c == ')'

end Mode

/-- The script between backquotes, and how long it is with its second one. -/
def toBackquote (quoted : Bool) : Bytes → Option (Bytes × Nat)
  | [] => none
  | '\x60' :: _ => some ([], 1)
  | '\\' :: '\n' :: cs => (toBackquote quoted cs).map fun p => (p.1, p.2 + 2)
  | '\\' :: c :: cs =>
    (toBackquote quoted cs).map fun p =>
      (if c = '\x60' || c = '\\' || c = '$' || (quoted && c = '"') then c :: p.1
        else '\\' :: c :: p.1, p.2 + 2)
  | c :: cs => (toBackquote quoted cs).map fun p => (c :: p.1, p.2 + 1)

/-- The operation on a parameter that stands after its name, whether it has a colon, and its length.
A brace that ends the parameter stays, but one after a colon is read. -/
def selectionOf : Bytes → Selection × Bool × Nat
  | ':' :: cs =>
    match cs with
    | '-' :: _ => (.orElse, true, 2)
    | '=' :: _ => (.orAssign, true, 2)
    | '+' :: _ => (.ifSet, true, 2)
    | '?' :: _ => (.orFail, true, 2)
    | '\x7d' :: _ => (.value, true, 2)
    | [] => (.unknown, false, 1)
    | _ => (.unknown, false, 2)
  | '-' :: _ => (.orElse, false, 1)
  | '=' :: _ => (.orAssign, false, 1)
  | '+' :: _ => (.ifSet, false, 1)
  | '?' :: _ => (.orFail, false, 1)
  | '%' :: '%' :: _ => (.without true true, false, 2)
  | '%' :: _ => (.without true false, false, 1)
  | '#' :: '#' :: _ => (.without false true, false, 2)
  | '#' :: _ => (.without false false, false, 1)
  | '\x7d' :: _ => (.value, false, 0)
  | [] => (.unknown, false, 0)
  | _ => (.unknown, false, 1)

/-- The name at the front of a text; of a number, all its digits. -/
def leadingName (cs : Bytes) : Bytes :=
  match cs.head? with
  | none => []
  | some c =>
    if startsName c then cs.takeWhile inName
    else if c.isDigit then cs.takeWhile Char.isDigit
    else []

/-- The name of a parameter after an opening brace, whether its length is meant, and how much was
read; the name is empty if there is none. -/
def bracedName (cs : Bytes) : Bytes × Bool × Nat :=
  match leadingName cs with
  | n :: ns => (n :: ns, false, ns.length + 1)
  | [] =>
    match cs with
    | '#' :: c :: d :: _ =>
      if inName c then
        let name := leadingName (cs.drop 1)
        (name, true, name.length + 1)
      else if c != '\x7d' && d == '\x7d' then
        if isSpecialParameter c then ([c], true, 2) else ([], false, 2)
      else (['#'], false, 1)
    | c :: _ =>
      if isSpecialParameter c then ([c], false, 1) else ([], false, if c = '\x7d' then 0 else 1)
    | [] => ([], false, 0)

/-- How much may be nested in a script. -/
def Source.fuel (s : Source) : Nat := 16 * s.rest.length + 4096

mutual

/-- Reads the parts of a word up to what ends it in its mode; closing quotes, braces and parentheses
are passed over. -/
def parts (fuel : Nat) (m : Mode) : Reading Word :=
  match fuel with
  | 0 => pure []
  | fuel + 1 => do
    let quoted := m.isQuoted
    match ← Reading.rest with
    | [] =>
      match m with
      | .word => pure []
      | .mark => pure []
      | .document => pure []
      | .double => Reading.fail .unterminatedQuote
      | .braces true => Reading.fail .unterminatedQuote
      | .braces false => Reading.fail .missingBrace
      | .number _ => Reading.fail .missingParentheses
    | c :: cs =>
      if m.isOrdinary c then
        let run := (c :: cs).takeWhile m.isOrdinary
        Reading.skip run.length
        pure (onto quoted run (← parts fuel m))
      else if c = '\\' then
        match cs with
        | [] =>
          Reading.skip 1
          pure (onto true ['\\'] (← parts fuel m))
        | '\n' :: _ =>
          Reading.skip 2
          parts fuel m
        | d :: _ =>
          Reading.skip 2
          pure (onto true (if m.protects d then [d] else ['\\', d]) (← parts fuel m))
      else if c = '$' then
        Reading.skip 1
        if m = .mark then pure (onto quoted ['$'] (← parts fuel m))
        else
          let p ← dollar fuel quoted
          let w ← parts fuel m
          match p with
          | .text q t => pure (onto q t w)
          | .parameter _ _ .value true inner => pure (p :: inner)
          | p => pure (p :: w)
      else if c = '\x60' then
        Reading.skip 1
        if m = .mark then pure (onto quoted ['\x60'] (← parts fuel m))
        else
          match toBackquote quoted cs with
          | none =>
            Reading.skip cs.length
            Reading.fail .unterminatedSubstitution
          | some (script, length) =>
            let command ← within fuel script
            Reading.skip length
            pure (.output quoted command :: (← parts fuel m))
      else if c = '"' then
        Reading.skip 1
        if m = .double then pure []
        else
          let inner ← parts fuel .double
          let w ← parts fuel m
          match inner with
          | [.parameter _ ['@'] .value _ _] => pure (inner ++ w)
          | .text true t :: more => pure (.text true t :: more ++ w)
          | _ => pure (.text true [] :: inner ++ w)
      else if c = '\'' then
        match cutAt? '\'' cs with
        | none =>
          Reading.skip (1 + cs.length)
          Reading.fail .unterminatedQuote
        | some (text, _) =>
          Reading.skip (text.length + 2)
          pure (.text true text :: (← parts fuel m))
      else
        match m with
        | .braces _ =>
          Reading.skip 1
          pure []
        | .number depth =>
          if c = '(' then
            Reading.skip 1
            pure (onto quoted [c] (← parts fuel (.number (depth + 1))))
          else if 0 < depth then
            Reading.skip 1
            pure (onto quoted [c] (← parts fuel (.number (depth - 1))))
          else if ahead 2 (c :: cs) = [')', ')'] then
            Reading.skipJoined 2
            pure []
          else
            Reading.skip 1
            pure (onto quoted [c] (← parts fuel m))
        | _ => pure []

/-- Reads what a dollar sign, which was passed over, stands for; alone it stands for itself. -/
def dollar (fuel : Nat) (quoted : Bool) : Reading Part :=
  match fuel with
  | 0 => pure (.text quoted ['$'])
  | fuel + 1 => do
    let rest ← Reading.rest
    match ahead 2 rest with
    | ['(', '('] =>
      Reading.skipJoined 2
      pure (.number quoted (← parts fuel (.number 0)))
    | '(' :: _ =>
      Reading.skipJoined 1
      let command ← list fuel true
      due fuel (.operator [')'])
      pure (.output quoted command)
    | '\x7b' :: _ =>
      Reading.skipJoined 1
      braced fuel quoted
    | c :: _ =>
      if startsName c then
        let name := (← Reading.joinedRest).takeWhile inName
        Reading.skipJoined name.length
        pure (.parameter quoted name .value false [])
      else if isSpecialParameter c then
        Reading.skipJoined 1
        pure (.parameter quoted [c] .value false [])
      else pure (.text quoted ['$'])
    | [] => pure (.text quoted ['$'])

/-- Reads a parameter after its opening brace. -/
def braced (fuel : Nat) (quoted : Bool) : Reading Part :=
  match fuel with
  | 0 => pure (.text quoted [])
  | fuel + 1 => do
    let (name, length, n) := bracedName (← Reading.joinedRest)
    if name.isEmpty && 0 < n then Reading.skipUncounted n else Reading.skipJoined n
    let after := ahead 2 (← Reading.rest)
    if name.isEmpty then
      let w ← parts fuel (.braces quoted)
      pure (.parameter quoted [] .unknown false w)
    else if length then
      let w ← parts fuel (.braces quoted)
      let selection := if after.head? = some '\x7d' then .length else .unknown
      pure (.parameter quoted name selection false w)
    else
      let (selection, nonempty, n) := selectionOf after
      if selection = .unknown && 0 < n then Reading.skipUncounted n else Reading.skipJoined n
      let inner := match selection with
        | .without _ _ => false
        | _ => quoted
      let w ← parts fuel (.braces inner)
      pure (.parameter quoted name selection nonempty w)

/-- Reads a script of its own, whose lines are counted anew. -/
def within (fuel : Nat) (script : Bytes) : Reading Command :=
  match fuel with
  | 0 => pure .nothing
  | fuel + 1 => do
    let s ← get
    let (c, _) ← (do
      let c ← list fuel true
      due fuel .scriptEnd
      pure c : Reading Command).run (.ofText s.aliases script)
    pure c

/-- Passes over a lexeme that is due. -/
def due (fuel : Nat) (l : Lexeme) : Reading Unit :=
  match fuel with
  | 0 => pure ()
  | fuel + 1 => do
    let found ← lexeme fuel .command
    if found.shown = l.shown then pure () else Reading.unexpected found (some l.shown)

/-- Reads one lexeme. -/
def lexeme (fuel : Nat) (e : Expecting) : Reading Lexeme :=
  match fuel with
  | 0 => pure .scriptEnd
  | fuel + 1 => do
    let (l, more) ← rawLexeme fuel
    match l with
    | .lineEnd => if e.lines then lexeme fuel e else pure l
    | .word w =>
      match w, bare? w with
      | _ :: _, some t =>
        if e.reserved && reservedWords.contains t then pure (.reserved t)
        else
          let s ← get
          match (if e.aliases || more then s.aliases.lookup t else none) with
          | some text =>
            if s.active.any fun a => a.name = t then pure l
            else
              set { s with
                rest := text ++ s.rest
                active := ⟨t, s.rest.length, text.getLast?.any fun c => c == ' ' || c == '\t'⟩ ::
                  s.active }
              lexeme fuel e
          | none => pure l
      | _, _ => pure l
    | _ => pure l

/-- Reads one lexeme as it stands, and tells whether it may be an alias because of the alias before
it. -/
def rawLexeme (fuel : Nat) : Reading (Lexeme × Bool) :=
  match fuel with
  | 0 => pure (.scriptEnd, false)
  | fuel + 1 => do
    let s ← get
    match s.pushed with
    | some l =>
      set { s with pushed := none }
      pure (l, false)
    | none =>
      Reading.passDocuments
      Reading.skipBlanks (s.rest.length + 1)
      let s ← get
      let (spent, active) := s.active.partition fun a => s.rest.length ≤ a.left
      set { s with active }
      let more := spent.any fun a => a.keepsGoing
      match s.rest with
      | [] => pure (.scriptEnd, more)
      | '\n' :: _ =>
        Reading.skip 1
        pure (.lineEnd, more)
      | cs =>
        match redirectionOf? (ahead 4 cs) with
        | some (descriptor, opening, noTabs, n) =>
          Reading.skipJoined n
          if opening = .write || opening = .read || (opening = .document && !noTabs) then
            Reading.skipJoints
          pure (.redirection descriptor opening noTabs, more)
        | none =>
          match operators.find? fun o => o.isPrefixOf (ahead 2 cs) with
          | some o =>
            Reading.skipJoined o.length
            if o = [';'] || o = ['&'] || o = ['|'] then Reading.skipJoints
            pure (.operator o, more)
          | none => pure (.word (← parts fuel .word), more)

/-- Reads what a redirection is about; the operator was passed over. -/
def target (fuel : Nat) (descriptor : Nat) (opening : Opening) (noTabs : Bool) :
    Reading Redirection :=
  match fuel with
  | 0 => pure (.mk descriptor opening [])
  | fuel + 1 => do
    if opening = .document then
      Reading.skipBlanks ((← Reading.rest).length + 1)
      match ← parts fuel .mark with
      | [] => Reading.unexpected (← lexeme fuel .words) none
      | mark =>
        let asIs := hasQuotes mark
        let s ← get
        let (text, start, after, last) ← takeDocument (plainText mark) noTabs asIs
        if asIs then pure (.mk descriptor .document [.text true text])
        else
          match (parts fuel .document).run { Source.ofText s.aliases text with line := start } with
          | .ok (w, _) => pure (.mk descriptor .document w)
          | .error e => throw (e.inDocument after last)
    else
      match ← lexeme fuel .words with
      | .word w => pure (.mk descriptor opening w)
      | l => Reading.unexpected l none

/-- Reads redirections as long as there are any. -/
def redirectionList (fuel : Nat) : Reading (List Redirection) :=
  match fuel with
  | 0 => pure []
  | fuel + 1 => do
    match ← lexeme fuel .command with
    | .redirection descriptor opening noTabs =>
      let r ← target fuel descriptor opening noTabs
      pure (r :: (← redirectionList fuel))
    | l =>
      Reading.giveBack l
      pure []

/-- Reads commands up to a lexeme that ends the list; if there must be one, the first lexeme may not
end it. -/
def list (fuel : Nat) (mayBeEmpty : Bool) : Reading Command :=
  match fuel with
  | 0 => pure .nothing
  | fuel + 1 => do
    let l ← lexeme fuel .anyCommand
    Reading.giveBack l
    match l with
    | .scriptEnd => pure .nothing
    | _ =>
      if mayBeEmpty && l.endsList then pure .nothing
      else
        let c ← andOr fuel
        listRest fuel c

/-- Reads what follows a command in a list. -/
def listRest (fuel : Nat) (c : Command) : Reading Command :=
  match fuel with
  | 0 => pure c
  | fuel + 1 => do
    let l ← lexeme fuel .command
    match l with
    | .operator ['&'] => pure (joined (.background c) (← list fuel true))
    | .operator [';'] => pure (joined c (← list fuel true))
    | .lineEnd => pure (joined c (← list fuel true))
    | l =>
      Reading.giveBack l
      pure c

/-- Reads pipelines that depend on each other. -/
def andOr (fuel : Nat) : Reading Command :=
  match fuel with
  | 0 => pure .nothing
  | fuel + 1 => do
    let c ← pipeline fuel .command
    andOrRest fuel c

/-- Reads what depends on a command that was read. -/
def andOrRest (fuel : Nat) (c : Command) : Reading Command :=
  match fuel with
  | 0 => pure c
  | fuel + 1 => do
    match ← lexeme fuel .command with
    | .operator ['&', '&'] =>
      let d ← pipeline fuel .anyCommand
      andOrRest fuel (.andThen c d)
    | .operator ['|', '|'] =>
      let d ← pipeline fuel .anyCommand
      andOrRest fuel (.orElse c d)
    | l =>
      Reading.giveBack l
      pure c

/-- Reads commands that feed each other. -/
def pipeline (fuel : Nat) (e : Expecting) : Reading Command :=
  match fuel with
  | 0 => pure .nothing
  | fuel + 1 => do
    let l ← lexeme fuel e
    if l.shown = (Lexeme.reserved ['!']).shown then
      pure (.negated (← stages fuel))
    else
      Reading.giveBack l
      stages fuel

/-- Reads the stages of a pipeline. -/
def stages (fuel : Nat) : Reading Command :=
  match fuel with
  | 0 => pure .nothing
  | fuel + 1 => do
    let c ← command fuel .command
    match ← moreStages fuel with
    | [] => pure c
    | cs => pure (.pipeline (c :: cs))

/-- Reads the stages after the first one. -/
def moreStages (fuel : Nat) : Reading (List Command) :=
  match fuel with
  | 0 => pure []
  | fuel + 1 => do
    match ← lexeme fuel .command with
    | .operator ['|'] =>
      let c ← command fuel .anyCommand
      pure (c :: (← moreStages fuel))
    | l =>
      Reading.giveBack l
      pure []

/-- Reads one command. -/
def command (fuel : Nat) (e : Expecting) : Reading Command :=
  match fuel with
  | 0 => pure .nothing
  | fuel + 1 => do
    let first ← Reading.line
    let l ← lexeme fuel e
    match l with
    | .operator ['('] =>
      let c ← list fuel false
      due fuel (.operator [')'])
      pure (.subshell first c (← redirectionList fuel))
    | .word _ =>
      Reading.giveBack l
      simpleCommand fuel
    | .redirection _ _ _ =>
      Reading.giveBack l
      simpleCommand fuel
    | .reserved t =>
      if t = ['\x7b'] then
        let c ← list fuel false
        due fuel (.reserved ['\x7d'])
        withRedirections fuel first c
      else if t = "if".toList then
        let c ← branches fuel
        due fuel (.reserved "fi".toList)
        withRedirections fuel first c
      else if t = "while".toList || t = "until".toList then
        let condition ← list fuel false
        due fuel (.reserved "do".toList)
        let body ← list fuel false
        due fuel (.reserved "done".toList)
        withRedirections fuel first (.loop (t = "while".toList) condition body)
      else if t = "for".toList then
        match ← lexeme fuel .words with
        | .word w =>
          match (bare? w).filter isName with
          | none => Reading.fail .badLoopVariable
          | some name =>
            let words ← loopWords fuel
            let found ← lexeme fuel .anyCommand
            if found.shown = (Lexeme.reserved "do".toList).shown then
              let body ← list fuel false
              due fuel (.reserved "done".toList)
              withRedirections fuel first (.each first name words body)
            else Reading.unexpected found (some (Lexeme.reserved "do".toList).shown)
        | _ => Reading.fail .badLoopVariable
      else if t = "case".toList then
        match ← lexeme fuel .words with
        | .word w =>
          let found ← lexeme fuel .anyCommand
          if found.shown = (Lexeme.reserved "in".toList).shown then
            let arms ← arms fuel
            withRedirections fuel first (.choose first w arms)
          else Reading.unexpected found (some (Lexeme.reserved "in".toList).shown)
        | l => Reading.unexpected l (some "word".toList)
      else Reading.unexpected l none
    | l => Reading.unexpected l none

/-- Reads the redirections of a command that was read. Those of a subshell in braces are the only
ones that it has. -/
def withRedirections (fuel : Nat) (first : Nat) (c : Command) : Reading Command :=
  match fuel with
  | 0 => pure c
  | fuel + 1 => do
    match ← redirectionList fuel, c with
    | [], c => pure c
    | rs, .subshell line c _ => pure (.subshell line c rs)
    | rs, c => pure (.redirected first c rs)

/-- Reads the words of a loop, up to the end of the line or a semicolon; without words it goes over
all arguments. -/
def loopWords (fuel : Nat) : Reading (List Word) :=
  match fuel with
  | 0 => pure []
  | fuel + 1 => do
    let l ← lexeme fuel .anyCommand
    match l with
    | .reserved ['i', 'n'] =>
      let ws ← wordList fuel
      match ← lexeme fuel .words with
      | .lineEnd => pure ws
      | .operator [';'] => pure ws
      | l => Reading.unexpected l none
    | .operator [';'] => pure [allArguments]
    | l =>
      Reading.giveBack l
      pure [allArguments]

/-- Reads words as long as there are any. -/
def wordList (fuel : Nat) : Reading (List Word) :=
  match fuel with
  | 0 => pure []
  | fuel + 1 => do
    match ← lexeme fuel .words with
    | .word w => pure (w :: (← wordList fuel))
    | l =>
      Reading.giveBack l
      pure []

/-- Reads the condition and the branches after `if` or `elif`. -/
def branches (fuel : Nat) : Reading Command :=
  match fuel with
  | 0 => pure .nothing
  | fuel + 1 => do
    let condition ← list fuel false
    due fuel (.reserved "then".toList)
    let yes ← list fuel false
    let l ← lexeme fuel .command
    match l with
    | .reserved ['e', 'l', 'i', 'f'] => pure (.branch condition yes (← branches fuel))
    | .reserved ['e', 'l', 's', 'e'] => pure (.branch condition yes (← list fuel false))
    | l =>
      Reading.giveBack l
      pure (.branch condition yes .nothing)

/-- Reads the arms of a choice, up to the word that ends it. -/
def arms (fuel : Nat) : Reading (List (List Word × Command)) :=
  match fuel with
  | 0 => pure []
  | fuel + 1 => do
    let l ← lexeme fuel ⟨true, true, false⟩
    match l with
    | .reserved ['e', 's', 'a', 'c'] => pure []
    | .operator ['('] => armsFrom fuel (← lexeme fuel .words)
    | l => armsFrom fuel l

/-- Reads the arms of a choice, the first of which begins with a lexeme that was read. -/
def armsFrom (fuel : Nat) (l : Lexeme) : Reading (List (List Word × Command)) :=
  match fuel with
  | 0 => pure []
  | fuel + 1 => do
    let patterns ← patternList fuel l
    let c ← list fuel true
    match ← lexeme fuel ⟨true, true, false⟩ with
    | .reserved ['e', 's', 'a', 'c'] => pure [(patterns, c)]
    | .operator [';', ';'] => pure ((patterns, c) :: (← arms fuel))
    | l => Reading.unexpected l (some (Lexeme.operator [';', ';']).shown)

/-- Reads the patterns of an arm, the first of which was read, and the parenthesis after them. -/
def patternList (fuel : Nat) (l : Lexeme) : Reading (List Word) :=
  match fuel with
  | 0 => pure []
  | fuel + 1 => do
    let w ← match l with
      | .word w => pure w
      | .reserved t => pure [.text false t]
      | _ => pure []
    match ← lexeme fuel .words with
    | .operator ['|'] => pure (w :: (← patternList fuel (← lexeme fuel .words)))
    | .operator [')'] => pure [w]
    | l => Reading.unexpected l (some (Lexeme.operator [')']).shown)

/-- Reads a simple command, or the definition of a function. -/
def simpleCommand (fuel : Nat) : Reading Command :=
  match fuel with
  | 0 => pure .nothing
  | fuel + 1 => do
    let first ← Reading.line
    simpleRest fuel first [] [] []

/-- Reads the assignments, words and redirections of a simple command after those that were read,
each list the last one first. -/
def simpleRest (fuel : Nat) (first : Nat) (assignments : List (Bytes × Word)) (words : List Word)
    (rs : List Redirection) : Reading Command :=
  match fuel with
  | 0 => pure .nothing
  | fuel + 1 => do
    match ← lexeme fuel ⟨false, false, words.isEmpty⟩ with
    | .word w =>
      match (if words.isEmpty then assignmentOf? w else none) with
      | some a => simpleRest fuel first (a :: assignments) words rs
      | none => simpleRest fuel first assignments (w :: words) rs
    | .redirection descriptor opening noTabs =>
      let r ← target fuel descriptor opening noTabs
      simpleRest fuel first assignments words (r :: rs)
    | .operator ['('] =>
      match words, assignments, rs with
      | [w], [], [] =>
        match ← lexeme fuel .words with
        | .operator [')'] => pure ()
        | l => Reading.unexpected l (some (Lexeme.operator [')']).shown)
        match (bare? w).filter fun t => isName t && !specialCommands.contains t with
        | none => Reading.fail .badFunctionName
        | some name =>
          pure (.define name (← command fuel .anyCommand))
      | _, _, _ =>
        Reading.giveBack (.operator ['('])
        pure (.simple first assignments.reverse words.reverse rs.reverse)
    | l =>
      Reading.giveBack l
      pure (.simple first assignments.reverse words.reverse rs.reverse)

end

/-- Reads the commands up to the end of the line; nothing at the end of the script. -/
def commandLine (fuel : Nat) (c : Option Command) : Reading (Option Command) :=
  match fuel with
  | 0 => pure c
  | fuel + 1 => do
    let l ← lexeme fuel .command
    match l with
    | .lineEnd =>
      Reading.passDocuments
      pure (some (c.getD .nothing))
    | .scriptEnd =>
      Reading.giveBack l
      pure c
    | l =>
      Reading.giveBack l
      let d ← andOr fuel
      let e := match c with
        | none => d
        | some c => joined c d
      match ← lexeme fuel .command with
      | .operator ['&'] =>
        commandLine fuel (some (match c with
          | none => .background d
          | some c => joined c (.background d)))
      | .operator [';'] => commandLine fuel (some e)
      | .lineEnd =>
        Reading.passDocuments
        pure (some e)
      | .scriptEnd =>
        Reading.giveBack .scriptEnd
        pure (some e)
      | l => Reading.unexpected l none

/-- Reads the next command line of a script; absent at its end. -/
def nextCommand : Reading (Option Command) := do commandLine (← get).fuel none

/-- The word that a text is when its parameters and outputs are to be put in their place. -/
def textWord (aliases : List (Bytes × Bytes)) (text : Bytes) : Except SyntaxError Word := do
  let source := Source.ofText aliases text
  let (w, _) ← (parts source.fuel .document).run source
  pure w

end Scratchpad.Shell
