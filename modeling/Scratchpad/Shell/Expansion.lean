import Scratchpad.Shell.Field
import Scratchpad.Shell.State
import Scratchpad.Text.Split

/-!
# Expansion

What a word stands for: its parameters, outputs and numbers are put in their place; then, where
fields are wanted, what was not quoted is split, and patterns become the names of the files that
they match. The output of a command is got by a function that is handed in.
-/

namespace Scratchpad.Shell

open Scratchpad.Machine Scratchpad.Text

/-- Where a tilde stands for a home directory. -/
inductive Tilde where
  | nowhere
  /-- At the start of a word. -/
  | start
  /-- At the start of a word, and after a colon. -/
  | list
  deriving DecidableEq, Repr

/-- How a word is expanded. -/
structure Manner where
  /-- Whether fields are wanted. -/
  full : Bool
  tilde : Tilde
  /-- Whether fields may end also in the text of the word itself. -/
  splits : Bool
  deriving DecidableEq, Repr

namespace Manner

/-- For the fields of a command. -/
def fields : Manner := ⟨true, .start, false⟩

/-- For one text. -/
def text : Manner := ⟨false, .start, false⟩

/-- For the value of an assignment. -/
def value : Manner := ⟨false, .list, false⟩

/-- For the text of a document. -/
def document : Manner := ⟨false, .nowhere, false⟩

/-- For a word in a parameter. -/
def inner (m : Manner) (quoted : Bool) : Manner :=
  ⟨m.full, if quoted then .nowhere else .start, !quoted⟩

end Manner

/-- The home directories of users, by their names. -/
def homes : List (Bytes × Bytes) :=
  [("root", "/root"), ("daemon", "/usr/sbin"), ("bin", "/bin"), ("nobody", "/nonexistent")].map
    fun h => (h.1.toList, h.2.toList)

namespace State

/-- The home directory of a user; the one of the shell's own if no name is given. -/
def home? (sh : State) (name : Bytes) : Option Bytes :=
  if name.isEmpty then sh.get? "HOME".toList else homes.lookup name

/-- The pieces of text without quotes, in which a tilde may stand for a home directory; `last` tells
whether the text ends its word. -/
def textPieces (sh : State) (m : Manner) (fuel : Nat) (atStart last : Bool) (cs : Bytes) :
    List Piece :=
  match fuel with
  | 0 => []
  | fuel + 1 =>
    let plain (cs : Bytes) : Piece :=
      ⟨if m.splits then .separators else .nowhere, Sign.ofText false cs⟩
    let stops (c : Char) : Bool := c == '/' || (c == ':' && m.tilde == .list)
    let goOn (cs : Bytes) : List Piece :=
      if m.tilde != .list then [plain cs]
      else
        match cutAt? ':' cs with
        | none => [plain cs]
        | some (front, rest) =>
          plain (front ++ [':']) ::
            (if rest.isEmpty then [] else sh.textPieces m fuel true last rest)
    match cs with
    | '~' :: rest =>
      let name := rest.takeWhile fun c => !stops c
      let after := rest.drop name.length
      let home := if atStart && (last || !after.isEmpty) then sh.home? name else none
      match home with
      | none => goOn cs
      | some home => ⟨.nowhere, (if home.isEmpty then [] else [.mark]) ++ Sign.ofText true home⟩ ::
          (if after.isEmpty then [] else goOn after)
    | _ => goOn cs

/-- The separator that joins all arguments to one text. -/
def joiner (sh : State) : Bytes :=
  match sh.get? "IFS".toList with
  | none => [' ']
  | some cs => cs.take 1

/-- The value of a parameter as one text; absent if it has none. -/
def value? (sh : State) (name : Bytes) : Option Bytes :=
  if name = ['@'] || name = ['*'] then some (sh.arguments.intersperse sh.joiner).flatten
  else sh.parameter? name

/-- Texts one after the other, with a border between each two. -/
def rowSigns (quoted : Bool) (texts : List Bytes) : List Sign :=
  ((texts.map (Sign.ofText quoted)).intersperse [.gap]).flatten

/-- Whether the value of a parameter is a row of texts that are kept apart: all arguments are, where
fields are wanted. -/
def isRow (sh : State) (m : Manner) (quoted : Bool) (name : Bytes) : Bool :=
  m.full && (name = ['@'] || name = ['*'] && !quoted) &&
    (quoted || (sh.get? "IFS".toList).isSome)

/-- The pieces of the value of a parameter. -/
def valuePieces (sh : State) (m : Manner) (quoted : Bool) (name : Bytes) : List Piece :=
  let all := rowSigns quoted sh.arguments
  if m.full && name = ['@'] && quoted then
    if sh.arguments.isEmpty then [] else [⟨.arguments, all⟩]
  else if m.full && (name = ['@'] || name = ['*']) && !quoted then [⟨.separators, all⟩]
  else [⟨if quoted then .nowhere else .separators, Sign.ofText quoted ((sh.value? name).getD [])⟩]

/-- The length of the value of a parameter; all arguments count with what stands between them. -/
def length? (sh : State) (name : Bytes) : Option Nat :=
  if name = ['@'] || name = ['*'] then
    let between := if name = ['*'] && sh.joiner.isEmpty then 0 else 1
    some (sh.arguments.foldr (fun a n => a.length + n) 0 + between * (sh.arguments.length - 1))
  else (sh.parameter? name).map List.length

end State

/-- The text of pieces. -/
def pieceText (ps : List Piece) : Bytes := ps.flatMap fun p => Sign.text p.signs

/-- Fails because a parameter has no value. -/
def unsetParameter {α : Type} (name : Bytes) (message : String) : Action α :=
  Action.fail (name ++ ": ".toList ++ message.toList)

mutual

/-- The pieces that a part of a word stands for. -/
def expandPart (capture : Command → Action Bytes) (m : Manner) : Part → Action (List Piece)
  | .text quoted cs => pure [⟨.nowhere, (if quoted then [.mark] else []) ++ Sign.ofText quoted cs⟩]
  | .output quoted command => do
    let out ← capture command
    let out := ((out.filter (· != '\x00')).reverse.dropWhile (· == '\n')).reverse
    pure [⟨if quoted then .nowhere else .separators, Sign.ofText quoted out⟩]
  | .number quoted expression => do
    let ps ← expandParts capture ⟨false, .nowhere, false⟩ false expression
    let text := pieceText ps
    let sh ← get
    match Arithmetic.evaluate (fun name => sh.parameter? name) text with
    | .error p => Action.fail (p.message text)
    | .ok (n, assigned) =>
      Action.forEach assigned fun a => Action.assign a.1 (Bytes.ofInt a.2)
      pure [⟨if quoted then .nowhere else .separators, Sign.ofText quoted (Bytes.ofInt n)⟩]
  | .parameter quoted name selection nonempty word => do
    let sh ← get
    let value := (sh.value? name).filter fun v => !(nonempty && v.isEmpty)
    let missing := (sh.value? name).isNone && sh.has 'u'
    match selection with
    | .unknown => Action.fail "Bad substitution".toList
    | .value =>
      if missing then unsetParameter name "parameter not set"
      else pure (sh.valuePieces m quoted name)
    | .length =>
      if missing then unsetParameter name "parameter not set"
      else
        pure [⟨if quoted then .nowhere else .separators,
          Sign.ofText quoted (Bytes.ofNat ((sh.length? name).getD 0))⟩]
    | .orElse =>
      if value.isSome then pure (sh.valuePieces m quoted name)
      else expandParts capture (m.inner quoted) true word
    | .ifSet =>
      if value.isSome then expandParts capture (m.inner quoted) true word else pure []
    | .orAssign =>
      if value.isSome then pure (sh.valuePieces m quoted name)
      else do
        let ps ← expandParts capture { m.inner quoted with full := false } true word
        Action.assign name (pieceText ps)
        pure ((← get).valuePieces m quoted name)
    | .orFail =>
      if value.isSome then pure (sh.valuePieces m quoted name)
      else if word.isEmpty then
        unsetParameter name
          (if nonempty then "parameter not set or null" else "parameter not set")
      else do
        let ps ← expandParts capture { m.inner quoted with full := false } true word
        Action.fail (name ++ ": ".toList ++ pieceText ps)
    | .without atEnd longest =>
      if missing then unsetParameter name "parameter not set"
      else do
        let ps ← expandParts capture ⟨false, .start, false⟩ true word
        let gs := Sign.glob (ps.flatMap Piece.signs)
        if sh.isRow m quoted name then
          let drop := if atEnd then Glob.dropEndOfRow else Glob.dropStartOfRow
          let row := drop longest gs sh.arguments
          pure [⟨if !quoted then .separators else if row.isEmpty then .nowhere else .arguments,
            State.rowSigns quoted row⟩]
        else
          let v := (sh.value? name).getD []
          pure [⟨if quoted then .nowhere else .separators, Sign.ofText quoted
            ((if atEnd then Glob.dropEnd else Glob.dropStart) longest gs v)⟩]

/-- The pieces that the parts of a word stand for; `atStart` tells whether a tilde at their start
may stand for a home directory. -/
def expandParts (capture : Command → Action Bytes) (m : Manner) (atStart : Bool) :
    List Part → Action (List Piece)
  | [] => pure []
  | .text false cs :: rest => do
    let sh ← get
    let here :=
      if m.tilde = .nowhere then
        [⟨if m.splits then .separators else .nowhere, Sign.ofText false cs⟩]
      else sh.textPieces m (cs.length + 1) atStart rest.isEmpty cs
    let more ← expandParts capture m (m.tilde = .list && cs.getLast? = some ':') rest
    pure (here ++ more)
  | p :: rest => do
    let here ← expandPart capture m p
    let more ← expandParts capture m false rest
    pure (here ++ more)

end

/-- The pieces that a word stands for. -/
def expandWord (capture : Command → Action Bytes) (m : Manner) (w : Word) : Action (List Piece) :=
  expandParts capture m true w

/-- The text that a word stands for, without splitting it. -/
def expandText (capture : Command → Action Bytes) (m : Manner) (w : Word) : Action Bytes := do
  pure (pieceText (← expandWord capture m w))

/-- The pattern that a word stands for. -/
def expandPattern (capture : Command → Action Bytes) (w : Word) : Action (List Glob) := do
  pure (Sign.glob ((← expandWord capture .text w).flatMap Piece.signs))

/-- The parts of a path between slashes, and the slashes after each. -/
def pathParts (signs : List Sign) : List (List Sign × Bytes) :=
  let isSlash (s : Sign) : Bool := match s with
    | .char '/' _ => true
    | _ => false
  let groups := signs.splitBy fun a b => isSlash a == isSlash b
  join groups
where
  join : List (List Sign) → List (List Sign × Bytes)
    | [] => []
    | [g] => [(g, [])]
    | g :: h :: rest =>
      if (Sign.text g).head? = some '/' then ([], Sign.text g) :: join (h :: rest)
      else (g, Sign.text h) :: join rest

/-- The paths that a pattern of a path matches, after what was found of it. -/
def matching (found : Bytes) : List (List Sign × Bytes) → Action (List Bytes)
  | [] => do
    match ← Action.ask (.look found) with
    | .ok _ => pure [found]
    | .error _ => pure []
  | (part, slashes) :: rest =>
    if !Sign.isPattern part then matching (found ++ Glob.plain (Sign.glob part) ++ slashes) rest
    else do
      match ← Action.ask (.entries (if found.isEmpty then ['.'] else found)) with
      | .error _ => pure []
      | .ok names =>
        let pattern := Sign.glob part
        let hidden := pattern.head? = some (.char '.')
        let names := ((['.'] :: ['.', '.'] :: names).filter fun n =>
          (n.head? != some '.' || hidden) && Glob.fits pattern n)
        let names := names.mergeSort fun a b => !(b < a)
        let hits ← Action.collect names fun n => matching (found ++ n ++ slashes) rest
        pure hits.flatten

/-- The texts that a field stands for: the names of the files that it matches, if it is a pattern
and matches any, and else itself. -/
def fileNames (field : List Sign) : Action (List Bytes) := do
  if !Sign.isPattern field || (← get).has 'f' then pure [Sign.text field]
  else
    match ← matching [] (pathParts field) with
    | [] => pure [Sign.text field]
    | hits => pure (hits.mergeSort fun a b => !(b < a))

/-- The fields that a word stands for. -/
def expandField (capture : Command → Action Bytes) (w : Word) : Action (List Bytes) := do
  let pieces ← expandWord capture .fields w
  let names ← Action.collect (fields (← get).separators none pieces) fileNames
  pure names.flatten

/-- The fields that words stand for. -/
def expandFields (capture : Command → Action Bytes) (ws : List Word) : Action (List Bytes) := do
  pure (← Action.collect ws (expandField capture)).flatten

end Scratchpad.Shell
