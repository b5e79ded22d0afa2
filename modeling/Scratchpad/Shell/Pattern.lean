import Scratchpad.Machine.Bytes

/-!
# Patterns

A pattern is matched against a whole text: a star stands for any text, a question mark for any
character, and brackets for one of the characters in them.
-/

namespace Scratchpad.Shell

open Scratchpad.Machine

/-- What stands between brackets. -/
inductive Member where
  | range (first last : Char)
  /-- A class of characters, by its name. -/
  | named (name : Bytes)
  deriving DecidableEq, Repr

/-- A part of a pattern. -/
inductive Glob where
  | char (c : Char)
  | anyChar
  | anyText
  | oneOf (negated : Bool) (members : List Member)
  deriving DecidableEq, Repr

namespace Glob

/-- The classes of characters. -/
def classOf? (name : Bytes) : Option (Char → Bool) :=
  (classes.find? fun c => c.1.toList = name).map Prod.snd
where
  isPunctuation (c : Char) : Bool := '!' ≤ c && c ≤ '~' && !c.isAlphanum
  isSpace (c : Char) : Bool := c == ' ' || ('\t' ≤ c && c ≤ '\r')
  classes : List (String × (Char → Bool)) :=
    [("alnum", Char.isAlphanum), ("alpha", Char.isAlpha), ("blank", fun c => c == ' ' || c == '\t'),
     ("cntrl", fun c => c < ' ' || c == '\x7f'), ("digit", Char.isDigit),
     ("graph", fun c => '!' ≤ c && c ≤ '~'), ("lower", Char.isLower),
     ("print", fun c => ' ' ≤ c && c ≤ '~'), ("punct", isPunctuation), ("space", isSpace),
     ("upper", Char.isUpper),
     ("xdigit", fun c => c.isDigit || ('a' ≤ c && c ≤ 'f') || ('A' ≤ c && c ≤ 'F'))]

/-- Whether a character belongs to what stands between brackets. -/
def Member.has (c : Char) : Member → Bool
  | .range a b => a ≤ c && c ≤ b
  | .named name => (classOf? name).any fun p => p c

/-- The name of a class of characters at the front, after its opening, and what follows it. -/
def className? (cs : List (Char × Bool)) : Option (Bytes × List (Char × Bool)) :=
  let name := (cs.takeWhile fun c => c.1.isAlpha).map Prod.fst
  match cs.drop name.length with
  | (':', _) :: (']', false) :: rest => if (classOf? name).isSome then some (name, rest) else none
  | _ => none

/-- What stands up to a closing bracket, and what follows it. Right after brackets open, a closing
one stands for itself. -/
def members (fuel : Nat) (first : Bool) (cs : List (Char × Bool)) :
    Option (List Member × List (Char × Bool)) :=
  match fuel with
  | 0 => none
  | fuel + 1 =>
    match cs with
    | [] => none
    | (']', false) :: rest =>
      if first then single ']' rest fuel else some ([], rest)
    | ('[', false) :: (':', q) :: rest =>
      match className? rest with
      | some (name, rest) => (members fuel false rest).map fun p => (.named name :: p.1, p.2)
      | none => single '[' ((':', q) :: rest) fuel
    | ('\\', false) :: (c, _) :: rest => single c rest fuel
    | (c, _) :: rest => single c rest fuel
where
  single (c : Char) (rest : List (Char × Bool)) (fuel : Nat) :
      Option (List Member × List (Char × Bool)) :=
    match fuel with
    | 0 => none
    | fuel + 1 =>
      match rest with
      | ('-', false) :: (']', false) :: _ =>
        (members fuel false rest).map fun p => (.range c c :: p.1, p.2)
      | ('-', false) :: (d, _) :: rest =>
        (members fuel false rest).map fun p => (.range c d :: p.1, p.2)
      | _ => (members fuel false rest).map fun p => (.range c c :: p.1, p.2)

/-- The pattern that characters stand for; quoted ones stand for themselves, and so does one after a
backslash. -/
def ofChars (fuel : Nat) (cs : List (Char × Bool)) : List Glob :=
  match fuel with
  | 0 => []
  | fuel + 1 =>
    match cs with
    | [] => []
    | (c, true) :: rest => .char c :: ofChars fuel rest
    | ('*', false) :: rest => .anyText :: ofChars fuel rest
    | ('?', false) :: rest => .anyChar :: ofChars fuel rest
    | ('\\', false) :: (c, _) :: rest => .char c :: ofChars fuel rest
    | ('[', false) :: rest =>
      let (negated, inner) := match rest with
        | ('!', false) :: inner => (true, inner)
        | _ => (false, rest)
      match members (2 * inner.length + 2) true inner with
      | some (ms, rest) => .oneOf negated ms :: ofChars fuel rest
      | none => .char '[' :: ofChars fuel rest
    | (c, false) :: rest => .char c :: ofChars fuel rest

/-- The pattern that characters stand for. -/
def ofText (cs : List (Char × Bool)) : List Glob := ofChars (cs.length + 1) cs

/-- Whether a pattern matches all of a text. -/
def fits : List Glob → Bytes → Bool
  | [], cs => cs.isEmpty
  | .anyText :: gs, [] => fits gs []
  | .anyText :: gs, c :: cs => fits gs (c :: cs) || fits (.anyText :: gs) cs
  | _ :: _, [] => false
  | .char d :: gs, c :: cs => c == d && fits gs cs
  | .anyChar :: gs, _ :: cs => fits gs cs
  | .oneOf negated ms :: gs, c :: cs => (ms.any (Member.has c)) != negated && fits gs cs
termination_by gs cs => gs.length + cs.length

/-- A text without the shortest, or the longest, beginning that a pattern matches. -/
def dropStart (longest : Bool) (gs : List Glob) (cs : Bytes) : Bytes :=
  let cuts := (List.range (cs.length + 1)).filter fun n => fits gs (cs.take n)
  match (if longest then cuts.getLast? else cuts.head?) with
  | some n => cs.drop n
  | none => cs

/-- A text without the shortest, or the longest, end that a pattern matches. -/
def dropEnd (longest : Bool) (gs : List Glob) (cs : Bytes) : Bytes :=
  let cuts := (List.range (cs.length + 1)).filter fun n => fits gs (cs.drop n)
  match (if longest then cuts.head? else cuts.getLast?) with
  | some n => cs.take n
  | none => cs

/-- Texts in a row without the beginning that a pattern matches: it can only be one of the first
text, and if it is the longest one and all of that, nothing is left of the others either. -/
def dropStartOfRow (longest : Bool) (gs : List Glob) : List Bytes → List Bytes
  | [] => []
  | first :: rest =>
    if longest && fits gs first then [[]] else dropStart longest gs first :: rest

/-- Texts in a row without an end that a pattern matches: nothing is left of what comes after it.
The longest end is looked for in the first text only, the shortest one from the last text on. -/
def dropEndOfRow (longest : Bool) (gs : List Glob) (texts : List Bytes) : List Bytes :=
  let hasEnd (cs : Bytes) : Bool := (List.range (cs.length + 1)).any fun n => fits gs (cs.drop n)
  let kept :=
    if longest then texts.take 1 else (texts.reverse.dropWhile fun cs => !hasEnd cs).reverse
  match kept.getLast? with
  | some cs => if hasEnd cs then kept.dropLast ++ [dropEnd longest gs cs] else texts
  | none => texts

/-- Whether a pattern has a part that does not only stand for itself. -/
def isOpen (gs : List Glob) : Bool :=
  gs.any fun g => match g with
    | .char _ => false
    | _ => true

/-- The text of a pattern in which every part only stands for itself. -/
def plain (gs : List Glob) : Bytes :=
  gs.filterMap fun g => match g with
    | .char c => some c
    | _ => none

@[simp] theorem fits_nil (cs : Bytes) : fits [] cs = cs.isEmpty := by simp [fits]

@[simp] theorem fits_char_cons (c d : Char) (gs : List Glob) (cs : Bytes) :
    fits (.char d :: gs) (c :: cs) = (c == d && fits gs cs) := by simp [fits]

end Glob

end Scratchpad.Shell
