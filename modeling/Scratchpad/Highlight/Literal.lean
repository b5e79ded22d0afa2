import Scratchpad.Highlight.Category
import Scratchpad.Highlight.Claim

/-!
# Literals

A literal is a comment or a quoted string. Its opener is one or two characters, and it claims the
text through its end: a line comment up to the end of the line, a block comment through the first
closer, a string through the first quote that no backslash escapes. A block comment or a string that
is never closed claims nothing. `find?` looks for the first claim of one kind of literal.
-/

namespace Scratchpad.Highlight

/-- The kinds of comments and strings, in the order in which one opener is preferred to another. -/
inductive Literal where
  /-- A comment from two slashes to the end of the line. -/
  | slashComment
  /-- A comment from a number sign to the end of the line. -/
  | hashComment
  | blockComment
  | doubleQuoted
  | singleQuoted
  deriving DecidableEq, Repr

namespace Literal

/-- All kinds of literals, in order of preference. -/
def all : List Literal := [slashComment, hashComment, blockComment, doubleQuoted, singleQuoted]

/-- The category of the text that a literal claims. -/
def category : Literal → Category
  | slashComment => .comment
  | hashComment => .comment
  | blockComment => .comment
  | doubleQuoted => .stringLiteral
  | singleQuoted => .stringLiteral

/-- Number of characters up to the end of the line. -/
def lineLength (cs : List Char) : Nat := (cs.takeWhile (· ≠ '\n')).length

/-- Number of characters through the first closer of a block comment, if there is one. -/
def closeBlock? : List Char → Option Nat
  | [] => none
  | '*' :: '/' :: _ => some 2
  | _ :: cs => (closeBlock? cs).map (· + 1)

/-- Number of characters through the first quote `q` that is not escaped, if there is one. -/
def closeQuote? (q : Char) : List Char → Option Nat
  | [] => none
  | ['\\'] => none
  | '\\' :: _ :: cs => (closeQuote? q cs).map (· + 2)
  | c :: cs => if c = q then some 1 else (closeQuote? q cs).map (· + 1)

/-- Number of characters that a literal claims at the front of a text, if it stands there. -/
def claim? (l : Literal) (text : List Char) : Option Nat :=
  match l, text with
  | slashComment, '/' :: '/' :: rest => some (2 + lineLength rest)
  | hashComment, '#' :: rest => some (1 + lineLength rest)
  | blockComment, '/' :: '*' :: rest => (closeBlock? rest).map (2 + ·)
  | doubleQuoted, '"' :: rest => (closeQuote? '"' rest).map (1 + ·)
  | singleQuoted, '\'' :: rest => (closeQuote? '\'' rest).map (1 + ·)
  | _, _ => none

/-- The first claim of a literal in `rest`, whose first character has number `pos`. -/
def find? (l : Literal) (pos : Nat) : (rest : List Char) → Option Claim
  | [] => none
  | c :: cs =>
    match l.claim? (c :: cs) with
    | some n => some ⟨pos, n⟩
    | none => find? l (pos + 1) cs

@[simp] theorem find?_nil (l : Literal) (pos : Nat) : l.find? pos [] = none := rfl

theorem find?_cons_of_some {l : Literal} {pos n : Nat} {c : Char} {cs : List Char}
    (h : l.claim? (c :: cs) = some n) : l.find? pos (c :: cs) = some ⟨pos, n⟩ := by
  simp [find?, h]

theorem find?_cons_of_none {l : Literal} {pos : Nat} {c : Char} {cs : List Char}
    (h : l.claim? (c :: cs) = none) : l.find? pos (c :: cs) = l.find? (pos + 1) cs := by
  simp [find?, h]

end Literal

end Scratchpad.Highlight
