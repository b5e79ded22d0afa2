import Scratchpad.Highlight.Category
import Scratchpad.Highlight.Claim
import Scratchpad.Php.Vocabulary
import Scratchpad.Text.WordCharacter

/-!
# Tokens

A token is a number, a variable, a keyword or a constant. A number, a keyword or a constant has to
be a whole word, so whether one stands at a place depends on the character before it. A number may
go on after a point, if digits follow and the word ends with them. `claims` lists the tokens of one
kind from left to right; each is looked for after the end of the one before.
-/

namespace Scratchpad.Highlight

open Scratchpad.Text

/-- The kinds of tokens, in the order in which they colour a text. -/
inductive Token where
  | number
  | variableName
  | keyword
  | constant
  deriving DecidableEq, Repr

namespace Token

/-- All kinds of tokens, in order. -/
def all : List Token := [number, variableName, keyword, constant]

/-- The category of the text that a token claims. -/
def category : Token → Category
  | number => .number
  | variableName => .variableName
  | keyword => .keyword
  | constant => .constant

/-- Number of ASCII digits at the front of a text. -/
def digitsLength (text : List Char) : Nat := (text.takeWhile Char.isDigit).length

/-- Number of characters in a point and the digits after it, if they stand at the front. -/
def fractionLength? : List Char → Option Nat
  | '.' :: rest => if digitsLength rest = 0 then none else some (1 + digitsLength rest)
  | _ => none

/-- Whether a word ends before `text`. -/
def wordEndsBefore (text : List Char) : Bool := !wordGoesOn text.head?

/-- Number of characters in the number at the front of a text: digits with a fraction if the word
ends after it, or else digits if the word ends after them. -/
def numberLength? (text : List Char) : Option Nat :=
  let whole := digitsLength text
  if whole = 0 then none
  else
    let rest := text.drop whole
    match fractionLength? rest with
    | some n =>
      if wordEndsBefore (rest.drop n) then some (whole + n)
      else if wordEndsBefore rest then some whole
      else none
    | none => if wordEndsBefore rest then some whole else none

/-- Whether the name of a variable can begin with `c`. -/
def isNameStart (c : Char) : Bool := c.isAlpha || c == '_'

/-- Whether the name of a variable can go on with `c`. -/
def isNamePart (c : Char) : Bool := c.isAlphanum || c == '_'

/-- Number of characters in the variable at the front of a text. -/
def variableLength? : List Char → Option Nat
  | '$' :: c :: rest =>
    if isNameStart c then some (2 + (rest.takeWhile isNamePart).length) else none
  | _ => none

/-- Number of characters in the first entry of `vocabulary` that is a whole word at the front of a
text. -/
def wordLength? (vocabulary : List (List Char)) (text : List Char) : Option Nat :=
  vocabulary.findSome? fun w =>
    if w.isPrefixOf text && wordEndsBefore (text.drop w.length) then some w.length else none

/-- Number of characters that a token claims at the front of a text, if it stands there; `before` is
the character in front of the text. -/
def claim? (t : Token) (before : Option Char) (text : List Char) : Option Nat :=
  match t with
  | number => if wordGoesOn before then none else numberLength? text
  | variableName => variableLength? text
  | keyword => if wordGoesOn before then none else wordLength? Php.keywords text
  | constant => if wordGoesOn before then none else wordLength? Php.constants text

/-- The claims in a text whose first character has number `pos`, where the first `busy` characters
belong to an earlier claim. -/
def claimsFrom (t : Token) (before : Option Char) (pos busy : Nat) : List Char → List Claim
  | [] => []
  | c :: cs =>
    match busy with
    | k + 1 => claimsFrom t (some c) (pos + 1) k cs
    | 0 =>
      match t.claim? before (c :: cs) with
      | some n => ⟨pos, n⟩ :: claimsFrom t (some c) (pos + 1) (n - 1) cs
      | none => claimsFrom t (some c) (pos + 1) 0 cs

/-- The claims of a token in a text, from left to right. -/
def claims (t : Token) (text : List Char) : List Claim := t.claimsFrom none 0 0 text

end Token

end Scratchpad.Highlight
