import Scratchpad.Text.Blank

/-!
# The open tag

A script file begins with an open tag, and a snippet that is handed to the interpreter must not.
`stripOpenTag` takes one tag from the front of a script. A tag is a tag only if the text ends or a
blank follows; anything else is left as it is, with the blanks in front of it.
-/

namespace Scratchpad.Php

open Scratchpad.Text

/-- The characters of the open tag. -/
def openTag : List Char := ['<', '?', 'p', 'h', 'p']

/-- What follows an open tag at the very front of a text, if one stands there. -/
def afterOpenTag? (cs : List Char) : Option (List Char) :=
  if openTag.isPrefixOf cs then
    let rest := cs.drop openTag.length
    match rest with
    | [] => some rest
    | c :: _ => if isBlank c then some rest else none
  else none

/-- A script without its open tag and the blanks around it; a script without a tag is unchanged. -/
def stripOpenTag (source : List Char) : List Char :=
  match afterOpenTag? (trimStart source) with
  | some rest => trimStart rest
  | none => source

/-- A source file as the snippet that it holds. -/
def snippetOf (source : String) : String := String.ofList (stripOpenTag source.toList)

end Scratchpad.Php
