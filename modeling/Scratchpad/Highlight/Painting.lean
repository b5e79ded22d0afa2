import Scratchpad.Highlight.Resolution
import Scratchpad.Highlight.Token

/-!
# Painting

`categories` gives every character of a text its category. The literals come first. The tokens then
colour what is left, one kind after the other, and a token that is not all plain so far colours
nothing; so no keyword is seen inside a string, a comment or the name of a variable.
-/

namespace Scratchpad.Highlight

/-- The categories from character number `pos` to the end of a text of `size` characters, when the
literals have claimed their text and all else is plain. -/
def paintLiterals (size pos : Nat) : List (Literal × Claim) → List Category
  | [] => List.replicate (size - pos) .plain
  | (l, c) :: rest =>
    List.replicate (c.start - pos) .plain ++ List.replicate c.length l.category ++
      paintLiterals size c.stop rest

/-- The category `k` for all of a run that is plain, and a run that is not plain as it is. -/
def paintRun (k : Category) (run : List Category) : List Category :=
  if run.all (· = .plain) then List.replicate run.length k else run

/-- The categories from character number `pos` on, after every claim that is all plain has been
coloured. -/
def paintClaims (k : Category) (pos : Nat) : List Claim → List Category → List Category
  | [], categories => categories
  | c :: cs, categories =>
    let rest := categories.drop (c.start - pos)
    categories.take (c.start - pos) ++ paintRun k (rest.take c.length) ++
      paintClaims k c.stop cs (rest.drop c.length)

/-- The categories after one kind of token has coloured a text. -/
def paintToken (text : List Char) (categories : List Category) (t : Token) : List Category :=
  paintClaims t.category 0 (t.claims text) categories

/-- The categories of a text when the tokens colour it in the given order. -/
def categoriesInOrder (order : List Token) (text : List Char) : List Category :=
  order.foldl (paintToken text) (paintLiterals text.length 0 (literalClaims text))

/-- The categories of the characters of a text. -/
def categories (text : List Char) : List Category := categoriesInOrder Token.all text

end Scratchpad.Highlight
