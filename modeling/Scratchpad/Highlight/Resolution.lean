import Scratchpad.Highlight.Literal

/-!
# Resolution of literals

A quote inside a comment opens no string, and a comment sign inside a string opens no comment: of
all literals, the one that begins first claims its text, and the search goes on at its end.
Searching all kinds afresh after every claim would read the text over and over. A `Slot` keeps the
first claim that one kind has left, and a kind is searched again only when its claim has been
overtaken; a kind that was not found at all is not searched again.
-/

namespace Scratchpad.Highlight

/-- A kind of literal with its first claim, as far as it is known. -/
structure Slot where
  literal : Literal
  found : Option Claim
  deriving DecidableEq, Repr

namespace Slot

/-- The slot for a text that has not been read yet. -/
def search (text : List Char) (l : Literal) : Slot := ⟨l, l.find? 0 text⟩

/-- The slot at position `pos`, where `rest` begins: a claim that begins earlier is replaced by the
first one in `rest`. -/
def refresh (pos : Nat) (rest : List Char) (s : Slot) : Slot :=
  match s.found with
  | none => s
  | some c => if c.start < pos then ⟨s.literal, s.literal.find? pos rest⟩ else s

/-- The claim that begins first, with its kind. Of two that begin together the earlier slot wins. -/
def earliest : List Slot → Option (Literal × Claim)
  | [] => none
  | s :: ss =>
    match s.found, earliest ss with
    | none, e => e
    | some c, none => some (s.literal, c)
    | some c, some (l, d) => if d.start < c.start then some (l, d) else some (s.literal, c)

end Slot

/-- The claims of the literals in `rest`, whose first character has number `pos`; at most `bound` of
them. -/
def resolveFrom : (bound pos : Nat) → (rest : List Char) → List Slot → List (Literal × Claim)
  | 0, _, _, _ => []
  | bound + 1, pos, rest, slots =>
    let slots := slots.map (Slot.refresh pos rest)
    match Slot.earliest slots with
    | none => []
    | some (l, c) =>
      (l, c) :: resolveFrom bound c.stop (rest.drop (c.stop - pos)) slots

/-- The claims of the literals in a text, in order. Every claim takes at least one character, so
there are no more claims than characters. -/
def literalClaims (text : List Char) : List (Literal × Claim) :=
  resolveFrom text.length 0 text (Literal.all.map (Slot.search text))

end Scratchpad.Highlight
