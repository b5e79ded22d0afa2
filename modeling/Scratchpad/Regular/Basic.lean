import Scratchpad.Machine.Bytes

/-!
# Regular expressions

A regular expression and the ways in which it matches a text from a position on. `ends` lists all of
them, greedy ones first, and `search` finds the leftmost match, and among those that start there the
longest one. Groups keep where they matched last.
-/

namespace Scratchpad

open Scratchpad.Machine

/-- The places in a text that an expression can ask for. -/
inductive Anchor where
  | textStart
  | textEnd
  | lineStart
  | lineEnd
  | wordStart
  | wordEnd
  /-- At the start or the end of a word. -/
  | wordEdge
  /-- Neither at the start nor at the end of a word. -/
  | inside
  /-- With no character of a word before it. -/
  | afterOther
  /-- With no character of a word after it. -/
  | beforeOther
  deriving DecidableEq, Repr

/-- A regular expression. -/
inductive Regular where
  | nothing
  | char (c : Char)
  | any
  /-- One of the characters in some ranges, or one that is in none of them. -/
  | set (negated : Bool) (ranges : List (Char × Char))
  | place (a : Anchor)
  | group (n : Nat) (r : Regular)
  /-- What a group matched. -/
  | same (n : Nat)
  | sequence (r s : Regular)
  | either (r s : Regular)
  | repeated (r : Regular) (least : Nat) (most : Option Nat)
  deriving Repr

namespace Regular

/-- Where matching stands: what was passed over, the last character first, what is left, and what
the groups matched. -/
structure Stand where
  passed : Bytes
  left : Bytes
  groups : List (Nat × Bytes)
  deriving DecidableEq, Repr

/-- Whether a character belongs to words. -/
def inWord (c : Char) : Bool := c.isAlphanum || c == '_'

/-- Whether two characters are the same; without regard to case if `folded`. -/
def sameChar (folded : Bool) (c d : Char) : Bool :=
  c == d || (folded && c.toLower == d.toLower)

/-- Whether a character is in one of some ranges. -/
def inRanges (folded : Bool) (ranges : List (Char × Char)) (c : Char) : Bool :=
  ranges.any fun r => (r.1 ≤ c && c ≤ r.2) ||
    (folded && ((r.1 ≤ c.toLower && c.toLower ≤ r.2) || (r.1 ≤ c.toUpper && c.toUpper ≤ r.2)))

/-- Whether a place is as an anchor asks. -/
def Anchor.holds (a : Anchor) (s : Stand) : Bool :=
  let before := s.passed.head?.any inWord
  let after := s.left.head?.any inWord
  match a with
  | .textStart => s.passed.isEmpty
  | .textEnd => s.left.isEmpty
  | .lineStart => s.passed.isEmpty || s.passed.head? == some '\n'
  | .lineEnd => s.left.isEmpty || s.left.head? == some '\n'
  | .wordStart => !before && after
  | .wordEnd => before && !after
  | .wordEdge => before != after
  | .inside => before == after
  | .afterOther => !before
  | .beforeOther => !after

/-- Passes over so many characters. -/
def Stand.advance (s : Stand) (n : Nat) : Stand :=
  { s with passed := (s.left.take n).reverse ++ s.passed, left := s.left.drop n }

@[simp] theorem Stand.advance_zero (s : Stand) : s.advance 0 = s := by simp [Stand.advance]

/-- Passes over one character that fits. -/
def Stand.one (s : Stand) (fits : Char → Bool) : List Stand :=
  match s.left with
  | c :: cs => if fits c then [{ s with passed := c :: s.passed, left := cs }] else []
  | [] => []

/-- Repeats a step, as often as possible first; a step that passes over nothing is only repeated as
often as it has to be. -/
def again (step : Stand → List Stand) : (fuel least : Nat) → Option Nat → Stand → List Stand
  | 0, _, _, s => [s]
  | fuel + 1, least, most, s =>
    let more :=
      if most = some 0 then []
      else
        (step s).flatMap fun t =>
          if t.left.length < s.left.length || 0 < least then
            again step fuel (least - 1) (most.map (· - 1)) t
          else []
    if least = 0 then more ++ [s] else more

/-- The ways in which an expression matches. -/
def ends (folded : Bool) : Regular → Stand → List Stand
  | nothing, s => [s]
  | char c, s => s.one (sameChar folded c)
  | any, s => s.one fun _ => true
  | set negated ranges, s => s.one fun c => inRanges folded ranges c != negated
  | place a, s => if Anchor.holds a s then [s] else []
  | group n r, s => (ends folded r s).map fun t =>
    let text := s.left.take (s.left.length - t.left.length)
    { t with groups := (n, text) :: t.groups.filter fun g => g.1 != n }
  | same n, s =>
    match s.groups.lookup n with
    | none => []
    | some text =>
      let here := s.left.take text.length
      if here.length = text.length && (here.zip text).all fun p => sameChar folded p.1 p.2 then
        [s.advance text.length]
      else []
  | sequence r t, s => (ends folded r s).flatMap (ends folded t)
  | either r t, s => ends folded r s ++ ends folded t s
  | repeated r least most, s => again (ends folded r) (s.left.length + least + 1) least most s

@[simp] theorem ends_nothing (folded : Bool) (s : Stand) : nothing.ends folded s = [s] := rfl

@[simp] theorem ends_sequence (folded : Bool) (r t : Regular) (s : Stand) :
    (sequence r t).ends folded s = (r.ends folded s).flatMap (t.ends folded) := rfl

/-- A match: what stands before it, its text, what follows, and what the groups matched. -/
structure Match where
  before : Bytes
  text : Bytes
  after : Bytes
  groups : List (Nat × Bytes)
  deriving DecidableEq, Repr

/-- The longest of the ways in which an expression matches, the first one of those. -/
def longest? (folded : Bool) (r : Regular) (s : Stand) : Option Stand :=
  (r.ends folded s).foldl (fun best t => match best with
    | none => some t
    | some b => if t.left.length < b.left.length then some t else some b) none

/-- The match that begins where reading stands. -/
def matchAt? (folded : Bool) (r : Regular) (s : Stand) : Option Match :=
  (r.longest? folded s).map fun t =>
    ⟨s.passed.reverse, s.left.take (s.left.length - t.left.length), t.left, t.groups⟩

/-- The first match from a place on. -/
def searchFrom? (folded : Bool) (r : Regular) (passed : Bytes) : Bytes → Option Match
  | [] => r.matchAt? folded ⟨passed, [], []⟩
  | c :: cs =>
    match r.matchAt? folded ⟨passed, c :: cs, []⟩ with
    | some m => some m
    | none => searchFrom? folded r (c :: passed) cs

/-- The first match in a text. -/
def search? (folded : Bool) (r : Regular) (text : Bytes) : Option Match :=
  r.searchFrom? folded [] text

end Regular

end Scratchpad
