import Scratchpad.Text.Grapheme.Table

/-!
# User-perceived characters

A screen cell holds what a reader takes for one character, which can be several code points: a
letter with its marks, a Hangul syllable in parts, a flag, a joined emoji. `graphemes` cuts a text
into these clusters. Whether there is a boundary between two code points depends on their classes
and on a little of what the cluster holds already, which a `Cluster` keeps.
-/

namespace Scratchpad.Text

/-- The boundary class of a code point. -/
inductive BoundaryClass where
  | carriageReturn
  | lineFeed
  | control
  | extend
  | joiner
  | regionalIndicator
  | prepend
  | spacingMark
  | hangulLeading
  /-- A Hangul vowel, or a vowel of another script that joins in the same way. -/
  | hangulVowel
  | hangulTrailing
  /-- A syllable without a final consonant. -/
  | hangulOpen
  /-- A syllable with a final consonant. -/
  | hangulClosed
  | pictograph
  | other
  deriving DecidableEq, Repr

/-- The boundary class of `c`. -/
def boundaryClass (c : Char) : BoundaryClass :=
  let n := c.toNat
  if n == 0xD then .carriageReturn
  else if n == 0xA then .lineFeed
  else if 0x20 ≤ n && n ≤ 0x7E then .other
  else if graphemeControlTable.contains c then .control
  else if n == 0x200D then .joiner
  else if graphemeExtendTable.contains c then .extend
  else if 0x1F1E6 ≤ n && n ≤ 0x1F1FF then .regionalIndicator
  else if prependTable.contains c then .prepend
  else if spacingMarkTable.contains c then .spacingMark
  else if (0x1100 ≤ n && n ≤ 0x115F) || (0xA960 ≤ n && n ≤ 0xA97C) then .hangulLeading
  else if (0x1160 ≤ n && n ≤ 0x11A7) || (0xD7B0 ≤ n && n ≤ 0xD7C6) || n == 0x16D63 ||
      (0x16D67 ≤ n && n ≤ 0x16D6A) then .hangulVowel
  else if (0x11A8 ≤ n && n ≤ 0x11FF) || (0xD7CB ≤ n && n ≤ 0xD7FB) then .hangulTrailing
  else if 0xAC00 ≤ n && n ≤ 0xD7A3 then
    if (n - 0xAC00) % 28 == 0 then .hangulOpen else .hangulClosed
  else if pictographTable.contains c then .pictograph
  else .other

/-- The code point that keeps two consonants from forming a conjunct. -/
def zeroWidthNonJoiner : Char := '\u200c'

/-- What a cluster holds so far, as far as it decides about the next boundary. -/
structure Cluster where
  /-- The class of the last code point. -/
  last : BoundaryClass
  /-- Whether it ends in a pictograph, extending code points and a joiner. -/
  joinsPictograph : Bool
  /-- Whether it ends in a pictograph and extending code points. -/
  extendsPictograph : Bool
  /-- Whether the number of regional indicators at its end is odd. -/
  oddIndicators : Bool
  /-- Whether it ends in a consonant and extending code points. -/
  afterConsonant : Bool
  /-- Whether a virama stands among those code points. -/
  linked : Bool

/-- The cluster after `c` has joined it, or that `c` begins if there is none. -/
def Cluster.add (before : Option Cluster) (c : Char) : Cluster :=
  let k := boundaryClass c
  let extending := (k == .extend && c != zeroWidthNonJoiner) || k == .joiner
  let consonant := conjunctConsonantTable.contains c
  let get (f : Cluster → Bool) : Bool := (before.map f).getD false
  { last := k
    joinsPictograph := k == .joiner && get Cluster.extendsPictograph
    extendsPictograph := k == .pictograph || (k == .extend && get Cluster.extendsPictograph)
    oddIndicators := k == .regionalIndicator && !get Cluster.oddIndicators
    afterConsonant := consonant || (extending && get Cluster.afterConsonant)
    linked := !consonant && extending && get Cluster.afterConsonant &&
      (conjunctLinkerTable.contains c || get Cluster.linked) }

/-- Whether a boundary lies between a cluster and the next code point. -/
def Cluster.endsBefore (cluster : Cluster) (c : Char) : Bool :=
  let k := boundaryClass c
  match cluster.last, k with
  | .carriageReturn, .lineFeed => false
  | .carriageReturn, _ => true
  | .lineFeed, _ => true
  | .control, _ => true
  | _, .carriageReturn => true
  | _, .lineFeed => true
  | _, .control => true
  | .hangulLeading, .hangulLeading => false
  | .hangulLeading, .hangulVowel => false
  | .hangulLeading, .hangulOpen => false
  | .hangulLeading, .hangulClosed => false
  | .hangulOpen, .hangulVowel => false
  | .hangulOpen, .hangulTrailing => false
  | .hangulVowel, .hangulVowel => false
  | .hangulVowel, .hangulTrailing => false
  | .hangulClosed, .hangulTrailing => false
  | .hangulTrailing, .hangulTrailing => false
  | _, .extend => false
  | _, .joiner => false
  | _, .spacingMark => false
  | .prepend, _ => false
  | .regionalIndicator, .regionalIndicator => !cluster.oddIndicators
  | _, .pictograph => !cluster.joinsPictograph
  | _, _ => !(cluster.linked && conjunctConsonantTable.contains c)

/-- The clusters of the text that is left, after the open cluster `held`, whose code points stand in
reverse. -/
def graphemesFrom (cluster : Option Cluster) (held : List Char) : List Char → List (List Char)
  | [] => if held.isEmpty then [] else [held.reverse]
  | c :: cs =>
    match cluster with
    | none => graphemesFrom (some (.add none c)) [c] cs
    | some k =>
      if k.endsBefore c then held.reverse :: graphemesFrom (some (.add none c)) [c] cs
      else graphemesFrom (some (.add (some k) c)) (c :: held) cs

/-- The user-perceived characters of a text, in order. -/
def graphemes (cs : List Char) : List (List Char) := graphemesFrom none [] cs

/-- The clusters joined give back what was held and what was left. -/
theorem flatten_graphemesFrom (cluster : Option Cluster) (held cs : List Char)
    (h : cluster = none → held = []) :
    (graphemesFrom cluster held cs).flatten = held.reverse ++ cs := by
  induction cs generalizing cluster held with
  | nil =>
    rw [graphemesFrom]
    cases held <;> simp
  | cons c cs ih =>
    cases cluster with
    | none => simp [graphemesFrom, ih, h rfl]
    | some k =>
      rw [graphemesFrom]
      split <;> simp [ih]

/-- The clusters joined give back the text. -/
theorem flatten_graphemes (cs : List Char) : (graphemes cs).flatten = cs := by
  simp [graphemes, flatten_graphemesFrom]

end Scratchpad.Text
