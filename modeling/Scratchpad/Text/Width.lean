import Scratchpad.Text.Offset
import Scratchpad.Text.Width.Table

/-!
# Columns of a terminal

`width` counts the columns that a text takes on a terminal. Most characters count for themselves.
What a character counts can depend on what follows it: a selector turns a sign into an emoji, a
joiner ties emoji together, some letters share one shape. So a text is read from its end, and a
`Shape` with the selectors in front of it says what the reading so far begins with.
-/

namespace Scratchpad.Text

/-- A letter that shares one shape with a letter before it. -/
inductive Ligature where
  | lamed
  | ya
  /-- A vowel sign before a joiner and the letter ya. -/
  | vowelYa
  | tifinagh
  /-- A joining sign before a consonant of the script Tifinagh. -/
  | tifinaghJoiner
  | lisuLowTone
  | orkhonI
  /-- A consonant that Khmer writes below the line after the sign coeng. -/
  | coengLetter
  deriving DecidableEq, Repr

/-- What a text begins with, as far as it matters to the character before it. -/
inductive Shape where
  /-- Nothing that acts on the character before. -/
  | plain
  | lineFeed
  | skinTone
  /-- One regional indicator. -/
  | indicator
  /-- Two or more regional indicators. -/
  | indicators
  | emoji
  /-- A joiner before an emoji. -/
  | joinedEmoji
  /-- An enclosing keycap, then a joiner before an emoji. -/
  | joinedKeycap
  /-- One regional indicator, then a joiner before an emoji. -/
  | joinedIndicator
  /-- An even number of regional indicators, then a joiner before an emoji. -/
  | joinedFlags
  /-- An odd number of regional indicators, then a joiner before an emoji. -/
  | joinedOddFlags
  /-- The end of a tag sequence, then a joiner before an emoji. -/
  | tagEnd
  /-- One to six letters of a tag sequence before its end. -/
  | tagLetters (count : Nat)
  /-- One to three digits of a tag sequence before its end. -/
  | tagDigits (count : Nat)
  | alef
  /-- A letter that shares a shape, and whether a joiner stands before it. -/
  | ligature (l : Ligature) (joined : Bool)
  deriving DecidableEq, Repr

/-- What a text begins with: a shape, after selectors for an emoji and for plain text. -/
structure Beginning where
  shape : Shape
  emojiSelected : Bool := false
  textSelected : Bool := false
  deriving DecidableEq, Repr

/-- Whether both ways to draw `c`, as an emoji and as text, can be selected. -/
def isEmojiBase (c : Char) : Bool := emojiBaseTable.contains c

/-- Whether `c` is drawn as an emoji of its own and a selector can turn it into plain text. -/
def isTextBase (c : Char) : Bool :=
  isEmojiBase c && emojiPresentationTable.contains c && !(0x1F200 ≤ c.toNat && c.toNat ≤ 0x1F2FF)

/-- Whether `c` is a consonant that Khmer writes below the line after the sign coeng. -/
def isCoengLetter (c : Char) : Bool :=
  let n := c.toNat
  (0x1780 ≤ n && n ≤ 0x1782) || (0x1784 ≤ n && n ≤ 0x1787) || (0x1789 ≤ n && n ≤ 0x178C) ||
    (0x178E ≤ n && n ≤ 0x1793) || (0x1795 ≤ n && n ≤ 0x1798) || (0x179B ≤ n && n ≤ 0x179D) ||
    n == 0x17A0 || n == 0x17A2 || n == 0x17A7 || n == 0x17AB || n == 0x17AC || n == 0x17AF

/-- Whether `c` is a consonant of the script Tifinagh. -/
def isTifinaghConsonant (c : Char) : Bool :=
  (0x2D31 ≤ c.toNat && c.toNat ≤ 0x2D65) || c.toNat == 0x2D6F

/-- Whether `c` is a regional indicator. -/
def isIndicator (c : Char) : Bool := 0x1F1E6 ≤ c.toNat && c.toNat ≤ 0x1F1FF

/-- Whether `c` is a skin tone. -/
def isSkinTone (c : Char) : Bool := 0x1F3FB ≤ c.toNat && c.toNat ≤ 0x1F3FF

/-- Whether `c` is a letter of a tag sequence. -/
def isTagLetter (c : Char) : Bool := 0xE0061 ≤ c.toNat && c.toNat ≤ 0xE007A

/-- Whether `c` is a digit of a tag sequence. -/
def isTagDigit (c : Char) : Bool := 0xE0030 ≤ c.toNat && c.toNat ≤ 0xE0039

/-- Whether `c` is a mark without a shape of its own that keeps no ligature from forming. -/
def isInvisibleMark (c : Char) : Bool :=
  let n := c.toNat
  n == 0x34F || n == 0x17B4 || n == 0x17B5 || (0x180B ≤ n && n ≤ 0x180D) || n == 0x180F ||
    n == 0x200D || (0xFE00 ≤ n && n ≤ 0xFE0F) || (0xE0100 ≤ n && n ≤ 0xE01EF)

/-- The columns of a character that stands alone. -/
def charWidth (c : Char) : Nat :=
  if c.toNat ≤ 0xA0 then 1
  else if c.toNat == 0x17D8 then 3
  else if c.toNat == 0x17A4 then 2
  else if zeroWidthTable.contains c then 0
  else if wideTable.contains c then 2
  else 1

/-- What a text begins with if it begins with `c` and nothing after `c` changes that. -/
def shapeOf (c : Char) : Shape :=
  let n := c.toNat
  if n == 0xA then .lineFeed
  else if n < 0x80 then .plain
  else if isSkinTone c then .skinTone
  else if isIndicator c then .indicator
  else if alefTable.contains c then .alef
  else if n == 0x5DC then .ligature .lamed false
  else if isCoengLetter c then .ligature .coengLetter false
  else if n == 0x1A10 then .ligature .ya false
  else if n == 0xA4FC || n == 0xA4FD then .ligature .lisuLowTone false
  else if isTifinaghConsonant c then .ligature .tifinagh false
  else if n == 0x10C03 then .ligature .orkhonI false
  else if emojiPresentationTable.contains c then .emoji
  else .plain

namespace Shape

/-- Whether a selector in front of a shape leaves the shape in effect. -/
def keepsSelector : Shape → Bool
  | alef => true
  | ligature _ _ => true
  | _ => false

/-- Whether a shape is an emoji that a joiner ties to what stands before it. -/
def tiesEmoji : Shape → Bool
  | joinedEmoji => true
  | joinedKeycap => true
  | _ => false

end Shape

namespace Beginning

/-- A beginning without selectors. -/
def of (shape : Shape) : Beginning := ⟨shape, false, false⟩

/-- The selector for an emoji in front of a beginning. -/
def selectEmoji (b : Beginning) : Beginning :=
  if b.shape.keepsSelector then { b with emojiSelected := true }
  else if b.shape.tiesEmoji then ⟨b.shape, true, false⟩
  else ⟨.plain, true, false⟩

/-- The selector for plain text in front of a beginning. -/
def selectText (b : Beginning) : Beginning :=
  if b.shape.keepsSelector then { b with textSelected := true } else ⟨.plain, false, true⟩

/-- A beginning whose selector for an emoji has found nothing to act on. -/
def unselectEmoji (b : Beginning) : Beginning :=
  if b.shape.keepsSelector then { b with emojiSelected := false } else .of .plain

end Beginning

/-- The change in columns and the shape if `c` is drawn together with the emoji that stands after
it; absent if `c` is drawn on its own. -/
def joinEmoji? (c : Char) (after : Shape) : Option (Int × Shape) :=
  match after with
  | .skinTone =>
    if emojiModifierBaseTable.contains c then some (0, .emoji)
    else if c.toNat == 0x200D then some (0, .joinedEmoji)
    else none
  | .indicator => if isIndicator c then some (1, .indicators) else none
  | .indicators =>
    if isIndicator c then some (1, .indicators)
    else if c.toNat == 0x200D then some (0, .joinedEmoji)
    else none
  | .emoji => if c.toNat == 0x200D then some (0, .joinedEmoji) else none
  | .joinedFlags =>
    if isIndicator c then some (3, .joinedOddFlags)
    else if c.toNat == 0x200D then some (0, .joinedEmoji)
    else none
  | .joinedOddFlags =>
    if isIndicator c then some (-1, .joinedFlags)
    else if c.toNat == 0x200D then some (0, .joinedEmoji)
    else none
  | .joinedIndicator => if isIndicator c then some (-1, .joinedFlags) else none
  | .joinedEmoji =>
    if c.toNat == 0x20E3 then some (0, .joinedKeycap)
    else if isIndicator c then some (1, .joinedIndicator)
    else if isSkinTone c then some (0, .skinTone)
    else if c.toNat == 0xE007F then some (0, .tagEnd)
    else if shapeOf c = .emoji then some (0, .emoji)
    else none
  | .tagEnd =>
    if isTagLetter c then some (0, .tagLetters 1)
    else if isTagDigit c then some (0, .tagDigits 1)
    else none
  | .tagLetters n =>
    if isTagLetter c && n < 6 then some (0, .tagLetters (n + 1))
    else if isTagDigit c && n < 5 then some (0, .tagDigits 1)
    else if c.toNat == 0x1F3F4 && 3 ≤ n then some (0, .emoji)
    else none
  | .tagDigits n =>
    if isTagDigit c && n < 3 then some (0, .tagDigits (n + 1))
    else if c.toNat == 0x1F3F4 && n == 3 then some (0, .emoji)
    else none
  | _ => none

/-- The change in columns and the shape if `c` shares a shape with the letter that stands after it;
absent if it does not. -/
def joinLetter? (c : Char) (after : Shape) : Option (Int × Shape) :=
  let n := c.toNat
  match after with
  | .alef =>
    if lamTable.contains c then some (0, .plain)
    else if transparentTable.contains c then some (0, .alef)
    else none
  | .ligature .lamed true => if n == 0x5D0 then some (0, .plain) else none
  | .ligature .coengLetter _ => if n == 0x17D2 then some (-1, .plain) else none
  | .ligature .ya true => if n == 0x1A17 then some (0, .ligature .vowelYa false) else none
  | .ligature .vowelYa _ => if n == 0x1A15 then some (0, .plain) else none
  | .ligature .tifinagh joined =>
    if n == 0x2D7F then some (1, .ligature .tifinaghJoiner false)
    else if joined && isTifinaghConsonant c then some (0, .plain)
    else none
  | .ligature .tifinaghJoiner _ => if isTifinaghConsonant c then some (-1, .plain) else none
  | .ligature .lisuLowTone _ => if 0xA4F8 ≤ n && n ≤ 0xA4FB then some (0, .plain) else none
  | .ligature .orkhonI true => if n == 0x10C32 then some (0, .plain) else none
  | _ => none

/-- The columns that a character above U+00A0 adds in front of a beginning, which has no selector
for an emoji, and what the text begins with then. -/
def addSymbol (c : Char) (after : Beginning) : Int × Beginning :=
  let alone : Int × Beginning := (charWidth c, .of (shapeOf c))
  let together (after : Shape) : Int × Beginning :=
    match (joinLetter? c after).or (joinEmoji? c after) with
    | some (n, shape) => (n, .of shape)
    | none => alone
  if c.toNat == 0xFE0F then (0, after.selectEmoji)
  else if c.toNat == 0xFE0E then (0, after.selectText)
  else if after.textSelected && isTextBase c then (1, .of .plain)
  else
    match after.shape with
    | .ligature l joined =>
      if isInvisibleMark c then (0, .of (.ligature l (joined || c.toNat == 0x200D)))
      else together after.shape
    | shape => together shape

/-- The columns that `c` adds in front of a text with a beginning, and how the text begins then. A
line feed takes no column, nor does a carriage return in front of it. -/
def addWidth (c : Char) (after : Beginning) : Int × Beginning :=
  if after.emojiSelected && isEmojiBase c then
    (if after.shape.tiesEmoji then 0 else 2, .of .emoji)
  else
    let after := if after.emojiSelected then after.unselectEmoji else after
    if c.toNat ≤ 0xA0 then
      if c = '\n' then (0, .of .lineFeed)
      else if c = '\r' ∧ after.shape = .lineFeed then (0, .of .plain)
      else (1, .of .plain)
    else addSymbol c after

/-- The columns of a text and how it begins. -/
def measure (cs : List Char) : Int × Beginning :=
  cs.foldr (fun c p => let (n, s) := addWidth c p.2; (p.1 + n, s)) (0, .of .plain)

/-- The columns that a text takes on a terminal. -/
def width (cs : List Char) : Nat := (measure cs).1.toNat

@[simp] theorem width_nil : width [] = 0 := rfl

/-- The column of byte offset `n` in a line: the width of the text before it, where an offset past
the end counts as the end. An offset inside a character has column zero. -/
def displayColumn (line : List Char) (n : Nat) : Nat :=
  ((upTo? line n).map width).getD 0

end Scratchpad.Text
