/-!
# Bytes as text

`decode` reads bytes as UTF-8. Bytes that belong to no character are not an error: each longest run
that begins like a character and cannot go on as one becomes one replacement character. `decode?`
is the strict reading, absent as soon as a byte belongs to no character.
-/

namespace Scratchpad.Text

/-- The character that stands for bytes that are no text. -/
def replacement : Char := '\uFFFD'

/-- Whether `b` can be a later byte of a character. -/
def isContinuation (b : UInt8) : Bool := 0x80 ≤ b && b ≤ 0xBF

/-- Whether `b` can follow the first byte `a` of a character of three bytes. The bounds leave out
characters that two bytes suffice for, and the surrogates. -/
def isSecondOfThree (a b : UInt8) : Bool :=
  if a = 0xE0 then 0xA0 ≤ b && b ≤ 0xBF
  else if a = 0xED then 0x80 ≤ b && b ≤ 0x9F
  else 0xE1 ≤ a && a ≤ 0xEF && isContinuation b

/-- Whether `b` can follow the first byte `a` of a character of four bytes. The bounds leave out
characters that three bytes suffice for, and everything past the last code point. -/
def isSecondOfFour (a b : UInt8) : Bool :=
  if a = 0xF0 then 0x90 ≤ b && b ≤ 0xBF
  else if a = 0xF4 then 0x80 ≤ b && b ≤ 0x8F
  else 0xF1 ≤ a && a ≤ 0xF3 && isContinuation b

/-- The character of one byte. -/
def oneByte (a : UInt8) : Char := Char.ofNat a.toNat

/-- The character of two bytes. -/
def twoBytes (a b : UInt8) : Char :=
  Char.ofNat ((a.toNat - 0xC0) * 0x40 + (b.toNat - 0x80))

/-- The character of three bytes. -/
def threeBytes (a b c : UInt8) : Char :=
  Char.ofNat (((a.toNat - 0xE0) * 0x40 + (b.toNat - 0x80)) * 0x40 + (c.toNat - 0x80))

/-- The character of four bytes. -/
def fourBytes (a b c d : UInt8) : Char :=
  Char.ofNat ((((a.toNat - 0xF0) * 0x40 + (b.toNat - 0x80)) * 0x40 + (c.toNat - 0x80)) * 0x40
    + (d.toNat - 0x80))

/-- What stands at the head of a byte string: a character, or a run of bytes that is none. Both come
with the bytes that follow. -/
inductive Head where
  | character (c : Char) (rest : List UInt8)
  | malformed (rest : List UInt8)

/-- What the byte `a` and the bytes after it begin with. -/
def head (a : UInt8) (rest : List UInt8) : Head :=
  if a < 0x80 then .character (oneByte a) rest
  else
    match rest with
    | [] => .malformed rest
    | b :: rest₁ =>
      if 0xC2 ≤ a && a ≤ 0xDF && isContinuation b then .character (twoBytes a b) rest₁
      else if isSecondOfThree a b then
        match rest₁ with
        | [] => .malformed rest₁
        | c :: rest₂ =>
          if isContinuation c then .character (threeBytes a b c) rest₂ else .malformed rest₁
      else if isSecondOfFour a b then
        match rest₁ with
        | [] => .malformed rest₁
        | c :: rest₂ =>
          if isContinuation c then
            match rest₂ with
            | [] => .malformed rest₂
            | d :: rest₃ =>
              if isContinuation d then .character (fourBytes a b c d) rest₃ else .malformed rest₂
          else .malformed rest₁
      else .malformed rest

/-- The bytes that follow what stands at the head. -/
def Head.rest : Head → List UInt8
  | .character _ rest => rest
  | .malformed rest => rest

/-- Something always stands at the head, so what follows is no longer than the bytes after the
first. -/
theorem length_rest_head (a : UInt8) (rest : List UInt8) :
    (head a rest).rest.length ≤ rest.length := by
  unfold head
  repeat' split
  all_goals simp only [Head.rest, List.length_cons]
  all_goals omega

/-- The text that `bytes` stand for, in front of which comes `before` in reverse. -/
def decodeOnto (before : List Char) (bytes : List UInt8) : List Char :=
  match bytes with
  | [] => before.reverse
  | a :: bytes =>
    match h : head a bytes with
    | .character c rest =>
      have : rest.length ≤ bytes.length := by
        have := length_rest_head a bytes
        rwa [h] at this
      decodeOnto (c :: before) rest
    | .malformed rest =>
      have : rest.length ≤ bytes.length := by
        have := length_rest_head a bytes
        rwa [h] at this
      decodeOnto (replacement :: before) rest
termination_by bytes.length

/-- The text that `bytes` stand for; every run of bytes that is no text becomes one replacement
character. -/
def decode (bytes : List UInt8) : List Char := decodeOnto [] bytes

/-- The strict reading of `bytes` onto `before` in reverse. -/
def decodeOnto? (before : List Char) (bytes : List UInt8) : Option (List Char) :=
  match bytes with
  | [] => some before.reverse
  | a :: bytes =>
    match h : head a bytes with
    | .character c rest =>
      have : rest.length ≤ bytes.length := by
        have := length_rest_head a bytes
        rwa [h] at this
      decodeOnto? (c :: before) rest
    | .malformed _ => none
termination_by bytes.length

/-- The text that `bytes` encode; absent if some of them belong to no character. -/
def decode? (bytes : List UInt8) : Option (List Char) := decodeOnto? [] bytes

/-- The UTF-8 form of a text. -/
def encode (cs : List Char) : List UInt8 := cs.flatMap String.utf8EncodeChar

@[simp] theorem encode_nil : encode [] = [] := rfl

@[simp] theorem encode_cons (c : Char) (cs : List Char) :
    encode (c :: cs) = String.utf8EncodeChar c ++ encode cs := rfl

@[simp] theorem encode_append (as bs : List Char) : encode (as ++ bs) = encode as ++ encode bs := by
  simp [encode]

end Scratchpad.Text
