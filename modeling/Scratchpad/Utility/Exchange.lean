import Scratchpad.Shell.Printf
import Scratchpad.Utility.Basic

/-!
# Exchanging characters

`tr` replaces, removes and squeezes characters. Its sets of characters are written with ranges,
classes and repetitions.
-/

namespace Scratchpad.Utility

open Scratchpad.Machine Scratchpad.Shell

/-- A class of characters. -/
inductive CharacterClass where
  | alnum | alpha | blank | cntrl | digit | graph | lower | print | punct | space | upper | xdigit
  deriving DecidableEq, Repr

namespace CharacterClass

/-- The classes by their names. -/
def named : List (Bytes × CharacterClass) :=
  [("alnum", alnum), ("alpha", alpha), ("blank", blank), ("cntrl", cntrl), ("digit", digit),
   ("graph", graph), ("lower", lower), ("print", print), ("punct", punct), ("space", space),
   ("upper", upper), ("xdigit", xdigit)].map fun p => (p.1.toList, p.2)

/-- Whether a byte is in a class. -/
def contains (k : CharacterClass) (c : Char) : Bool :=
  match k with
  | alnum => c.isAlphanum
  | alpha => c.isAlpha
  | blank => c == ' ' || c == '\t'
  | cntrl => c < ' ' || c == '\x7f'
  | digit => c.isDigit
  | graph => '!' ≤ c && c ≤ '~'
  | lower => c.isLower
  | print => ' ' ≤ c && c ≤ '~'
  | punct => '!' ≤ c && c ≤ '~' && !c.isAlphanum
  | space => c == ' ' || ('\t' ≤ c && c ≤ '\r')
  | upper => c.isUpper
  | xdigit => c.isDigit || ('a' ≤ c.toLower && c.toLower ≤ 'f')

/-- The bytes of a class, in their order. -/
def members (k : CharacterClass) : Bytes := ((List.range 256).map Char.ofNat).filter k.contains

end CharacterClass

/-- A part of a set. -/
inductive SetPart where
  | characters (cs : Bytes)
  | members (k : CharacterClass)
  /-- All that are equivalent to a character, which is itself. -/
  | equivalent (c : Char)
  /-- A character so many times, or as often as is needed. -/
  | repeated (c : Char) (times : Option Nat)
  deriving DecidableEq, Repr

/-- A text with its escapes resolved, where each character tells whether it was escaped; and whether
it ends with a lone backslash. -/
def escapedCharacters (fuel : Nat) (cs : Bytes) : List (Char × Bool) × Bool :=
  match fuel with
  | 0 => ([], false)
  | fuel + 1 =>
    let one (c : Char) (escaped : Bool) (rest : Bytes) : List (Char × Bool) × Bool :=
      let (more, lone) := escapedCharacters fuel rest
      ((c, escaped) :: more, lone)
    match cs with
    | [] => ([], false)
    | ['\\'] => ([('\\', false)], true)
    | '\\' :: d :: rest =>
      let digits := ((d :: rest).take 3).takeWhile isOctal
      if !digits.isEmpty then
        let digits := if 255 < octalValue digits then digits.take 2 else digits
        one (octalByte digits) true ((d :: rest).drop digits.length)
      else
        match (if d = 'e' then none else controlOf? d) with
        | some c => one c true rest
        | none => one d true rest
    | c :: rest => one c false rest
where
  octalValue (digits : Bytes) : Nat :=
    digits.foldl (fun (n : Nat) (c : Char) => 8 * n + (c.toNat - '0'.toNat)) 0

/-- The text of characters up to a mark before a closing bracket, and what follows that. -/
def bracketed? (mark : Char) : List (Char × Bool) → Option (Bytes × List (Char × Bool))
  | [] => none
  | c :: rest =>
    if c = (mark, false) && rest.head? = some (']', false) then some ([], rest.drop 1)
    else (bracketed? mark rest).map fun p => (c.1 :: p.1, p.2)

/-- What a repetition says after its character and star, up to the closing bracket. -/
def repetition? (cs : List (Char × Bool)) :
    Option (Except Bytes (Option Nat) × List (Char × Bool)) :=
  let digits := cs.takeWhile fun c => c.1 != ']' || c.2
  match cs.drop digits.length with
  | [] => none
  | _ :: rest =>
    let text := digits.map Prod.fst
    if text.isEmpty then some (.ok none, rest)
    else if text.head? = some '0' && text.all isOctal then
      let n := escapedCharacters.octalValue text
      some (.ok (if n = 0 then none else some n), rest)
    else
      match Bytes.toNat? text with
      | some n => some (.ok (if n = 0 then none else some n), rest)
      | none =>
        some (.error ("invalid repeat count ".toList ++ cited text ++
          " in [c*n] construct".toList), rest)

/-- The parts of a set. -/
def setParts (fuel : Nat) (cs : List (Char × Bool)) : Except Bytes (List SetPart) :=
  match fuel with
  | 0 => .ok []
  | fuel + 1 =>
    let plain : Except Bytes (List SetPart) :=
      match cs with
      | (a, _) :: ('-', false) :: (b, _) :: rest =>
        if b < a then
          .error ("range-endpoints of '".toList ++ shown a ++ '-' :: shown b ++
            "' are in reverse collating sequence order".toList)
        else do
          let range := (List.range (b.toNat + 1 - a.toNat)).map fun i => Char.ofNat (a.toNat + i)
          .ok (.characters range :: (← setParts fuel rest))
      | (c, _) :: rest => do .ok (.characters [c] :: (← setParts fuel rest))
      | [] => .ok []
    let repetition (_ : Unit) : Except Bytes (List SetPart) :=
      match cs with
      | _ :: (c, _) :: ('*', false) :: rest =>
        match repetition? rest with
        | some (.ok times, rest) => do .ok (.repeated c times :: (← setParts fuel rest))
        | some (.error e, _) => .error e
        | none => plain
      | _ => plain
    match cs with
    | ('[', false) :: (m, false) :: rest =>
      if m = ':' || m = '=' then
        match bracketed? m rest with
        | none => repetition ()
        | some (text, after) =>
          if m = ':' then
            match text, CharacterClass.named.lookup text with
            | [], _ => .error "missing character class name '[::]'".toList
            | _, some k => do .ok (.members k :: (← setParts fuel after))
            | _, none => .error ("invalid character class ".toList ++ cited text)
          else
            match text with
            | [] => .error "missing equivalence class character '[==]'".toList
            | [c] => do .ok (.equivalent c :: (← setParts fuel after))
            | _ => .error (text ++ ": equivalence class operand must be a single character".toList)
      else repetition ()
    | ('[', false) :: _ => repetition ()
    | _ => plain
where
  shown (c : Char) : Bytes := if isShown c then [c] else escaped c

/-- The characters of a set; where a repetition is needed, it fills up to a length. -/
def setCharacters (length : Nat) (parts : List SetPart) : Bytes :=
  let fixed (p : SetPart) : Nat := match p with
    | .characters cs => cs.length
    | .members k => k.members.length
    | .equivalent _ => 1
    | .repeated _ times => times.getD 0
  let others := (parts.map fixed).foldr (· + ·) 0
  parts.flatMap fun p => match p with
    | .characters cs => cs
    | .members k => k.members
    | .equivalent c => [c]
    | .repeated c (some n) => List.replicate n c
    | .repeated c none => List.replicate (length - others) c

/-- What `tr` is to do. -/
structure Exchange where
  /-- What each byte becomes; absent if it is removed. -/
  image : Array (Option Char)
  /-- Which bytes are written only once in a row. -/
  squeezed : Array Bool

namespace Exchange

/-- A text after an exchange, the last characters first, and the character that was written last.
-/
def apply (t : Exchange) (last : Option Char) (out : Bytes) : Bytes → Bytes × Option Char
  | [] => (out, last)
  | c :: cs =>
    match (t.image[c.toNat]?).getD (some c) with
    | none => apply t last out cs
    | some d =>
      if last = some d && (t.squeezed[d.toNat]?).getD false then apply t last out cs
      else apply t (some d) (d :: out) cs

@[simp] theorem apply_nil (t : Exchange) (last : Option Char) (out : Bytes) :
    t.apply last out [] = (out, last) := rfl

end Exchange

/-- Whether the classes of letters in two sets stand at the same places, so that one case becomes
the other. What comes after the first set is not looked at. -/
def casesFit (one two : List SetPart) : Bool :=
  let places (parts : List SetPart) : Nat × List Nat :=
    parts.foldl (fun (acc : Nat × List Nat) p => match p with
      | .members .lower => (acc.1 + 26, acc.2 ++ [acc.1])
      | .members .upper => (acc.1 + 26, acc.2 ++ [acc.1])
      | p => (acc.1 + (setCharacters 0 [p]).length, acc.2)) (0, [])
  let (length, found) := places one
  (places two).2.all fun n => found.contains n || length < n

namespace SetPart

/-- Whether a part is a class of characters. -/
def isClass : SetPart → Bool
  | members _ => true
  | _ => false

/-- Whether a part is a class of letters of one case. -/
def isCase : SetPart → Bool
  | members k => k == .lower || k == .upper
  | _ => false

/-- Whether a part is a character as often as is needed. -/
def isOpen : SetPart → Bool
  | repeated _ none => true
  | _ => false

/-- Whether a part is all that are equivalent to a character. -/
def isEquivalence : SetPart → Bool
  | equivalent _ => true
  | _ => false

end SetPart

/-- What is wrong with two sets. If characters become others, those of the first set, or those that
are not in it, become those of the second one; `length` is how many they are. -/
def setsProblem? (becoming complement truncating : Bool) (length : Nat) (one two : List SetPart) :
    Option String :=
  let image := setCharacters length two
  let short := image.length < length
  if one.any SetPart.isOpen then some "the [c*] repeat construct may not appear in string1"
  else if 1 < (two.filter SetPart.isOpen).length then
    some "only one [c*] repeat construct may appear in string2"
  else if !becoming then
    if two.any SetPart.isOpen then
      some "the [c*] construct may appear in string2 only when translating"
    else none
  else if two.any SetPart.isEquivalence then
    some "[=c=] expressions may not appear in string2 when translating"
  else if two.any fun p => p.isClass && !p.isCase then
    some ("when translating, the only character classes that may appear in\n" ++
      "string2 are 'upper' and 'lower'")
  else if two.any SetPart.isCase && !complement && !casesFit one two then
    some "misaligned [:upper:] and/or [:lower:] construct"
  else if short && !truncating && image.isEmpty then
    some "when not truncating set1, string2 must be non-empty"
  else if short && !truncating && (two.getLast?).any SetPart.isClass then
    some ("when translating with string1 longer than string2,\n" ++
      "the latter string must not end with a character class")
  else if complement && one.any SetPart.isClass &&
      !((length = image.length || (short && !truncating)) && image.all (image.head? == some ·)) then
    some ("when translating with complemented character classes,\n" ++
      "string2 must map all characters in the domain to one")
  else none

/-- Replaces, removes and squeezes characters. -/
def tr (c : Call) : Routine Nat := do
  let (os, args) ← c.options (.before "cCdst"
    [("complement", 'c'), ("delete", 'd'), ("squeeze-repeats", 's'), ("truncate-set1", 't')]) 1
  let complement := given os 'c' || given os 'C'
  let deleting := given os 'd'
  let squeezing := given os 's'
  let truncating := given os 't'
  let least := if deleting == squeezing then 2 else 1
  let most := if deleting && !squeezing then 1 else 2
  if args.length < least then
    match args with
    | [] => c.misused "missing operand".toList 1
    | a :: _ =>
      c.complain ("missing operand after ".toList ++ cited a)
      let _ ← Routine.writeAll 2 (if squeezing then
        "Two strings must be given when both deleting and squeezing repeats.\n".toList
        else "Two strings must be given when translating.\n".toList)
      c.refuse 1
  else if most < args.length then
    c.complain ("extra operand ".toList ++ cited (args.getD most []))
    if args.length = 2 then
      let _ ← Routine.writeAll 2
        "Only one string may be given when deleting without squeezing repeats.\n".toList
    c.refuse 1
  else
    let parts (text : Bytes) : Routine (List SetPart) := do
      let (cs, lone) := escapedCharacters (text.length + 1) text
      if lone then
        c.complain "warning: an unescaped backslash at end of string is not portable".toList
      match setParts (cs.length + 1) cs with
      | .ok ps => pure ps
      | .error e => c.fail e 1
    let one ← parts (args.getD 0 [])
    let two ← match args with
      | [_, b] => parts b
      | _ => pure []
    let listed := setCharacters 0 one
    let all := (List.range 256).map Char.ofNat
    let set₁ := if complement then all.filter fun c => !listed.contains c else listed
    let set₂ := setCharacters set₁.length two
    let becoming := args.length = 2 && !deleting
    match setsProblem? becoming complement truncating set₁.length one two with
    | some e => c.fail e.toList 1
    | none =>
      let filled := if truncating then set₂
        else set₂ ++ List.replicate (set₁.length - set₂.length) (set₂.getLast?.getD ' ')
      let pairs := (set₁.zip filled).reverse
      let image := all.map fun c =>
        if deleting then (if set₁.contains c then none else some c)
        else if becoming then some ((pairs.lookup c).getD c)
        else some c
      let once := if !squeezing then [] else if args.length = 2 then set₂ else set₁
      let t : Exchange := ⟨image.toArray, (all.map once.contains).toArray⟩
      Routine.loop Routine.patience (fun (last : Option Char) => do
        match ← Routine.ask (.read 0 Routine.chunk) with
        | .ok [] => pure (.inr 0)
        | .ok bytes =>
          let (out, last) := t.apply last [] bytes
          c.put out.reverse
          pure (.inl last)
        | .error f => c.fail ("read error: ".toList ++ f.text.toList) 1) (fun _ => 0) none

end Scratchpad.Utility
