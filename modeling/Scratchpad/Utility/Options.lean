import Scratchpad.Machine.Bytes
import Scratchpad.Text.Split

/-!
# Options of utilities

The options that a utility knows, and how they are found among its arguments. An option is a letter
behind a dash or a name behind two, and can have an argument; letters can share a dash, and a name
can be cut off as long as only one is meant.
-/

namespace Scratchpad.Utility

open Scratchpad.Machine Scratchpad.Text

/-- Whether an option has an argument. -/
inductive Argument where
  | absent
  /-- There may be one, which then stands in the same word. -/
  | optional
  | needed
  deriving DecidableEq, Repr

/-- The options that a utility knows. -/
structure Options where
  /-- The letters; a colon after a letter says that it needs an argument, and two colons that it may
  have one. -/
  letters : String
  /-- The long names, each with the letter that it stands for. -/
  names : List (String × Char)
  /-- Whether the first argument that is no option ends the options. -/
  inFront : Bool
  deriving Repr

namespace Options

/-- Options with letters and long names that can stand anywhere. -/
def among (letters : String) (names : List (String × Char)) : Options := ⟨letters, names, false⟩

/-- Options that have to stand in front of the other arguments. -/
def before (letters : String) (names : List (String × Char)) : Options := ⟨letters, names, true⟩

/-- Whether a letter has an argument; absent if it is not known. -/
def argument? (o : Options) (c : Char) : Option Argument :=
  if c = ':' then none
  else
    match o.letters.toList.dropWhile (· != c) with
    | [] => none
    | _ :: ':' :: ':' :: _ => some .optional
    | _ :: ':' :: _ => some .needed
    | _ => some .absent

/-- The letter that a long name stands for: the name may be cut off as long as only one is meant.
`text` is the name as it was written, perhaps with an argument. -/
def letterOf (o : Options) (name text : Bytes) : Except Bytes Char :=
  match o.names.find? fun n => n.1.toList = name with
  | some n => .ok n.2
  | none =>
    let all := o.names.filter fun n => name.isPrefixOf n.1.toList
    match all with
    | [] => .error ("unrecognized option '--".toList ++ text ++ ['\''])
    | n :: rest =>
      if rest.all fun m => m.2 = n.2 then .ok n.2
      else
        .error ("option '--".toList ++ text ++ "' is ambiguous; possibilities:".toList ++
          all.flatMap fun n => " '--".toList ++ n.1.toList ++ ['\''])

/-- The full form of a long name. -/
def fullName (o : Options) (name : Bytes) : Bytes :=
  match o.names.find? fun n => n.1.toList = name with
  | some n => n.1.toList
  | none => ((o.names.find? fun n => name.isPrefixOf n.1.toList).map fun n => n.1.toList).getD name

/-- What a long option, without its dashes, means; and whether it takes the next argument. -/
def long (o : Options) (text : Bytes) (next : Option Bytes) :
    Except Bytes ((Char × Bytes) × Bool) := do
  let (name, value) := match cutAt? '=' text with
    | some (n, v) => (n, some v)
    | none => (text, none)
  let c ← o.letterOf name text
  let wrong (what : String) : Except Bytes ((Char × Bytes) × Bool) :=
    .error ("option '--".toList ++ o.fullName name ++ what.toList)
  match (o.argument? c).getD .absent, value, next with
  | .absent, none, _ => .ok ((c, []), false)
  | .absent, some _, _ => wrong "' doesn't allow an argument"
  | .optional, v, _ => .ok ((c, v.getD []), false)
  | .needed, some v, _ => .ok ((c, v), false)
  | .needed, none, some v => .ok ((c, v), true)
  | .needed, none, none => wrong "' requires an argument"

/-- What a group of letters means; and whether it takes the next argument. -/
def group (o : Options) (next : Option Bytes) : Bytes → Except Bytes (List (Char × Bytes) × Bool)
  | [] => .ok ([], false)
  | c :: cs =>
    match o.argument? c with
    | none => .error ("invalid option -- '".toList ++ [c, '\''])
    | some .absent => do
      let (more, taken) ← group o next cs
      .ok ((c, []) :: more, taken)
    | some .optional => .ok ([(c, cs)], false)
    | some .needed =>
      match cs, next with
      | _ :: _, _ => .ok ([(c, cs)], false)
      | [], some v => .ok ([(c, v)], true)
      | [], none => .error ("option requires an argument -- '".toList ++ [c, '\''])

/-- The options among arguments, and the other arguments; `taken` tells whether the first argument
belongs to an option that was read. -/
def readAfter (o : Options) : (taken : Bool) → List Bytes →
    Except Bytes (List (Char × Bytes) × List Bytes)
  | _, [] => .ok ([], [])
  | true, _ :: rest => readAfter o false rest
  | false, ['-', '-'] :: rest => .ok ([], rest)
  | false, ('-' :: '-' :: name) :: rest => do
    let (first, taken) ← o.long name rest.head?
    let (more, others) ← readAfter o taken rest
    .ok (first :: more, others)
  | false, ('-' :: c :: cs) :: rest => do
    let (first, taken) ← o.group rest.head? (c :: cs)
    let (more, others) ← readAfter o taken rest
    .ok (first ++ more, others)
  | false, a :: rest =>
    if o.inFront then .ok ([], a :: rest)
    else do
      let (more, others) ← readAfter o false rest
      .ok (more, a :: others)

/-- The options among arguments, and the other arguments. -/
def read (o : Options) (args : List Bytes) : Except Bytes (List (Char × Bytes) × List Bytes) :=
  o.readAfter false args

@[simp] theorem read_nil (o : Options) : o.read [] = .ok ([], []) := by simp [read, readAfter]

@[simp] theorem read_end (o : Options) (rest : List Bytes) :
    o.read (['-', '-'] :: rest) = .ok ([], rest) := by simp [read, readAfter]

end Options

/-- The value of the last of some options with a letter. -/
def lastOf (options : List (Char × Bytes)) (c : Char) : Option Bytes :=
  ((options.filter fun o => o.1 = c).getLast?).map Prod.snd

/-- Whether an option with a letter was given. -/
def given (options : List (Char × Bytes)) (c : Char) : Bool := options.any fun o => o.1 = c

/-- Which of some letters was given last. -/
def lastAmong (options : List (Char × Bytes)) (letters : String) : Option Char :=
  ((options.filter fun o => letters.toList.contains o.1).getLast?).map Prod.fst

end Scratchpad.Utility
