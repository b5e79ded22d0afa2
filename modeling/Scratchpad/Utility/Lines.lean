import Scratchpad.Utility.Basic

/-!
# Reading lines

A source of lines reads its file as far as it has to, so that the lines of a file that never ends
can be read too.
-/

namespace Scratchpad.Utility

open Scratchpad.Machine Scratchpad.Text

/-- An open file, the character that ends its lines, what was read of it and not yet used, and
whether it is at its end. -/
structure LineSource where
  descriptor : Nat
  ending : Char
  pending : Bytes
  atEnd : Bool

/-- A line without its end, and whether it has one. -/
structure Line where
  text : Bytes
  ended : Bool
  deriving DecidableEq, Repr

namespace LineSource

/-- The source of the lines of an open file. -/
def ofDescriptor (d : Nat) (ending : Char) : LineSource := ⟨d, ending, [], false⟩

/-- The next line that was read as a whole. -/
def cut? (s : LineSource) : Option (Line × LineSource) :=
  match cutAt? s.ending s.pending with
  | some (text, rest) => some (⟨text, true⟩, { s with pending := rest })
  | none =>
    if s.atEnd && !s.pending.isEmpty then some (⟨s.pending, false⟩, { s with pending := [] })
    else none

@[simp] theorem cut?_of_nil (d : Nat) (ending : Char) :
    (ofDescriptor d ending).cut? = none := by
  simp [cut?, ofDescriptor]

/-- The source with a line in front of the others again. -/
def putBack (s : LineSource) (l : Line) : LineSource :=
  { s with pending := l.text ++ (if l.ended then [s.ending] else []) ++ s.pending }

/-- The next line; absent at the end. -/
def next (s : LineSource) : Routine (Except Fault (Option Line) × LineSource) :=
  Routine.loop Routine.patience (fun (s : LineSource) => do
    match s.cut? with
    | some (line, s) => pure (.inr (.ok (some line), s))
    | none =>
      if s.atEnd then pure (.inr (.ok none, s))
      else
        match ← Routine.ask (.read s.descriptor Routine.chunk) with
        | .ok [] => pure (.inl { s with atEnd := true })
        | .ok bytes => pure (.inl { s with pending := s.pending ++ bytes })
        | .error f => pure (.inr (.error f, s))) (fun s => (.ok none, s)) s

end LineSource

end Scratchpad.Utility
