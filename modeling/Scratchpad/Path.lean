import Scratchpad.Text.Split

/-!
# Paths

A path is a text with slashes between its parts. Two paths name the same place whatever number of
slashes stands between the parts and whether the last part is followed by one; a part that is a
single dot counts only at the front of a path.
-/

namespace Scratchpad.Path

open Scratchpad.Text

/-- Whether a path starts at the root. -/
def isAbsolute (path : List Char) : Bool := path.head? = some '/'

/-- The parts of a path, without empty ones and without single dots. -/
def parts (path : List Char) : List (List Char) :=
  (path.splitOn '/').filter fun p => p != [] && p != ['.']

/-- Whether the first part of a path is a single dot. -/
def startsWithDot (path : List Char) : Bool := (path.splitOn '/').head? = some ['.']

/-- Whether two paths are written with the same parts. -/
def same (a b : List Char) : Bool :=
  isAbsolute a == isAbsolute b && startsWithDot a == startsWithDot b && parts a == parts b

/-- A path continued with one more part; no slash is put after a path that ends in one, nor before
the first part. -/
def join (path part : List Char) : List Char :=
  if path.isEmpty || path.getLast? = some '/' then path ++ part else path ++ '/' :: part

@[simp] theorem join_nil (part : List Char) : join [] part = part := rfl

/-- Every path has the same parts as itself. -/
@[simp] theorem same_self (path : List Char) : same path path = true := by simp [same]

end Scratchpad.Path
