import Scratchpad.Editor.Buffer

/-!
# Edits

The operations on a text buffer. `Edit.run?` carries one out and is absent where the operation
would reach outside the text or into a character; `Edit.run` then leaves the buffer as it is.
-/

namespace Scratchpad

open Scratchpad.Text

/-- One operation on a text buffer. -/
inductive Edit where
  /-- Inserts a character before the cursor. -/
  | insert (c : Char)
  /-- Inserts the characters of a text, one after the other. -/
  | insertText (text : List Char)
  /-- Breaks the line at the cursor. -/
  | newline
  /-- Removes the character before the cursor, or joins the line with the one above. -/
  | backspace
  /-- Removes the character after the cursor, or joins the line with the one below. -/
  | delete
  | left
  | right
  | up
  | down
  /-- Moves to the start of the line. -/
  | home
  /-- Moves to the end of the line. -/
  | toEnd
  deriving DecidableEq, Repr

/-- The blanks that stand for a tab. -/
def tabBlanks : List Char := [' ', ' ', ' ', ' ']

namespace Editor

/-- Puts characters before the cursor, within its line. -/
def type? (e : Editor) (cs : List Char) : Option Editor :=
  e.split?.map fun p => (e.withLine (p.1 ++ cs ++ p.2)).atCol (e.col + byteLength cs)

/-- Breaks the cursor's line; the cursor goes to the start of the second part. -/
def newline? (e : Editor) : Option Editor :=
  e.split?.map fun p => (e.withLines e.row 1 [p.1, p.2]).moveTo (e.row + 1) 0

/-- Inserts one character: a line feed breaks the line, a carriage return is dropped, and a tab
becomes blanks. -/
def insert? (e : Editor) (c : Char) : Option Editor :=
  if c = '\n' then e.newline?
  else if c = '\r' then some e
  else if c = '\t' then e.type? tabBlanks
  else e.type? [c]

/-- Joins line `row + 1` to line `row`; the cursor goes to where they meet. -/
def joinBelow? (e : Editor) (row : Nat) : Option Editor :=
  e.lines[row]?.bind fun upper =>
    e.lines[row + 1]?.map fun lower =>
      (e.withLines row 2 [upper ++ lower]).moveTo row (byteLength upper)

/-- Removes the character before the cursor, or the line end before it; at the start of the text
nothing. -/
def backspace? (e : Editor) : Option Editor :=
  if 0 < e.col then
    e.split?.bind fun p =>
      p.1.getLast?.map fun c =>
        (e.withLine (p.1.dropLast ++ p.2)).atCol (e.col - c.utf8Size)
  else if 0 < e.row then e.joinBelow? (e.row - 1)
  else some e

/-- Removes the character after the cursor, or the line end after it; at the end of the text
nothing. -/
def delete? (e : Editor) : Option Editor :=
  e.split?.bind fun p =>
    match p.2 with
    | _ :: rest => some (e.withLine (p.1 ++ rest))
    | [] => if e.row + 1 < e.lines.length then e.joinBelow? e.row else some e

/-- Moves one character back, over a line end if need be. -/
def left? (e : Editor) : Option Editor :=
  if 0 < e.col then
    e.split?.bind fun p => p.1.getLast?.map fun c => e.atCol (e.col - c.utf8Size)
  else if 0 < e.row then
    e.lines[e.row - 1]?.map fun above => e.moveTo (e.row - 1) (byteLength above)
  else some e

/-- Moves one character on, over a line end if need be. -/
def right? (e : Editor) : Option Editor :=
  e.split?.map fun p =>
    match p.2 with
    | c :: _ => e.atCol (e.col + c.utf8Size)
    | [] => if e.row + 1 < e.lines.length then e.moveTo (e.row + 1) 0 else e

/-- Moves to another line, behind as many characters as the cursor has before it now, or to the end
of a shorter line. -/
def toRow? (e : Editor) (row : Nat) : Option Editor :=
  e.split?.bind fun p =>
    e.lines[row]?.map fun line => e.moveTo row (byteOffset line p.1.length)

/-- Moves one line up; in the first line nothing. -/
def up? (e : Editor) : Option Editor := if 0 < e.row then e.toRow? (e.row - 1) else some e

/-- Moves one line down; in the last line nothing. -/
def down? (e : Editor) : Option Editor :=
  if e.row + 1 < e.lines.length then e.toRow? (e.row + 1) else some e

/-- Moves to the end of the cursor's line. -/
def toEnd? (e : Editor) : Option Editor := e.line?.map fun line => e.atCol (byteLength line)

end Editor

namespace Edit

/-- Carries out an edit; absent where it would reach outside the text or into a character. -/
def run? : Edit → Editor → Option Editor
  | insert c, e => e.insert? c
  | insertText cs, e => cs.foldlM Editor.insert? e
  | newline, e => e.newline?
  | backspace, e => e.backspace?
  | delete, e => e.delete?
  | left, e => e.left?
  | right, e => e.right?
  | up, e => e.up?
  | down, e => e.down?
  | home, e => some (e.atCol 0)
  | toEnd, e => e.toEnd?

/-- Carries out an edit; one that cannot be leaves the buffer as it is. -/
def run (edit : Edit) (e : Editor) : Editor := (edit.run? e).getD e

end Edit

namespace Editor

/-- The buffer after an edit. -/
def edit (e : Editor) (step : Edit) : Editor := step.run e

/-- The buffer after a list of edits. -/
def editAll (e : Editor) (steps : List Edit) : Editor := steps.foldl edit e

@[simp] theorem editAll_nil (e : Editor) : e.editAll [] = e := rfl

@[simp] theorem editAll_cons (e : Editor) (step : Edit) (steps : List Edit) :
    e.editAll (step :: steps) = (e.edit step).editAll steps := rfl

theorem editAll_append (e : Editor) (as bs : List Edit) :
    e.editAll (as ++ bs) = (e.editAll as).editAll bs := by
  simp [editAll]

end Editor

end Scratchpad
