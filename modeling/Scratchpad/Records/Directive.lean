import Scratchpad.Records.Basic
import Scratchpad.Records.Pattern
import Scratchpad.Text.Offset
import Scratchpad.Text.Split

/-!
# Directives

A directive says which records matter: it is a level, or a topic with a level after an equals sign;
between them, brackets can name a span and, in braces, a field. Its parts are found by offsets.
Blanks at the front count for the offsets of the text but not for those of the reading, so a part
can be cut inside a character; such a directive breaks the whole program off.
-/

namespace Scratchpad.Records

open Scratchpad.Text

/-- A field that a directive asks for, and whether it asks for a value of it. -/
structure FieldMatch where
  name : List Char
  hasValue : Bool
  deriving DecidableEq, Repr

/-- A directive of a filter: which records it is about, and the rank that it allows them. -/
structure Directive where
  /-- The beginning of the topics. -/
  topic : Option (List Char)
  /-- The span that the records have to be in. -/
  span : Option (List Char)
  fields : List FieldMatch
  rank : Nat
  deriving DecidableEq, Repr

/-- Why a text is no directive. -/
inductive Flaw where
  | malformed
  /-- One of its parts begins or ends inside a character. -/
  | torn
  deriving DecidableEq, Repr

namespace Directive

/-- The directive that says nothing: it keeps everything. -/
def everything : Directive := ⟨none, none, [], Severity.trace.rank⟩

/-- Where the reading of a directive stands; each part that is being read has begun at an offset. -/
inductive Stage where
  | start
  /-- In a level or a topic. -/
  | word (start : Nat)
  /-- In the name of a span. -/
  | span (start : Nat)
  | field (start : Nat)
  /-- After the fields. -/
  | fieldsEnd
  /-- After the brackets. -/
  | spanEnd
  | level (start : Nat)
  deriving DecidableEq, Repr

/-- Whether a topic can begin with `c`. -/
def beginsWord (c : Char) : Bool := c == '-' || c == ':' || c == '_' || isAlphanumeric c

/-- The field that is written as a name, or as a name and a value. What follows a second equals sign
does not count. -/
def fieldOf (text : List Char) : Except Flaw FieldMatch :=
  match text.splitOn '=' with
  | name :: value :: _ => if isFieldValue value then .ok ⟨name, true⟩ else .error .malformed
  | _ => if text.isEmpty then .error .malformed else .ok ⟨text, false⟩

/-- The part of a directive between two offsets. -/
def part (text : List Char) (start stop : Nat) : Except Flaw (List Char) :=
  match slice? text start stop with
  | some cs => .ok cs
  | none => .error .torn

/-- The rank that a word of a directive allows. -/
def rankOf (word : List Char) : Except Flaw Nat :=
  match Severity.rankOf? word with
  | some n => .ok n
  | none => .error .malformed

/-- Reads the character at an offset of a directive. What is read is taken from `text` by offsets.
-/
def step (text : List Char) (stage : Stage) (d : Directive) (offset : Nat) (c : Char) :
    Except Flaw (Stage × Directive) :=
  match stage with
  | .start =>
    if c = '[' then .ok (.span (offset + 1), d)
    else if beginsWord c then .ok (.word offset, d)
    else .error .malformed
  | .word start =>
    if c = '=' then do
      let topic ← part text start offset
      .ok (.level (offset + 1), { d with topic := some topic })
    else if c = '[' then do
      let topic ← part text start offset
      .ok (.span (offset + 1), { d with topic := some topic })
    else .ok (stage, d)
  | .span start =>
    if c = ']' then do
      let span ← part text start offset
      .ok (.spanEnd, { d with span := some span })
    else if c = '\x7b' then do
      let span ← part text start offset
      .ok (.field (offset + 1), { d with span := if span.isEmpty then none else some span })
    else .ok (stage, d)
  | .field start =>
    if c = '\x7d' then do
      let field ← fieldOf (← part text start offset)
      .ok (.fieldsEnd, { d with fields := d.fields ++ [field] })
    else .ok (stage, d)
  | .fieldsEnd => if c = ']' then .ok (.spanEnd, d) else .error .malformed
  | .spanEnd => if c = '=' then .ok (.level (offset + 1), d) else .error .malformed
  | .level _ => .ok (stage, d)

/-- What was read of a directive when its end is reached. -/
def finish (text : List Char) (stage : Stage) (d : Directive) : Except Flaw Directive :=
  match stage with
  | .word start => do
    let word ← part text start (byteLength text)
    match Severity.rankOf? word with
    | some n => .ok { d with rank := n, topic := none }
    | none => .ok { d with topic := some word }
  | .level start => do
    let word ← part text start (byteLength text)
    if word.isEmpty then .ok d else .ok { d with rank := (← rankOf word) }
  | .spanEnd => .ok d
  | _ => .error .malformed

/-- Reads the rest of a directive from an offset on. -/
def readFrom (text : List Char) (stage : Stage) (d : Directive) (offset : Nat) :
    List Char → Except Flaw Directive
  | [] => finish text stage d
  | c :: cs => do
    let (stage, d) ← step text stage d offset c
    readFrom text stage d (offset + c.utf8Size) cs

/-- The directive that a text stands for. The blanks around it are passed over, but offsets count
from its first character that is read. -/
def ofText (text : List Char) : Except Flaw Directive :=
  readFrom text .start .everything 0 (trim text)

/-- Whether a directive is about records outside of all spans. -/
def isStatic (d : Directive) : Bool := d.span.isNone && !d.fields.any FieldMatch.hasValue

/-- Whether a directive is about a record. -/
def isAbout (d : Directive) (r : Record) : Bool :=
  d.topic.all (fun topic => topic.isPrefixOf r.topic.toList) &&
    d.fields.all fun f => r.fields.contains (String.ofList f.name)

/-- The length of the topic of a directive; no topic at all is the shortest. -/
def topicLength (d : Directive) : Nat :=
  (d.topic.map fun topic => byteLength topic + 1).getD 0

/-- Whether a directive decides before another one that comes earlier. What counts first is the
length of the topic, then the number of fields, and then the order of their names. -/
def isMoreSpecial (d e : Directive) : Bool :=
  let names (d : Directive) : List (List Char) := d.fields.map FieldMatch.name
  if d.topicLength ≠ e.topicLength then e.topicLength < d.topicLength
  else if d.fields.length ≠ e.fields.length then e.fields.length < d.fields.length
  else !List.lex (names d) (names e) fun a b => List.lex a b fun c c' => c < c'

end Directive

end Scratchpad.Records
