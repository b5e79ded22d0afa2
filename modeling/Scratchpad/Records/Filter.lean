import Scratchpad.Records.Directive

/-!
# Filters

A filter is a list of directives between commas, and the most special one that is about a record
decides whether it is kept. The filter of the environment is in effect if it is well written; else
the one of the settings is, without its parts that are no directives.
-/

namespace Scratchpad.Records

open Scratchpad.Text

/-- A filter for records. -/
structure Filter where
  directives : List Directive
  deriving DecidableEq, Repr

namespace Filter

/-- The parts of a filter. -/
def parts (text : String) : List (List Char) :=
  (text.toList.splitOn ',').filter fun part => !part.isEmpty

/-- The filter that a text stands for, if all of its parts are directives; else the flaw of the
first part that is none. -/
def ofText (text : String) : Except Flaw Filter :=
  ((parts text).mapM Directive.ofText).map Filter.mk

/-- Adds what the next part of a text says to the directives and the parts that are none so far.
Nothing can be said about a part that is torn. -/
def addPart (s : List Directive × List (List Char)) (part : List Char) :
    Option (List Directive × List (List Char)) :=
  match Directive.ofText part with
  | .ok d => some (s.1 ++ [d], s.2)
  | .error .malformed => some (s.1, s.2 ++ [part])
  | .error .torn => none

/-- The filter of the parts of a text that are directives, and the other parts. -/
def ofParts? (text : String) : Option (Filter × List (List Char)) :=
  ((parts text).foldlM addPart ([], [])).map fun s => (⟨s.1⟩, s.2)

/-- The directive that decides about a record: the most special one, of two equals the later. -/
def deciding? (filter : Filter) (r : Record) : Option Directive :=
  (filter.directives.filter fun d => d.isStatic && d.isAbout r).foldl (fun best d =>
    match best with
    | some b => if d.isMoreSpecial b then some d else some b
    | none => some d) none

/-- Whether a filter keeps a record. -/
def keeps (filter : Filter) (r : Record) : Bool :=
  (filter.deciding? r).any fun d => r.severity.rank ≤ d.rank

end Filter

/-- A line in front of a report. -/
inductive Notice where
  /-- A part of a filter is no directive. -/
  | ignored (part : List Char)
  /-- A library is not there. -/
  | missingLibrary (name : List Char)
  | record (r : Record)
  deriving DecidableEq, Repr

/-- The filter in effect, and the notices about parts of it that were ignored: the one of the
environment, if it is well written, else the one of the settings. There is none if a directive is
torn. -/
def chosenFilter? (environment : Option String) (settings : String) :
    Option (Filter × List Notice) :=
  match environment.map Filter.ofText with
  | some (.ok filter) => some (filter, [])
  | some (.error .torn) => none
  | _ => (Filter.ofParts? settings).map fun f => (f.1, f.2.map .ignored)

/-- The notices about records that a filter keeps. -/
def kept (filter : Filter) (records : List Record) : List Notice :=
  (records.filter filter.keeps).map .record

@[simp] theorem kept_nil (filter : Filter) : kept filter [] = [] := rfl

end Scratchpad.Records
