import Scratchpad.Session.Basic

/-!
# Events of a session

What happens to a session: keys, pasted text, beats of a clock, and messages from the search and
from runs. `handle` takes one event. Keys mean something else while the help is shown, and before an
interpreter was found.
-/

namespace Scratchpad

open Scratchpad.Execution Scratchpad.Interpreter

/-- A key. -/
inductive Key where
  | char (c : Char)
  | enter
  | tab
  | backTab
  | backspace
  | delete
  | insert
  | left
  | right
  | up
  | down
  | home
  | toEnd
  | pageUp
  | pageDown
  | escape
  | function (number : Nat)
  deriving DecidableEq, Repr

/-- A key as it was pressed; of the keys held with it, only the control key counts. -/
structure KeyPress where
  key : Key
  control : Bool
  deriving DecidableEq, Repr

/-- Something that happens to a session. -/
inductive Event where
  | key (k : KeyPress)
  | paste (text : String)
  | tick
  /-- The search for an interpreter has come to its end. -/
  | discovered (handle : Option Handle)
  /-- A run has come to its end. -/
  | executed (result : Result)
  deriving DecidableEq, Repr

/-- What an event asks of the surroundings of a session. -/
inductive Demand where
  | nothing
  /-- The session is over. -/
  | quit
  /-- A snippet has to be run; the result comes back as an event. -/
  | execute (service : Service) (source : String)
  deriving DecidableEq, Repr

namespace Session

/-- What a key does. -/
inductive Action where
  | execute
  | clear
  | edit (e : Edit)
  | scrollUp
  | scrollDown
  | nothing
  deriving DecidableEq, Repr

/-- What a key does to the text and the result, once an interpreter was found. -/
def actionOf (k : KeyPress) : Action :=
  match k.key with
  | .char c =>
    if k.control then
      if c = 'r' then .execute else if c = 'l' then .clear else .nothing
    else .edit (.insert c)
  | .function n => if n = 5 then .execute else .nothing
  | .enter => .edit .newline
  | .tab => .edit (.insert '\t')
  | .backspace => .edit .backspace
  | .delete => .edit .delete
  | .left => .edit .left
  | .right => .edit .right
  | .up => .edit .up
  | .down => .edit .down
  | .home => .edit .home
  | .toEnd => .edit .toEnd
  | .pageUp => .scrollUp
  | .pageDown => .scrollDown
  | _ => .nothing

/-- Starts a run if one may start, and demands that it be carried out. -/
def execute (s : Session) : Session × Demand :=
  match s.beginExecution with
  | (s, some (service, source)) => (s, .execute service source)
  | (s, none) => (s, .nothing)

/-- Carries out what a key does. -/
def perform (a : Action) (s : Session) : Session × Demand :=
  match a with
  | .execute => s.execute
  | .clear => (s.clearResult, .nothing)
  | .edit e => (s.edit e, .nothing)
  | .scrollUp => (s.scrollUp, .nothing)
  | .scrollDown => (s.scrollDown, .nothing)
  | .nothing => (s, .nothing)

/-- Whether a key ends a session that has no interpreter. -/
def quitsEarly (k : KeyPress) : Bool := k.key == .char 'q' || k.key == .escape

/-- Takes a key. -/
def handleKey (k : KeyPress) (s : Session) : Session × Demand :=
  if k.control ∧ k.key = .char 'c' then (s, .quit)
  else if k.key = .function 1 then (s.toggleHelp, .nothing)
  else if s.showsHelp then
    (if k.key = .escape then s.toggleHelp else s, .nothing)
  else if s.discovery ≠ .ready then (s, if quitsEarly k then .quit else .nothing)
  else s.perform (actionOf k)

/-- Takes an event. -/
def handle (e : Event) (s : Session) : Session × Demand :=
  match e with
  | .key k => s.handleKey k
  | .paste text =>
    (if s.discovery = .ready then s.edit (.insertText text.toList) else s, .nothing)
  | .tick => (s.beat, .nothing)
  | .discovered handle => (s.finishDiscovery handle, .nothing)
  | .executed result => (s.finishExecution result, .nothing)

/-- The session after an event. -/
def after (s : Session) (e : Event) : Session := (s.handle e).1

/-- The session after a list of events. -/
def afterAll (s : Session) (es : List Event) : Session := es.foldl after s

@[simp] theorem afterAll_nil (s : Session) : s.afterAll [] = s := rfl

@[simp] theorem afterAll_cons (s : Session) (e : Event) (es : List Event) :
    s.afterAll (e :: es) = (s.after e).afterAll es := rfl

theorem afterAll_append (s : Session) (as bs : List Event) :
    s.afterAll (as ++ bs) = (s.afterAll as).afterAll bs := by
  simp [afterAll]

end Session

end Scratchpad
