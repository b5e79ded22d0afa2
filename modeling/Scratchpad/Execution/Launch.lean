import Scratchpad.Execution.Result
import Scratchpad.Text.Utf8

/-!
# What a started program leaves

A program that was started writes chunks of bytes to two streams and comes to an end. `output` is
the text that is kept of it: the bytes of each stream are put together and read as text on their
own, and the text of the standard output comes first, whatever the order of the writes.
-/

namespace Scratchpad.Execution

open Scratchpad.Text

/-- The two streams that a program writes to. -/
inductive Stream where
  | standard
  | error
  deriving DecidableEq, Repr

/-- A chunk of bytes, and the stream that it was written to. -/
structure Write where
  stream : Stream
  bytes : List UInt8
  deriving DecidableEq, Repr

/-- How a program came to its end. -/
inductive Ending where
  | exited (status : Nat)
  | killed (signal : Nat)
  deriving DecidableEq, Repr

/-- What an attempt to run a program leads to. -/
inductive Launch where
  /-- The program could not be started. -/
  | notStarted (cause : String)
  /-- The program was started, but what it wrote could not be collected. -/
  | notCaptured (cause : String)
  /-- The program was started and ended. -/
  | finished (writes : List Write) (ending : Ending)
  deriving DecidableEq, Repr

/-- The bytes that were written to a stream. -/
def bytesOf (stream : Stream) (writes : List Write) : List UInt8 :=
  (writes.filter fun w => w.stream = stream).flatMap Write.bytes

@[simp] theorem bytesOf_nil (stream : Stream) : bytesOf stream [] = [] := rfl

@[simp] theorem bytesOf_cons (stream : Stream) (w : Write) (writes : List Write) :
    bytesOf stream (w :: writes) =
      (if w.stream = stream then w.bytes else []) ++ bytesOf stream writes := by
  by_cases h : w.stream = stream <;> simp [bytesOf, h]

@[simp] theorem bytesOf_append (stream : Stream) (as bs : List Write) :
    bytesOf stream (as ++ bs) = bytesOf stream as ++ bytesOf stream bs := by
  simp [bytesOf]

/-- The text that is kept of what a program wrote. -/
def outputOf (writes : List Write) : String :=
  String.ofList (decode (bytesOf .standard writes) ++ decode (bytesOf .error writes))

/-- The exit code that stands for an ending; a killed program has none. -/
def Ending.exitCode : Ending → Int
  | exited status => status
  | killed _ => noExitCode

/-- The result of an attempt to run a program. -/
def Launch.result : Launch → Result
  | notStarted cause => .ofProblem (.notStarted cause)
  | notCaptured cause => .ofProblem (.notCaptured cause)
  | finished writes ending => .completed (outputOf writes) ending.exitCode

/-- Two runs with the same bytes in each stream leave the same text. -/
theorem outputOf_congr {as bs : List Write}
    (h : ∀ stream, bytesOf stream as = bytesOf stream bs) : outputOf as = outputOf bs := by
  simp [outputOf, h]

end Scratchpad.Execution
