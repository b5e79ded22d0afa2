import Scratchpad.Execution.Launch
import Scratchpad.Text.Utf8

/-!
# Hosts

A host is what surrounds the program: the files that can be asked for and read, a standard input,
and other programs that can be run. A run may change the host, so it yields the next state. All
rules of the program hold on every host.
-/

namespace Scratchpad

/-- The requests that a host in a state of type `σ` answers. -/
structure Host (σ : Type) where
  /-- Whether a path leads to anything. -/
  hasEntry : σ → String → Bool
  /-- Whether a path leads to a regular file. -/
  hasFile : σ → String → Bool
  /-- The bytes of a file, or why they cannot be read. -/
  read : σ → String → Except String (List UInt8)
  /-- The bytes of the standard input. -/
  standardInput : σ → List UInt8
  /-- Runs a program with arguments to its end. -/
  launch : σ → String → List String → Execution.Launch × σ
  /-- Makes a directory and those above it, where they are missing, and tells why it cannot if it
  cannot; some of those above it can be there by then. -/
  makeDirectory : σ → String → Option String × σ
  /-- Makes a file if it is missing. -/
  makeFile : σ → String → Except String σ

namespace Host

/-- The cause that is reported for bytes that are no text. -/
def notText : String := "stream did not contain valid UTF-8"

/-- Bytes as text, or that they are none. -/
def textOf (bytes : List UInt8) : Except String String :=
  match Text.decode? bytes with
  | some cs => .ok (String.ofList cs)
  | none => .error notText

/-- The text of a file, or why it cannot be read. -/
def readText {σ : Type} (host : Host σ) (s : σ) (path : String) : Except String String :=
  (host.read s path).bind textOf

/-- The text of the standard input, or that it is none. -/
def inputText {σ : Type} (host : Host σ) (s : σ) : Except String String :=
  textOf (host.standardInput s)

end Host

end Scratchpad
