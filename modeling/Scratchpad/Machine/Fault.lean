/-!
# Faults

Why a request to the machine fails, with the text and the number under which the system reports it.
-/

namespace Scratchpad.Machine

/-- Why a request fails. -/
inductive Fault where
  | notPermitted
  | noEntry
  | noProcess
  | noDevice
  | argumentsTooLong
  | notExecutableFormat
  | badDescriptor
  | noChild
  | denied
  | busy
  | alreadyThere
  | notDirectory
  | isDirectory
  | invalid
  | noSpace
  | illegalSeek
  | readOnly
  | brokenPipe
  | nameTooLong
  | notEmpty
  | tooManyLinks
  /-- A zero byte in the path of a file. -/
  | zeroByteInPath
  /-- A zero byte in the name or an argument of a program. -/
  | zeroByte
  deriving DecidableEq, Repr

namespace Fault

/-- The system's text for a fault. -/
def text : Fault → String
  | notPermitted => "Operation not permitted"
  | noEntry => "No such file or directory"
  | noProcess => "No such process"
  | noDevice => "No such device or address"
  | argumentsTooLong => "Argument list too long"
  | notExecutableFormat => "Exec format error"
  | badDescriptor => "Bad file descriptor"
  | noChild => "No child processes"
  | denied => "Permission denied"
  | busy => "Device or resource busy"
  | alreadyThere => "File exists"
  | notDirectory => "Not a directory"
  | isDirectory => "Is a directory"
  | invalid => "Invalid argument"
  | noSpace => "No space left on device"
  | illegalSeek => "Illegal seek"
  | readOnly => "Read-only file system"
  | brokenPipe => "Broken pipe"
  | nameTooLong => "File name too long"
  | notEmpty => "Directory not empty"
  | tooManyLinks => "Too many levels of symbolic links"
  | zeroByteInPath => "file name contained an unexpected NUL byte"
  | zeroByte => "nul byte found in provided data"

/-- The system's number for a fault; a zero byte is refused before the system is asked. -/
def number? : Fault → Option Nat
  | notPermitted => some 1
  | noEntry => some 2
  | noProcess => some 3
  | noDevice => some 6
  | argumentsTooLong => some 7
  | notExecutableFormat => some 8
  | badDescriptor => some 9
  | noChild => some 10
  | denied => some 13
  | busy => some 16
  | alreadyThere => some 17
  | notDirectory => some 20
  | isDirectory => some 21
  | invalid => some 22
  | noSpace => some 28
  | illegalSeek => some 29
  | readOnly => some 30
  | brokenPipe => some 32
  | nameTooLong => some 36
  | notEmpty => some 39
  | tooManyLinks => some 40
  | zeroByteInPath => none
  | zeroByte => none

/-- A fault as a cause in a report. -/
def message (f : Fault) : String :=
  match f.number? with
  | some n => f.text ++ " (os error " ++ toString n ++ ")"
  | none => f.text

end Fault

end Scratchpad.Machine
