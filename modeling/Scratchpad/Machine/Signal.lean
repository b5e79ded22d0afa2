import Scratchpad.Machine.Bytes

/-!
# Signals

The signals that processes send to each other: their names, what they do to a process that did not
ask for them, and how the end of a process that one of them killed is described.
-/

namespace Scratchpad.Machine

/-- A signal, by its number. -/
abbrev Signal := Nat

namespace Signal

/-- The largest number of a signal. -/
def last : Signal := 64

/-- The signals that have names of their own, in the order of their numbers. -/
def named : List (Signal × Bytes) :=
  [(1, "HUP"), (2, "INT"), (3, "QUIT"), (4, "ILL"), (5, "TRAP"), (6, "ABRT"), (7, "BUS"),
   (8, "FPE"), (9, "KILL"), (10, "USR1"), (11, "SEGV"), (12, "USR2"), (13, "PIPE"), (14, "ALRM"),
   (15, "TERM"), (17, "CHLD"), (18, "CONT"), (19, "STOP"), (20, "TSTP"), (21, "TTIN"),
   (22, "TTOU"), (23, "URG"), (24, "XCPU"), (25, "XFSZ"), (26, "VTALRM"), (27, "PROF"),
   (28, "WINCH"), (29, "IO"), (30, "PWR"), (31, "SYS"), (34, "RTMIN"), (64, "RTMAX")].map
    fun s => (s.1, s.2.toList)

/-- The name of a signal: its own, or its distance from the nearer end of the upper range, or its
number. -/
def name (s : Signal) : Bytes :=
  match named.lookup s with
  | some n => n
  | none =>
    if 34 < s && s < 50 then "RTMIN+".toList ++ Bytes.ofNat (s - 34)
    else if 50 ≤ s && s < 64 then "RTMAX-".toList ++ Bytes.ofNat (64 - s)
    else Bytes.ofNat s

/-- The signal with a name, which may be written in small letters; zero is the signal that is never
delivered. -/
def ofName? (text : Bytes) : Option Signal :=
  (List.range (last + 1)).find? fun s => (name s).map Char.toUpper == text.map Char.toUpper

/-- The signal that a number or a name means. -/
def ofText? (text : Bytes) : Option Signal :=
  match Bytes.toNat? text with
  | some n => if n ≤ last then some n else none
  | none => ofName? text

/-- What a signal does to a process that did not ask for it. -/
inductive Effect where
  | ends
  | stops
  | resumes
  | nothing
  deriving DecidableEq, Repr

/-- The effect of a signal. -/
def effect (s : Signal) : Effect :=
  if s == 0 || s == 17 || s == 23 || s == 28 then .nothing
  else if s == 18 then .resumes
  else if s == 19 || s == 20 || s == 21 || s == 22 then .stops
  else .ends

/-- Whether a process can neither ignore nor catch a signal. -/
def isFinal (s : Signal) : Bool := s == 9 || s == 19

/-- How the end of a process that a signal killed is described. -/
def description (s : Signal) : Bytes :=
  match descriptions.lookup s with
  | some d => d.toList
  | none =>
    if 34 ≤ s && s ≤ last then "Real-time signal ".toList ++ Bytes.ofNat (s - 34)
    else "Unknown signal ".toList ++ Bytes.ofNat s
where
  descriptions : List (Signal × String) :=
    [(1, "Hangup"), (2, "Interrupt"), (3, "Quit"), (4, "Illegal instruction"),
     (5, "Trace/breakpoint trap"), (6, "Aborted"), (7, "Bus error"),
     (8, "Floating point exception"), (9, "Killed"), (10, "User defined signal 1"),
     (11, "Segmentation fault"), (12, "User defined signal 2"),
     (13, "Broken pipe"), (14, "Alarm clock"), (15, "Terminated"),
     (16, "Stack fault"), (17, "Child exited"), (18, "Continued"), (19, "Stopped (signal)"),
     (20, "Stopped"), (21, "Stopped (tty input)"), (22, "Stopped (tty output)"),
     (23, "Urgent I/O condition"), (24, "CPU time limit exceeded"),
     (25, "File size limit exceeded"), (26, "Virtual timer expired"),
     (27, "Profiling timer expired"), (28, "Window changed"), (29, "I/O possible"),
     (30, "Power failure"), (31, "Bad system call")]

end Signal

end Scratchpad.Machine
