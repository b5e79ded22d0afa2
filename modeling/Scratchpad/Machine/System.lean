import Scratchpad.Machine.Loader
import Scratchpad.Machine.Request

/-!
# Systems

Processes that share files, pipes and two streams to the outside. `perform` answers a request of a
process, or makes it wait. An open file is dropped as soon as no process has it, so a pipe can be
written to or read from as long as one of its ends is open anywhere.
-/

namespace Scratchpad.Machine

open Scratchpad.Execution

/-- What an open file is connected with. -/
inductive Channel where
  /-- A stream to the outside. -/
  | stream (s : Stream)
  /-- The end of a pipe that is read. -/
  | outlet (pipe : Nat)
  /-- The end of a pipe that is written to. -/
  | inlet (pipe : Nat)
  | file (p : Place)
  | directory
  | device (d : Device)
  deriving DecidableEq, Repr

/-- A file as it was opened. Copies of a descriptor share it, and so its position. -/
structure OpenFile where
  channel : Channel
  readable : Bool
  writable : Bool
  appends : Bool
  position : Nat
  deriving DecidableEq, Repr

/-- The bytes in a pipe: those to be read next, and later chunks, the last one first. -/
structure Pipe where
  front : Bytes
  back : List Bytes
  size : Nat
  deriving DecidableEq, Repr

namespace Pipe

/-- A pipe with nothing in it. -/
def empty : Pipe := ⟨[], [], 0⟩

/-- How many bytes a pipe holds. -/
def capacity : Nat := 65536

/-- How many bytes are written in one piece or not at all. -/
def whole : Nat := 4096

/-- Puts bytes into a pipe. -/
def put (p : Pipe) (bytes : Bytes) : Pipe := ⟨p.front, bytes :: p.back, p.size + bytes.length⟩

/-- Takes at most `n` bytes out of a pipe. -/
def take (p : Pipe) (n : Nat) : Bytes × Pipe :=
  let front := if p.front.isEmpty then p.back.reverse.flatten else p.front
  let back := if p.front.isEmpty then [] else p.back
  let got := front.take n
  (got, ⟨front.drop n, back, p.size - got.length⟩)

end Pipe

/-- A process. One that has ended stays until its parent asks for its ending. -/
structure Process where
  id : Nat
  parent : Nat
  program : Program
  ending : Option Ending
  descriptors : List (Nat × Nat)
  cwd : Place
  reactions : List (Signal × Reaction)
  caught : List Signal
  stopped : Bool

namespace Process

/-- Whether a process can go on. -/
def isReady (p : Process) : Bool := p.ending.isNone && !p.stopped

/-- What a process wants a signal to do. -/
def reaction (p : Process) (s : Signal) : Reaction := (p.reactions.lookup s).getD .usual

/-- The process with a wish about a signal. -/
def react (p : Process) (s : Signal) (r : Reaction) : Process :=
  { p with reactions := (s, r) :: p.reactions.filter fun e => e.1 != s }

/-- The lowest number, from `least` on, that is no descriptor of the process. -/
def freeDescriptor (p : Process) (least : Nat) : Nat :=
  ((List.range (p.descriptors.length + 1)).map (least + ·)).find?
    (fun d => (p.descriptors.lookup d).isNone) |>.getD least

/-- The process without a descriptor. -/
def withoutDescriptor (p : Process) (d : Nat) : Process :=
  { p with descriptors := p.descriptors.filter fun e => e.1 != d }

/-- The process with a descriptor for an open file. -/
def withDescriptor (p : Process) (d file : Nat) : Process :=
  { p with descriptors := (d, file) :: (p.withoutDescriptor d).descriptors }

/-- The descriptors from this one on are not handed to another program. -/
def firstKept : Nat := 10

end Process

/-- A system of processes. The process whose turn it is comes first. -/
structure System where
  files : FileTree
  clock : Nat
  processes : List Process
  openFiles : List (Nat × OpenFile)
  pipes : List (Nat × Pipe)
  /-- What was written to the outside, the last first. -/
  written : List Write
  nextProcess : Nat
  nextFile : Nat
  nextPipe : Nat

/-- What becomes of a process that asks for something. -/
inductive Response (r : Request) where
  | waits
  | reply (a : r.Reply) (s : System)
  /-- The process has ended or become another program. -/
  | gone (s : System)

namespace System

/-- The process that collects the children of processes that have ended. -/
def collector : Nat := 1

/-- A process by its number. -/
def process? (s : System) (id : Nat) : Option Process := s.processes.find? fun p => p.id == id

/-- The system with a process changed. -/
def update (s : System) (id : Nat) (f : Process → Process) : System :=
  { s with processes := s.processes.map fun p => if p.id == id then f p else p }

/-- The system without an open file, if no process has it any more, and without the pipe that has
lost both ends by that. -/
def released (s : System) (file : Nat) : System :=
  if s.processes.any fun p => p.descriptors.any fun d => d.2 == file then s
  else
    let files := s.openFiles.filter fun f => f.1 != file
    let pipe : Option Nat := match (s.openFiles.lookup file).map OpenFile.channel with
      | some (.inlet n) => some n
      | some (.outlet n) => some n
      | _ => none
    let isOpen (n : Nat) : Bool :=
      files.any fun f => f.2.channel == .inlet n || f.2.channel == .outlet n
    { s with
      openFiles := files
      pipes := match pipe with
        | some n => if isOpen n then s.pipes else s.pipes.filter fun q => q.1 != n
        | none => s.pipes }

/-- An open file of a process, with its number. -/
def openFile? (s : System) (p : Process) (d : Nat) : Option (Nat × OpenFile) := do
  let i ← p.descriptors.lookup d
  let f ← s.openFiles.lookup i
  some (i, f)

/-- The system with an open file changed. -/
def updateFile (s : System) (i : Nat) (f : OpenFile) : System :=
  { s with openFiles := s.openFiles.map fun e => if e.1 == i then (i, f) else e }

/-- The system with a pipe changed. -/
def updatePipe (s : System) (i : Nat) (p : Pipe) : System :=
  { s with pipes := s.pipes.map fun e => if e.1 == i then (i, p) else e }

/-- Whether a channel is open in some process. -/
def isOpen (s : System) (c : Channel) : Bool := s.openFiles.any fun f => f.2.channel == c

/-- The system with a descriptor of a process for a new open file. -/
def opened (s : System) (p : Process) (d : Nat) (f : OpenFile) : System :=
  { s with openFiles := (s.nextFile, f) :: s.openFiles, nextFile := s.nextFile + 1 }.update p.id
    fun p => p.withDescriptor d s.nextFile

/-- The signal that tells a process that one of its children has ended. -/
def childEnded : Signal := 17

/-- The system after the end of a process. Its children go to the collector, which keeps no
endings. -/
def finish (s : System) (id : Nat) (ending : Ending) : System :=
  let parent := (s.process? id).map Process.parent
  let files := ((s.process? id).map Process.descriptors).getD []
  let ended := s.processes.map fun p =>
    if p.id == id then { p with ending := some ending, descriptors := [] }
    else
      let p := if p.parent == id then { p with parent := collector } else p
      if some p.id == parent && p.reaction childEnded == .caught then
        { p with caught := p.caught ++ [childEnded] }
      else p
  files.foldl (fun s f => s.released f.2)
    { s with processes := ended.filter fun p => !(p.ending.isSome && p.parent == collector) }

/-- The system after a signal has come to a process. -/
def deliver (s : System) (p : Process) (signal : Signal) : System :=
  let s := if signal == 18 then s.update p.id fun p => { p with stopped := false } else s
  if p.ending.isSome then s
  else
    match (if signal.isFinal then .usual else p.reaction signal) with
    | .ignored => s
    | .caught => s.update p.id fun p => { p with caught := p.caught ++ [signal] }
    | .usual =>
      match signal.effect with
      | .ends => s.finish p.id (.killed signal)
      | .stops => s.update p.id fun p => { p with stopped := true }
      | .resumes => s
      | .nothing => s

/-- Reads from an open file. -/
def readFrom (s : System) (d count i : Nat) (f : OpenFile) : Response (.read d count) :=
  match f.channel with
  | .stream _ => .reply (.ok []) s
  | .inlet _ => .reply (.error .badDescriptor) s
  | .directory => .reply (.error .isDirectory) s
  | .device .zeroes => .reply (.ok (List.replicate count '\x00')) s
  | .device .full => .reply (.ok (List.replicate count '\x00')) s
  | .device _ => .reply (.ok []) s
  | .file p =>
    match s.files.node? p with
    | some (.file content _) =>
      let got := (content.drop f.position).take count
      .reply (.ok got) (s.updateFile i { f with position := f.position + got.length })
    | some (.utility _) =>
      let got := (FileTree.machineCode.drop f.position).take count
      .reply (.ok got) (s.updateFile i { f with position := f.position + got.length })
    | _ => .reply (.ok []) s
  | .outlet n =>
    match s.pipes.lookup n with
    | none => .reply (.ok []) s
    | some pipe =>
      if pipe.size = 0 && count != 0 then
        if s.isOpen (.inlet n) then .waits else .reply (.ok []) s
      else
        let (got, pipe) := pipe.take count
        .reply (.ok got) (s.updatePipe n pipe)

/-- Writes to an open file of a process. -/
def writeTo (s : System) (p : Process) (d : Nat) (bytes : Bytes) (i : Nat) (f : OpenFile) :
    Response (.write d bytes) :=
  match f.channel with
  | .stream stream =>
    .reply (.ok bytes.length) { s with written := ⟨stream, Bytes.toList bytes⟩ :: s.written }
  | .outlet _ => .reply (.error .badDescriptor) s
  | .directory => .reply (.error .badDescriptor) s
  | .device .full => .reply (.error .noSpace) s
  | .device _ => .reply (.ok bytes.length) s
  | .file place =>
    if f.appends then
      .reply (.ok bytes.length) { s with files := s.files.append place bytes }
    else
      .reply (.ok bytes.length)
        ({ s with files := s.files.overwrite place f.position bytes }.updateFile i
          { f with position := f.position + bytes.length })
  | .inlet n =>
    if !s.isOpen (.outlet n) then .reply (.error .brokenPipe) (s.deliver p 13)
    else
      match s.pipes.lookup n with
      | none => .reply (.error .brokenPipe) s
      | some pipe =>
        let room := Pipe.capacity - pipe.size
        if room = 0 || (bytes.length ≤ Pipe.whole && room < bytes.length) then .waits
        else
          let part := bytes.take room
          .reply (.ok part.length) (s.updatePipe n (pipe.put part))

/-- What a place stands for in a process: the place of a file, or what the process has open that is
none. A place that is named for a descriptor stands for what that is connected with. -/
def denoted (s : System) (p : Process) (place : Place) : Except Fault (Place ⊕ Channel) :=
  match s.files.node? place with
  | some (.device (.descriptor n)) =>
    match s.openFile? p n with
    | some (_, ⟨.file q, _, _, _, _⟩) => .ok (.inl q)
    | some (_, f) => .ok (.inr f.channel)
    | none => .error .noEntry
  | _ => .ok (.inl place)

/-- What a path leads to in a process. -/
def lookUp (s : System) (p : Process) (path : Bytes) : Except Fault Node := do
  match ← s.denoted p (← s.files.resolve p.cwd path) with
  | .inl place => .ok ((s.files.node? place).getD (.file [] false))
  | .inr .directory => .ok .directory
  | .inr (.device d) => .ok (.device d)
  | .inr _ => .ok .pipe

/-- Whether two paths lead to the same thing in a process. -/
def isSame (s : System) (p : Process) (path other : Bytes) : Bool :=
  let thing (path : Bytes) := do s.denoted p (← s.files.resolve p.cwd path)
  match thing path, thing other with
  | .ok a, .ok b => a == b
  | _, _ => false

/-- Whether what is written to a descriptor of a process may still be read from another one: both
are for one file, and its end has not been read. -/
def feeds (s : System) (p : Process) (output input : Nat) : Bool :=
  match s.openFile? p output, s.openFile? p input with
  | some (_, f), some (_, g) =>
    match f.channel, g.channel with
    | .file a, .file b =>
      let size := match s.files.node? a with
        | some (.file content _) => content.length
        | _ => 0
      a == b && decide (g.position < size)
    | _, _ => false
  | _, _ => false

/-- What a path is opened as, and the files after that. -/
def target (s : System) (p : Process) (path : Bytes) (access : Access) :
    Except Fault (Channel × FileTree) := do
  let place ←
    if access = .read then s.files.resolve p.cwd path else s.files.resolveNew p.cwd path
  match ← s.denoted p place with
  | .inr .directory => if access = .read then .ok (.directory, s.files) else .error .isDirectory
  | .inr channel => .ok (channel, s.files)
  | .inl place =>
    match s.files.node? place with
    | some .directory => if access = .read then .ok (.directory, s.files) else .error .isDirectory
    | some (.device .terminal) => .error .noDevice
    | some (.device d) => .ok (.device d, s.files)
    | _ =>
      .ok (.file place, match access with
        | .read => s.files
        | .write => s.files.truncate place
        | .append => s.files.append place []
        | .both => s.files.append place [])

/-- The names in the directory at a place, as a process finds them: of the descriptors only those
that it has, which include one for the directory itself. -/
def entriesFor (s : System) (p : Process) (place : Place) : List Bytes :=
  let reading := p.freeDescriptor 0
  (s.files.entries place).filter fun name =>
    match s.files.node? (place ++ [name]) with
    | some (.device (.descriptor n)) => n == reading || (p.descriptors.lookup n).isSome
    | _ => true

/-- A change of the files that a process asks for. -/
def changed (s : System) (r : Request) (h : r.Reply = Except Fault Unit)
    (files : Except Fault FileTree) : Response r :=
  match files with
  | .ok files => .reply (h ▸ .ok ()) { s with files }
  | .error f => .reply (h ▸ .error f) s

/-- Sends a signal to a process, or to all of them. -/
def send (s : System) (p : Process) (target : Int) (signal : Signal) :
    Except Fault Unit × System :=
  if target = 0 then (.ok (), s.processes.foldl (fun s p => s.deliver p signal) s)
  else if target = collector || target = p.parent then
    (.ok (), match s.process? p.parent with
      | some q => if target = p.parent then s.deliver q signal else s
      | none => s)
  else
    match s.processes.find? fun q => (q.id : Int) = target with
    | some q => (.ok (), s.deliver q signal)
    | none => (.error .noProcess, s)

/-- Answers a request of a process. `start` tells what a program does. -/
def perform (start : Image → Bindings → Program) (s : System) (p : Process) :
    (r : Request) → Response r
  | .read d count =>
    match s.openFile? p d with
    | some (i, f) =>
      if f.readable then s.readFrom d count i f else .reply (.error .badDescriptor) s
    | none => .reply (.error .badDescriptor) s
  | .write d bytes =>
    match s.openFile? p d with
    | some (i, f) =>
      if f.writable then s.writeTo p d bytes i f else .reply (.error .badDescriptor) s
    | none => .reply (.error .badDescriptor) s
  | .goBack d count =>
    match s.openFile? p d with
    | some (i, f) =>
      match f.channel with
      | .file _ => .reply (.ok ()) (s.updateFile i { f with position := f.position - count })
      | _ => .reply (.error .illegalSeek) s
    | none => .reply (.error .badDescriptor) s
  | .feeds output input => .reply (s.feeds p output input) s
  | .openFile path access =>
    match s.target p path access with
    | .error f => .reply (.error f) s
    | .ok (channel, files) =>
      let d := p.freeDescriptor 0
      .reply (.ok d) ({ s with files }.opened p d
        ⟨channel, access.reads, access.writes, access.appends, 0⟩)
  | .copy d target =>
    match p.descriptors.lookup d with
    | none => .reply (.error .badDescriptor) s
    | some i =>
      let t := s.update p.id fun p => p.withDescriptor target i
      .reply (.ok ()) (match p.descriptors.lookup target with
        | some old => t.released old
        | none => t)
  | .keep d =>
    match p.descriptors.lookup d with
    | none => .reply (.error .badDescriptor) s
    | some i =>
      let target := p.freeDescriptor Process.firstKept
      .reply (.ok target) (s.update p.id fun p => p.withDescriptor target i)
  | .close d =>
    match p.descriptors.lookup d with
    | none => .reply (.error .badDescriptor) s
    | some i => .reply (.ok ()) ((s.update p.id fun p => p.withoutDescriptor d).released i)
  | .pipe =>
    let n := s.nextPipe
    let a := p.freeDescriptor 0
    let s := { s with pipes := (n, .empty) :: s.pipes, nextPipe := n + 1 }.opened p a
      ⟨.outlet n, true, false, false, 0⟩
    let b := (p.withDescriptor a 0).freeDescriptor 0
    .reply (a, b) (s.opened p b ⟨.inlet n, false, true, false, 0⟩)
  | .execute path name arguments environment =>
    match Loader.load s.files p.cwd Loader.deepest path name arguments with
    | .error f => .reply f s
    | .ok image =>
      let (handed, kept) := p.descriptors.partition fun d => d.1 < Process.firstKept
      .gone (kept.foldl (fun s d => s.released d.2) (s.update p.id fun p =>
        { p with
          program := start image environment
          descriptors := handed
          reactions := p.reactions.filter fun r => r.2 == .ignored
          caught := [] }))
  | .await children waiting =>
    let mine := s.processes.filter fun q =>
      q.parent == p.id && (children.map fun ids => ids.contains q.id).getD true
    match mine.find? fun q => q.ending.isSome with
    | some q =>
      .reply (.ended q.id (q.ending.getD (.exited 0)))
        { s with processes := s.processes.filter fun r => r.id != q.id }
    | none =>
      if waiting = .untilSignal && !p.caught.isEmpty then .reply .interrupted s
      else if mine.isEmpty then .reply .noChild s
      else if waiting = .notAtAll then .reply .running s
      else .waits
  | .signal target signal =>
    let (a, s) := s.send p target signal
    .reply a s
  | .react signal reaction => .reply () (s.update p.id fun p => p.react signal reaction)
  | .reaction signal => .reply (p.reaction signal) s
  | .caught => .reply p.caught (s.update p.id fun p => { p with caught := [] })
  | .sleepUntil t => if t ≤ s.clock then .reply () s else .waits
  | .time => .reply s.clock s
  | .identity => .reply (p.id, p.parent) s
  | .enter path =>
    match s.files.resolve p.cwd path with
    | .error f => .reply (.error f) s
    | .ok place =>
      if s.files.node? place = some .directory then
        .reply (.ok ()) (s.update p.id fun p => { p with cwd := place })
      else .reply (.error .notDirectory) s
  | .here => .reply p.cwd s
  | .look path => .reply (s.lookUp p path) s
  | .isSame path other => .reply (s.isSame p path other) s
  | .entries path =>
    match s.files.resolve p.cwd path with
    | .error f => .reply (.error f) s
    | .ok place =>
      if s.files.node? place = some .directory then .reply (.ok (s.entriesFor p place)) s
      else .reply (.error .notDirectory) s
  | .makeDirectory path => s.changed _ rfl (s.files.makeDirectory p.cwd path)
  | .removeFile path => s.changed _ rfl (s.files.removeFile p.cwd path)
  | .removeDirectory path => s.changed _ rfl (s.files.removeDirectory p.cwd path)
  | .rename path target => s.changed _ rfl (s.files.rename p.cwd path target)
  | .setExecutable path executable =>
    s.changed _ rfl (s.files.setExecutable p.cwd path executable)

/-- How long a request takes, in microseconds. -/
def requestTime : Nat := 2

/-- The system with a process at the next point of its program. -/
def goOn (s : System) (id : Nat) (program : Program) : System :=
  { s with clock := s.clock + requestTime }.update id fun p => { p with program }

/-- The system after one step of a process; absent if the process has to wait. -/
def step (start : Image → Bindings → Program) (s : System) (p : Process) : Option System :=
  match p.program with
  | .exit status => some (s.finish p.id (.exited (status % 256)))
  | .fork child next =>
    let id := s.nextProcess
    let s := { s with nextProcess := id + 1 }.goOn p.id (next id)
    some { s with processes := s.processes ++
      [{ p with id, parent := p.id, program := child, caught := [] }] }
  | .ask r next =>
    match s.perform start p r with
    | .waits => none
    | .reply a s => some (s.goOn p.id (next a))
    | .gone s => some s

/-- The next time at which a sleeping process wakes. -/
def nextWaking? (s : System) : Option Nat :=
  (s.processes.filterMap fun p =>
    match p.isReady, p.program with
    | true, .ask (.sleepUntil t) _ => some t
    | _, _ => none).min?

/-- Whether nothing can come from the system any more: its main process has ended, and the streams
to the outside are closed. -/
def isOver (s : System) (main : Nat) : Bool :=
  (s.process? main).all (fun p => p.ending.isSome) &&
    !s.isOpen (.stream .standard) && !s.isOpen (.stream .error)

/-- How many steps a process takes before the others get their turn. -/
def turn : Nat := 1000

/-- Lets the processes run in turn. A process that has to wait passes its turn on; `idle` counts how
many did so since the last step, and when all have, the time jumps to the next waking. -/
def run (start : Image → Bindings → Program) (main : Nat) :
    (fuel idle steps : Nat) → System → System
  | 0, _, _, s => s
  | fuel + 1, idle, steps, s =>
    if s.isOver main then s
    else
      match s.processes with
      | [] => s
      | p :: rest =>
        if s.processes.length < idle then
          match s.nextWaking? with
          | some t => run start main fuel 0 0 { s with clock := max s.clock t }
          | none => s
        else if p.isReady && steps < turn then
          match s.step start p with
          | some s => run start main fuel 0 (steps + 1) s
          | none => run start main fuel (idle + 1) 0 { s with processes := rest ++ [p] }
        else run start main fuel (idle + 1) 0 { s with processes := rest ++ [p] }

end System

end Scratchpad.Machine
