import ChildWatch.Files.Tree
import ChildWatch.Journal.Entry
import ChildWatch.Machine.Process
import ChildWatch.Signal
import ChildWatch.Stream

/-! # The machine

A system in which children run: processes, pipes, files and a clock, all of it a value. Nothing in it
depends on chance, so a run can be told again.

* `Machine` — its state.
* `Machine.write`, `Machine.read` — what a process does with a descriptor.
* `Machine.send` — a signal for a process.
* `Machine.finish` — the end of a process. -/

namespace ChildWatch

open Machine

namespace Machine

/-- Where an open descriptor leads. -/
inductive OpenFile where
  /-- Everything written is lost, and there is nothing to read. -/
  | nothing
  /-- There are zeros to read, without end. -/
  | zeros
  /-- The reading end of a pipe. -/
  | source (pipe : Nat)
  /-- The writing end of a pipe. -/
  | target (pipe : Nat)
  /-- A stream of a child that is captured. -/
  | captured (child : Nat) (stream : Stream)
  /-- The error stream of the one who uses the machine. -/
  | console
  /-- A file, from an offset on. -/
  | stored (place : List String) (offset : Nat)

/-- A stream that is captured: what has been written to it and not been fetched, latest first, and
whether its end has been fetched. -/
structure Tap where
  child : Nat
  stream : Stream
  arrived : List (List UInt8)
  isOver : Bool

/-- What comes to the error stream of the one who uses the machine. -/
inductive Shown where
  | entry (e : Journal.Entry)
  | bytes (bs : List UInt8)

end Machine

/-- The **machine**. The clock is in nanoseconds; open files and pipes are known by their places in
their lists. -/
structure Machine where
  clock : Nat
  processes : List Process
  nextPid : Nat
  files : FileTree
  opened : Array OpenFile
  pipes : Array (List UInt8)
  taps : List Tap
  environment : Environment
  /-- How the children that the user of the machine has asked about have ended. -/
  known : List (Nat × ExitStatus)
  /-- What the user of the machine has printed, latest first. -/
  printed : List (List UInt8)
  /-- What has come to the user's error stream, latest first. -/
  shown : List Shown

namespace Machine

/-- The number of the process that launches the children. -/
def userPid : Nat := 1

/-- The process of a number. -/
def process? (m : Machine) (pid : Nat) : Option Process := m.processes.find? (·.pid == pid)

/-- The machine with a process as it is now. -/
def put (m : Machine) (p : Process) : Machine :=
  { m with processes := m.processes.map fun q => if q.pid == p.pid then p else q }

/-- The machine without a process. -/
def remove (m : Machine) (pid : Nat) : Machine :=
  { m with processes := m.processes.filter fun p => p.pid != pid }

/-- Every process that waits for something tries again. -/
def wakeAll (m : Machine) : Machine :=
  { m with processes := m.processes.map fun p =>
      match p.condition with
      | .blocked => p.readyAt m.clock
      | _ => p }

/-- A file that is opened, and its number. -/
def openFile (m : Machine) (f : OpenFile) : Nat × Machine :=
  (m.opened.size, { m with opened := m.opened.push f })

/-- A new pipe: the numbers of its reading and its writing end. -/
def newPipe (m : Machine) : Nat × Nat × Machine :=
  let pipe := m.pipes.size
  let m := { m with pipes := m.pipes.push [] }
  let (source, m) := m.openFile (.source pipe)
  let (target, m) := m.openFile (.target pipe)
  (source, target, m)

/-- The open file that a descriptor of a process leads to. -/
def fileOf? (m : Machine) (p : Process) (descriptor : Nat) : Option OpenFile :=
  (p.file? descriptor).bind fun n => m.opened[n]?

/-- Whether some process has a descriptor that leads to an open file of a kind. -/
def isHeld (m : Machine) (kind : OpenFile → Bool) : Bool :=
  m.processes.any fun p => !p.hasEnded && p.descriptors.any fun d => (m.opened[d.2]?).any kind

/-- Whether some process can read from a pipe. -/
def hasReader (m : Machine) (pipe : Nat) : Bool :=
  m.isHeld fun
    | .source n => n == pipe
    | _ => false

/-- Whether some process can write to a pipe. -/
def hasWriter (m : Machine) (pipe : Nat) : Bool :=
  m.isHeld fun
    | .target n => n == pipe
    | _ => false

/-- Whether some process can write to a captured stream. -/
def isCaptured (m : Machine) (child : Nat) (stream : Stream) : Bool :=
  m.isHeld fun
    | .captured c s => c == child && s == stream
    | _ => false

/-- How many bytes a pipe holds at most. -/
def pipeSize : Nat := 65536

/-- What comes of writing. -/
inductive Written where
  | took (n : Nat)
  | full
  | broken
  | bad

/-- The machine after bytes have been written to a captured stream. -/
def tapped (m : Machine) (child : Nat) (stream : Stream) (bs : List UInt8) : Machine :=
  { m with taps := m.taps.map fun t =>
      if t.child == child && t.stream == stream then { t with arrived := bs :: t.arrived } else t }

/-- The machine with other bytes in a file. -/
def storeFile (m : Machine) (place : List String) (bytes : List UInt8) : Machine :=
  let isThere := m.files.entries.any (·.1 == place)
  { m with files := { m.files with
      entries :=
        if isThere then
          m.files.entries.map fun e => if e.1 == place then (place, .file bytes false) else e
        else m.files.entries ++ [(place, .file bytes false)] } }

/-- The bytes of a stored file. -/
def storedBytes (m : Machine) (place : List String) : List UInt8 :=
  match m.files.entry? place with
  | some (.file bytes _) => bytes
  | _ => []

/-- **Writing** to a descriptor. A pipe takes what there is room for. -/
def write (m : Machine) (p : Process) (descriptor : Nat) (bs : List UInt8) : Written × Machine :=
  match m.fileOf? p descriptor with
  | some .nothing | some .zeros => (.took bs.length, m)
  | some .console => (.took bs.length, { m with shown := .bytes bs :: m.shown })
  | some (.captured child stream) => (.took bs.length, m.tapped child stream bs)
  | some (.stored place _) => (.took bs.length, m.storeFile place (m.storedBytes place ++ bs))
  | some (.target pipe) =>
    if !m.hasReader pipe then (.broken, m)
    else
      let held := (m.pipes[pipe]?).getD []
      let room := pipeSize - held.length
      if room = 0 then (.full, m)
      else (.took (min room bs.length),
        { m with pipes := m.pipes.setIfInBounds pipe (held ++ bs.take room) })
  | some (.source _) | none => (.bad, m)

/-- What comes of reading. -/
inductive Got where
  | bytes (bs : List UInt8)
  | nothingYet
  | atEnd
  | bad

/-- **Reading** at most so many bytes from a descriptor. -/
def read (m : Machine) (p : Process) (descriptor n : Nat) : Got × Machine :=
  match m.fileOf? p descriptor with
  | some .nothing => (.atEnd, m)
  | some .zeros => (.bytes (List.replicate n 0), m)
  | some (.source pipe) =>
    let held := (m.pipes[pipe]?).getD []
    if !held.isEmpty then
      (.bytes (held.take n), { m with pipes := m.pipes.setIfInBounds pipe (held.drop n) })
    else if m.hasWriter pipe then (.nothingYet, m)
    else (.atEnd, m)
  | some (.stored place offset) =>
    let bs := ((m.storedBytes place).drop offset).take n
    if bs.isEmpty then (.atEnd, m)
    else
      let number := (p.file? descriptor).getD 0
      (.bytes bs,
        { m with opened := m.opened.setIfInBounds number (.stored place (offset + bs.length)) })
  | some (.target _) | some (.captured ..) | some .console | none => (.bad, m)

/-- **The end of a process.** Its children are nobody's then, and those of them that have ended are
gone; so is the process itself if it is nobody's. -/
def finish (m : Machine) (p : Process) (status : ExitStatus) : Machine :=
  let p := { p with condition := .ended status, descriptors := [] }
  let processes := (m.put p).processes.map fun q => if q.parent == p.pid then { q with parent := 0 } else q
  { m with processes := processes.filter fun q => !(q.hasEnded && q.parent == 0) }

/-- The end of a child that its parent has asked about: its status, after which it is gone. -/
def reap (m : Machine) (pid : Nat) : Option (ExitStatus × Machine) :=
  (m.process? pid).bind fun p =>
    match p.condition with
    | .ended status => some (status, m.remove pid)
    | _ => none

/-- The number of the signal that cannot be ignored. -/
def killNumber : Nat := Signal.kill.number

/-- The number of the signal that stops a process. -/
def stopNumber : Nat := 19

/-- The number of the signal that makes a process go on. -/
def goOnNumber : Nat := 18

/-- The signals that come to nothing unless something is to be done on them. -/
def idleSignals : List Nat := [17, goOnNumber, 23, 28]

/-- Whether a process has something to do on a signal. -/
def traps (p : Process) (number : Nat) : Bool :=
  match p.program with
  | .shell s => s.traps.any (·.1 == number)
  | .tool _ => false

/-- A signal is put down for a shell to deal with. -/
def putDown (p : Process) (number clock : Nat) : Process :=
  match p.program with
  | .shell s =>
    let p := { p with program := .shell { s with pending := s.pending ++ [number] } }
    match p.condition with
    | .blocked => p.readyAt clock
    | _ => p
  | .tool _ => p

/-- A signal comes to a process that takes steps: it is ignored, put down for later, or the end of the
process. -/
def receive (m : Machine) (number : Nat) (p : Process) : Machine :=
  if number = killNumber then (m.finish p (.signal number)).wakeAll
  else if number = stopNumber then m.put { p with stopped := some [] }
  else if p.ignored.contains number then m
  else if traps p number then m.put (putDown p number m.clock)
  else if idleSignals.contains number then m
  else (m.finish p (.signal number)).wakeAll

/-- The signals held for a process that goes on. -/
def receiveAll (m : Machine) (pid : Nat) (numbers : List Nat) : Machine :=
  numbers.foldl (fun m number =>
    match (m.process? pid).filter fun p => !p.hasEnded with
    | some p => m.receive number p
    | none => m) m

/-- **A signal for a process.** One that has ended takes no notice, and one that is stopped only of
the signals that end it or make it go on. -/
def send (m : Machine) (number : Nat) (p : Process) : Machine :=
  if p.hasEnded || number = 0 then m
  else
    match p.stopped with
    | none => m.receive number p
    | some held =>
      if number = killNumber then m.receive number p
      else if number = goOnNumber then
        (m.put { p with stopped := none }).receiveAll p.pid (held ++ [number])
      else m.put { p with stopped := some (held ++ [number]) }

/-- A signal for the process of a number, and whether there is one. -/
def sendTo (m : Machine) (number pid : Nat) : Bool × Machine :=
  match m.process? pid with
  | some p => (true, m.send number p)
  | none => (false, m)

/-- A signal for every process of a group, and whether there is one. -/
def sendToGroup (m : Machine) (number group : Nat) : Bool × Machine :=
  let members := m.processes.filter (·.group == group)
  (!members.isEmpty, members.foldl (fun m p => (m.sendTo number p.pid).2) m)

end Machine

end ChildWatch
