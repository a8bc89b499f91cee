import ChildWatch.Machine.Step
import ChildWatch.Session.Launch
import ChildWatch.Time.Instant

/-! # Runs of the machine

* `Machine.advance` — the machine goes on, step by step, as its clock does.
* `Machine.launch` — a child for the user of the machine.
* `Machine.host`, `Machine.system` — the machine as the system of sessions. -/

namespace ChildWatch.Machine

/-- The process whose step is due first, and when. -/
def nextDue (m : Machine) : Option (Nat × Process) :=
  m.processes.foldl (fun best p =>
    match p.condition, p.stopped, best with
    | .ready time, none, none => some (time, p)
    | .ready time, none, some (first, _) => if time < first then some (time, p) else best
    | _, _, _ => best) none

/-- Whether a process waits for something. -/
def isBlocked (m : Machine) (pid : Nat) : Bool :=
  (m.process? pid).any fun p =>
    match p.condition with
    | .blocked => true
    | _ => false

/-- One step of a process at a time. Whatever it has done, those who wait for something try again,
unless all it does is wait. -/
def stepAt (m : Machine) (time : Nat) (p : Process) : Machine :=
  let m := { m with clock := max m.clock time }
  let m := step m p
  if m.isBlocked p.pid then m else m.wakeAll

/-- The clock at a time that has not passed. -/
def atTime (m : Machine) (time : Option Nat) : Machine :=
  match time with
  | some t => { m with clock := max m.clock t }
  | none => m

/-- **The machine goes on** until it is to stop, or to a time, or to where nothing is left to happen;
`steps` is how many steps it takes at most. -/
def advance (limit : Option Nat) (stop : Machine → Bool) : Nat → Machine → Machine
  | 0, m => m.atTime limit
  | steps + 1, m =>
    if stop m then m
    else
      match m.nextDue with
      | none => m.atTime limit
      | some (time, p) =>
        if limit.all (time ≤ ·) then advance limit stop steps (m.stepAt time p)
        else m.atTime limit

/-- As many steps as the machine takes at once. -/
def stepLimit : Nat := 10000000

/-- The time of an instant. -/
def timeOf (i : Instant) : Nat := i.toNanos.toNat

/-- The reading of the clock. -/
def reading (m : Machine) : Instant :=
  (Instant.ofNanos? m.clock).getD (Instant.zero.saturatingAdd .max)

/-- The machine after some time. -/
def after (m : Machine) (d : Duration) : Machine :=
  m.advance (some (m.clock + d.toNanos)) (fun _ => false) stepLimit

/-- Whether there is something to fetch from a captured stream: bytes, or the end of it. -/
def isDue (m : Machine) (t : Tap) : Bool :=
  !t.arrived.isEmpty || (!t.isOver && !m.isCaptured t.child t.stream)

/-- Bytes in the pieces in which they are read. -/
def readsOf (bs : List UInt8) : List Read := (Source.pieces Source.bufferSize bs.length bs).map .data

/-- The reads of a captured stream since it was last fetched. At its end there are two reads of
nothing: the first may only end a line. -/
def fetch (m : Machine) (child : Nat) (stream : Stream) : List Read × Machine :=
  match m.taps.find? fun t => t.child == child && t.stream == stream with
  | none => ([.data [], .data []], m)
  | some t =>
    let isEnd := !t.isOver && !m.isCaptured child stream
    let reads := t.arrived.reverse.flatMap readsOf ++
      if isEnd then [.data [], .data []] else []
    let t' := { t with arrived := [], isOver := t.isOver || isEnd }
    (reads, { m with taps := m.taps.map fun u =>
      if u.child == child && u.stream == stream then t' else u })

/-- How a child has ended, if it has; it is gone then. -/
def ask (m : Machine) (child : Nat) : Option ExitStatus × Machine :=
  match m.known.find? (·.1 == child) with
  | some (_, status) => (some status, m)
  | none =>
    match m.reap child with
    | some (status, m) => (some status, { m with known := (child, status) :: m.known })
    | none => (none, m)

/-- The answer to the one who sends a signal. -/
def answer (sent : Bool × Machine) : Option Refusal × Machine :=
  (if sent.1 then none else some .noSuchProcess, sent.2)

/-- Whether a child has not ended. -/
def isRunning (m : Machine) (child : Nat) : Bool :=
  (m.process? child).any fun p => !p.hasEnded

/-- What is said of a child that does not end within the steps that the machine takes. -/
def neverEnds : IoError := .kind .timedOut

/-- **The machine as the host of a child.** -/
def host (child : Nat) : Host Machine where
  now m := m.reading
  pause d m := m.after d
  idle deadline m :=
    m.advance (deadline.map timeOf) (fun m => m.taps.any m.isDue) stepLimit
  poll m :=
    let (status, m) := m.ask child
    (.ok status, m)
  await m :=
    let m := m.advance none (fun m => !m.isRunning child) stepLimit
    match m.ask child with
    | (some status, m) => (.ok status, m)
    | (none, m) => (.error neverEnds, m)
  signal s m := answer (m.sendTo s.number child)
  signalGroup s m := answer (m.sendToGroup s.number child)
  kill m :=
    if m.known.any (·.1 == child) then (.ok (), m) else (.ok (), (m.sendTo killNumber child).2)
  reads stream m := m.fetch child stream
  rest stream m :=
    (m.advance none (fun m => !m.isCaptured child stream) stepLimit).fetch child stream
  note e m := { m with shown := .entry e :: m.shown }

/-- What is said of a word that a system cannot be given. -/
def nulInArgument : IoError := .custom .invalidInput "nul byte found in provided data"

/-- Where the error stream of a child leads. -/
def errorFile (mode : StderrMode) (child : Nat) : OpenFile :=
  match mode with
  | .capture => .captured child .stderr
  | .inherit => .console
  | .discard => .nothing

/-- The captured streams of a child. -/
def tapsOf (mode : StderrMode) (child : Nat) : List Tap :=
  ⟨child, .stdout, [], false⟩ :: if mode = .capture then [⟨child, .stderr, [], false⟩] else []

/-- **A child for the user of the machine**, in a group of its own. -/
def launch (m : Machine) (command : Command) (mode : StderrMode) : Except IoError Nat × Machine :=
  if command.argv.any fun word => word.toList.contains '\x00' then (.error nulInArgument, m)
  else
    let pid := m.nextPid
    let (input, m) := m.openFile .nothing
    let (output, m) := m.openFile (.captured pid .stdout)
    let (error, m) := m.openFile (errorFile mode pid)
    let p : Process :=
      { pid := pid
        parent := userPid
        group := pid
        descriptors := [(0, input), (1, output), (2, error)]
        ignored := []
        directory := m.files.current
        environment := m.environment
        condition := .ready (m.clock + costs.fork + costs.load)
        stopped := none
        program := .tool (Tool.printing "" []) }
    match load m p command.argv m.environment with
    | .error e => (.error e, m)
    | .ok program =>
      (.ok pid,
        { m with
          processes := m.processes ++ [{ p with program := program }]
          nextPid := pid + 1
          taps := m.taps ++ tapsOf mode pid })

/-- **The machine as a system for children.** It never lacks what a pump needs. -/
def system : System Machine where
  launch command mode m := m.launch command mode
  startPump _ _ m := (.ok (), m)
  child := host
  note e m := { m with shown := .entry e :: m.shown }

/-- The files that every machine has, besides its programs. -/
def furniture : List (List String × FileEntry) :=
  [(["etc", "passwd"], .file (Text.Utf8.encode "root:x:0:0:root:/root:/bin/bash\n") false),
    (["dev", "null"], .file [] false), (["dev", "zero"], .file [] false), (["tmp"], .directory),
    (["root"], .directory)]

/-- The programs that every machine has. -/
def programs : List (List String × FileEntry) :=
  (shellNames ++ testNames ++ listName :: Tool.names).flatMap fun name =>
    [(["bin", name], .file [] true), (["usr", "bin", name], .file [] true)]

/-- **A machine with some files** and a user's environment, on which nothing has been run. -/
def boot (files : FileTree) (env : Environment) : Machine where
  clock := 0
  processes := []
  nextPid := 4242
  files := { files with entries := programs ++ furniture ++ files.entries }
  opened := #[]
  pipes := #[]
  taps := []
  environment := env
  known := []
  printed := []
  shown := []

end ChildWatch.Machine
