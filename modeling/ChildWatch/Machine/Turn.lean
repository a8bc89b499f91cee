import ChildWatch.Machine.Load

/-! # Turns of a shell

A turn is one step of a shell under way: the machine, the process and the shell as they are so far.

* `Turn.run`, `Turn.outcome`, `Turn.complain` — what a turn leaves for the turns after it.
* `Turn.fork` — a child of the shell.
* `Turn.redirect` — descriptors led elsewhere. -/

namespace ChildWatch.Machine

open Shell

/-- How long the steps of a process take, in nanoseconds. -/
structure Costs where
  /-- A step of a shell. -/
  task : Nat
  /-- A child made by a process, for the process and for the child. -/
  fork : Nat
  /-- The beginning of a program. -/
  load : Nat
  /-- A step of a tool, and a byte that it deals with. -/
  tool : Nat
  byte : Nat

/-- The costs of the machine. -/
def costs : Costs := ⟨20000, 250000, 600000, 5000, 10⟩

/-- A **turn** of a shell. `isGone` is whether its process runs the shell no longer. -/
structure Turn where
  machine : Machine
  process : Process
  shell : Interpreter
  isGone : Bool
  cost : Nat

namespace Turn

/-- A turn that has just begun. -/
def begin (m : Machine) (p : Process) (s : Interpreter) : Turn := ⟨m, p, s, false, costs.task⟩

/-- The process with the shell as it is now. -/
def current (t : Turn) : Process := { t.process with program := .shell t.shell }

/-- The machine with the process as it is now. -/
def settled (t : Turn) : Machine := t.machine.put t.current

/-- **The end of a turn**: the process goes on after the time that the turn took. -/
def close (t : Turn) : Machine :=
  if t.isGone then t.machine
  else t.machine.put (t.current.readyAt (t.machine.clock + t.cost))

/-- The end of a turn that waits for something to happen. -/
def wait (t : Turn) : Machine :=
  if t.isGone then t.machine else t.machine.put t.current.waiting

/-- Something more to be done first. -/
def push (t : Turn) (task : Task) : Turn :=
  { t with shell := { t.shell with tasks := task :: t.shell.tasks } }

/-- A command to be run first. -/
def run (t : Turn) (c : Script) : Turn := t.push (.run c)

/-- What is still to be done, replaced. -/
def withTasks (t : Turn) (tasks : List Task) : Turn :=
  { t with shell := { t.shell with tasks := tasks } }

/-- The scope, replaced. -/
def withScope (t : Turn) (sc : Scope) : Turn := { t with shell := { t.shell with scope := sc } }

/-- The status of the last command. -/
def status (t : Turn) : Nat := t.shell.scope.status

/-- Another status. -/
def withStatus (t : Turn) (n : Nat) : Turn := t.withScope { t.shell.scope with status := n }

/-- The shell has nothing more to do. -/
def quit (t : Turn) (n : Nat) : Turn := (t.withStatus n).withTasks []

/-- Whether a task asks whether the command before it has succeeded. -/
def asks : Task → Bool
  | .both _ | .either _ | .invert | .decide .. | .enter .. => true
  | _ => false

/-- **The status of a command.** A strict shell ends when one fails and nobody asks. -/
def outcome (t : Turn) (n : Nat) : Turn :=
  let t := t.withStatus n
  if t.shell.scope.options.strict && n ≠ 0 && !t.shell.tasks.any asks then t.quit n else t

/-- Bytes to be printed by a command of the shell's own. -/
def print (t : Turn) (command : String) (descriptor : Nat) (bytes : List UInt8) : Turn :=
  if bytes.isEmpty then t else t.push (.print command descriptor bytes)

/-- The start of a complaint: the name of the shell and the line. -/
def complaintStart (t : Turn) : String :=
  t.shell.scope.name ++ ": " ++ toString t.shell.line ++ ": "

/-- **A complaint** on the error stream. -/
def complain (t : Turn) (message : String) : Turn :=
  t.print "" 2 (Text.Utf8.encode (t.complaintStart ++ message ++ "\n"))

/-- A complaint that ends the shell. -/
def abort (t : Turn) (message : String) (n : Nat) : Turn := (t.quit n).complain message

/-- The signals of the shell's own children that are not sent to it from a terminal. -/
def jobSignals : List Nat := [2, 3]

/-- A shell that is a copy of this one but has one thing to do. What is done on signals is not copied. -/
def copyFor (t : Turn) (tasks : List Task) : Interpreter :=
  { t.shell with
    tasks := tasks
    traps := []
    pending := []
    collected := none
    isCopy := true
    ending := false }

/-- **A child of the shell** that runs a program, with some descriptors. The numbers of the signals it
ignores besides those the shell does come last. -/
def fork (t : Turn) (program : Nat → Program) (descriptors : List (Nat × Nat)) (ignored : List Nat)
    (isLoaded : Bool) : Nat × Turn :=
  let pid := t.machine.nextPid
  let delay := costs.fork + if isLoaded then costs.load else 0
  let child : Process :=
    { t.process with
      pid := pid
      parent := t.process.pid
      descriptors := descriptors
      ignored := ignored ++ t.process.ignored
      condition := .ready (t.machine.clock + delay)
      stopped := none
      program := program pid }
  let machine := t.settled
  (pid,
    { t with
      machine := { machine with processes := machine.processes ++ [child], nextPid := pid + 1 }
      cost := t.cost + costs.fork })

/-- A child that is a copy of the shell with one command to run. -/
def forkShell (t : Turn) (c : Script) (descriptors : List (Nat × Nat)) (ignored : List Nat) :
    Nat × Turn :=
  t.fork (fun _ => .shell (t.copyFor [.run c])) descriptors ignored false

/-- **The process becomes another program.** -/
def become (t : Turn) (program : Program) : Turn :=
  let p := { t.process with
    program := program
    descriptors := t.process.sharedDescriptors
    condition := .ready (t.machine.clock + t.cost + costs.load) }
  { t with machine := t.machine.put p, isGone := true }

/-- Where a path leads that stands for something other than a file: an open file that goes nowhere or
gives zeros, or a descriptor of the process. -/
def device? (path : String) : Option (Sum OpenFile Nat) :=
  match path with
  | "/dev/null" => some (.inl .nothing)
  | "/dev/zero" => some (.inl .zeros)
  | "/dev/stdin" => some (.inr 0)
  | "/dev/stdout" => some (.inr 1)
  | "/dev/stderr" => some (.inr 2)
  | _ => none

/-- The place that a path leads to for writing, and whether there is a file already. -/
def writable (files : FileTree) (path : String) : Except IoError (List String × Bool) :=
  match files.find path with
  | .ok (place, .file ..) => .ok (place, true)
  | .ok (_, .directory) => .error .isADirectory
  | .error e =>
    if e ≠ .noSuchFile then .error e
    else
      let name := (Path.names path).getLast?.getD ""
      let parent := String.ofList (path.toList.take (path.length - name.length))
      if name.isEmpty || !path.endsWith name then .error .noSuchFile
      else
        match files.find (if parent.isEmpty then "." else parent) with
        | .ok (place, .directory) => .ok (place ++ [name], false)
        | .ok _ => .error .notADirectory
        | .error e => .error e

/-- The words for an error of opening a file. -/
def openFault (e : IoError) (missing : String) : String :=
  if e = .noSuchFile || e = .notADirectory then missing else e.reason

/-- A file opened at a path for a direction: its number. -/
def openPath (t : Turn) (direction : Direction) (path : String) : Except String (Nat × Turn) :=
  let files := filesOf t.machine t.process
  let opened := fun (m : Machine) f =>
    let (n, m) := m.openFile f
    (n, { t with machine := m })
  match device? path with
  | some (.inl f) => .ok (opened t.machine f)
  | some (.inr d) =>
    match t.process.file? d with
    | some n => .ok (n, t)
    | none => .error ("cannot open " ++ path ++ ": No such file")
  | none =>
    match direction with
    | .read | .duplicate _ | .document =>
      match files.find path with
      | .ok (place, _) => .ok (opened t.machine (.stored place 0))
      | .error e => .error ("cannot open " ++ path ++ ": " ++ openFault e "No such file")
    | .write | .append | .readWrite =>
      match writable files path with
      | .error e => .error ("cannot create " ++ path ++ ": " ++ openFault e "Directory nonexistent")
      | .ok (place, isThere) =>
        let m := if isThere && direction ≠ .write then t.machine else t.machine.storeFile place []
        .ok (opened m (.stored place 0))

/-- A descriptor led to where a text says. Where it cannot be led, it is what is complained of, and the
turn that goes on from there: a descriptor that was to lead to one that leads nowhere is closed. -/
def redirectOne (t : Turn) (descriptor : Nat) (direction : Direction) (target : String) :
    Except (String × Turn) Turn :=
  match direction with
  | .duplicate _ =>
    let closed := { t with process := t.process.withoutDescriptor descriptor }
    if target = "-" then .ok closed
    else
      match Tool.count? target with
      | none => .error (target ++ ": bad fd number", t)
      | some other =>
        match t.process.file? other with
        | none => .error (target ++ ": Bad file descriptor", closed)
        | some n => .ok { t with process := t.process.withDescriptor descriptor n }
  | .document =>
    let (source, _, m) := t.machine.newPipe
    let m := { m with
      pipes := m.pipes.setIfInBounds (m.pipes.size - 1) (Text.Utf8.encode target) }
    .ok { t with machine := m, process := t.process.withDescriptor descriptor source }
  | direction =>
    match t.openPath direction target with
    | .error e => .error (e, t)
    | .ok (n, t) => .ok { t with process := t.process.withDescriptor descriptor n }

/-- **Descriptors led elsewhere**, one redirection after the other. -/
def redirect (t : Turn) : List Redirect → Except (String × Turn) Turn
  | [] => .ok t
  | r :: rest =>
    match t.shell.scope.text r.target with
    | .error e => .error (e, t)
    | .ok (target, sc) =>
      match (t.withScope sc).redirectOne r.descriptor r.direction target with
      | .error e => .error e
      | .ok t => redirect t rest

/-- Where some descriptors lead is kept in others, until they are put back. -/
def keep (t : Turn) (rs : List Redirect) : List (Nat × Option Nat) × Turn :=
  let (saved, p) := (rs.map (·.descriptor)).eraseDups.foldl (fun (saved, p) d =>
    match p.file? d with
    | some n =>
      let own := p.freeDescriptor
      ((d, some own) :: saved, p.withDescriptor own n)
    | none => ((d, none) :: saved, p)) ([], t.process)
  (saved, { t with process := p })

/-- Descriptors put back. -/
def restore (t : Turn) (saved : List (Nat × Option Nat)) : Turn :=
  { t with process := saved.foldl (fun (p : Process) (d, own) =>
      match own.bind fun own => (p.file? own).map fun n => (own, n) with
      | some (own, n) => (p.withDescriptor d n).withoutDescriptor own
      | none => p.withoutDescriptor d) t.process }

/-- Variables put back. -/
def unassign (t : Turn) (saved : List (String × Option String)) : Turn :=
  let sc := t.shell.scope
  t.withScope { sc with
    bindings := saved.foldl (fun vs (name, value) =>
      match value with
      | some v => vs.set name v
      | none => vs.unset name) sc.bindings }

/-- Whether the shell has nothing left to do but to put descriptors back, and may become another
program. -/
def isLast (t : Turn) : Bool :=
  t.shell.isCopy && t.shell.traps.isEmpty && t.shell.tasks.all fun
    | .read ts => (Script.skipLines ts).isEmpty
    | .restore _ | .attend => true
    | _ => false

end Turn

end ChildWatch.Machine
