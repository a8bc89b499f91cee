import ChildWatch.Machine.Builtin
import ChildWatch.Shell.Demand

/-! # Steps of processes

* `Turn.perform` — one thing that a shell has to do; nothing if it has to wait.
* `Machine.stepTool` — one step of a tool.
* `Machine.step` — one step of a process. -/

namespace ChildWatch.Machine

open Shell

/-- The number of the signal for those who write where nobody reads. -/
def pipeNumber : Nat := 13

/-- The words for a process that a signal has ended. -/
def signalText (n : Nat) : String :=
  match n with
  | 1 => "Hangup"
  | 2 => "Interrupt"
  | 3 => "Quit"
  | 6 => "Aborted"
  | 9 => "Killed"
  | 10 => "User defined signal 1"
  | 12 => "User defined signal 2"
  | 13 => "Broken pipe"
  | 14 => "Alarm clock"
  | 15 => "Terminated"
  | n => "Signal " ++ toString n

/-- The status that a shell gives to an end. -/
def shellStatus : ExitStatus → Nat
  | .code n => n
  | .signal n => 128 + n

namespace Turn

/-- The names in the working directory, in order. -/
def namesHere (t : Turn) : List String :=
  t.machine.files.namesIn t.process.directory

/-- The texts that a field stands for: the names it is a pattern of, or else itself. -/
def texts (t : Turn) (field : Marked) : List String :=
  let p := Glob.ofMarked field
  if !Glob.isOpen p || field.any (fun c => c.1 = '/') then [field.text]
  else
    let found := t.namesHere.filter fun name =>
      Glob.accepts p name.toList && (!name.startsWith "." || field.head?.any fun c => c.1 = '.')
    if found.isEmpty then [field.text] else found

/-- The program of some words cannot be run. -/
def cannotRun (t : Turn) (name : String) (e : IoError) : Turn :=
  if e = .permissionDenied then (t.outcome 126).complain (name ++ ": Permission denied")
  else (t.outcome 127).complain (name ++ ": not found")

/-- A program with its words, in a child unless it is the last thing the shell does. `outer` is the
turn before descriptors were redirected for it. -/
def external (t outer : Turn) (saved : List (Nat × Option Nat)) (argv : List String)
    (added : List (String × String)) : Turn :=
  let env := added.foldl (fun vs (name, value) => Variables.set vs name value)
    t.shell.scope.environment
  let isLast := outer.isLast
  let p := { t.process with
    pid := if isLast then t.process.pid else t.machine.nextPid
    parent := if isLast then t.process.parent else t.process.pid
    environment := env }
  match load t.machine p argv env with
  | .error e => (t.push (.restore saved)).cannotRun (argv.headD "") e
  | .ok program =>
    if isLast then { t with process := { t.process with environment := env } }.become program
    else
      let (pid, t) := t.fork (fun _ => program) t.process.sharedDescriptors [] true
      (t.push (.restore saved)).push (.await pid true)

/-- A function with its arguments. -/
def call (t : Turn) (saved : List (Nat × Option Nat)) (body : Script) (args : List String) : Turn :=
  let sc := t.shell.scope
  let t := (t.push (.restore saved)).push (.leave sc.params)
  (t.withScope { sc with params := args }).run body

/-- A command with its words, once they are expanded. -/
def command (t : Turn) (c : SimpleCommand) (argv : List String) : Turn :=
  let name := argv.headD ""
  let args := argv.drop 1
  let (saved, kept) := if name = "exec" then ([], t) else t.keep c.redirects
  match kept.redirect c.redirects with
  | .error (e, r) =>
    if Builtin.isSpecial name then r.abort e 2 else ((r.outcome 2).push (.restore saved)).complain e
  | .ok r =>
    match r.shell.scope.assign c.assignments with
    | .error e => r.abort e 2
    | .ok sc =>
      let added := c.assignments.map fun a => (a.1, (sc.bindings.get? a.1).getD "")
      match if Builtin.isSpecial name then none else t.shell.functions.find? (·.1 == name) with
      | some (_, body) => (r.withScope sc).call saved body args
      | none =>
        match Builtin.ofName? name args with
        | some act =>
          if name = "exec" then act (r.withScope { sc with
            exported := sc.exported ++ c.assignments.map (·.1) })
          else if Builtin.isSpecial name then act ((r.withScope sc).push (.restore saved))
          else
            let before := c.assignments.map fun a => (a.1, t.shell.scope.bindings.get? a.1)
            act (((r.withScope sc).push (.unassign before)).push (.restore saved))
        | none =>
          let argv := if name = "command" then args else argv
          if argv.isEmpty then (r.restore saved).outcome 0 else r.external t saved argv added

/-- Assignments with redirections and no command. -/
def assignOnly (t : Turn) (c : SimpleCommand) (collected : Option Nat) : Turn :=
  let (saved, kept) := t.keep c.redirects
  match kept.redirect c.redirects with
  | .error (e, r) => ((r.outcome 2).push (.restore saved)).complain e
  | .ok r =>
    match r.shell.scope.assign c.assignments with
    | .error e => t.abort e 2
    | .ok sc => ({ r with process := t.process }.withScope sc).outcome (collected.getD 0)

/-- **A command whose words have become texts.** -/
def obey (t : Turn) (c : SimpleCommand) (argv : List String) : Turn :=
  let collected := t.shell.collected
  let t := { t with shell := { t.shell with collected := none } }
  match argv with
  | [] => t.assignOnly c collected
  | argv => t.command c argv

/-- The line that shows a command before it is run. -/
def traceLine (sc : Scope) (c : SimpleCommand) (argv : List String) : String :=
  let after := (sc.assign c.assignments).toOption.getD sc
  let assigned := c.assignments.map fun a => a.1 ++ "=" ++ (after.bindings.get? a.1).getD ""
  (after.bindings.get? "PS4").getD "+ " ++ " ".intercalate (assigned ++ argv) ++ "\n"

/-- A command with its assignments and redirections. It is shown first if the shell is traced. -/
def simple (t : Turn) (c : SimpleCommand) : Turn :=
  let t := { t with shell := { t.shell with line := c.line } }
  match t.shell.scope.fields c.words with
  | .error e => t.abort e 2
  | .ok (fields, sc) =>
    let t := t.withScope sc
    let argv := fields.flatMap t.texts
    if sc.options.traced && (!argv.isEmpty || !c.assignments.isEmpty) then
      (t.push (.obey c argv)).print "" 2 (Text.Utf8.encode (traceLine sc c argv))
    else t.obey c argv

/-- The commands of a pipeline, each in a child of its own, reading from the one before. -/
def pipeParts (source : Option Nat) (pids : List Nat) : List Script → Turn → List Nat × Turn
  | [], t => (pids.reverse, t)
  | c :: rest, t =>
    let p := match source with
      | some n => t.process.withDescriptor 0 n
      | none => t.process
    if rest.isEmpty then
      let (pid, t) := t.forkShell c p.descriptors []
      ((pid :: pids).reverse, t)
    else
      let (next, target, m) := t.machine.newPipe
      let (pid, t) := { t with machine := m }.forkShell c (p.withDescriptor 1 target).descriptors []
      pipeParts (some next) (pid :: pids) rest t

/-- Commands joined by pipes. -/
def pipeline (t : Turn) (parts : List Script) : Turn :=
  let (pids, t) := pipeParts none [] parts t
  match pids.reverse with
  | [] => t
  | last :: others => others.foldl (fun t pid => t.push (.await pid false)) (t.push (.await last true))

/-- A child whose output fills a place in a command. -/
def collect (t : Turn) (source : String) (c : Script) : Turn :=
  let (reading, target, m) := t.machine.newPipe
  let t := { t with machine := m }
  let (pid, t) := t.fork (fun _ => .shell (t.copyFor [.read (Token.scan source)]))
    (t.process.withDescriptor 1 target).descriptors [] false
  let d := t.process.freeDescriptor
  { t with process := t.process.withDescriptor d reading }.push (.collect pid d [] c)

/-- A command in the background, which reads nothing. -/
def background (t : Turn) (c : Script) : Turn :=
  let (n, m) := t.machine.openFile .nothing
  let (pid, t) := { t with machine := m }.forkShell c (t.process.withDescriptor 0 n).descriptors
    jobSignals
  (t.withScope { t.shell.scope with lastJob := some pid }).outcome 0

/-- The first branch with a pattern of a text. -/
def branch (t : Turn) (subject : List Char) : List (List Word × Script) → Except String Script
  | [] => .ok .nothing
  | (patterns, c) :: rest => do
    let ps ← patterns.mapM fun w => t.shell.scope.whole w
    if ps.any fun p => Glob.accepts (Glob.ofMarked p.1) subject then .ok c
    else branch t subject rest

/-- A loop over values. -/
def values (t : Turn) (name : String) (vs : List String) (body : Script) : Turn :=
  if vs.isEmpty then t.withStatus 0 else t.push (.values name vs body)

/-- A command, once no output is needed for its own words. -/
def start (t : Turn) (c : Script) : Turn :=
  match c with
  | .nothing => t
  | .simple c => t.simple c
  | .pipeline parts => t.pipeline parts
  | .invert c => (t.push .invert).run c
  | .both a b => (t.push (.both b)).run a
  | .either a b => (t.push (.either b)).run a
  | .sequence a b => (t.run b).run a
  | .background c => t.background c
  | .subshell c =>
    if t.isLast then t.run c
    else
      let (pid, t) := t.forkShell c t.process.descriptors []
      t.push (.await pid true)
  | .redirected (.subshell c) rs line =>
    if t.isLast then t.push (.lead rs line c)
    else
      let (pid, t) := t.fork (fun _ => .shell (t.copyFor [.lead rs line c])) t.process.descriptors []
        false
      t.push (.await pid true)
  | .redirected c rs line =>
    let t := { t with shell := { t.shell with line := line } }
    let (saved, kept) := t.keep rs
    match kept.redirect rs with
    | .error (e, r) => ((r.outcome 2).push (.restore saved)).complain e
    | .ok r => ((r.push (.restore saved)).push .attend).run c
  | .choose test yes no => (t.push (.decide yes no)).run test
  | .loop whileTrue test body => (t.push (.enter whileTrue test body 0)).run test
  | .each name none body => t.values name t.shell.scope.params body
  | .each name (some values) body =>
    match t.shell.scope.fields values with
    | .error e => t.abort e 2
    | .ok (fields, sc) =>
      (t.withScope sc).values name (fields.flatMap t.texts) body
  | .select subject branches =>
    match t.shell.scope.text subject with
    | .error e => t.abort e 2
    | .ok (text, sc) =>
      match (t.withScope sc).branch text.toList branches with
      | .error e => t.abort e 2
      | .ok .nothing => (t.withScope sc).withStatus 0
      | .ok c => (t.withScope sc).run c
  | .function name body =>
    { t with shell := { t.shell with
        functions := (name, body) :: t.shell.functions.filter fun f => f.1 != name } }.outcome 0

/-- The process ends by a signal for having written where nobody reads. -/
def die (t : Turn) : Turn :=
  { t with
    machine := t.machine.finish t.current (.signal pipeNumber)
    isGone := true }

/-- The end of a child of the shell, if it has come. -/
def reaped (t : Turn) (child : Nat) : Option (ExitStatus × Turn) :=
  (t.machine.reap child).map fun (status, m) => (status, { t with machine := m })

/-- The words about a child that a signal has ended, unless it is a signal that goes without
saying. -/
def mourn (t : Turn) : ExitStatus → Turn
  | .signal n =>
    if n = 2 || n = pipeNumber then t
    else t.print "" 2 (Text.Utf8.encode (signalText n ++ "\n"))
  | .code _ => t

/-- The bytes of a line, one by one, so that none is taken that comes after it: the bytes so far,
latest first, and whether the line, or the input, is at its end. -/
def takeLine (d : Nat) : Nat → Turn → List UInt8 → List UInt8 × Option Bool × Turn
  | 0, t, sofar => (sofar, none, t)
  | fuel + 1, t, sofar =>
    match t.machine.read t.process d 1 with
    | (.bytes [b], m) =>
      if b = 10 then (sofar, some true, { t with machine := m })
      else takeLine d fuel { t with machine := m } (b :: sofar)
    | (.nothingYet, _) => (sofar, none, t)
    | _ => (sofar, some false, t)

/-- The values that a line gives to so many names, the last of which takes all that is left. -/
def lineValues (isBlank : Char → Bool) : Nat → List Char → List (List Char)
  | 0, _ => []
  | 1, cs =>
    [((cs.dropWhile isBlank).reverse.dropWhile isBlank).reverse]
  | n + 1, cs =>
    let cs := cs.dropWhile isBlank
    cs.takeWhile (fun c => !isBlank c) :: lineValues isBlank n (cs.dropWhile fun c => !isBlank c)

/-- A line given to variables. -/
def giveLine (t : Turn) (raw : Bool) (names : List String) (bytes : List UInt8) (complete : Bool) :
    Turn :=
  let sc := t.shell.scope
  let text := (Text.Utf8.decodeLossy bytes).toList
  let text := if raw then text else text.filter (· ≠ '\\')
  let values := lineValues sc.separators.contains names.length text
  (t.withScope { sc with
    bindings := (names.zip values).foldl (fun vs (name, value) => vs.set name (String.ofList value))
      sc.bindings }).outcome (if complete then 0 else 1)

/-- The ends of children that are waited for. -/
def waitFor (t : Turn) (children : Option (List Nat)) : Option Turn :=
  match t.shell.pending with
  | n :: _ => some (t.withStatus (128 + n))
  | [] =>
    match children with
    | some [] => some t
    | some (pid :: rest) =>
      match (t.machine.process? pid).filter fun p => p.parent == t.process.pid with
      | none => some ((t.push (.waitFor (some rest))).withStatus 127)
      | some _ =>
        (t.reaped pid).map fun (status, t) =>
          ((t.push (.waitFor (some rest))).withStatus (shellStatus status)).mourn status
    | none =>
      let mine := t.machine.processes.filter fun p => p.parent == t.process.pid
      if mine.all (·.hasEnded) then
        some ({ t with machine := mine.foldl (fun m (p : Process) => m.remove p.pid) t.machine }.withStatus 0)
      else none

/-- **One thing that a shell has to do**, taken off the front of its tasks; nothing if it has to
wait. -/
def perform (t : Turn) (task : Task) : Option Turn :=
  match task with
  | .read tokens =>
    match Script.next? tokens with
    | .error fault =>
      some ({ t with shell := { t.shell with line := fault.line } }.abort
        ("Syntax error: " ++ fault.message) 2)
    | .ok none => some t
    | .ok (some (c, rest)) => some ((t.push (.read rest)).run c)
  | .run c =>
    match c.source? with
    | some source => some (t.collect source c)
    | none => some (t.start c)
  | .lead rs line c =>
    let t := { t with shell := { t.shell with line := line } }
    match t.redirect rs with
    | .error (e, r) => some (r.abort e 2)
    | .ok r => some (r.run c)
  | .obey c argv => some (t.obey c argv)
  | .both c => some (if t.status = 0 then t.run c else t)
  | .either c => some (if t.status = 0 then t else t.run c)
  | .invert => some (t.withStatus (if t.status = 0 then 1 else 0))
  | .decide yes no =>
    match no with
    | .nothing => some (if t.status = 0 then t.run yes else t.withStatus 0)
    | no => some (t.run (if t.status = 0 then yes else no))
  | .enter whileTrue test body status =>
    if (t.status = 0) = whileTrue then some ((t.push (.again whileTrue test body)).run body)
    else some (t.withStatus status)
  | .again whileTrue test body => some ((t.push (.enter whileTrue test body t.status)).run test)
  | .values _ [] _ => some t
  | .values name (value :: left) body =>
    let sc := t.shell.scope
    some (((t.withScope { sc with bindings := sc.bindings.set name value }).push
      (.values name left body)).run body)
  | .restore saved => some (t.restore saved)
  | .attend => some t
  | .unassign saved => some (t.unassign saved)
  | .await child last =>
    match t.reaped child with
    | some (status, t) =>
      let t := if last then t.outcome (shellStatus status) else t
      some (t.mourn status)
    | none => if (t.machine.process? child).isSome then none else some t
  | .print command d bytes =>
    match t.machine.write t.process d bytes with
    | (.took n, m) =>
      let t := { t with machine := m, cost := t.cost + n * costs.byte }
      some (t.print command d (bytes.drop n))
    | (.full, _) => none
    | (.broken, _) => some (if t.process.ignored.contains pipeNumber then t.withStatus 1 else t.die)
    | (.bad, _) =>
      some (if command.isEmpty then t
        else (t.withStatus 1).complain (command ++ ": " ++ command ++ ": I/O error"))
  | .collect child d sofar c =>
    match t.machine.read t.process d Machine.pipeSize with
    | (.bytes bs, m) => some ({ t with machine := m }.push (.collect child d (sofar ++ bs) c))
    | (.nothingYet, _) => none
    | _ =>
      (t.reaped child).map fun (status, t) =>
        let t := { t with
          process := t.process.withoutDescriptor d
          shell := { t.shell with collected := some (shellStatus status) } }
        t.run (c.fill (Text.Utf8.decodeLossy sofar))
  | .leave params => some (t.withScope { t.shell.scope with params := params })
  | .resume status => some (t.withStatus status)
  | .waitFor children => t.waitFor children
  | .readLine raw names sofar =>
    match t.takeLine 0 4096 sofar with
    | (bytes, some complete, t) => some (t.giveLine raw names bytes.reverse complete)
    | (bytes, none, t) =>
      if bytes.length = sofar.length then none else some (t.push (.readLine raw names bytes))

/-- Whether signals can be dealt with before a task. -/
def admitsTraps : Option Task → Bool
  | some (.await ..) | some (.print ..) | some (.collect ..) | some (.waitFor _)
  | some (.restore _) | some (.unassign _) => false
  | _ => true

/-- What is done on a signal comes before everything else. -/
def heed (t : Turn) (n : Nat) (rest : List Nat) : Turn :=
  let t := { t with shell := { t.shell with pending := rest } }
  match t.shell.traps.find? (·.1 == n) with
  | some (_, action) => (t.push (.resume t.status)).push (.read (Token.scan action))
  | none => t

/-- The end of a shell, after what is to be done then. -/
def end? (t : Turn) : Option Turn :=
  match t.shell.traps.find? (·.1 == 0) with
  | some (_, action) =>
    if t.shell.ending then none
    else
      let t := { t with shell := { t.shell with ending := true } }
      some ((t.push (.resume t.status)).push (.read (Token.scan action)))
  | none => none

end Turn

/-- One step of a shell. -/
def stepShell (m : Machine) (p : Process) (s : Interpreter) : Machine :=
  let t := Turn.begin m p s
  match s.pending, Turn.admitsTraps s.tasks.head? with
  | n :: rest, true => (t.heed n rest).close
  | _, _ =>
    match s.tasks with
    | [] =>
      match t.end? with
      | some t => t.close
      | none => m.finish t.current (.code t.status)
    | task :: rest =>
      match (t.withTasks rest).perform task with
      | some t => t.close
      | none => t.wait

/-- A tool has something to say on the error stream. -/
def Tool.complaining (t : Tool) (message : String) (work : Work) : Tool :=
  { t with complaint := Text.Utf8.encode (t.name ++ ": " ++ message ++ "\n"), work := work }

/-- The process after a step of its tool, with the bytes that the step has dealt with. -/
def toolDone (m : Machine) (p : Process) (t : Tool) (bytes : Nat) : Machine :=
  m.put { p with
    program := .tool t
    condition := .ready (m.clock + costs.tool + bytes * costs.byte) }

/-- A tool that has something to print prints it. -/
def toolPrint (m : Machine) (p : Process) (t : Tool) : Machine :=
  match m.write p 1 t.output with
  | (.took n, m) => toolDone m p { t with output := t.output.drop n } n
  | (.full, _) => m.put p.waiting
  | (.broken, _) =>
    if p.ignored.contains pipeNumber then
      toolDone m p ({ t with output := [] }.complaining "write error: Broken pipe" (.finish 1)) 0
    else m.finish p (.signal pipeNumber)
  | (.bad, _) =>
    toolDone m p ({ t with output := [] }.complaining "write error: Bad file descriptor" (.finish 1)) 0

/-- The next input of a filter. -/
def toolOpen (m : Machine) (p : Process) (t : Tool) (f : Filter) (name : String)
    (rest : List String) (code : Nat) : Machine :=
  if name = "-" then toolDone m p { t with work := .filter f rest (some 0) code } 0
  else
    let files := filesOf m p
    let opened := match Turn.device? name with
      | some (.inl file) => some file
      | some (.inr d) => m.fileOf? p d
      | none => (files.find name).toOption.map fun found => OpenFile.stored found.1 0
    match opened, files.find name with
    | none, .error e =>
      let words := Turn.openFault e "No such file or directory"
      toolDone m p (t.complaining (name ++ ": " ++ words) (.filter f rest none 1)) 0
    | none, .ok _ => toolDone m p { t with work := .filter f rest none code } 0
    | some _, .ok (_, .directory) =>
      toolDone m p (t.complaining (name ++ ": Is a directory") (.filter f rest none 1)) 0
    | some file, _ =>
      let (n, m) := m.openFile file
      let d := p.freeDescriptor
      toolDone m (p.withDescriptor d n) { t with work := .filter f rest (some d) code } 0

/-- The most that a tool reads at a time. -/
def chunkSize : Nat := 8192

/-- A filter reads a chunk. -/
def toolRead (m : Machine) (p : Process) (t : Tool) (f : Filter) (rest : List String) (d code : Nat) :
    Machine :=
  match m.read p d chunkSize with
  | (.bytes bs, m) =>
    let (out, f) := f.feed bs
    toolDone m p { t with output := out, work := .filter f rest (some d) code } bs.length
  | (.nothingYet, _) => m.put p.waiting
  | (.atEnd, _) =>
    toolDone m (if d = 0 then p else p.withoutDescriptor d)
      { t with work := .filter f rest none code } 0
  | (.bad, _) =>
    toolDone m p (t.complaining "-: Bad file descriptor" (.filter f rest none 1)) 0

/-- One step of a tool. What it has to print comes first, then what it complains of, then its work. -/
def stepTool (m : Machine) (p : Process) (t : Tool) : Machine :=
  if !t.output.isEmpty then toolPrint m p t
  else if !t.complaint.isEmpty then
    match m.write p 2 t.complaint with
    | (.took n, m) => toolDone m p { t with complaint := t.complaint.drop n } n
    | (.full, _) => m.put p.waiting
    | _ => toolDone m p { t with complaint := [] } 0
  else
    match t.work with
    | .finish code => m.finish p (.code code)
    | .sleep nanos =>
      m.put { p with
        program := .tool { t with work := .wake (m.clock + nanos) }
        condition := .ready (m.clock + nanos) }
    | .wake time =>
      if time ≤ m.clock then m.finish p (.code 0) else m.put (p.readyAt time)
    | .again bytes => toolDone m p { t with output := bytes } 0
    | .become argv added apart ignoring =>
      let env := added.foldl (fun vs (name, value) => Variables.set vs name value) p.environment
      match load m p argv env with
      | .ok program =>
        m.put { p with
          program := program
          environment := env
          group := if apart then p.pid else p.group
          ignored := ignoring ++ p.ignored
          condition := .ready (m.clock + costs.load) }
      | .error e =>
        let code := if e = .permissionDenied then 126 else 127
        toolDone m p (t.complaining (Tool.notRun t.name (argv.headD "") ++ e.reason)
          (.finish code)) 0
    | .filter f inputs reading code =>
      if f.isSatisfied then toolDone m p { t with output := f.finish, work := .finish code } 0
      else
        match reading, inputs with
        | some d, rest => toolRead m p t f rest d code
        | none, name :: rest => toolOpen m p t f name rest code
        | none, [] => toolDone m p { t with output := f.finish, work := .finish code } 0

/-- **One step of a process.** -/
def step (m : Machine) (p : Process) : Machine :=
  match p.program with
  | .shell s => stepShell m p s
  | .tool t => stepTool m p t

end ChildWatch.Machine
