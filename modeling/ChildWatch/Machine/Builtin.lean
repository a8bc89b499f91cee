import ChildWatch.Machine.Turn

/-! # Commands of the shell's own

* `Builtin.ofName?` — what a command that needs no program does.
* `Builtin.isSpecial` — the commands whose faults end the shell. -/

namespace ChildWatch.Machine

open Shell

/-- The signals by name. -/
def signalNames : List (String × Nat) :=
  [("EXIT", 0), ("HUP", 1), ("INT", 2), ("QUIT", 3), ("ILL", 4), ("TRAP", 5), ("ABRT", 6),
    ("BUS", 7), ("FPE", 8), ("KILL", 9), ("USR1", 10), ("SEGV", 11), ("USR2", 12), ("PIPE", 13),
    ("ALRM", 14), ("TERM", 15), ("CHLD", 17), ("CONT", 18), ("STOP", 19), ("TSTP", 20)]

/-- The signal that a word names, by its name or its number. -/
def signalNumber? (word : String) : Option Nat :=
  match Tool.count? word with
  | some n => if n < 65 then some n else none
  | none =>
    let name := String.ofList (word.toList.map Char.toUpper)
    let short := if name.startsWith "SIG" then String.ofList (name.toList.drop 3) else name
    (signalNames.find? (·.1 == short)).map (·.2)

namespace Builtin

/-- The commands whose faults end the shell. -/
def isSpecial (name : String) : Bool :=
  ["break", ":", "continue", ".", "eval", "exec", "exit", "export", "readonly", "return", "set",
    "shift", "times", "trap", "unset"].contains name

/-- The tasks that put something back, of those that are given up. -/
def undoing : List Task → List Task :=
  List.filter fun
    | .restore _ | .unassign _ => true
    | _ => false

/-- Whether a task is a loop. -/
def isLoop : Task → Bool
  | .again .. | .values .. | .enter .. => true
  | _ => false

/-- Whether a task is the end of a function. -/
def isLeave : Task → Bool
  | .leave _ => true
  | _ => false

/-- Whether a task bounds what can be left. -/
def isBound (task : Task) : Bool := isLoop task || isLeave task

/-- The tasks after a loop is left, or before it goes on. -/
def unwind : Nat → Bool → List Task → List Task
  | 0, _, tasks => tasks
  | n + 1, goesOn, tasks =>
    let given := tasks.takeWhile fun task => !isBound task
    match tasks.dropWhile fun task => !isBound task with
    | [] => tasks
    | task :: rest =>
      if isLeave task then tasks
      else if n = 0 && goesOn then
        let task := match task with
          | .enter whileTrue test body _ => .again whileTrue test body
          | task => task
        undoing given ++ task :: rest
      else undoing given ++ unwind n goesOn rest

/-- How many loops a command is about. -/
def loops (args : List String) : Nat :=
  max 1 ((args.head?.bind Tool.count?).getD 1)

/-- The number that a command is given, or the status so far. -/
def codeOr (t : Turn) (name : String) (args : List String) (go : Nat → Turn) : Turn :=
  match args with
  | [] => go t.status
  | a :: _ =>
    match Tool.count? a with
    | some n => go (n % 256)
    | none => t.abort (name ++ ": Illegal number: " ++ a) 2

/-- The end of a function, or of the shell if it runs none. -/
def leaveFunction (t : Turn) (n : Nat) : Turn :=
  let t := t.withStatus n
  let given := t.shell.tasks.takeWhile fun task => !isLeave task
  match t.shell.tasks.dropWhile fun task => !isLeave task with
  | [] => t.quit n
  | rest => (t.withTasks (undoing given ++ rest)).outcome n

/-- Another working directory. -/
def changeDirectory (t : Turn) (args : List String) : Turn :=
  let target := (args.head?.or (t.shell.scope.bindings.get? "HOME")).getD "/"
  match (filesOf t.machine t.process).find target with
  | .ok (place, .directory) =>
    let p := { t.process with directory := place }
    let sc := t.shell.scope
    ({ t with process := p }.withScope
      { sc with bindings := sc.bindings.set "PWD" p.directoryPath }).outcome 0
  | _ => (t.outcome 2).complain ("cd: can't cd to " ++ target)

/-- Variables given to programs from now on, with a value if there is an equals sign. -/
def exportNames (t : Turn) (args : List String) : Turn :=
  let sc := args.foldl (fun (sc : Scope) arg =>
    let name := String.ofList (arg.toList.takeWhile (· ≠ '='))
    let sc := { sc with exported := if sc.exported.contains name then sc.exported
      else sc.exported ++ [name] }
    match arg.toList.dropWhile (· ≠ '=') with
    | _ :: value => { sc with bindings := sc.bindings.set name (String.ofList value) }
    | [] => sc) t.shell.scope
  (t.withScope sc).outcome 0

/-- Variables with values, which programs are not given. -/
def setNames (t : Turn) (args : List String) : Turn :=
  let sc := args.foldl (fun (sc : Scope) arg =>
    match arg.toList.dropWhile (· ≠ '=') with
    | _ :: value =>
      { sc with bindings :=
          sc.bindings.set (String.ofList (arg.toList.takeWhile (· ≠ '='))) (String.ofList value) }
    | [] => sc) t.shell.scope
  (t.withScope sc).outcome 0

/-- Variables that are put back when the function ends. -/
def localNames (t : Turn) (args : List String) : Turn :=
  if !t.shell.tasks.any isLeave then t.abort "local: not in a function" 2 else
  let names := args.map fun arg => String.ofList (arg.toList.takeWhile (· ≠ '='))
  let saved := names.map fun name => (name, t.shell.scope.bindings.get? name)
  let before := t.shell.tasks.takeWhile fun task => !isLeave task
  let after := t.shell.tasks.dropWhile fun task => !isLeave task
  setNames (t.withTasks (before ++ .unassign saved :: after)) args

/-- Variables, and functions if asked for, that are no more. -/
def unset (t : Turn) (args : List String) : Turn :=
  match args with
  | "-f" :: names =>
    { t with shell := { t.shell with
        functions := t.shell.functions.filter fun f => !names.contains f.1 } }.outcome 0
  | args =>
    let sc := t.shell.scope
    (t.withScope { sc with
      bindings := args.foldl Variables.unset sc.bindings
      exported := sc.exported.filter fun name => !args.contains name }).outcome 0

/-- Options and parameters of the shell. -/
def set (t : Turn) (args : List String) : Turn :=
  let sc := t.shell.scope
  match sc.options.read false args with
  | .error message => t.abort ("set: " ++ message) 2
  | .ok front =>
    (t.withScope { sc with
      options := front.options
      params := front.rest.getD sc.params }).outcome 0

/-- Parameters taken off the front. -/
def shift (t : Turn) (args : List String) : Turn :=
  let n := (args.head?.bind Tool.count?).getD 1
  let sc := t.shell.scope
  if sc.params.length < n then t.abort "shift: can't shift that many" 2
  else (t.withScope { sc with params := sc.params.drop n }).outcome 0

/-- What is done on some signals: an action, nothing at all, or what is usual. -/
def trap (t : Turn) (args : List String) : Turn :=
  match args with
  | [] =>
    let shown := t.shell.traps.map fun (n, action) =>
      "trap -- '" ++ action ++ "' " ++
        ((signalNames.find? (·.2 == n)).map (·.1)).getD (toString n) ++ "\n"
    (t.outcome 0).print "trap" 1 (Text.Utf8.encode (String.join shown))
  | action :: rest =>
    let (action, names) :=
      if rest.isEmpty || (Tool.count? action).isSome then ("-", action :: rest) else (action, rest)
    match names.mapM signalNumber? with
    | none =>
      let bad := (names.find? fun name => (signalNumber? name).isNone).getD ""
      (t.outcome 1).complain ("trap: " ++ bad ++ ": bad trap")
    | some numbers =>
      let others := t.shell.traps.filter fun trap => !numbers.contains trap.1
      let heeded := t.process.ignored.filter fun n => !numbers.contains n
      let traps := if action = "-" || action = "" then others
        else others ++ numbers.map fun n => (n, action)
      { t with
        process := { t.process with
          ignored := if action = "" then heeded ++ numbers else heeded }
        shell := { t.shell with traps := traps } }.outcome 0

/-- The signal and the targets of a command that sends one. -/
def killArguments (args : List String) : Option (Nat × List String) :=
  match args with
  | "-s" :: name :: rest => (signalNumber? name).map fun n => (n, rest)
  | "--" :: rest => some (15, rest)
  | word :: rest =>
    match word.toList with
    | '-' :: name => (signalNumber? (String.ofList name)).map fun n => (n, rest)
    | _ => some (15, args)
  | [] => some (15, [])

/-- A signal for a process, or for a group if its number is negative or zero. -/
def killOne (m : Machine) (p : Process) (number : Nat) (target : String) : Bool × Machine :=
  match target.toList with
  | '-' :: group =>
    match Tool.count? (String.ofList group) with
    | some g => m.sendToGroup number g
    | none => (false, m)
  | _ =>
    match Tool.count? target with
    | some 0 => m.sendToGroup number p.group
    | some pid => m.sendTo number pid
    | none => (false, m)

/-- The names of signals, or of the signals that statuses tell of, a line each. -/
def nameSignals (t : Turn) (words : List String) : Turn :=
  let name (word : String) : String :=
    let n := (Tool.count? word).getD 0
    ((signalNames.find? (·.2 == if 128 < n then n - 128 else n)).map (·.1)).getD ""
  (t.outcome 0).print "kill" 1
    (Text.Utf8.encode (String.join (words.map fun word => name word ++ "\n")))

/-- **Signals for processes**, the shell itself perhaps among them. -/
def kill (t : Turn) (args : List String) : Turn :=
  if args.head? = some "-l" then nameSignals t ((args.drop 1).take 1) else
  match killArguments args with
  | none => (t.outcome 2).complain "kill: bad signal"
  | some (_, []) =>
    (t.outcome 2).complain "kill: Usage: kill [-s sigspec | -signum | -sigspec] [pid | job]..."
  | some (number, targets) =>
    let (fine, m) := targets.foldl (fun (fine, m) target =>
      let (found, m) := killOne m t.process number target
      (fine && found, m)) (true, t.settled)
    match m.process? t.process.pid with
    | some p =>
      match p.program with
      | .shell s =>
        if p.hasEnded then { t with machine := m, isGone := true }
        else
          let t := { t with machine := m, process := p, shell := s }
          if fine then t.outcome 0 else (t.outcome 1).complain "kill: No such process\n"
      | .tool _ => { t with machine := m, isGone := true }
    | none => { t with machine := m, isGone := true }

/-- A condition. -/
def test (t : Turn) (name : String) (args : List String) : Turn :=
  let words := if name = "[" then args.dropLast else args
  if name = "[" && args.getLast? ≠ some "]" then (t.outcome 2).complain "[: missing ]"
  else
    match Test.evaluate (testFiles (filesOf t.machine t.process)) words with
    | .ok b => t.outcome (if b then 0 else 1)
    | .error e => (t.outcome 2).complain (name ++ ": " ++ e)

/-- The escapes that the shell understands in words, and in formats. -/
def escapes (inFormat : Bool) : Escapes := ⟨false, false, !inFormat, !inFormat⟩

/-- Words printed with escapes, on a line of their own unless that is declined. -/
def echo (t : Turn) (args : List String) : Turn :=
  let (declined, args) := match args with
    | "-n" :: rest => (true, rest)
    | args => (false, args)
  (t.outcome 0).print "echo" 1 (Format.echo args (some (escapes false)) declined)

/-- Words printed by a format. -/
def printf (t : Turn) (args : List String) : Turn :=
  match (match args with
    | "--" :: rest => rest
    | args => args) with
  | [] => (t.outcome 2).complain "printf: usage: printf format [arg ...]"
  | format :: args =>
    let printed := Format.printf (escapes true) format args
    let t := t.outcome (if printed.faults.isEmpty then 0 else 1)
    let said : FormatFault → String
      | .noNumber text => text ++ ": expected numeric value"
      | .noDirective conversion => "%" ++ conversion.toString ++ ": invalid directive"
    printed.faults.foldr (fun fault t => t.complain ("printf: " ++ said fault))
      (t.print "printf" 1 printed.bytes)

/-- A script read from a file, in this shell. -/
def source (t : Turn) (args : List String) : Turn :=
  match args with
  | [] => t.outcome 0
  | path :: _ =>
    match (filesOf t.machine t.process).read path with
    | .ok bytes => t.push (.read (Token.scan (Text.Utf8.decodeLossy bytes)))
    | .error _ => t.abort (".: cannot open " ++ path ++ ": No such file") 2

/-- The shell becomes another program, unless none is named. -/
def exec (t : Turn) (args : List String) : Turn :=
  match args with
  | [] => t.outcome 0
  | name :: _ =>
    match load t.machine t.process args t.shell.scope.environment with
    | .ok program => t.become program
    | .error e =>
      if e = .permissionDenied then t.abort ("exec: " ++ name ++ ": Permission denied") 126
      else t.abort ("exec: " ++ name ++ ": not found") 127

/-- The commands that need no program. -/
def names : List String :=
  [":", "true", "false", "echo", "printf", "test", "[", "exit", "return", "break", "continue", "cd",
    "pwd", "export", "readonly", "local", "unset", "set", "shift", "eval", ".", "exec", "trap",
    "kill", "wait", "read", "umask", "ulimit", "command", "type"]

/-- The names of which it is known what they run, a line each. -/
def describe (t : Turn) (wanted : List String) : Turn :=
  let found := wanted.filterMap fun name =>
    if names.contains name || t.shell.functions.any (·.1 == name) then some name
    else
      match lookUp (filesOf t.machine t.process) t.shell.scope.environment name with
      | .ok _ => some (if name.toList.contains '/' then name else Path.join "/usr/bin" name)
      | .error _ => none
  (t.outcome (if found.length = wanted.length then 0 else 127)).print "command" 1
    (Text.Utf8.encode (String.join (found.map (· ++ "\n"))))

/-- What kind of command a name is, in words, and whether there is one. -/
def kindOf (t : Turn) (name : String) : String × Bool :=
  if isSpecial name then ("is a special shell builtin", true)
  else if t.shell.functions.any (·.1 == name) then ("is a shell function", true)
  else if names.contains name then ("is a shell builtin", true)
  else
    match lookUp (filesOf t.machine t.process) t.shell.scope.environment name with
    | .ok _ => ("is " ++ if name.toList.contains '/' then name else Path.join "/usr/bin" name, true)
    | .error _ => (": not found", false)

/-- The kinds of commands that names are, a line each. -/
def type (t : Turn) (wanted : List String) : Turn :=
  let kinds := wanted.map fun name => (name, kindOf t name)
  let lines := kinds.map fun (name, words, found) =>
    name ++ (if found then " " else "") ++ words ++ "\n"
  (t.outcome (if kinds.all (·.2.2) then 0 else 127)).print "type" 1
    (Text.Utf8.encode (String.join lines))

/-- **What a command does that needs no program**, if a name with its arguments is one. -/
def ofName? (name : String) (args : List String) : Option (Turn → Turn) :=
  match name with
  | ":" | "true" => some (·.outcome 0)
  | "false" => some (·.outcome 1)
  | "echo" => some fun t => echo t args
  | "printf" => some fun t => printf t args
  | "test" | "[" => some fun t => test t name args
  | "exit" => some fun t => codeOr t "exit" args t.quit
  | "return" => some fun t => codeOr t "return" args (leaveFunction t)
  | "break" => some fun t => (t.withTasks (unwind (loops args) false t.shell.tasks)).withStatus 0
  | "continue" => some fun t => (t.withTasks (unwind (loops args) true t.shell.tasks)).withStatus 0
  | "cd" => some fun t => changeDirectory t args
  | "pwd" => some fun t =>
    (t.outcome 0).print "pwd" 1 (Text.Utf8.encode (t.process.directoryPath ++ "\n"))
  | "export" => some fun t => exportNames t args
  | "readonly" => some fun t => setNames t args
  | "local" => some fun t => localNames t args
  | "unset" => some fun t => unset t args
  | "set" => some fun t => set t args
  | "shift" => some fun t => shift t args
  | "eval" => some fun t => (t.withStatus 0).push (.read (Token.scan (" ".intercalate args)))
  | "." => some fun t => source t args
  | "exec" => some fun t => exec t args
  | "trap" => some fun t => trap t args
  | "kill" => some fun t => kill t args
  | "wait" => some fun t =>
    if args.isEmpty then t.push (.waitFor none)
    else t.push (.waitFor (some (args.filterMap Tool.count?)))
  | "read" => some fun t =>
    t.push (.readLine (args.contains "-r") (args.filter fun a => !a.startsWith "-") [])
  | "command" =>
    match args with
    | "-v" :: wanted => some fun t => describe t (wanted.take 1)
    | _ => none
  | "type" => some fun t => type t args
  | "ulimit" => some fun t =>
    if args.any fun a => !a.startsWith "-" then t.outcome 0
    else (t.outcome 0).print "ulimit" 1 (Text.Utf8.encode "unlimited\n")
  | "umask" => some fun t =>
    if args.isEmpty then (t.outcome 0).print "umask" 1 (Text.Utf8.encode "0022\n") else t.outcome 0
  | _ => none

end Builtin

end ChildWatch.Machine
