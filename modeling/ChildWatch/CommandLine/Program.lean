import ChildWatch.CommandLine.Help
import ChildWatch.CommandLine.Options
import ChildWatch.Config.Load
import ChildWatch.Config.SearchPath
import ChildWatch.Journal.Filter
import ChildWatch.Report.Traces
import ChildWatch.Session.Launch
import ChildWatch.Session.Release

/-! # The program

A run of the program: it launches the command it is given, waits for the patterns one after the other,
stops the command, and prints what it has captured.

* `Surroundings`, `Setting` — what the program finds where it is run.
* `Program.watch` — from the options to the exit code, or the error that ends the run.
* `Program.run` — the whole run, from the arguments to the exit code. -/

namespace ChildWatch.CommandLine

/-- The **surroundings** of the program: a system for its child, and its own two streams. -/
structure Surroundings (σ : Type) extends System σ where
  /-- What a stream of the program will take. -/
  sink : Stream → σ → Sink
  /-- The system after a sink of it has been written to. -/
  wrote : Stream → Sink → σ → σ

/-- What the program is started with. `recordedHome` is the user's home directory by the system's
records. -/
structure Setting where
  arguments : List String
  environment : Environment
  recordedHome : String
  directory : String
  files : FileTree

/-- The code of a run in which every pattern was seen. -/
def exitSeen : Nat := 0

/-- The code of a run that an error has ended. -/
def exitFailed : Nat := 1

/-- The code of a run in which a pattern did not appear in time. -/
def exitTimedOut : Nat := 2

namespace Program

variable {σ : Type} (sys : Surroundings σ)

/-- An entry of the program itself. -/
def note (level : Journal.Level) (text : String) (system : σ) : σ :=
  sys.note ⟨level, .program, text⟩ system

/-- A text on a stream of the program. -/
def print (stream : Stream) (text : String) (system : σ) : σ :=
  sys.wrote stream ((sys.sink stream system).writeAll (Text.Utf8.encode text)).2 system

/-- A report on a stream of the program. -/
def report (stream : Stream) (mode : TraceMode) (lines : List String) (system : σ) :
    Except Error Unit × σ :=
  let (result, sink) := Report.write (sys.sink stream system) mode lines
  (result, sys.wrote stream sink system)

/-- The patterns of the options. -/
def patterns (o : Options) : Except Error (List Pattern) :=
  o.patterns.mapM fun text => if o.regex then Pattern.regex text else .ok (.substring text)

/-- The waits, in order, up to the first that is not answered by a match. `none` is a run that is
given up while a wait is pending. -/
def waits (h : Host σ) (polls : Nat) (timeout : Duration) :
    List Pattern → Live σ → Option (Except Error Nat) × Live σ
  | [], l => (some (.ok exitSeen), l)
  | p :: rest, l =>
    match l.wait h .stdout ⟨p, timeout⟩ polls with
    | (none, l) => (none, l)
    | (some (.ok ()), l) =>
      waits h polls timeout rest
        { l with system := note sys .info ("Saw \"" ++ p.text ++ "\"") l.system }
    | (some (.error e), l) =>
      if e.isTimeout then
        (some (.ok exitTimedOut), { l with system := note sys .error e.message l.system })
      else (some (.error e), l)

/-- The child is left running for a while after the last match. -/
def hold (h : Host σ) (span : Option Duration) (system : σ) : σ :=
  match span with
  | none => system
  | some d => h.pause d (note sys .debug ("Holding for " ++ d.text) system)

/-- The errors of the pumps are put into the journal. -/
def notePumpErrors (l : Live σ) : Live σ :=
  let (errors, session) := l.session.takePumpErrors
  ⟨session, errors.foldl (fun system e => note sys .warn e.message system) l.system⟩

/-- A captured line of the error stream, as it is printed. -/
def errorLine (line : String) : String := "stderr: " ++ line

/-- **The end of a run**: the reports of both streams. The first that fails is the last that is
tried. -/
def reports (h : Host σ) (mode : TraceMode) (l : Live σ) : Except Error Unit × Live σ :=
  let (lines, l) := l.snapshot h .stdout
  match report sys .stdout mode lines l.system with
  | (.error e, system) => (.error e, { l with system := system })
  | (.ok (), system) =>
    let (lines, l) := ({ l with system := system } : Live σ).snapshot h .stderr
    let (result, system) := report sys .stderr mode (lines.map errorLine) l.system
    (result, { l with system := system })

/-- **A session from its first wait to its release**, and the exit code. A session that an error ends
early is released all the same. -/
def follow (h : Host σ) (polls : Nat) (o : Options) (timeout : Duration) (mode : TraceMode)
    (wanted : List Pattern) (l : Live σ) : Option (Except Error Nat) × Live σ :=
  match waits sys h polls timeout wanted l with
  | (none, l) => (none, l)
  | (some (.error e), l) => (some (.error e), l.terminate h)
  | (some (.ok code), l) =>
    let l := if code = exitSeen then { l with system := hold sys h o.hold l.system } else l
    let (result, l) := reports sys h mode (notePumpErrors sys (l.terminate h))
    (some (result.map fun () => code), l)

/-- The entry about the place that decides on the configuration. -/
def configurationEntry (setting : Setting) (search : List String) (o : Options) :
    List Journal.Entry :=
  match o.configPath with
  | some _ => []
  | none =>
    match search.find? setting.files.isFile with
    | some path => [⟨.debug, .configuration, "Loading config from " ++ path⟩]
    | none => [⟨.debug, .configuration, "No config file found, using defaults"⟩]

/-- Why a run has ended without a code: what was being done, if it is worth saying, and the error. -/
structure Failure where
  doing : Option String
  error : Error

/-- A failure with everything underneath it. -/
def Failure.text (f : Failure) : String :=
  match f.doing with
  | some doing => doing ++ ": " ++ f.error.chain
  | none => f.error.chain

/-- **From the options to the exit code.** The configuration, the patterns and the command are judged
in this order, and only then is anything launched. -/
def watch (setting : Setting) (o : Options) (polls : Nat) (system : σ) :
    Option (Except Failure Nat) × σ :=
  let search := SearchPath.of setting.environment setting.recordedHome setting.directory
  let system := (configurationEntry setting search o).foldl (fun s e => sys.note e s) system
  match Config.load setting.files search o.configPath with
  | .error e => (some (.error ⟨some "Failed to load configuration", e⟩), system)
  | .ok config =>
    match patterns o with
    | .error e => (some (.error ⟨none, e⟩), system)
    | .ok wanted =>
      match Command.ofArgv? o.command with
      | none => (some (.error ⟨none, .emptyCommand⟩), system)
      | some command =>
        match Session.start sys.toSystem command config system with
        | (.error e, system) => (some (.error ⟨none, e⟩), system)
        | (.ok session, system) =>
          let timeout := o.timeout.getD config.defaultWaitTimeout
          let (result, l) := follow sys (sys.child session.pid) polls o timeout
            (o.traces.getD config.traces) wanted ⟨session, system⟩
          (result.map fun r => r.mapError fun e => ⟨none, e⟩, l.system)

/-- The surroundings with a journal that holds only what the filter allows. -/
def filtered (f : Journal.Filter) : Surroundings σ :=
  { sys with
    toSystem := sys.toSystem.noting fun e system => if f.allows e then sys.note e system else system }

/-- A run with options that are neither for help nor for the version. -/
def runWatch (setting : Setting) (o : Options) (polls : Nat) (system : σ) : Option Nat × σ :=
  let sys := filtered sys (Journal.Filter.of setting.environment o.debug)
  let system := note sys .debug ("Arguments: " ++ o.debugText) system
  match watch sys setting o polls system with
  | (none, system) => (none, system)
  | (some (.ok code), system) => (some code, system)
  | (some (.error f), system) => (some exitFailed, note sys .error f.text system)

/-- **A run of the program**, and its exit code. There is none if a wait is still pending after
`polls` polls, which is given up. -/
def run (setting : Setting) (polls : Nat) (system : σ) : Option Nat × σ :=
  match Options.parse setting.arguments with
  | .error e =>
    (some exitFailed,
      print sys .stdout help (print sys .stderr ("Error: " ++ e.message ++ "\n") system))
  | .ok o =>
    if o.help then (some exitSeen, print sys .stdout help system)
    else if o.version then (some exitSeen, print sys .stdout versionLine system)
    else runWatch sys setting o polls system

end Program

end ChildWatch.CommandLine
