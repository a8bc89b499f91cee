import ChildWatch.Error
import ChildWatch.Text.Quoted
import ChildWatch.Time.Seconds

/-! # Options of the command line

The arguments are read from left to right: options with their values, then the command, from a double
hyphen or the first word that is no option.

* `Options.parse` — the options of an argument list, or what is wrong with it.
* `OptionsError.message` — the wording of each fault.
* `Options.debugText` — the options in full. -/

namespace ChildWatch.CommandLine

/-- What the command line asks for. `patterns` are in the order in which they are given. -/
structure Options where
  configPath : Option String
  patterns : List String
  regex : Bool
  timeout : Option Duration
  hold : Option Duration
  traces : Option TraceMode
  debug : Bool
  help : Bool
  version : Bool
  command : List String
deriving DecidableEq

/-- What is wrong with a command line. -/
inductive OptionsError where
  | unknownOption (word : String)
  | missingValue (option : String)
  | badSeconds (value : String) (cause : Seconds.Cause)
  | badTraceMode (value : String)
  | missingProgram
deriving DecidableEq

/-- The error behind a fault, for the faults that have one. -/
def OptionsError.error? : OptionsError → Option Error
  | .badTraceMode value => some (.invalidTraceMode value)
  | _ => none

/-- The wording of a fault, with what is underneath it after a colon. -/
def OptionsError.message : OptionsError → String
  | .unknownOption word => "Unknown option: " ++ word
  | .missingValue option => "Missing value for " ++ option
  | .badSeconds value cause => "Invalid number of seconds: " ++ value ++ ": " ++ cause.message
  | .badTraceMode value => (Error.invalidTraceMode value).chain
  | .missingProgram => "Missing program to run"

/-- The options that take a value. -/
inductive ValueOption where
  | config
  | wait
  | timeout
  | hold
  | traces
deriving DecidableEq, Repr

/-- The options that are given or not. -/
inductive Switch where
  | regex
  | debug
  | help
  | version
deriving DecidableEq, Repr

/-- What a word stands for where an option can be. -/
inductive Word where
  | value (o : ValueOption)
  | switch (s : Switch)
  | endOfOptions
  | unknown
  | program
deriving DecidableEq, Repr

/-- The spellings of the options. Every other word that starts with a hyphen is unknown. -/
def Word.of (w : String) : Word :=
  match w with
  | "--config" | "-c" => .value .config
  | "--wait" | "-w" => .value .wait
  | "--timeout" | "-t" => .value .timeout
  | "--hold" => .value .hold
  | "--traces" => .value .traces
  | "--regex" | "-r" => .switch .regex
  | "--debug" | "-d" => .switch .debug
  | "--help" | "-h" => .switch .help
  | "--version" | "-v" => .switch .version
  | "--" => .endOfOptions
  | w => if w.toList.head? = some '-' then .unknown else .program

namespace Options

/-- Nothing asked for. -/
def empty : Options :=
  ⟨none, [], false, none, none, none, false, false, false, []⟩

/-- A switch that is given. -/
def turnOn (o : Options) : Switch → Options
  | .regex => { o with regex := true }
  | .debug => { o with debug := true }
  | .help => { o with help := true }
  | .version => { o with version := true }

/-- The duration of a number of seconds. -/
def seconds (value : String) : Except OptionsError Duration :=
  match Seconds.parse value with
  | .ok d => .ok d
  | .error cause => .error (.badSeconds value cause)

/-- An option with its value; a later value takes the place of an earlier one, but every pattern
counts. -/
def assign (o : Options) (option : ValueOption) (value : String) : Except OptionsError Options :=
  match option with
  | .config => .ok { o with configPath := some value }
  | .wait => .ok { o with patterns := o.patterns ++ [value] }
  | .timeout => (seconds value).map fun d => { o with timeout := some d }
  | .hold => (seconds value).map fun d => { o with hold := some d }
  | .traces =>
    match TraceMode.ofName? value with
    | some m => .ok { o with traces := some m }
    | none => .error (.badTraceMode value)

/-- The options of the words, added to those before them. A value is taken as it stands, whatever it
looks like, and so is everything from the program on. -/
def read (o : Options) : List String → Except OptionsError Options
  | [] => .ok o
  | word :: rest =>
    match Word.of word with
    | .switch s => read (o.turnOn s) rest
    | .endOfOptions => .ok { o with command := rest }
    | .program => .ok { o with command := word :: rest }
    | .unknown => .error (.unknownOption word)
    | .value option =>
      match rest with
      | [] => .error (.missingValue word)
      | value :: rest =>
        match o.assign option value with
        | .ok o => read o rest
        | .error e => .error e

/-- **Reading the arguments.** There must be a program, unless help or the version is asked for. -/
def parse (words : List String) : Except OptionsError Options :=
  match read empty words with
  | .error e => .error e
  | .ok o =>
    if o.command.isEmpty && !o.help && !o.version then .error .missingProgram else .ok o

/-- A value that may be missing, in the notation of its cases. -/
def optionalText {α : Type} (text : α → String) : Option α → String
  | some a => "Some(" ++ text a ++ ")"
  | none => "None"

/-- **The options in full**, for those who debug a run. -/
def debugText (o : Options) : String :=
  "CliArgs \x7B config_path: " ++ optionalText Text.Quoted.encodePath o.configPath ++
    ", patterns: " ++ Text.Quoted.encodeList o.patterns ++ ", regex: " ++ toString o.regex ++
    ", timeout: " ++ optionalText Duration.text o.timeout ++
    ", hold: " ++ optionalText Duration.text o.hold ++
    ", traces: " ++ optionalText TraceMode.caseName o.traces ++
    ", debug: " ++ toString o.debug ++ ", help: " ++ toString o.help ++
    ", version: " ++ toString o.version ++
    ", command: " ++ Text.Quoted.encodeList o.command ++ " \x7D"

end Options

end ChildWatch.CommandLine
