import ChildWatch.Error.Io
import ChildWatch.Report.TraceMode
import ChildWatch.Stream
import ChildWatch.Time.Duration

/-! # Errors

Everything that can go wrong, as a cause with its data.

* `Error.message` — the text of an error.
* `Error.source?` — the text of the error underneath, if there is one.
* `Error.chain` — both, as the program's last words print them. -/

namespace ChildWatch

/-- What is wrong with a configuration text: it is no document of its format, or it is one that
does not fit. -/
inductive ConfigProblem where
  | malformed (report : String)
  | unfit (report : String)
deriving DecidableEq, Repr

/-- The report of a problem. -/
def ConfigProblem.report : ConfigProblem → String
  | .malformed r => r
  | .unfit r => r

/-- The causes of failure. -/
inductive Error where
  | launch (command : String) (source : IoError)
  | emptyCommand
  | signalSendFailed (signal reason : String)
  | signalNotSupported (signal platform : String)
  | pumpRead (stream : Stream) (source : IoError)
  | pumpPanicked (stream : Stream)
  | streamNotCaptured (stream : Stream)
  | patternTimeout (pattern : String) (timeout : Duration)
  | invalidPattern (reason : String)
  | configLoadFailed (path reason : String)
  | configParseFailed (problem : ConfigProblem)
  | configValidationFailed (field reason : String)
  | invalidTraceMode (value : String)
  | traceModeUnsupported (mode : TraceMode)
  | loggingInit (reason : String)
  | io (source : IoError)
deriving DecidableEq

namespace Error

/-- The text of an error. -/
def message : Error → String
  | .launch command source => "Failed to launch '" ++ command ++ "': " ++ source.message
  | .emptyCommand => "Command cannot be empty"
  | .signalSendFailed signal reason => "Failed to send signal '" ++ signal ++ "': " ++ reason
  | .signalNotSupported signal platform =>
    "Signal '" ++ signal ++ "' not supported on " ++ platform
  | .pumpRead stream source => "Failed to read child " ++ stream.name ++ ": " ++ source.message
  | .pumpPanicked stream => "The " ++ stream.name ++ " pump thread panicked"
  | .streamNotCaptured stream => "Child " ++ stream.name ++ " is not captured by this session"
  | .patternTimeout pattern timeout =>
    "Timeout waiting for \"" ++ pattern ++ "\" in output after " ++ timeout.text
  | .invalidPattern reason => "Invalid pattern: " ++ reason
  | .configLoadFailed path reason => "Failed to load config from '" ++ path ++ "': " ++ reason
  | .configParseFailed problem => "Failed to parse TOML config: " ++ problem.report
  | .configValidationFailed field reason =>
    "Configuration validation failed for '" ++ field ++ "': " ++ reason
  | .invalidTraceMode value =>
    "Invalid traces value: " ++ value ++ " (expected none, target or all)"
  | .traceModeUnsupported mode => "Trace mode '" ++ mode.name ++ "' is not supported"
  | .loggingInit reason => "Failed to initialise logging: " ++ reason
  | .io source => "I/O error: " ++ source.message

/-- The text of the error underneath, for the errors that wrap one. -/
def source? : Error → Option String
  | .launch _ source | .pumpRead _ source | .io source => some source.message
  | .invalidPattern reason => some reason
  | _ => none

/-- An error and the one underneath, joined by a colon. -/
def chain (e : Error) : String :=
  match e.source? with
  | some s => e.message ++ ": " ++ s
  | none => e.message

/-- Whether the error is a wait that ran out of time, rather than a fault. -/
def isTimeout : Error → Bool
  | .patternTimeout .. => true
  | _ => false

end Error

end ChildWatch
