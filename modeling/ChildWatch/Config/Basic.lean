import ChildWatch.Error

/-! # Configuration

What holds for every run unless it is said otherwise: the time allowed for a wait, the grace period
of a stop, what becomes of the error stream, and which lines are printed.

* `Config`, `Config.default` — the settings.
* `Config.validate` — the rules that settings must obey.
* `Config.render` — the text of a configuration. -/

namespace ChildWatch

/-- What becomes of a child's error stream. -/
inductive StderrMode where
  | capture
  | inherit
  | discard
deriving DecidableEq, Repr

namespace StderrMode

instance : Inhabited StderrMode := ⟨.capture⟩

/-- The spelling of a mode. -/
def name : StderrMode → String
  | .capture => "capture"
  | .inherit => "inherit"
  | .discard => "discard"

/-- The mode of a spelling. -/
def ofName? (s : String) : Option StderrMode :=
  if s = "capture" then some .capture
  else if s = "inherit" then some .inherit
  else if s = "discard" then some .discard
  else none

/-- Every mode is read back from its spelling. -/
@[simp] theorem ofName?_name (m : StderrMode) : ofName? m.name = some m := by
  cases m <;> rfl

end StderrMode

/-- A **configuration**; times are in milliseconds. -/
structure Config where
  defaultWaitTimeoutMs : UInt64
  terminateGraceMs : Option UInt64
  stderr : StderrMode
  traces : TraceMode
deriving DecidableEq

namespace Config

/-- The configuration where none is given. -/
def default : Config := ⟨5000, none, .capture, .all⟩

instance : Inhabited Config := ⟨default⟩

/-- The time allowed for a wait. -/
def defaultWaitTimeout (c : Config) : Duration := .ofMillis c.defaultWaitTimeoutMs

/-- The grace period of a stop, if there is one. -/
def terminateGrace (c : Config) : Option Duration := c.terminateGraceMs.map .ofMillis

/-- The names of the settings. -/
def waitKey : String := "default_wait_timeout_ms"

/-- The name of the grace period. -/
def graceKey : String := "terminate_grace_ms"

/-- The name of the error stream's mode. -/
def stderrKey : String := "stderr"

/-- The name of the trace mode. -/
def tracesKey : String := "traces"

/-- **The rules**: the time for a wait is not zero, and a grace period is not zero if there is
one. -/
def validate (c : Config) : Except Error Config :=
  if c.defaultWaitTimeoutMs = 0 then
    .error (.configValidationFailed waitKey "Wait timeout must be greater than 0")
  else if c.terminateGraceMs = some 0 then
    .error (.configValidationFailed graceKey "Grace period must be greater than 0 when set")
  else .ok c

/-- A line of a setting. -/
def settingLine (key value : String) : String := key ++ " = " ++ value ++ "\n"

/-- A word as a value. -/
def quotedWord (word : String) : String := "\"" ++ word ++ "\""

/-- **The text of a configuration**; a grace period that is not set is left out. -/
def render (c : Config) : String :=
  settingLine waitKey (toString c.defaultWaitTimeoutMs.toNat) ++
    (match c.terminateGraceMs with
      | some ms => settingLine graceKey (toString ms.toNat)
      | none => "") ++
    settingLine stderrKey (quotedWord c.stderr.name) ++
    settingLine tracesKey (quotedWord c.traces.name)

end Config

end ChildWatch
