import ChildWatch.Command

/-! # The observed state of a child

* `ExitStatus` — how a process ended: with a code, or by a signal.
* `SessionState` — running, exited on its own with a code or by a signal, or stopped by us.
* `SessionInfo` — what a session tells about itself. -/

namespace ChildWatch

/-- How a process ended. -/
inductive ExitStatus where
  | code (n : Nat)
  | signal (number : Nat)
deriving DecidableEq, Repr

namespace ExitStatus

/-- The code of an end that was not by a signal. -/
def code? : ExitStatus → Option Int
  | .code n => some n
  | .signal _ => none

/-- The status as people read it. -/
def text : ExitStatus → String
  | .code n => "exit status: " ++ toString n
  | .signal n => "signal: " ++ toString n

end ExitStatus

/-- The state of a child as last observed. `exited none` is an end by a signal. -/
inductive SessionState where
  | running
  | exited (code : Option Int)
  | terminated
deriving DecidableEq, Repr

namespace SessionState

instance : Inhabited SessionState := ⟨.running⟩

/-- Whether the child was running when last observed. -/
def isRunning : SessionState → Bool
  | .running => true
  | _ => false

/-- The state as people read it. -/
def text : SessionState → String
  | .running => "Running"
  | .exited (some code) => "Exited (exit: " ++ toString code ++ ")"
  | .exited none => "Exited (signal)"
  | .terminated => "Terminated"

end SessionState

/-- What a session tells about itself. -/
structure SessionInfo where
  command : Command
  pid : Nat
  state : SessionState
  capturedLines : Nat
deriving DecidableEq

/-- One line about a session. -/
def SessionInfo.text (i : SessionInfo) : String :=
  i.command.text ++ " [" ++ toString i.pid ++ "] - " ++ i.state.text ++ " (" ++
    toString i.capturedLines ++ " lines)"

end ChildWatch
