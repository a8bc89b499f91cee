import ChildWatch.Error
import ChildWatch.Signal

/-! # Delivery of signals

A process is addressed by a number in the system's range; the system may still refuse.

* `Signal.deliver` — what comes of a signal, given the system's answer. -/

namespace ChildWatch

/-- Why the system refuses a signal. -/
inductive Refusal where
  | noSuchProcess
  | notPermitted
deriving DecidableEq, Repr

/-- The wording of a refusal. -/
def Refusal.message : Refusal → String
  | .noSuchProcess => "ESRCH: No such process"
  | .notPermitted => "EPERM: Operation not permitted"

namespace Signal

/-- The error of a signal that was not sent. -/
def failure (s : Signal) (reason : String) : Error := .signalSendFailed s.name reason

/-- **Delivery**: the system is asked only for a number that a process can have. `answer` is its
refusal, if it refuses. -/
def deliver (s : Signal) (pid : Nat) (answer : Option Refusal) : Except Error Unit :=
  if maxPid < pid then .error (s.failure ("PID " ++ toString pid ++ " out of range"))
  else
    match answer with
    | some refusal => .error (s.failure refusal.message)
    | none => .ok ()

end Signal

end ChildWatch
