/-! # Signals

The signals a session may send to its child or to the child's group. -/

namespace ChildWatch

/-- A stop signal. -/
inductive Signal where
  | interrupt
  | terminate
  | kill
deriving DecidableEq, Repr, Inhabited

namespace Signal

/-- The name shown in messages. -/
def name : Signal → String
  | .interrupt => "Interrupt"
  | .terminate => "Terminate"
  | .kill => "Kill"

/-- The number the system knows the signal by. -/
def number : Signal → Nat
  | .interrupt => 2
  | .terminate => 15
  | .kill => 9

/-- The largest process identifier that can be addressed, `2 ^ 31 - 1`. -/
def maxPid : Nat := 2147483647

end Signal

end ChildWatch
