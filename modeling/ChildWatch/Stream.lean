/-! # Output streams

The two streams of a child that can be captured. -/

namespace ChildWatch

/-- An output stream of a child. -/
inductive Stream where
  | stdout
  | stderr
deriving DecidableEq, Repr, Inhabited

/-- The name of a stream. -/
def Stream.name : Stream → String
  | .stdout => "stdout"
  | .stderr => "stderr"

end ChildWatch
