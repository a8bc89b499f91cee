import ChildWatch.Time.Duration
import ChildWatch.Decimal.Literal
import ChildWatch.Decimal.Binary

/-! # Seconds as people type them

A decimal literal of seconds becomes a `Duration` by two roundings: to 53 binary digits, then to
whole nanoseconds, both to nearest with ties to even.

* `Seconds.parse` — the duration of a text, or the cause why there is none.
* `Seconds.ofLiteral` — the same from a literal already read. -/

namespace ChildWatch.Seconds

/-- Why a text gives no duration. -/
inductive Cause where
  | literal (e : Decimal.LiteralError)
  | negative
  | outOfRange
deriving DecidableEq, Repr

/-- The fixed wording of each cause. -/
def Cause.message : Cause → String
  | .literal e => e.message
  | .negative => "cannot convert float seconds to Duration: value is negative"
  | .outOfRange => "cannot convert float seconds to Duration: value is either too big or NaN"

/-- The nearest whole number of nanoseconds to a number of seconds. -/
def nanosOfBinary (x : Decimal.Binary) : Nat :=
  Decimal.divHalfEven (x.ratio.1 * 1000000000) x.ratio.2

/-- The duration of a non-negative number of seconds, below `2 ^ 64` of them. -/
def durationOfBinary (x : Decimal.Binary) : Except Cause Duration :=
  if x.ratio.1 < 18446744073709551616 * x.ratio.2 then
    match Duration.ofNanos? (nanosOfBinary x) with
    | some d => .ok d
    | none => .error .outOfRange
  else .error .outOfRange

/-- The duration of a literal. A negative one is refused unless it rounds to zero. -/
def ofLiteral (l : Decimal.Literal) : Except Cause Duration :=
  match l.magnitude with
  | .notANumber => .error .outOfRange
  | .infinite => .error (if l.negative then .negative else .outOfRange)
  | .decimal digits exponent =>
    let (num, den) := Decimal.ratioOfPower digits 10 exponent
    match Decimal.Binary.round? num den with
    | none => .error (if l.negative then .negative else .outOfRange)
    | some x =>
      if l.negative ∧ x.mantissa ≠ 0 then .error .negative else durationOfBinary x

/-- **Reading seconds**. -/
def parse (text : String) : Except Cause Duration :=
  match Decimal.Literal.parse text with
  | .error e => .error (.literal e)
  | .ok l => ofLiteral l

end ChildWatch.Seconds
