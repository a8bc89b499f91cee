import ChildWatch.Decimal.Binary

/-! # The shortest decimal of a binary number

The decimal with the fewest digits among those that round to a given number of 53 binary digits; of
several such decimals the one nearest to it.

* `Shortest.decimal` — that decimal, as digits and a power of ten.
* `Shortest.positional` — its text without a power of ten, with at least one decimal place. -/

namespace ChildWatch.Decimal.Shortest

/-- The ratios next to which a decimal still rounds to `x`, over a common denominator: lower end,
upper end and denominator. The interval is narrower below a power of two, where the mantissa is
`2 ^ 52`. -/
def interval (x : Binary) : Nat × Nat × Nat :=
  let narrow := x.mantissa = 4503599627370496 ∧ -1074 < x.exponent
  let (a, b) := ratioOfPower 1 2 (x.exponent - 2)
  ((if narrow then 4 * x.mantissa - 1 else 4 * x.mantissa - 2) * a, (4 * x.mantissa + 2) * a, b)

/-- Whether `digits · 10 ^ e` rounds to `x`. The ends of the interval count if the mantissa is
even. -/
def roundsTo (x : Binary) (digits : Nat) (e : Int) : Bool :=
  let (low, high, den) := interval x
  let (num, den') := ratioOfPower digits 10 e
  let l := low * den'
  let v := num * den
  let h := high * den'
  if x.mantissa % 2 = 0 then l ≤ v && v ≤ h else l < v && v < h

/-- The exponent of the largest power of ten that is at most `num / den`, found from `guess` upwards
or downwards. -/
def log10From : Nat → Int → Nat → Nat → Int
  | 0, guess, _, _ => guess
  | fuel + 1, guess, num, den =>
    let (a, b) := ratioOfPower 1 10 guess
    let (a', b') := ratioOfPower 1 10 (guess + 1)
    if num * b < a * den then log10From fuel (guess - 1) num den
    else if a' * den ≤ num * b' then log10From fuel (guess + 1) num den
    else guess

/-- The decimals with `count` digits next to `x`, below and above, with their power of ten. -/
def neighbours (x : Binary) (top : Int) (count : Nat) : Nat × Nat × Int :=
  let e := top - (count - 1)
  let (num, den) := x.ratio
  let (a, b) := ratioOfPower 1 10 e
  let below := num * b / (den * a)
  (below, below + 1, e)

/-- The distance of `digits · 10 ^ e` from `x`, over a denominator that both share. -/
def distance (x : Binary) (digits : Nat) (e : Int) : Nat :=
  let (num, den) := x.ratio
  let (a, b) := ratioOfPower digits 10 e
  let p := num * b
  let q := a * den
  max p q - min p q

/-- The first count of digits with a decimal that rounds to `x`. -/
def searchFrom (x : Binary) (top : Int) : Nat → Nat → Nat × Int
  | 0, count =>
    let (below, _, e) := neighbours x top count
    (below, e)
  | fuel + 1, count =>
    let (below, above, e) := neighbours x top count
    match roundsTo x below e, roundsTo x above e with
    | true, true => if distance x above e < distance x below e then (above, e) else (below, e)
    | true, false => (below, e)
    | false, true => (above, e)
    | false, false => searchFrom x top fuel (count + 1)

/-- **The shortest decimal** that rounds to `x`: digits and a power of ten. Seventeen digits are
always enough. -/
def decimal (x : Binary) : Nat × Int :=
  if x.mantissa = 0 then (0, 0)
  else
    let (num, den) := x.ratio
    let guess : Int := ((num.log2 : Int) - den.log2) * 3 / 10
    searchFrom x (log10From 700 guess num den) 17 1

/-- `digits · 10 ^ e` without a power of ten, and with `.0` if it is whole. -/
def positionalText (digits : Nat) (e : Int) : String :=
  if 0 ≤ e then toString (digits * Nat.pow 10 e.toNat) ++ ".0"
  else
    let places := (-e).toNat
    let whole := digits / Nat.pow 10 places
    let shown := toString (digits % Nat.pow 10 places)
    let padded := List.replicate (places - shown.length) '0' ++ shown.toList
    let kept := (padded.reverse.dropWhile (· == '0')).reverse
    toString whole ++ "." ++ (if kept.isEmpty then "0" else String.ofList kept)

/-- **The text of a number**, without a power of ten. -/
def positional (x : Binary) : String :=
  let (digits, e) := decimal x
  positionalText digits e

end ChildWatch.Decimal.Shortest
