/-! # Rounding to 53 binary digits

The nearest value `m · 2 ^ e` to a ratio, where `m` has at most 53 binary digits and `e` is at
least `-1074`. Ties go to the even `m`; what reaches `2 ^ 1024` is infinite.

* `divHalfEven` — division to the nearest natural number, ties to even.
* `Binary` — such a value: a mantissa times a power of two.
* `Binary.round?` — the nearest such value to a ratio of natural numbers. -/

namespace ChildWatch.Decimal

/-- The natural number nearest to `num / den`; of two equally near ones, the even one. -/
def divHalfEven (num den : Nat) : Nat :=
  let q := num / den
  let r := num % den
  if 2 * r < den then q
  else if den < 2 * r then q + 1
  else if q % 2 = 0 then q else q + 1

/-- `mantissa · 2 ^ exponent`. -/
structure Binary where
  mantissa : Nat
  exponent : Int
deriving DecidableEq, Repr

/-- The numerator and denominator of `n · b ^ e`. -/
def ratioOfPower (n b : Nat) (e : Int) : Nat × Nat :=
  if 0 ≤ e then (n * Nat.pow b e.toNat, 1) else (n, Nat.pow b (-e).toNat)

namespace Binary

/-- The value as a ratio of natural numbers. -/
def ratio (x : Binary) : Nat × Nat := ratioOfPower x.mantissa 2 x.exponent

/-- The exponent of the largest power of two that is at most `num / den`, for positive numbers. -/
def log2Ratio (num den : Nat) : Int :=
  let guess : Int := (num.log2 : Int) - den.log2
  -- `2 ^ guess ≤ num / den` fails only if the denominator's tail is the larger one
  let (a, b) := ratioOfPower 1 2 guess
  if a * den ≤ num * b then guess else guess - 1

/-- The finest step at `num / den`: 52 binary places below its leading one, and never finer than
`2 ^ (-1074)`. -/
def stepExponent (num den : Nat) : Int := max (log2Ratio num den - 52) (-1074)

/-- **Rounding to 53 binary digits**, or `none` when the result reaches `2 ^ 1024`. -/
def round? (num den : Nat) : Option Binary :=
  if num = 0 then some ⟨0, 0⟩
  else
    let e := stepExponent num den
    let (a, b) := ratioOfPower 1 2 e
    let m := divHalfEven (num * b) (den * a)
    let x : Binary := ⟨m, e⟩
    if x.ratio.1 < Nat.pow 2 1024 * x.ratio.2 then some x else none

end Binary

end ChildWatch.Decimal
