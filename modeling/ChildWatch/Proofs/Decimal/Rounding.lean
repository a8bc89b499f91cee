import ChildWatch.Proofs.Decimal.Nearest
import Mathlib.Data.Rat.Floor

/-! # Rounding to 53 binary digits

Rounding works on the numerator and the denominator of a ratio. Here it is said what it does to the
ratio, and no ratio of natural numbers is seen any more.

* `value_ratioOfPower`, `Binary.value` — the values of powers and of binary numbers.
* `Binary.log2Ratio_eq`, `Binary.step` — the step between binary numbers next to a value.
* `Binary.Rounds` — the binary number a value is rounded to; `round?_eq` — rounding gives it.
* `Rounds.mono`, `Rounds.abs_sub_le`, `Rounds.relative` — order, and how far off it is.
* `Rounds.value_lt_iff`, `Rounds.mantissa_eq_zero_iff` — what is rounded to less than a power of two,
  and what to zero.
* `Binary.Nearest`, `Rounds.nearest_binary` — no binary number is nearer. -/

namespace ChildWatch.Decimal

/-! ## Values -/

theorem ratioOfPower_pos (n : ℕ) {b : ℕ} (hb : 0 < b) (e : ℤ) : 0 < (ratioOfPower n b e).2 := by
  rw [ratioOfPower]
  split
  · exact Nat.one_pos
  · exact Nat.pow_pos hb

/-- The ratio of a power is its value. -/
theorem value_ratioOfPower (n b : ℕ) (e : ℤ) :
    ((ratioOfPower n b e).1 : ℚ) / (ratioOfPower n b e).2 = n * (b : ℚ) ^ e := by
  rw [ratioOfPower]
  by_cases he : 0 ≤ e
  · obtain ⟨k, rfl⟩ := Int.eq_ofNat_of_zero_le he
    rw [if_pos he]
    simp only [Int.toNat_natCast, Nat.pow_eq]
    push_cast
    rw [zpow_natCast, div_one]
  · obtain ⟨k, hk⟩ := Int.eq_ofNat_of_zero_le (show 0 ≤ -e by omega)
    obtain rfl : e = -k := by omega
    rw [if_neg he]
    simp only [neg_neg, Int.toNat_natCast, Nat.pow_eq]
    push_cast
    rw [zpow_neg, zpow_natCast, div_eq_mul_inv]

namespace Binary

/-- **The value of a binary number.** -/
def value (x : Binary) : ℚ := x.mantissa * 2 ^ x.exponent

theorem ratio_pos (x : Binary) : 0 < x.ratio.2 := ratioOfPower_pos _ two_pos _

theorem value_ratio (x : Binary) : (x.ratio.1 : ℚ) / x.ratio.2 = x.value :=
  value_ratioOfPower _ _ _

/-- Numbers are compared by numerator and denominator. -/
theorem ratio_lt_iff (x : Binary) (n : ℕ) : x.ratio.1 < n * x.ratio.2 ↔ x.value < n := by
  have hpos : (0 : ℚ) < x.ratio.2 := by exact_mod_cast x.ratio_pos
  rw [← value_ratio, div_lt_iff₀ hpos]
  exact_mod_cast Iff.rfl

theorem ratio_lt_pow_iff (x : Binary) (k : ℕ) :
    x.ratio.1 < Nat.pow 2 k * x.ratio.2 ↔ x.value < 2 ^ k := by
  rw [ratio_lt_iff, Nat.pow_eq, Nat.cast_pow, Nat.cast_ofNat]

theorem value_nonneg (x : Binary) : 0 ≤ x.value := by
  unfold value
  positivity

theorem value_zero : value ⟨0, 0⟩ = 0 := by
  rw [value, Nat.cast_zero, zero_mul]

theorem two_zpow_pos (e : ℤ) : (0 : ℚ) < 2 ^ e := zpow_pos two_pos e

theorem two_zpow_le {e f : ℤ} (h : e ≤ f) : (2 : ℚ) ^ e ≤ 2 ^ f :=
  zpow_le_zpow_right₀ one_le_two h

/-- The ratio of a power of two. -/
theorem ratioOfPower_two (e : ℤ) :
    0 < ((ratioOfPower 1 2 e).1 : ℚ) ∧ 0 < ((ratioOfPower 1 2 e).2 : ℚ) ∧
      ((ratioOfPower 1 2 e).1 : ℚ) / (ratioOfPower 1 2 e).2 = 2 ^ e := by
  have hratio := value_ratioOfPower 1 2 e
  rw [Nat.cast_one, one_mul, Nat.cast_ofNat] at hratio
  have hbelow : (0 : ℚ) < (ratioOfPower 1 2 e).2 := by
    exact_mod_cast ratioOfPower_pos 1 two_pos e
  have habove : (0 : ℚ) < (ratioOfPower 1 2 e).1 := by
    rw [(div_eq_iff hbelow.ne').mp hratio]
    exact mul_pos (two_zpow_pos e) hbelow
  exact ⟨habove, hbelow, hratio⟩

/-- Places moved out of a power of two. -/
theorem two_zpow_add (e : ℤ) (k : ℕ) : (2 : ℚ) ^ (e + k) = 2 ^ k * 2 ^ e := by
  rw [zpow_add₀ two_ne_zero, zpow_natCast, mul_comm]

/-! ## The step next to a value -/

section Log

variable {v w : ℚ}

/-- A positive value lies between two neighbouring powers of two. -/
theorem log_eq_of_between (hv : 0 < v) {e : ℤ} (hlow : 2 ^ e ≤ v) (hhigh : v < 2 ^ (e + 1)) :
    Int.log 2 v = e := by
  have hle := (Int.zpow_le_iff_le_log (b := 2) one_lt_two hv).mp (by exact_mod_cast hlow)
  have hlt := (Int.lt_zpow_iff_log_lt (b := 2) one_lt_two hv).mp (by exact_mod_cast hhigh)
  omega

theorem zpow_log_le (hv : 0 < v) : 2 ^ Int.log 2 v ≤ v := by
  exact_mod_cast Int.zpow_log_le_self (b := 2) one_lt_two hv

theorem lt_zpow_log (v : ℚ) : v < 2 ^ (Int.log 2 v + 1) := by
  exact_mod_cast Int.lt_zpow_succ_log_self (b := 2) one_lt_two v

/-- A positive number has as many binary places as its logarithm says. -/
theorem log2_bounds {n : ℕ} (hn : 0 < n) :
    (2 : ℚ) ^ n.log2 ≤ n ∧ (n : ℚ) < 2 * 2 ^ n.log2 := by
  have hlow := Nat.log2_self_le hn.ne'
  have hhigh := Nat.lt_log2_self (n := n)
  rw [Nat.pow_succ'] at hhigh
  exact ⟨by exact_mod_cast hlow, by exact_mod_cast hhigh⟩

/-- **The power of two at a ratio** is found from the lengths of its two numbers, which miss it by one
place at most. -/
theorem log2Ratio_eq {num den : ℕ} (hnum : 0 < num) (hden : 0 < den) :
    log2Ratio num den = Int.log 2 ((num : ℚ) / den) := by
  have hnum' : (0 : ℚ) < num := by exact_mod_cast hnum
  have hden' : (0 : ℚ) < den := by exact_mod_cast hden
  have hv : (0 : ℚ) < num / den := div_pos hnum' hden'
  obtain ⟨hnumLow, hnumHigh⟩ := log2_bounds hnum
  obtain ⟨hdenLow, hdenHigh⟩ := log2_bounds hden
  rw [log2Ratio]
  generalize hguess : (num.log2 : ℤ) - den.log2 = guess
  have hpow : (2 : ℚ) ^ num.log2 = 2 ^ den.log2 * 2 ^ guess := by
    rw [← hguess, ← two_zpow_add, sub_add_cancel, zpow_natCast]
  have hpos := two_zpow_pos guess
  have hplaces : (0 : ℚ) < 2 ^ den.log2 := by positivity
  -- the guess is compared with the ratio by the numbers themselves
  have htest : (ratioOfPower 1 2 guess).1 * den ≤ num * (ratioOfPower 1 2 guess).2 ↔
      (2 : ℚ) ^ guess ≤ num / den := by
    obtain ⟨-, hbelow, hratio⟩ := ratioOfPower_two guess
    rw [← hratio, div_le_div_iff₀ hbelow hden']
    exact_mod_cast Iff.rfl
  have hhigh : (num : ℚ) / den < 2 ^ (guess + 1) := by
    rw [zpow_add_one₀ two_ne_zero, div_lt_iff₀ hden']
    nlinarith
  by_cases hle : (2 : ℚ) ^ guess ≤ num / den
  · simp only [if_pos (htest.mpr hle)]
    exact (log_eq_of_between hv hle hhigh).symm
  · simp only [if_neg (htest.not.mpr hle)]
    refine (log_eq_of_between hv ?_ ?_).symm
    · have hhalf : (2 : ℚ) ^ guess = 2 * 2 ^ (guess - 1) := by
        rw [← zpow_one_add₀ two_ne_zero, add_sub_cancel]
      rw [le_div_iff₀ hden']
      have hpos' := two_zpow_pos (guess - 1)
      nlinarith
    · rw [sub_add_cancel]
      exact not_le.mp hle

/-- **The step** between the binary numbers next to a value, as a power of two. -/
def step (v : ℚ) : ℤ := max (Int.log 2 v - 52) (-1074)

theorem stepExponent_eq {num den : ℕ} (hnum : 0 < num) (hden : 0 < den) :
    stepExponent num den = step ((num : ℚ) / den) := by
  rw [stepExponent, log2Ratio_eq hnum hden, step]

/-- Greater values have wider steps. -/
theorem step_mono (hv : 0 < v) (hle : v ≤ w) : step v ≤ step w := by
  have hlog : Int.log 2 v ≤ Int.log 2 w := Int.log_mono_right hv hle
  unfold step
  omega

/-- Below a power of two the steps are narrow. -/
theorem step_lt {k : ℤ} (hv : 0 < v) (hk : -1022 < k) (hlt : v < 2 ^ k) : step v < k - 52 := by
  have hlog := (Int.lt_zpow_iff_log_lt (b := 2) one_lt_two hv).mp (by exact_mod_cast hlt)
  unfold step
  omega

/-- A value has fewer than `2 ^ 53` of its steps. -/
theorem lt_step (v : ℚ) : v < 2 ^ 53 * 2 ^ step v := by
  rw [← two_zpow_add (step v) 53]
  exact (lt_zpow_log v).trans_le (two_zpow_le (by unfold step; omega))

/-- It has at least `2 ^ 52`, unless its step is the finest. -/
theorem step_le (hv : 0 < v) (hstep : -1074 < step v) : 2 ^ 52 * 2 ^ step v ≤ v := by
  rw [← two_zpow_add (step v) 52]
  refine (two_zpow_le ?_).trans (zpow_log_le hv)
  unfold step at hstep ⊢
  omega

end Log

/-! ## Rounding -/

/-- **`x` is what `v` is rounded to**: a whole number of steps, the nearest. -/
structure Rounds (v : ℚ) (x : Binary) : Prop where
  exponent_eq : x.exponent = if v = 0 then 0 else step v
  nearest : IsNearest x.mantissa (v / 2 ^ x.exponent)

/-- **Rounding gives what a ratio is rounded to**, if that is below `2 ^ 1024`. -/
theorem round?_eq (num : ℕ) {den : ℕ} (hden : 0 < den) :
    ∃ x, Rounds ((num : ℚ) / den) x ∧
      round? num den = if x.value < 2 ^ 1024 then some x else none := by
  rcases Nat.eq_zero_or_pos num with rfl | hnum
  · refine ⟨⟨0, 0⟩, ⟨?_, ?_⟩, ?_⟩
    · rw [Nat.cast_zero, zero_div, if_pos rfl]
    · rw [Nat.cast_zero, zero_div, zero_div]
      exact .natCast 0
    · have hsmall : value ⟨0, 0⟩ < 2 ^ 1024 := by
        rw [value_zero]
        positivity
      rw [if_pos hsmall, round?, if_pos rfl]
  · obtain ⟨habove, hbelow, hratio⟩ := ratioOfPower_two (stepExponent num den)
    generalize hab : ratioOfPower 1 2 (stepExponent num den) = ab at habove hbelow hratio
    obtain ⟨a, b⟩ := ab
    refine ⟨⟨divHalfEven (num * b) (den * a), stepExponent num den⟩,
      ⟨?_, ?_⟩, ?_⟩
    · have hpos : (0 : ℚ) < (num : ℚ) / den :=
        div_pos (by exact_mod_cast hnum) (by exact_mod_cast hden)
      rw [if_neg hpos.ne', ← stepExponent_eq hnum hden]
    · have hpos : 0 < den * a := Nat.mul_pos hden (by exact_mod_cast habove)
      have hnearest := isNearest_divHalfEven (num * b) hpos
      rw [← hratio, div_div_div_eq]
      exact_mod_cast hnearest
    · rw [round?, if_neg hnum.ne']
      simp only [hab, ratio_lt_pow_iff, -Nat.reducePow]

/-- Every value is rounded to some number. -/
theorem exists_rounds {v : ℚ} (hv : 0 ≤ v) : ∃ x, Rounds v x := by
  obtain ⟨x, hx, -⟩ := round?_eq v.num.toNat v.den_pos
  have hnum : ((v.num.toNat : ℕ) : ℚ) = (v.num : ℚ) := by
    exact_mod_cast congrArg (Int.cast (R := ℚ)) (Int.toNat_of_nonneg (Rat.num_nonneg.mpr hv))
  rw [hnum, Rat.num_div_den] at hx
  exact ⟨x, hx⟩

namespace Rounds

variable {v w : ℚ} {x y : Binary}

/-- Zero is rounded to zero. -/
theorem eq_zero (hx : Rounds 0 x) : x = ⟨0, 0⟩ := by
  have hle := hx.nearest.le_of_ge (k := 0) (by rw [zero_div, Nat.cast_zero])
  have hexponent := hx.exponent_eq
  rw [if_pos rfl] at hexponent
  obtain ⟨mantissa, exponent⟩ := x
  exact congrArg₂ Binary.mk (Nat.le_zero.mp hle) hexponent

/-- The steps are those next to the value. -/
theorem exponent_of_pos (hv : 0 < v) (hx : Rounds v x) : x.exponent = step v := by
  rw [hx.exponent_eq, if_neg hv.ne']

/-- A value is rounded to one number only. -/
theorem unique (hv : 0 ≤ v) (hx : Rounds v x) (hy : Rounds v y) : x = y := by
  rcases hv.eq_or_lt with rfl | hpos
  · rw [hx.eq_zero, hy.eq_zero]
  · have hexponent : x.exponent = y.exponent := by
      rw [hx.exponent_of_pos hpos, hy.exponent_of_pos hpos]
    have hmantissa := hx.nearest.unique (hexponent ▸ hy.nearest)
    obtain ⟨mantissa, exponent⟩ := x
    exact congrArg₂ Binary.mk hmantissa hexponent

/-- **A value is off by half a step at most.** -/
theorem abs_sub_le (hx : Rounds v x) : |v - x.value| ≤ 2 ^ x.exponent / 2 := by
  have hpos := two_zpow_pos x.exponent
  have hscaled : v - x.value = (v / 2 ^ x.exponent - x.mantissa) * 2 ^ x.exponent := by
    rw [sub_mul, div_mul_cancel₀ _ hpos.ne', value]
  calc |v - x.value| = |v / 2 ^ x.exponent - x.mantissa| * 2 ^ x.exponent := by
        rw [hscaled, abs_mul, abs_of_pos hpos]
    _ ≤ 1 / 2 * 2 ^ x.exponent := mul_le_mul_of_nonneg_right hx.nearest.near hpos.le
    _ = 2 ^ x.exponent / 2 := by ring

/-- The steps are at most `2 ^ 53`. -/
theorem mantissa_le (hv : 0 ≤ v) (hx : Rounds v x) : x.mantissa ≤ 2 ^ 53 := by
  refine hx.nearest.le_of_ge ?_
  rcases hv.eq_or_lt with rfl | hpos
  · rw [zero_div]
    positivity
  · rw [div_le_iff₀ (two_zpow_pos _), hx.exponent_of_pos hpos]
    exact_mod_cast (lt_step v).le

/-- They are at least `2 ^ 52`, unless they are the finest. -/
theorem le_mantissa (hv : 0 < v) (hstep : -1074 < step v) (hx : Rounds v x) :
    2 ^ 52 ≤ x.mantissa := by
  refine hx.nearest.le_of_le ?_
  rw [le_div_iff₀ (two_zpow_pos _), hx.exponent_of_pos hv]
  exact_mod_cast step_le hv hstep

/-- So the number lies between the powers of two at the ends of the steps. -/
theorem value_le (hv : 0 < v) (hx : Rounds v x) : x.value ≤ 2 ^ 53 * 2 ^ step v := by
  have hmantissa : (x.mantissa : ℚ) ≤ 2 ^ 53 := by exact_mod_cast hx.mantissa_le hv.le
  rw [value, hx.exponent_of_pos hv]
  exact mul_le_mul_of_nonneg_right hmantissa (two_zpow_pos _).le

theorem le_value (hv : 0 < v) (hstep : -1074 < step v) (hx : Rounds v x) :
    2 ^ 52 * 2 ^ step v ≤ x.value := by
  have hmantissa : (2 : ℚ) ^ 52 ≤ x.mantissa := by exact_mod_cast hx.le_mantissa hv hstep
  rw [value, hx.exponent_of_pos hv]
  exact mul_le_mul_of_nonneg_right hmantissa (two_zpow_pos _).le

/-- **Rounding keeps the order.** Values with the same step have their numbers of steps in order;
else a power of two lies between what they are rounded to. -/
theorem mono (hv : 0 ≤ v) (hle : v ≤ w) (hx : Rounds v x) (hy : Rounds w y) :
    x.value ≤ y.value := by
  rcases hv.eq_or_lt with rfl | hpos
  · rw [hx.eq_zero, value_zero]
    exact y.value_nonneg
  have hpos' := hpos.trans_le hle
  rcases (step_mono hpos hle).eq_or_lt with hsame | hwider
  · have hexponent : x.exponent = y.exponent := by
      rw [hx.exponent_of_pos hpos, hy.exponent_of_pos hpos', hsame]
    have hmantissa : x.mantissa ≤ y.mantissa := by
      refine hx.nearest.mono hy.nearest ?_
      rw [hexponent]
      exact div_le_div_of_nonneg_right hle (two_zpow_pos _).le
    have hcast : (x.mantissa : ℚ) ≤ y.mantissa := by exact_mod_cast hmantissa
    rw [value, value, hexponent]
    exact mul_le_mul_of_nonneg_right hcast (two_zpow_pos _).le
  · have hfinest : -1074 ≤ step v := le_max_right _ _
    calc x.value ≤ 2 ^ 53 * 2 ^ step v := hx.value_le hpos
      _ = 2 ^ (step v + (53 : ℕ)) := (two_zpow_add _ 53).symm
      _ ≤ 2 ^ (step w + (52 : ℕ)) := two_zpow_le (by push_cast; omega)
      _ = 2 ^ 52 * 2 ^ step w := two_zpow_add _ 52
      _ ≤ y.value := hy.le_value hpos' (by omega)

/-- **A value is off by one part in `2 ^ 53` at most**, unless its step is the finest. -/
theorem relative (hv : 0 < v) (hstep : -1074 < step v) (hx : Rounds v x) :
    |v - x.value| ≤ v * 2 ^ (-53 : ℤ) := by
  have hsmall := step_le hv hstep
  have hoff := hx.abs_sub_le
  rw [hx.exponent_of_pos hv] at hoff
  have hparts : (2 : ℚ) ^ (-53 : ℤ) = 1 / 2 ^ 53 := by norm_num
  rw [hparts]
  linarith

/-- All that has the finest steps lies below a tiny power of two. -/
theorem steps_of_finest (hstep : ¬ -1074 < step v) :
    (2 : ℚ) ^ 53 * 2 ^ step v = 2 ^ (-1021 : ℤ) := by
  have hfinest : step v = -1074 := le_antisymm (not_lt.mp hstep) (le_max_right _ _)
  rw [hfinest, ← two_zpow_add (-1074) 53]
  rfl

/-! ### Limits -/

/-- **What is rounded to less than a power of two**: all that lies more than half a step below it.
In the middle the even number of steps is taken, which is that of the power. -/
theorem value_lt_iff {k : ℤ} (hk : -1021 < k) (hv : 0 < v) (hx : Rounds v x) :
    x.value < 2 ^ k ↔ v < 2 ^ k - 2 ^ (k - 54) := by
  have hpow : (2 : ℚ) ^ k = 2 ^ 53 * 2 ^ (k - 53) := by
    rw [← two_zpow_add (k - 53) 53]
    congr 1
    push_cast
    ring
  have hhalf : (2 : ℚ) ^ (k - 54) = 2 ^ (k - 53) / 2 := by
    rw [eq_div_iff two_ne_zero, ← zpow_add_one₀ two_ne_zero]
    congr 1
    ring
  have hunit := two_zpow_pos (k - 53)
  rw [hhalf]
  rcases lt_trichotomy (step v) (k - 53) with hbelow | hlast | habove
  · -- the number of steps is too small for either to reach the last step
    have hnarrow : (2 : ℚ) ^ step v ≤ 2 ^ (k - 53) / 2 := by
      rw [← hhalf]
      exact two_zpow_le (by omega)
    have hvalue := hx.value_le hv
    have hsize := lt_step v
    refine iff_of_true ?_ ?_
    · linarith
    · linarith
  · have hexponent : x.exponent = k - 53 := (hx.exponent_of_pos hv).trans hlast
    have hnearest := hx.nearest
    rw [hexponent] at hnearest
    have hcount : x.value < 2 ^ k ↔ x.mantissa < 2 ^ 53 := by
      rw [value, hexponent, hpow, mul_lt_mul_iff_left₀ hunit]
      exact_mod_cast Iff.rfl
    have hscaled : v < 2 ^ k - 2 ^ (k - 53) / 2 ↔ v / 2 ^ (k - 53) < 2 ^ 53 - 1 / 2 := by
      rw [div_lt_iff₀ hunit, hpow, sub_mul]
      ring_nf
    rw [hcount, hscaled]
    exact_mod_cast hnearest.lt_iff_of_even (k := 2 ^ 53) (by decide)
  · -- the least number of steps reaches the power already
    have hwide : 2 ^ k ≤ (2 : ℚ) ^ 52 * 2 ^ step v := by
      rw [← two_zpow_add (step v) 52]
      exact two_zpow_le (by push_cast; omega)
    have hvalue := hx.le_value hv (by omega)
    have hsize := step_le hv (by omega)
    refine iff_of_false ?_ ?_
    · linarith
    · linarith

/-- **What is rounded to zero**: all up to half of the finest step. -/
theorem mantissa_eq_zero_iff (hv : 0 < v) (hx : Rounds v x) :
    x.mantissa = 0 ↔ v ≤ 2 ^ (-1075 : ℤ) := by
  by_cases hstep : -1074 < step v
  · have hmantissa := hx.le_mantissa hv hstep
    have hsize := step_le hv hstep
    have hwide : (2 : ℚ) ^ (-1075 : ℤ) < 2 ^ 52 * 2 ^ step v := by
      rw [← two_zpow_add (step v) 52]
      exact zpow_lt_zpow_right₀ one_lt_two (by push_cast; omega)
    refine iff_of_false ?_ ?_
    · omega
    · linarith
  · have hfinest : x.exponent = -1074 :=
      (hx.exponent_of_pos hv).trans (le_antisymm (not_lt.mp hstep) (le_max_right _ _))
    have hhalf : (2 : ℚ) ^ (-1075 : ℤ) = 1 / 2 * 2 ^ (-1074 : ℤ) := by
      rw [one_div_mul_eq_div, eq_div_iff two_ne_zero, ← zpow_add_one₀ two_ne_zero]
      rfl
    have hnearest := hx.nearest.le_iff_of_even (k := 0) Even.zero
    rw [Nat.le_zero, Nat.cast_zero, zero_add, hfinest, div_le_iff₀ (two_zpow_pos _), ← hhalf]
      at hnearest
    exact hnearest

end Rounds

/-! ## The nearest binary number -/

/-- A number **fits** if it has 53 binary places and none beyond `2 ^ (-1074)`. The power `2 ^ 53` of
steps is that of half as many steps of twice the width. -/
def Fits (y : Binary) : Prop := y.mantissa ≤ 2 ^ 53 ∧ -1074 ≤ y.exponent

/-- **The nearest binary number** to a value. It has all its places, if it is not zero and its steps
are not the finest; of two equally near numbers it is the one whose last place is even. -/
structure Nearest (v : ℚ) (x : Binary) : Prop where
  fits : x.Fits
  full : x.mantissa = 0 ∨ 2 ^ 52 ≤ x.mantissa ∨ x.exponent = -1074
  near : ∀ y : Binary, y.Fits → |v - x.value| ≤ |v - y.value|
  even : ∀ y : Binary, y.Fits → y.value ≠ x.value → |v - y.value| = |v - x.value| →
    Even x.mantissa

variable {v : ℚ} {x y : Binary}

/-- A number that fits is a whole number of steps of a value, or has finer steps and lies below
it. -/
theorem Fits.whole_or_lt (hv : 0 < v) (hy : y.Fits) :
    (∃ k : ℕ, y.value = k * 2 ^ step v) ∨
      (y.value < 2 ^ 52 * 2 ^ step v ∧ 2 ^ 52 * 2 ^ step v ≤ v) := by
  by_cases hwide : step v ≤ y.exponent
  · obtain ⟨k, hk⟩ := Int.le.dest hwide
    refine Or.inl ⟨y.mantissa * 2 ^ k, ?_⟩
    rw [value, ← hk, two_zpow_add]
    push_cast
    ring
  · have hmantissa : (y.mantissa : ℚ) ≤ 2 ^ 53 := by exact_mod_cast hy.1
    have hvalue : y.value ≤ 2 ^ 52 * 2 ^ step v :=
      calc y.value ≤ 2 ^ 53 * 2 ^ y.exponent :=
            mul_le_mul_of_nonneg_right hmantissa (two_zpow_pos _).le
        _ = 2 ^ (y.exponent + (53 : ℕ)) := (two_zpow_add _ 53).symm
        _ ≤ 2 ^ (step v + (52 : ℕ)) := two_zpow_le (by push_cast; omega)
        _ = 2 ^ 52 * 2 ^ step v := two_zpow_add _ 52
    rcases hvalue.eq_or_lt with heq | hlt
    · exact Or.inl ⟨2 ^ 52, by rw [heq]; push_cast; rfl⟩
    · exact Or.inr ⟨hlt, step_le hv (lt_of_le_of_lt hy.2 (not_le.mp hwide))⟩

/-- Distances between whole numbers of steps. -/
theorem Rounds.abs_sub_mul (hv : 0 < v) (hx : Rounds v x) (k : ℕ) :
    |v - k * 2 ^ step v| = |v / 2 ^ x.exponent - k| * 2 ^ step v := by
  have hpos := two_zpow_pos (step v)
  rw [hx.exponent_of_pos hv, ← abs_of_pos hpos, ← abs_mul, abs_of_pos hpos, sub_mul,
    div_mul_cancel₀ _ hpos.ne']

/-- **Rounding gives the nearest binary number.** Those that are whole numbers of steps are no nearer
since the number of steps is the nearest; the others lie below a whole number of steps that is below
the value. -/
theorem Rounds.nearest_binary (hv : 0 ≤ v) (hx : Rounds v x) : x.Nearest v := by
  rcases hv.eq_or_lt with rfl | hpos
  · rw [hx.eq_zero]
    refine ⟨⟨by norm_num, by norm_num⟩, Or.inl rfl, fun y _ => ?_, fun y _ _ _ => Even.zero⟩
    rw [value_zero, sub_zero, abs_zero]
    exact abs_nonneg _
  have hunit := two_zpow_pos (step v)
  have hvalue : x.value = x.mantissa * 2 ^ step v := by rw [value, hx.exponent_of_pos hpos]
  have hwhole (k : ℕ) : |v - x.value| ≤ |v - k * 2 ^ step v| := by
    rw [hvalue, hx.abs_sub_mul hpos, hx.abs_sub_mul hpos]
    exact mul_le_mul_of_nonneg_right (hx.nearest.nearest k) hunit.le
  have hbelow (hle : 2 ^ 52 * 2 ^ step v ≤ v) : |v - x.value| ≤ v - 2 ^ 52 * 2 ^ step v := by
    have hnear := hwhole (2 ^ 52)
    rwa [Nat.cast_pow, Nat.cast_ofNat, abs_of_nonneg (sub_nonneg.mpr hle)] at hnear
  refine ⟨⟨hx.mantissa_le hpos.le, ?_⟩, ?_, ?_, ?_⟩
  · rw [hx.exponent_of_pos hpos]
    exact le_max_right _ _
  · by_cases hstep : -1074 < step v
    · exact Or.inr (Or.inl (hx.le_mantissa hpos hstep))
    · refine Or.inr (Or.inr ?_)
      rw [hx.exponent_of_pos hpos]
      exact le_antisymm (not_lt.mp hstep) (le_max_right _ _)
  · intro y hy
    rcases hy.whole_or_lt hpos with ⟨k, hk⟩ | ⟨hlt, hle⟩
    · rw [hk]
      exact hwhole k
    · have hnear := hbelow hle
      rw [abs_of_nonneg (sub_nonneg.mpr (hlt.le.trans hle))]
      linarith
  · intro y hy hne htie
    rcases hy.whole_or_lt hpos with ⟨k, hk⟩ | ⟨hlt, hle⟩
    · rw [hk, hvalue, hx.abs_sub_mul hpos, hx.abs_sub_mul hpos] at htie
      refine hx.nearest.even_of_tie (fun heq => hne ?_) (mul_right_cancel₀ hunit.ne' htie)
      rw [hk, heq, hvalue]
    · have hnear := hbelow hle
      rw [abs_of_nonneg (sub_nonneg.mpr (hlt.le.trans hle))] at htie
      linarith

end Binary

end ChildWatch.Decimal
