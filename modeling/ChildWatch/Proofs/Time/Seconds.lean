import ChildWatch.Proofs.Decimal.Numeral
import ChildWatch.Proofs.Decimal.Rounding
import ChildWatch.Time.Seconds

/-! # Durations from decimal numerals

A numeral of seconds is rounded twice, to 53 binary digits and to whole nanoseconds. What comes of its
exact value is said here in exact numbers.

* `Converts` — a value, what it is rounded to first, and the duration of that.
* `parse_text` — reading a numeral does this with its value.
* `exists_converts_iff`, `Converts.mono`, `Converts.abs_sub_max_le` — which values have a duration,
  in what order, and how far off; `parse_numeral` says so of numerals.
* `Converts.of_exact`, `parse_exact` — a short duration is read from any numeral of its value. -/

namespace ChildWatch

/-- A duration in seconds. -/
def Duration.seconds (d : Duration) : ℚ := d.toNanos / 10 ^ 9

namespace Seconds

open Decimal Binary

/-- **Rounding twice**: `x` is what the size of `v` is rounded to, and `d` has the number of
nanoseconds nearest to that. A negative value has to be rounded to zero. -/
structure Converts (v : ℚ) (x : Binary) (d : Duration) : Prop where
  rounds : Rounds |v| x
  zero_of_neg : v < 0 → x.mantissa = 0
  lt : x.value < 2 ^ 64
  nearest : IsNearest d.toNanos (x.value * 10 ^ 9)

variable {v w : ℚ} {x y : Binary} {c d : Duration}

/-! ## Nanoseconds -/

theorem isNearest_nanosOfBinary (x : Binary) :
    IsNearest (nanosOfBinary x) (x.value * 10 ^ 9) := by
  have hnearest := isNearest_divHalfEven (x.ratio.1 * 1000000000) x.ratio_pos
  have hvalue : ((x.ratio.1 * 1000000000 : ℕ) : ℚ) / x.ratio.2 = x.value * 10 ^ 9 := by
    rw [← value_ratio]
    push_cast
    ring
  rwa [hvalue] at hnearest

/-- A number of seconds below the limit has a duration with the nearest number of nanoseconds, and
there is no other. -/
theorem durationOfBinary_eq_ok_iff :
    durationOfBinary x = .ok d ↔ x.value < 2 ^ 64 ∧ IsNearest d.toNanos (x.value * 10 ^ 9) := by
  have hlimit : x.ratio.1 < 18446744073709551616 * x.ratio.2 ↔ x.value < 2 ^ 64 := by
    rw [ratio_lt_iff]
    norm_num
  unfold durationOfBinary
  by_cases hlt : x.value < 2 ^ 64
  · rw [if_pos (hlimit.mpr hlt)]
    constructor
    · intro hok
      cases hnanos : Duration.ofNanos? (nanosOfBinary x) with
      | none =>
          rw [hnanos] at hok
          cases hok
      | some c =>
          rw [hnanos] at hok
          cases hok
          rw [Duration.toNanos_of_ofNanos? hnanos]
          exact ⟨hlt, isNearest_nanosOfBinary x⟩
    · rintro ⟨-, hnearest⟩
      rw [(isNearest_nanosOfBinary x).unique hnearest, Duration.ofNanos?_toNanos]
  · rw [if_neg (hlimit.not.mpr hlt)]
    simp [hlt]

/-- A number below the limit has no more nanoseconds than a duration can have: it is whole, or small
since it has places behind the point. -/
theorem exists_nearest_duration (hx : x.Fits) (hlt : x.value < 2 ^ 64) :
    ∃ d : Duration, IsNearest d.toNanos (x.value * 10 ^ 9) := by
  have hbound : nanosOfBinary x ≤ 18446744073709551615 * 1000000000 := by
    refine (isNearest_nanosOfBinary x).le_of_ge ?_
    by_cases hwhole : 0 ≤ x.exponent
    · obtain ⟨k, hk⟩ := Int.eq_ofNat_of_zero_le hwhole
      have hvalue : x.value = (x.mantissa * 2 ^ k : ℕ) := by
        rw [value, hk, zpow_natCast]
        push_cast
        rfl
      rw [hvalue] at hlt ⊢
      have hnat : x.mantissa * 2 ^ k < 18446744073709551616 := by exact_mod_cast hlt
      have hle : x.mantissa * 2 ^ k ≤ 18446744073709551615 := by omega
      exact_mod_cast Nat.mul_le_mul_right 1000000000 hle
    · have hmantissa : (x.mantissa : ℚ) ≤ 2 ^ 53 := by exact_mod_cast hx.1
      have hpow : (2 : ℚ) ^ x.exponent ≤ 1 := by
        rw [← zpow_zero (2 : ℚ)]
        exact two_zpow_le (by omega)
      have hvalue : x.value ≤ 2 ^ 53 * 1 :=
        mul_le_mul hmantissa hpow (two_zpow_pos _).le (by positivity)
      push_cast
      linarith
  have hsecs : nanosOfBinary x / 1000000000 < 18446744073709551616 := by omega
  cases hnanos : Duration.ofNanos? (nanosOfBinary x) with
  | none =>
      rw [Duration.ofNanos?, dif_pos hsecs] at hnanos
      cases hnanos
  | some d =>
      refine ⟨d, ?_⟩
      rw [Duration.toNanos_of_ofNanos? hnanos]
      exact isNearest_nanosOfBinary x

/-! ## Numerals -/

/-- The first rounding leaves no choice. -/
theorem exists_converts (hx : Rounds |v| x) :
    (∃ y, Converts v y d) ↔
      (v < 0 → x.mantissa = 0) ∧ x.value < 2 ^ 64 ∧ IsNearest d.toNanos (x.value * 10 ^ 9) := by
  constructor
  · rintro ⟨y, hy⟩
    obtain rfl := hx.unique (abs_nonneg v) hy.rounds
    exact ⟨hy.zero_of_neg, hy.lt, hy.nearest⟩
  · rintro ⟨hzero, hlt, hnearest⟩
    exact ⟨x, hx, hzero, hlt, hnearest⟩

/-- What is refused as negative is not rounded to zero. -/
theorem refused_iff (t : Numeral) (hx : Rounds |t.value| x) :
    (decide (t.sign = some .minus) = true ∧ x.mantissa ≠ 0) ↔
      ¬ (t.value < 0 → x.mantissa = 0) := by
  rw [decide_eq_true_eq, Classical.not_imp, t.value_neg_iff]
  refine ⟨fun h => ⟨⟨h.1, fun hzero => h.2 ?_⟩, h.2⟩, fun h => ⟨h.1.1, h.2⟩⟩
  rw [t.abs_value, hzero] at hx
  rw [hx.eq_zero]

/-- **Reading a numeral** rounds its value twice. -/
theorem parse_text (t : Numeral) : parse t.text = .ok d ↔ ∃ x, Converts t.value x d := by
  have hmagnitude : ((ratioOfPower (number (t.whole ++ t.fraction)) 10
      (t.exponent - t.fraction.length)).1 : ℚ) / (ratioOfPower (number (t.whole ++ t.fraction)) 10
      (t.exponent - t.fraction.length)).2 = |t.value| := by
    rw [value_ratioOfPower, Nat.cast_ofNat, t.magnitude_eq, t.abs_value]
  have hden := ratioOfPower_pos (number (t.whole ++ t.fraction)) (b := 10) (by decide)
    (t.exponent - t.fraction.length)
  rw [parse, Literal.parse_text]
  simp only [ofLiteral]
  generalize ratioOfPower (number (t.whole ++ t.fraction)) 10 (t.exponent - t.fraction.length) = r
    at hmagnitude hden
  obtain ⟨x, hx, hround⟩ := round?_eq r.1 hden
  rw [hmagnitude] at hx
  rw [hround, exists_converts hx, ← durationOfBinary_eq_ok_iff]
  by_cases hfinite : x.value < 2 ^ 1024
  · rw [if_pos hfinite]
    simp only [refused_iff t hx]
    by_cases hzero : t.value < 0 → x.mantissa = 0
    · rw [if_neg (not_not.mpr hzero)]
      exact ⟨fun hok => ⟨hzero, hok⟩, And.right⟩
    · rw [if_pos hzero]
      exact iff_of_false (by simp) fun h => hzero h.1
  · -- too much for 53 binary digits is too much for a duration
    rw [if_neg hfinite]
    refine iff_of_false (by simp) fun h => hfinite ?_
    have hlt := (durationOfBinary_eq_ok_iff.mp h.2).1
    exact hlt.trans (pow_lt_pow_right₀ one_lt_two (by norm_num))

/-! ## Which values have a duration -/

/-- **A value has a duration exactly if it is rounded to one that is in range**: not below zero by
more than half of the finest step, and below the limit by more than half of the last one. -/
theorem exists_converts_iff :
    (∃ d x, Converts v x d) ↔ -(2 : ℚ) ^ (-1075 : ℤ) ≤ v ∧ v < 2 ^ 64 - 1024 := by
  have htiny := two_zpow_pos (-1075)
  obtain ⟨x, hx⟩ := exists_rounds (abs_nonneg v)
  have hduration : (∃ d x, Converts v x d) ↔ (v < 0 → x.mantissa = 0) ∧ x.value < 2 ^ 64 := by
    simp only [exists_converts hx]
    constructor
    · rintro ⟨d, hzero, hlt, -⟩
      exact ⟨hzero, hlt⟩
    · rintro ⟨hzero, hlt⟩
      obtain ⟨d, hd⟩ := exists_nearest_duration (hx.nearest_binary (abs_nonneg v)).fits hlt
      exact ⟨d, hzero, hlt, hd⟩
  rw [hduration]
  rcases lt_trichotomy v 0 with hneg | rfl | hpos
  · have habs : |v| = -v := abs_of_neg hneg
    have hzero := hx.mantissa_eq_zero_iff (abs_pos.mpr hneg.ne)
    rw [habs] at hzero
    constructor
    · rintro ⟨hm, -⟩
      have hle := hzero.mp (hm hneg)
      exact ⟨by linarith, by linarith⟩
    · rintro ⟨hle, -⟩
      have hm := hzero.mpr (by linarith)
      refine ⟨fun _ => hm, ?_⟩
      rw [value, hm, Nat.cast_zero, zero_mul]
      positivity
  · rw [abs_zero] at hx
    rw [hx.eq_zero, value_zero]
    refine iff_of_true ⟨fun _ => rfl, by positivity⟩ ⟨by linarith, by norm_num⟩
  · have hlimit := hx.value_lt_iff (k := 64) (by norm_num) (abs_pos.mpr hpos.ne')
    rw [abs_of_pos hpos] at hlimit
    have hlast : (2 : ℚ) ^ (64 : ℤ) - 2 ^ ((64 : ℤ) - 54) = 2 ^ 64 - 1024 := by norm_num
    rw [hlast, zpow_ofNat] at hlimit
    constructor
    · rintro ⟨-, hlt⟩
      exact ⟨by linarith, hlimit.mp hlt⟩
    · rintro ⟨-, hlt⟩
      exact ⟨fun hneg => absurd hneg hpos.not_gt, hlimit.mpr hlt⟩

namespace Converts

/-- A negative value is rounded to zero. -/
theorem value_of_neg (h : Converts v x d) (hneg : v < 0) : x.value = 0 := by
  rw [value, h.zero_of_neg hneg, Nat.cast_zero, zero_mul]

/-- **Greater values have longer durations**, or the same. -/
theorem mono (hv : Converts v x c) (hw : Converts w y d) (hle : v ≤ w) :
    c.toNanos ≤ d.toNanos := by
  have hvalue : x.value ≤ y.value := by
    rcases lt_or_ge v 0 with hneg | hnonneg
    · rw [hv.value_of_neg hneg]
      exact y.value_nonneg
    · have hrounds := hv.rounds
      have hrounds' := hw.rounds
      rw [abs_of_nonneg hnonneg] at hrounds
      rw [abs_of_nonneg (hnonneg.trans hle)] at hrounds'
      exact hrounds.mono hnonneg hle hrounds'
  exact hv.nearest.mono hw.nearest (mul_le_mul_of_nonneg_right hvalue (by positivity))

/-- The second rounding is off by half a nanosecond at most. -/
theorem abs_sub_value_le (h : Converts v x d) : |d.seconds - x.value| ≤ 1 / 2 / 10 ^ 9 := by
  have hscaled : d.seconds - x.value = (d.toNanos - x.value * 10 ^ 9) / 10 ^ 9 := by
    rw [Duration.seconds]
    ring
  rw [hscaled, abs_div, abs_of_pos (by positivity : (0 : ℚ) < 10 ^ 9), abs_sub_comm]
  exact div_le_div_of_nonneg_right h.nearest.near (by positivity)

/-- Values with the finest steps have no whole nanosecond. -/
theorem seconds_of_finest (h : Converts v x d) (hpos : 0 < v) (hstep : ¬ -1074 < step v) :
    d.seconds = 0 ∧ v ≤ 1 / 2 / 10 ^ 9 := by
  have htiny : (2 : ℚ) ^ 53 * 2 ^ step v ≤ 1 / 2 / 10 ^ 9 := by
    rw [Rounds.steps_of_finest hstep]
    exact (two_zpow_le (by norm_num)).trans (by norm_num : (2 : ℚ) ^ (-31 : ℤ) ≤ 1 / 2 / 10 ^ 9)
  have hrounds := h.rounds
  rw [abs_of_pos hpos] at hrounds
  have hvalue : x.value ≤ 1 / 2 / 10 ^ 9 := (hrounds.value_le hpos).trans htiny
  have hnanos := (h.nearest.le_iff_of_even (k := 0) Even.zero).mpr (by
    rw [Nat.cast_zero, zero_add, ← le_div_iff₀ (by positivity)]
    exact hvalue)
  rw [Duration.seconds, Nat.le_zero.mp hnanos, Nat.cast_zero, zero_div]
  exact ⟨rfl, (lt_step v).le.trans htiny⟩

/-- **A duration is off by half a nanosecond and one part in `2 ^ 53` of the value at most.** -/
theorem abs_sub_max_le (h : Converts v x d) :
    |d.seconds - max v 0| ≤ 1 / 2 / 10 ^ 9 + |v| * 2 ^ (-53 : ℤ) := by
  have hsecond := h.abs_sub_value_le
  rcases lt_trichotomy v 0 with hneg | rfl | hpos
  · have hpart : 0 ≤ |v| * 2 ^ (-53 : ℤ) := by positivity
    rw [h.value_of_neg hneg] at hsecond
    rw [max_eq_right hneg.le]
    exact hsecond.trans (le_add_of_nonneg_right hpart)
  · have hrounds := h.rounds
    rw [abs_zero] at hrounds
    rw [hrounds.eq_zero, value_zero] at hsecond
    rw [max_self, abs_zero, zero_mul, add_zero]
    exact hsecond
  · have hrounds := h.rounds
    rw [abs_of_pos hpos] at hrounds
    rw [max_eq_left hpos.le, abs_of_pos hpos]
    by_cases hstep : -1074 < step v
    · calc |d.seconds - v| ≤ |d.seconds - x.value| + |x.value - v| := abs_sub_le _ _ _
        _ ≤ 1 / 2 / 10 ^ 9 + v * 2 ^ (-53 : ℤ) := by
          rw [abs_sub_comm x.value v]
          exact add_le_add hsecond (hrounds.relative hpos hstep)
    · obtain ⟨hzero, htiny⟩ := h.seconds_of_finest hpos hstep
      have hpart : 0 ≤ v * 2 ^ (-53 : ℤ) := by positivity
      rw [hzero, zero_sub, abs_neg, abs_of_pos hpos]
      exact htiny.trans (le_add_of_nonneg_right hpart)

/-! ## Short durations -/

/-- A short value is off by little after the first rounding: its steps are at most `2 ^ (-30)`. -/
theorem abs_sub_le_of_lt (hv : 0 ≤ v) (hlt : v < 2 ^ 23) (hx : Rounds v x) :
    |v - x.value| ≤ 2 ^ (-31 : ℤ) := by
  rcases hv.eq_or_lt with rfl | hpos
  · rw [hx.eq_zero, value_zero, sub_zero, abs_zero]
    exact (two_zpow_pos _).le
  · have hstep := step_lt (k := 23) hpos (by norm_num) hlt
    calc |v - x.value| ≤ 2 ^ x.exponent / 2 := hx.abs_sub_le
      _ = 2 ^ (step v - 1) := by rw [hx.exponent_of_pos hpos, zpow_sub_one₀ two_ne_zero]; rfl
      _ ≤ 2 ^ (-31 : ℤ) := two_zpow_le (by omega)

/-- **A duration of less than `2 ^ 23` seconds is that of its own value**: what the first rounding is
off by is less than half a nanosecond. -/
theorem of_exact (hd : d.secs < 2 ^ 23) : ∃ x, Converts d.seconds x d := by
  have hnanos : (d.toNanos : ℚ) = d.seconds * 10 ^ 9 := by
    rw [Duration.seconds]
    field_simp
  have hnonneg : 0 ≤ d.seconds := by
    unfold Duration.seconds
    positivity
  have hlt : d.seconds < 2 ^ 23 := by
    have hsmall : d.toNanos < 2 ^ 23 * 10 ^ 9 := by
      have hpart := d.nanos_lt
      rw [Duration.toNanos]
      omega
    rw [Duration.seconds, div_lt_iff₀ (by positivity)]
    exact_mod_cast hsmall
  obtain ⟨x, hx⟩ := exists_rounds hnonneg
  have hoff := abs_sub_le_of_lt hnonneg hlt hx
  have hsmall : (2 : ℚ) ^ (-31 : ℤ) * 10 ^ 9 < 1 / 2 := by norm_num
  refine ⟨x, ?_, fun hneg => absurd hneg hnonneg.not_gt, ?_, .of_lt ?_⟩
  · rwa [abs_of_nonneg hnonneg]
  · have hclose := (abs_le.mp hoff).1
    have hunit : (2 : ℚ) ^ (-31 : ℤ) ≤ 1 := by norm_num
    calc x.value ≤ d.seconds + 2 ^ (-31 : ℤ) := by linarith
      _ < 2 ^ 23 + 1 := add_lt_add_of_lt_of_le hlt hunit
      _ < 2 ^ 64 := by norm_num
  · calc |x.value * 10 ^ 9 - d.toNanos| = |d.seconds - x.value| * 10 ^ 9 := by
          rw [hnanos, ← sub_mul, abs_mul, abs_sub_comm, abs_of_pos (by positivity : (0 : ℚ) < 10 ^ 9)]
      _ ≤ 2 ^ (-31 : ℤ) * 10 ^ 9 := mul_le_mul_of_nonneg_right hoff (by positivity)
      _ < 1 / 2 := hsmall

end Converts

/-! ## What is read from numerals -/

/-- **Short durations are read exactly**: a numeral of so many whole seconds, fewer than `2 ^ 23`, and
so many nanoseconds is read as that duration, however it is written. -/
theorem parse_exact (t : Numeral) {secs nanos : ℕ} (hsecs : secs < 2 ^ 23) (hnanos : nanos < 10 ^ 9)
    (hvalue : t.value = secs + nanos / 10 ^ 9) :
    ∃ d, parse t.text = .ok d ∧ d.secs = secs ∧ d.nanos = nanos := by
  have hrange : secs < 18446744073709551616 := by omega
  refine ⟨⟨secs, nanos, hrange, hnanos⟩, ?_, rfl, rfl⟩
  have hseconds : t.value = Duration.seconds ⟨secs, nanos, hrange, hnanos⟩ := by
    rw [hvalue, Duration.seconds, Duration.toNanos]
    push_cast
    field_simp
    norm_num
  rw [parse_text, hseconds]
  exact Converts.of_exact hsecs

/-- The last duration before `2 ^ 23` seconds. -/
def lastShort : Numeral where
  sign := none
  whole := ['8', '3', '8', '8', '6', '0', '7']
  places := some ['9', '9', '9', '9', '9', '9', '9', '9', '9']
  power := none
  isDigit_whole := by simp
  isDigit_places := by simp
  digits_ne := by decide

/-- It is read exactly, though its binary number has places beyond the nanoseconds. -/
theorem parse_exact_lastShort :
    8388607 < 2 ^ 23 ∧ 999999999 < 10 ^ 9 ∧ lastShort.text = "8388607.999999999" ∧
      lastShort.value = (8388607 : ℕ) + (999999999 : ℕ) / 10 ^ 9 ∧
      ∃ d, parse lastShort.text = .ok d ∧ d.secs = 8388607 ∧ d.nanos = 999999999 := by
  have hwhole : number lastShort.whole = 8388607 := by decide
  have hfraction : number lastShort.fraction = 999999999 := by decide
  have hvalue : lastShort.value = (8388607 : ℕ) + (999999999 : ℕ) / 10 ^ 9 := by
    show signed none lastShort.magnitude = _
    rw [signed, if_neg (by decide), Numeral.magnitude, hwhole, hfraction]
    show _ * (10 : ℚ) ^ (0 : ℤ) = _
    rw [zpow_zero, mul_one]
    rfl
  have hsecs : 8388607 < 2 ^ 23 := by decide
  have hnanos : 999999999 < 10 ^ 9 := by decide
  exact ⟨hsecs, hnanos, by decide, hvalue, parse_exact lastShort hsecs hnanos hvalue⟩

/-- **Reading numerals.** A numeral has a duration exactly if its value is at least `-2 ^ (-1075)`
and below `2 ^ 64 - 1024`. A greater one has a longer duration or the same, and a duration is off by
half a nanosecond and one part in `2 ^ 53` at most: it has the number of nanoseconds nearest to the
binary number nearest to the value. -/
theorem parse_numeral (t : Numeral) :
    ((∃ d, parse t.text = .ok d) ↔ -(2 : ℚ) ^ (-1075 : ℤ) ≤ t.value ∧ t.value < 2 ^ 64 - 1024) ∧
    (∀ u : Numeral, ∀ c d, parse t.text = .ok c → parse u.text = .ok d → t.value ≤ u.value →
      c.toNanos ≤ d.toNanos) ∧
    (∀ d, parse t.text = .ok d →
      |d.seconds - max t.value 0| ≤ 1 / 2 / 10 ^ 9 + |t.value| * 2 ^ (-53 : ℤ) ∧
      ∃ x : Binary, x.Nearest |t.value| ∧ IsNearest d.toNanos (x.value * 10 ^ 9)) := by
  refine ⟨?_, ?_, ?_⟩
  · simp only [parse_text]
    exact exists_converts_iff
  · intro u c d hc hd hle
    obtain ⟨x, hx⟩ := (parse_text t).mp hc
    obtain ⟨y, hy⟩ := (parse_text u).mp hd
    exact hx.mono hy hle
  · intro d hd
    obtain ⟨x, hx⟩ := (parse_text t).mp hd
    exact ⟨hx.abs_sub_max_le, x, hx.rounds.nearest_binary (abs_nonneg _), hx.nearest⟩

/-- A negative numeral that is rounded to zero. -/
def tiny : Numeral where
  sign := some .minus
  whole := ['1']
  places := none
  power := some ⟨'e', some .minus, ['4', '0', '0'], by decide, by decide, by simp, by decide⟩
  isDigit_whole := by simp
  isDigit_places := by simp
  digits_ne := by decide

/-- A numeral of more seconds than 63 binary digits can hold. -/
def huge : Numeral where
  sign := none
  whole := ['1']
  places := none
  power := some ⟨'e', none, ['1', '9'], by decide, by decide, by simp, by decide⟩
  isDigit_whole := by simp
  isDigit_places := by simp
  digits_ne := by decide

/-- Both are read, in their order, and the second is not off by more than it may be. -/
theorem parse_numeral_tiny_huge :
    ∃ c d, tiny.text = "-1e-400" ∧ parse tiny.text = .ok c ∧ huge.text = "1e19" ∧
      parse huge.text = .ok d ∧ d.secs = 10000000000000000000 ∧ tiny.value ≤ huge.value ∧
      -(2 : ℚ) ^ (-1075 : ℤ) ≤ tiny.value ∧ c.toNanos ≤ d.toNanos ∧
      |d.seconds - max huge.value 0| ≤ 1 / 2 / 10 ^ 9 + |huge.value| * 2 ^ (-53 : ℤ) := by
  have hc : parse tiny.text = .ok Duration.zero := by decide +kernel
  have hd : parse huge.text = .ok ⟨10000000000000000000, 0, by decide, by decide⟩ := by
    decide +kernel
  have hle : tiny.value ≤ huge.value := by
    have hneg : tiny.value = -tiny.magnitude := by
      show signed (some .minus) tiny.magnitude = _
      rw [signed, if_pos rfl]
    have hpos : huge.value = huge.magnitude := by
      show signed none huge.magnitude = _
      rw [signed, if_neg (by decide)]
    rw [hneg, hpos]
    exact (neg_nonpos.mpr tiny.magnitude_nonneg).trans huge.magnitude_nonneg
  obtain ⟨hrange, hmono, -⟩ := parse_numeral tiny
  obtain ⟨-, -, hoff⟩ := parse_numeral huge
  exact ⟨_, _, by decide, hc, by decide, hd, rfl, hle, (hrange.mp ⟨_, hc⟩).1,
    hmono huge _ _ hc hd hle, (hoff _ hd).1⟩

end Seconds

end ChildWatch
