import ChildWatch.Decimal.Binary
import Mathlib.Algebra.Order.Field.Power
import Mathlib.Data.Int.Log
import Mathlib.Data.Rat.Cast.Order
import Mathlib.Tactic.FieldSimp
import Mathlib.Tactic.Linarith
import Mathlib.Tactic.NormNum
import Mathlib.Tactic.Positivity
import Mathlib.Tactic.Ring

/-! # The nearest natural number

What rounding a ratio to a natural number means, said of the ratio itself.

* `IsNearest` — the natural number nearest to a rational one, the even one of two.
* `IsNearest.mono` — greater numbers have greater nearest ones, and so `IsNearest.unique`: there is
  one only.
* `IsNearest.lt_iff_of_even`, `IsNearest.le_iff_of_even` — what half a unit from an even number
  belongs to.
* `isNearest_divHalfEven` — rounded division gives it. -/

namespace ChildWatch.Decimal

/-- **`n` is nearest to `q`** among the natural numbers; of two equally near ones it is the even
one. -/
structure IsNearest (n : ℕ) (q : ℚ) : Prop where
  near : |q - n| ≤ 1 / 2
  even : |q - n| = 1 / 2 → Even n

namespace IsNearest

variable {m n k : ℕ} {q r : ℚ}

/-- A natural number is nearest to whatever lies less than half a unit from it. -/
theorem of_lt (h : |q - n| < 1 / 2) : IsNearest n q :=
  ⟨h.le, fun heq => absurd heq h.ne⟩

/-- It is nearest to itself. -/
theorem natCast (n : ℕ) : IsNearest n (n : ℚ) := of_lt (by norm_num)

theorem le_add (h : IsNearest n q) : q ≤ n + 1 / 2 := by
  have := (abs_le.mp h.near).2
  linarith

theorem sub_le (h : IsNearest n q) : (n : ℚ) - 1 / 2 ≤ q := by
  have := (abs_le.mp h.near).1
  linarith

/-- What lies half a unit above its nearest number has an even one. -/
theorem even_of_add_le (h : IsNearest n q) (hq : (n : ℚ) + 1 / 2 ≤ q) : Even n := by
  have hle := h.le_add
  refine h.even ?_
  rw [abs_of_nonneg (by linarith)]
  linarith

/-- So does what lies half a unit below it. -/
theorem even_of_le_sub (h : IsNearest n q) (hq : q ≤ (n : ℚ) - 1 / 2) : Even n := by
  have hge := h.sub_le
  refine h.even ?_
  rw [abs_of_nonpos (by linarith)]
  linarith

/-- Between two even numbers lies another one. -/
theorem add_two_le (hm : Even m) (hn : Even n) (hlt : m < n) : (m : ℚ) + 2 ≤ n := by
  obtain ⟨a, rfl⟩ := hm
  obtain ⟨b, rfl⟩ := hn
  have hle : a + a + 2 ≤ b + b := by omega
  exact_mod_cast hle

/-- **A greater number has a greater nearest one.** Two that were the other way round would both be
half a unit away, next to each other and even. -/
theorem mono (hm : IsNearest m q) (hn : IsNearest n r) (hle : q ≤ r) : m ≤ n := by
  by_contra hnot
  have hlt : n < m := Nat.lt_of_not_le hnot
  have hcast : (n : ℚ) + 1 ≤ m := by exact_mod_cast hlt
  have hq := hm.sub_le
  have hr := hn.le_add
  have hmeven : Even m := hm.even_of_le_sub (by linarith)
  have hneven : Even n := hn.even_of_add_le (by linarith)
  have hapart := add_two_le hneven hmeven hlt
  linarith

/-- There is only one nearest number. -/
theorem unique (hm : IsNearest m q) (hn : IsNearest n q) : m = n :=
  Nat.le_antisymm (hm.mono hn le_rfl) (hn.mono hm le_rfl)

/-- What is at least a natural number has a nearest one that is. -/
theorem le_of_le (h : IsNearest n q) (hk : (k : ℚ) ≤ q) : k ≤ n := (natCast k).mono h hk

/-- What is at most a natural number has a nearest one that is. -/
theorem le_of_ge (h : IsNearest n q) (hk : q ≤ (k : ℚ)) : n ≤ k := h.mono (natCast k) hk

/-- **Half a unit below an even number** belongs to it. -/
theorem lt_iff_of_even (h : IsNearest n q) (hk : Even k) : n < k ↔ q < (k : ℚ) - 1 / 2 := by
  constructor
  · intro hlt
    have hcast : (n : ℚ) + 1 ≤ k := by exact_mod_cast hlt
    have hq := h.le_add
    by_contra hnot
    have hge : (k : ℚ) - 1 / 2 ≤ q := not_lt.mp hnot
    have hapart := add_two_le (h.even_of_add_le (by linarith)) hk hlt
    linarith
  · intro hq
    by_contra hnot
    have hcast : (k : ℚ) ≤ n := by exact_mod_cast Nat.le_of_not_lt hnot
    have hn := h.sub_le
    linarith

/-- So does half a unit above it. -/
theorem le_iff_of_even (h : IsNearest n q) (hk : Even k) : n ≤ k ↔ q ≤ (k : ℚ) + 1 / 2 := by
  constructor
  · intro hle
    have hcast : (n : ℚ) ≤ k := by exact_mod_cast hle
    have hq := h.le_add
    linarith
  · intro hq
    by_contra hnot
    have hlt : k < n := Nat.lt_of_not_le hnot
    have hcast : (k : ℚ) + 1 ≤ n := by exact_mod_cast hlt
    have hn := h.sub_le
    have hapart := add_two_le hk (h.even_of_le_sub (by linarith)) hlt
    linarith

/-- Two natural numbers are at least a unit apart. -/
theorem one_le_add (q : ℚ) (hne : k ≠ n) : 1 ≤ |q - n| + |q - k| := by
  have hfar : (1 : ℚ) ≤ |(n : ℚ) - k| := by
    have hdistinct : (n : ℤ) - k ≠ 0 := by omega
    exact_mod_cast Int.one_le_abs hdistinct
  calc (1 : ℚ) ≤ |(n : ℚ) - k| := hfar
    _ ≤ |(n : ℚ) - q| + |q - k| := abs_sub_le _ _ _
    _ = |q - n| + |q - k| := by rw [abs_sub_comm (n : ℚ) q]

/-- **It is nearest indeed**: no other natural number is nearer. -/
theorem nearest (h : IsNearest n q) (k : ℕ) : |q - n| ≤ |q - k| := by
  by_cases hne : k = n
  · rw [hne]
  · have hapart := one_le_add q hne
    have hnear := h.near
    linarith

/-- If another is as near, it is even. -/
theorem even_of_tie (h : IsNearest n q) (hne : k ≠ n) (htie : |q - k| = |q - n|) : Even n := by
  have hapart := one_le_add q hne
  have hnear := h.near
  exact h.even (by linarith)

end IsNearest

/-- **Rounded division gives the nearest natural number** to the ratio. -/
theorem isNearest_divHalfEven (num : ℕ) {den : ℕ} (hden : 0 < den) :
    IsNearest (divHalfEven num den) ((num : ℚ) / den) := by
  have hpos : (0 : ℚ) < den := by exact_mod_cast hden
  have hsplit : (num : ℚ) / den = (num / den : ℕ) + ((num % den : ℕ) : ℚ) / den := by
    have hdiv : (num : ℚ) = den * (num / den : ℕ) + (num % den : ℕ) := by
      exact_mod_cast (Nat.div_add_mod num den).symm
    field_simp
    linarith
  -- what the remainder is compared with is half of the divisor
  have hbelow : 2 * (num % den) < den ↔ ((num % den : ℕ) : ℚ) / den < 1 / 2 := by
    rw [div_lt_div_iff₀ hpos two_pos, one_mul, mul_comm]
    exact_mod_cast Iff.rfl
  have habove : den < 2 * (num % den) ↔ 1 / 2 < ((num % den : ℕ) : ℚ) / den := by
    rw [div_lt_div_iff₀ two_pos hpos, one_mul, mul_comm ((num % den : ℕ) : ℚ)]
    exact_mod_cast Iff.rfl
  have hrest : 0 ≤ ((num % den : ℕ) : ℚ) / den := by positivity
  have hproper : ((num % den : ℕ) : ℚ) / den < 1 := by
    rw [div_lt_one hpos]
    exact_mod_cast Nat.mod_lt num hden
  rw [hsplit]
  unfold divHalfEven
  generalize num / den = quotient
  generalize ((num % den : ℕ) : ℚ) / den = rest at hbelow habove hrest hproper
  by_cases hlow : 2 * (num % den) < den
  · have hlt := hbelow.mp hlow
    simp only [if_pos hlow]
    refine .of_lt ?_
    rw [add_sub_cancel_left, abs_of_nonneg hrest]
    exact hlt
  by_cases hhigh : den < 2 * (num % den)
  · have hgt := habove.mp hhigh
    simp only [if_neg hlow, if_pos hhigh]
    refine .of_lt ?_
    push_cast
    rw [abs_of_nonpos (by linarith)]
    linarith
  · have hhalf : rest = 1 / 2 :=
      le_antisymm (not_lt.mp fun h => hhigh (habove.mpr h)) (not_lt.mp fun h => hlow (hbelow.mpr h))
    simp only [if_neg hlow, if_neg hhigh, hhalf]
    by_cases heven : quotient % 2 = 0
    · rw [if_pos heven]
      refine ⟨by norm_num, fun _ => Nat.even_iff.mpr heven⟩
    · rw [if_neg heven]
      refine ⟨?_, fun _ => Nat.even_add_one.mpr (Nat.even_iff.not.mpr heven)⟩
      push_cast
      norm_num

end ChildWatch.Decimal
