import ChildWatch.Decimal.Literal
import Mathlib.Algebra.Order.Field.Power
import Mathlib.Data.Rat.Cast.Order
import Mathlib.Tactic.FieldSimp
import Mathlib.Tactic.Positivity
import Mathlib.Tactic.Ring

/-! # Decimal numerals

The numbers that people write: digits, perhaps with a sign, a point among or beside them, and a power
of ten. What a numeral stands for is told from its parts.

* `Numeral`, `Numeral.text`, `Numeral.value` — a numeral, its text and its exact value.
* `Literal.exponentValue_eq`, `Literal.parseExponent_text` — the power of ten is read as written.
* `Literal.parse_text` — a numeral is read as a literal of its sign and digits, and
  `Numeral.magnitude_eq` says that this has its value. -/

namespace ChildWatch.Decimal

/-- A sign that is written out. -/
inductive Sign where
  | plus
  | minus
deriving DecidableEq, Repr

/-- The character of a sign. -/
def Sign.char : Sign → Char
  | .plus => '+'
  | .minus => '-'

/-- The text of a sign, which may be left out. -/
def signText (sign : Option Sign) : List Char := sign.toList.map Sign.char

/-- The number under a sign. -/
def signed {α : Type} [Neg α] (sign : Option Sign) (a : α) : α :=
  if sign = some .minus then -a else a

/-- The number that digits stand for. -/
def number (digits : List Char) : ℕ := Nat.ofDigitChars 10 digits 0

/-- A **power of ten** behind a numeral, of at most five digits but for zeros before them. -/
structure Power where
  letter : Char
  sign : Option Sign
  digits : List Char
  letter_eq : letter = 'e' ∨ letter = 'E'
  digits_ne : digits ≠ []
  isDigit : ∀ c ∈ digits, c.isDigit = true
  number_le : number digits ≤ 65535

namespace Power

/-- The text of a power of ten. -/
def text (p : Power) : List Char := p.letter :: (signText p.sign ++ p.digits)

/-- Its exponent. -/
def exponent (p : Power) : ℤ := signed p.sign (number p.digits)

end Power

/-- A **decimal numeral**: digits before a point and behind it, with a digit on one side at least. -/
structure Numeral where
  sign : Option Sign
  whole : List Char
  places : Option (List Char)
  power : Option Power
  isDigit_whole : ∀ c ∈ whole, c.isDigit = true
  isDigit_places : ∀ c ∈ places.getD [], c.isDigit = true
  digits_ne : whole ++ places.getD [] ≠ []

namespace Numeral

variable (t : Numeral)

/-- The digits behind the point. -/
def fraction : List Char := t.places.getD []

theorem isDigit_fraction : ∀ c ∈ t.fraction, c.isDigit = true := t.isDigit_places

/-- The text of the point and the digits behind it. -/
def pointText : List Char :=
  match t.places with
  | some digits => '.' :: digits
  | none => []

/-- The text of the power of ten. -/
def powerText : List Char := (t.power.map Power.text).getD []

/-- The exponent of the power of ten. -/
def exponent : ℤ := (t.power.map Power.exponent).getD 0

/-- **The text of a numeral.** -/
def text : String :=
  String.ofList (signText t.sign ++ t.whole ++ t.pointText ++ t.powerText)

/-- The value without the sign. -/
def magnitude : ℚ :=
  (number t.whole + number t.fraction / 10 ^ t.fraction.length) * 10 ^ t.exponent

/-- **The value of a numeral**: the whole number before the point and the part of one behind it, times
the power of ten, under the sign. -/
def value : ℚ := signed t.sign t.magnitude

end Numeral

/-! ## Digits -/

/-- Digits with more of them before them. -/
theorem ofDigitChars_eq (digits : List Char) (n : ℕ) :
    Nat.ofDigitChars 10 digits n = n * 10 ^ digits.length + number digits := by
  induction digits generalizing n with
  | nil => simp [number]
  | cons d rest ih =>
      rw [number, Nat.ofDigitChars_cons, Nat.ofDigitChars_cons, ih, ih (10 * 0 + _), List.length_cons,
        Nat.pow_succ]
      ring

theorem number_append (digits more : List Char) :
    number (digits ++ more) = number digits * 10 ^ more.length + number more := by
  rw [number, Nat.ofDigitChars_append, ofDigitChars_eq]
  rfl

theorem le_ofDigitChars (digits : List Char) (n : ℕ) : n ≤ Nat.ofDigitChars 10 digits n := by
  rw [ofDigitChars_eq]
  have hpow : 1 ≤ 10 ^ digits.length := Nat.one_le_pow _ _ (by decide)
  have hmul := Nat.mul_le_mul_left n hpow
  omega

/-- A digit is no other character. -/
theorem ne_of_isDigit {c other : Char} (hc : c.isDigit = true) (hother : other.isDigit = false) :
    c ≠ other := by
  rintro rfl
  rw [hc] at hother
  cases hother

namespace Literal

/-! ## The power of ten -/

/-- **The digits of an exponent are all taken in**, as long as it is below the limit. The induction is
on the digits, behind those that have been taken in. -/
theorem exponentValue_eq {digits : List Char} (hle : number digits ≤ 65535) :
    exponentValue digits = number digits := by
  have hfold (n : ℕ) (hn : Nat.ofDigitChars 10 digits n ≤ 65535) :
      digits.foldl (fun n c => if n < 65536 then 10 * n + digitValue c else n) n =
        Nat.ofDigitChars 10 digits n := by
    clear hle
    induction digits generalizing n with
    | nil => rfl
    | cons d rest ih =>
        have hlt : n < 65536 := by
          have hge := le_ofDigitChars (d :: rest) n
          omega
        rw [List.foldl_cons, if_pos hlt]
        exact ih _ hn
  exact hfold 0 hle

/-- A sign is taken off, and nothing else. -/
theorem takeSign_text (sign : Option Sign) {rest : List Char}
    (hrest : ∀ c ∈ rest.head?, c ≠ '+' ∧ c ≠ '-') :
    takeSign (signText sign ++ rest) = (decide (sign = some .minus), rest) := by
  cases sign with
  | none =>
      cases rest with
      | nil => rfl
      | cons c more =>
          have hc := hrest c rfl
          simp [signText, takeSign, hc]
  | some s => cases s <;> rfl

/-- **The power of ten is read as written.** -/
theorem parseExponent_text (t : Numeral) : parseExponent t.powerText = some t.exponent := by
  cases hpower : t.power with
  | none => simp [Numeral.powerText, Numeral.exponent, hpower, parseExponent]
  | some p =>
      have htext : t.powerText = p.text := by simp [Numeral.powerText, hpower]
      have hexponent : t.exponent = p.exponent := by simp [Numeral.exponent, hpower]
      have hsign : takeSign (signText p.sign ++ p.digits) =
          (decide (p.sign = some .minus), p.digits) := by
        refine takeSign_text p.sign fun c hc => ?_
        have hdigit := p.isDigit c (List.mem_of_mem_head? hc)
        exact ⟨ne_of_isDigit hdigit (by decide), ne_of_isDigit hdigit (by decide)⟩
      have hread : ¬ (p.digits.isEmpty = true ∨ (!p.digits.all Char.isDigit) = true) := by
        have hall : p.digits.all Char.isDigit = true := List.all_eq_true.mpr p.isDigit
        simp [p.digits_ne, hall]
      rw [htext, hexponent, Power.text, parseExponent, if_pos p.letter_eq]
      simp only [hsign, if_neg hread, exponentValue_eq p.number_le, Power.exponent, signed,
        decide_eq_true_eq]

/-! ## The whole numeral -/

/-- A run of digits ends at the first character that is none. -/
theorem takeWhile_digits {digits rest : List Char} (hdigits : ∀ c ∈ digits, c.isDigit = true)
    (hrest : ∀ c ∈ rest.head?, c.isDigit = false) :
    (digits ++ rest).takeWhile Char.isDigit = digits ∧
      (digits ++ rest).dropWhile Char.isDigit = rest := by
  have hnothing : rest.takeWhile Char.isDigit = [] ∧ rest.dropWhile Char.isDigit = rest := by
    cases rest with
    | nil => exact ⟨rfl, rfl⟩
    | cons c more => simp [hrest c rfl]
  rw [List.takeWhile_append_of_pos hdigits, List.dropWhile_append_of_pos hdigits, hnothing.1,
    hnothing.2, List.append_nil]
  exact ⟨rfl, rfl⟩

/-- The text of a power of ten begins with its letter. -/
theorem head?_powerText (t : Numeral) {c : Char} (hc : c ∈ t.powerText.head?) : c = 'e' ∨ c = 'E' := by
  cases hpower : t.power with
  | none => simp [Numeral.powerText, hpower] at hc
  | some p =>
      have hletter : p.letter = c := by simpa [Numeral.powerText, hpower, Power.text] using hc
      exact hletter ▸ p.letter_eq

/-- **The digits of a numeral are read as one number**, and the point as a power of ten. -/
theorem parseDecimal_text (t : Numeral) :
    parseDecimal (t.whole ++ t.pointText ++ t.powerText) =
      some (.decimal (number (t.whole ++ t.fraction)) (t.exponent - t.fraction.length)) := by
  have hletter {c : Char} (hc : c ∈ t.powerText.head?) : c.isDigit = false ∧ c ≠ '.' := by
    rcases head?_powerText t hc with rfl | rfl <;> decide
  have hvalue (digits : List Char) : digitsValue 0 digits = number digits := rfl
  have hdigits : (t.whole.isEmpty && t.fraction.isEmpty) = false := by
    have hne := t.digits_ne
    rw [← Numeral.fraction] at hne
    simpa [List.append_eq_nil_iff] using hne
  cases hplaces : t.places with
  | none =>
      have hfraction : t.fraction = [] := by simp [Numeral.fraction, hplaces]
      have hpoint : t.pointText = [] := by simp [Numeral.pointText, hplaces]
      obtain ⟨htake, hdrop⟩ := takeWhile_digits t.isDigit_whole fun c hc => (hletter hc).1
      have hpower := parseExponent_text t
      have hwhole : t.whole ≠ [] := by simpa [hfraction] using hdigits
      rw [hfraction]
      rw [hpoint, List.append_nil]
      unfold parseDecimal
      rw [htake, hdrop]
      -- what is behind the digits does not begin with a point
      cases hrest : t.powerText with
      | nil =>
          rw [hrest] at hpower
          simp [hwhole, hpower, hvalue]
      | cons c more =>
          have hc : c ≠ '.' := (hletter (by rw [hrest]; rfl)).2
          rw [hrest] at hpower
          simp [hc, hwhole, hpower, hvalue]
  | some digits =>
      have hfraction : t.fraction = digits := by simp [Numeral.fraction, hplaces]
      have hpoint : t.pointText = '.' :: t.fraction := by simp [Numeral.pointText, hplaces, hfraction]
      have hbehind : ∀ c ∈ ('.' :: (t.fraction ++ t.powerText)).head?, c.isDigit = false := by simp
      obtain ⟨htake, hdrop⟩ := takeWhile_digits t.isDigit_whole hbehind
      obtain ⟨htake', hdrop'⟩ := takeWhile_digits t.isDigit_fraction fun c hc => (hletter hc).1
      rw [hpoint, List.append_assoc, List.cons_append]
      unfold parseDecimal
      simp only [htake, hdrop, htake', hdrop', hdigits, Bool.false_eq_true, if_false,
        parseExponent_text, Option.map_some, hvalue]

/-- Without its sign a numeral begins with a digit or the point. -/
theorem head?_unsigned (t : Numeral) {c : Char}
    (hc : c ∈ (t.whole ++ t.pointText ++ t.powerText).head?) : c.isDigit = true ∨ c = '.' := by
  cases hwhole : t.whole with
  | cons d rest =>
      have hd : d = c := by simpa [hwhole] using hc
      exact Or.inl (hd ▸ t.isDigit_whole d (by simp [hwhole]))
  | nil =>
      have hfraction : t.fraction ≠ [] := by
        have hne := t.digits_ne
        rwa [hwhole, List.nil_append] at hne
      cases hplaces : t.places with
      | none => exact absurd (by simp [Numeral.fraction, hplaces]) hfraction
      | some digits =>
          have hpoint : c = '.' := by simpa [hwhole, Numeral.pointText, hplaces, eq_comm] using hc
          exact Or.inr hpoint

/-- **A numeral is read** as its sign and its digits, with the power of ten that they are short of. -/
theorem parse_text (t : Numeral) :
    parse t.text = .ok ⟨decide (t.sign = some .minus),
      .decimal (number (t.whole ++ t.fraction)) (t.exponent - t.fraction.length)⟩ := by
  have hsign : takeSign (signText t.sign ++ (t.whole ++ t.pointText ++ t.powerText)) =
      (decide (t.sign = some .minus), t.whole ++ t.pointText ++ t.powerText) := by
    refine takeSign_text t.sign fun c hc => ?_
    rcases head?_unsigned t hc with hdigit | rfl
    · exact ⟨ne_of_isDigit hdigit (by decide), ne_of_isDigit hdigit (by decide)⟩
    · decide
  have hne : (signText t.sign ++ (t.whole ++ t.pointText ++ t.powerText)).isEmpty = false := by
    rw [List.isEmpty_eq_false_iff]
    intro hnil
    rw [hnil] at hsign
    have hunsigned : [] = t.whole ++ t.pointText ++ t.powerText := congrArg Prod.snd hsign
    have hdecimal := parseDecimal_text t
    rw [← hunsigned] at hdecimal
    cases hdecimal
  have htext : t.text.toList = signText t.sign ++ (t.whole ++ t.pointText ++ t.powerText) := by
    rw [Numeral.text, String.toList_ofList, List.append_assoc, List.append_assoc, List.append_assoc]
  rw [parse, htext]
  simp only [hne, Bool.false_eq_true, if_false, hsign, parseDecimal_text]
  rfl

end Literal

namespace Numeral

variable (t : Numeral)

/-- **What is read has the value of the numeral**, but for the sign. -/
theorem magnitude_eq :
    (number (t.whole ++ t.fraction) : ℚ) * 10 ^ (t.exponent - t.fraction.length) = t.magnitude := by
  rw [magnitude, number_append, zpow_sub₀ (by norm_num), zpow_natCast]
  push_cast
  field_simp

theorem magnitude_nonneg : 0 ≤ t.magnitude := by
  unfold magnitude
  positivity

theorem abs_value : |t.value| = t.magnitude := by
  rw [value, signed]
  split
  · rw [abs_neg, abs_of_nonneg t.magnitude_nonneg]
  · exact abs_of_nonneg t.magnitude_nonneg

/-- The value is negative under a minus, unless it is zero. -/
theorem value_neg_iff : t.value < 0 ↔ t.sign = some .minus ∧ t.magnitude ≠ 0 := by
  have hnonneg := t.magnitude_nonneg
  rw [value, signed]
  by_cases hsign : t.sign = some .minus
  · rw [if_pos hsign, neg_lt_zero]
    exact ⟨fun hpos => ⟨hsign, hpos.ne'⟩, fun hne => lt_of_le_of_ne hnonneg hne.2.symm⟩
  · rw [if_neg hsign]
    exact iff_of_false (not_lt.mpr hnonneg) fun hne => hsign hne.1

end Numeral

end ChildWatch.Decimal
