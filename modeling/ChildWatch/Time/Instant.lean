import ChildWatch.Time.Duration

/-! # Instants of a monotonic clock

A clock reading has signed 64-bit seconds and nanoseconds below one second.

* `Instant.checkedAdd` — the reading a duration later, or nothing when its seconds leave the range.
* `Instant.reached` — whether a deadline has come; a deadline that does not exist never does.
* `Instant.toNanos` — the view, as an integer; order and addition are those of the integers. -/

namespace ChildWatch

/-- A reading of the monotonic clock: its seconds lie from `-2 ^ 63` up to `2 ^ 63 - 1`, and its
nanoseconds make no whole second. -/
structure Instant where
  secs : Int
  nanos : Nat
  secs_ge : -9223372036854775808 ≤ secs
  secs_lt : secs < 9223372036854775808
  nanos_lt : nanos < 1000000000

namespace Instant

/-- The reading at which every virtual clock starts. -/
def zero : Instant := ⟨0, 0, by omega, by omega, Duration.zero.nanos_lt⟩

instance : Inhabited Instant := ⟨zero⟩

/-- The reading in nanoseconds. -/
def toNanos (t : Instant) : Int := t.secs * 1000000000 + t.nanos

/-- The reading of `n` nanoseconds, if its seconds fit. -/
def ofNanos? (n : Int) : Option Instant :=
  if h : -9223372036854775808 ≤ n / 1000000000 ∧ n / 1000000000 < 9223372036854775808 then
    some ⟨n / 1000000000, (n % 1000000000).toNat, h.1, h.2, by omega⟩
  else none

/-- The reading `d` later: seconds and nanoseconds are added with a carry, and a sum whose seconds
leave the signed 64-bit range does not exist. -/
def checkedAdd (t : Instant) (d : Duration) : Option Instant :=
  let nanos : Nat := t.nanos + d.nanos
  let carry : Nat := nanos / 1000000000
  let secs : Int := t.secs + d.secs + carry
  if h : secs < 9223372036854775808 then
    some ⟨secs, nanos % 1000000000, by have := t.secs_ge; omega, h, Nat.mod_lt _ (by decide)⟩
  else none

/-- The reading `d` later, or the last reading there is. -/
def saturatingAdd (t : Instant) (d : Duration) : Instant :=
  (t.checkedAdd d).getD ⟨9223372036854775807, 999999999, by omega, by omega, Duration.max.nanos_lt⟩

instance : LE Instant := ⟨fun a b => a.toNanos ≤ b.toNanos⟩

instance : LT Instant := ⟨fun a b => a.toNanos < b.toNanos⟩

instance (a b : Instant) : Decidable (a ≤ b) := inferInstanceAs (Decidable (a.toNanos ≤ b.toNanos))

instance (a b : Instant) : Decidable (a < b) := inferInstanceAs (Decidable (a.toNanos < b.toNanos))

/-- The time from `earlier` to `later`, zero if it runs backwards. -/
def nanosSince (later earlier : Instant) : Nat := (later.toNanos - earlier.toNanos).toNat

/-- Whether the clock at `now` has come to `deadline`; `none` stands for a deadline beyond the
clock's range, which never comes. -/
def reached (deadline : Option Instant) (now : Instant) : Bool :=
  match deadline with
  | some t => decide (t ≤ now)
  | none => false

/-- A sum that exists is the sum of the views. -/
theorem toNanos_of_checkedAdd {t u : Instant} {d : Duration} (h : t.checkedAdd d = some u) :
    u.toNanos = t.toNanos + d.toNanos := by
  unfold checkedAdd at h
  simp only at h
  split at h
  · cases h
    simp only [toNanos, Duration.toNanos]
    omega
  · cases h

/-- Every reading lies below the end of the clock's range. -/
theorem toNanos_lt (t : Instant) : t.toNanos < 9223372036854775808 * 1000000000 := by
  have hs := t.secs_lt
  have hn := t.nanos_lt
  simp only [toNanos]
  omega

/-- A sum does not exist exactly when it lies beyond the clock's range. -/
theorem checkedAdd_eq_none_iff (t : Instant) (d : Duration) :
    t.checkedAdd d = none ↔ 9223372036854775808 * 1000000000 ≤ t.toNanos + d.toNanos := by
  have hn := t.nanos_lt
  have hd := d.nanos_lt
  unfold checkedAdd
  simp only [toNanos, Duration.toNanos]
  split
  · simp only [reduceCtorEq, false_iff]
    omega
  · simp only [true_iff]
    omega

/-- **A deadline has come exactly when the clock has come to the sum**, as an integer. A sum beyond
the clock's range is never reached, since no reading is as late. -/
theorem reached_checkedAdd (t : Instant) (d : Duration) (now : Instant) :
    reached (t.checkedAdd d) now = decide (t.toNanos + d.toNanos ≤ now.toNanos) := by
  cases h : t.checkedAdd d with
  | some u =>
      have hu := toNanos_of_checkedAdd h
      rw [reached, ← hu]
      rfl
  | none =>
      have hend := (checkedAdd_eq_none_iff t d).mp h
      have hnow := now.toNanos_lt
      rw [reached, eq_comm, decide_eq_false_iff_not]
      omega

/-- **A saturated sum is the last reading no later than the sum.** -/
theorem le_saturatingAdd_iff {t u : Instant} {d : Duration} :
    u ≤ t.saturatingAdd d ↔ u.toNanos ≤ t.toNanos + d.toNanos := by
  change u.toNanos ≤ ((t.checkedAdd d).getD _).toNanos ↔ _
  cases h : t.checkedAdd d with
  | some v =>
      rw [Option.getD_some, toNanos_of_checkedAdd h]
  | none =>
      -- every reading lies below such a sum, and no later than the last one
      have hend := (checkedAdd_eq_none_iff t d).mp h
      have hu := u.toNanos_lt
      simp only [toNanos] at hend hu
      simp only [Option.getD_none, toNanos]
      omega

end Instant

end ChildWatch
