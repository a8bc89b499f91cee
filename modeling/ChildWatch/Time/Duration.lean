/-! # Durations

A span of time of at most `2 ^ 64` seconds, to the nanosecond.

* `Duration` — whole seconds and the nanoseconds beyond them, both in range by construction.
* `Duration.toNanos` — the view: the span as one natural number. `Duration.ofNanos?` inverts it.
* `Duration.ofMillis` — milliseconds of a 64-bit word; never out of range.
* `Duration.text` — the text shown to people, in the largest unit that is at least one. -/

namespace ChildWatch

/-- A **duration**: `secs` whole seconds, fewer than `2 ^ 64`, and `nanos` nanoseconds, which make
no whole second. -/
structure Duration where
  secs : Nat
  nanos : Nat
  secs_lt : secs < 18446744073709551616
  nanos_lt : nanos < 1000000000
deriving DecidableEq

namespace Duration

/-- The empty duration. -/
def zero : Duration := ⟨0, 0, by decide, by decide⟩

/-- The longest duration. -/
def max : Duration := ⟨18446744073709551615, 999999999, by decide, by decide⟩

instance : Inhabited Duration := ⟨zero⟩

/-- The whole duration in nanoseconds. -/
def toNanos (d : Duration) : Nat := d.secs * 1000000000 + d.nanos

/-- The duration of `n` nanoseconds, if its seconds fit. -/
def ofNanos? (n : Nat) : Option Duration :=
  if h : n / 1000000000 < 18446744073709551616 then
    some ⟨n / 1000000000, n % 1000000000, h, Nat.mod_lt _ (by decide)⟩
  else none

/-- The duration of `ms` milliseconds. -/
def ofMillis (ms : UInt64) : Duration where
  secs := ms.toNat / 1000
  nanos := ms.toNat % 1000 * 1000000
  secs_lt := by have := ms.toNat_lt; omega
  nanos_lt := by omega

theorem toNanos_injective {a b : Duration} (h : a.toNanos = b.toNanos) : a = b := by
  obtain ⟨s, n, hs, hn⟩ := a
  obtain ⟨t, m, ht, hm⟩ := b
  simp only [toNanos] at h
  simp only [mk.injEq]
  omega

theorem toNanos_of_ofNanos? {n : Nat} {d : Duration} (h : ofNanos? n = some d) :
    d.toNanos = n := by
  unfold ofNanos? at h
  split at h
  · cases h; simp only [toNanos]; omega
  · cases h

theorem ofNanos?_toNanos (d : Duration) : ofNanos? d.toNanos = some d := by
  obtain ⟨s, n, hs, hn⟩ := d
  have h1 : (s * 1000000000 + n) / 1000000000 = s := by omega
  have h2 : (s * 1000000000 + n) % 1000000000 = n := by omega
  simp only [ofNanos?, toNanos, h1, h2, hs, dite_true]

/-- Milliseconds keep their value in nanoseconds. -/
@[simp] theorem toNanos_ofMillis (ms : UInt64) :
    (ofMillis ms).toNanos = ms.toNat * 1000000 := by
  simp only [ofMillis, toNanos]; omega

/-! ## Text -/

/-- Leading zeros up to `width` digits. -/
def padded (width n : Nat) : String :=
  let digits := toString n
  String.ofList (List.replicate (width - digits.length) '0') ++ digits

/-- The digits after a decimal point, without the zeros at their end; empty if none is left. -/
def fraction (width n : Nat) : String :=
  let kept := ((padded width n).toList.reverse.dropWhile (· == '0')).reverse
  if kept.isEmpty then "" else "." ++ String.ofList kept

/-- A duration is shown in seconds, milliseconds, microseconds or nanoseconds: the largest unit of
which it holds at least one, with as many decimal places as it needs. -/
def text (d : Duration) : String :=
  if d.secs > 0 then toString d.secs ++ fraction 9 d.nanos ++ "s"
  else if d.nanos ≥ 1000000 then
    toString (d.nanos / 1000000) ++ fraction 6 (d.nanos % 1000000) ++ "ms"
  else if d.nanos ≥ 1000 then
    toString (d.nanos / 1000) ++ fraction 3 (d.nanos % 1000) ++ "µs"
  else toString d.nanos ++ "ns"

end Duration

end ChildWatch
