import ChildWatch.Proofs.Session.GracePeriod

/-! # There are looks enough

A session looks at its child, or at its pumps, until a deadline. The number of looks that it allows
itself only sees to it that this ends on every host. Where a pause lasts as long as it is to, the
deadline has come before they are used up.

* `Host.Lasting` — pauses that last; `Host.Within` — a deadline that comes within so many of them.
* `awaitLoop_looks`, `overdueLoop_looks` — more looks make no difference. -/

namespace ChildWatch

open Live

namespace Host

variable {σ : Type}

/-- **Pauses that last**: after a pause the clock has come to every reading within its length. -/
def Lasting (h : Host σ) : Prop :=
  ∀ (s : σ) (t : Instant), t.toNanos ≤ (h.now s).toNanos + pollInterval.toNanos →
    t ≤ h.now (h.pause pollInterval s)

theorem toNanos_pollInterval : pollInterval.toNanos = 10000000 := rfl

/-- A deadline that comes within so many pauses. -/
def Within (h : Host σ) (pauses : Nat) (t : Instant) (s : σ) : Prop :=
  t.toNanos ≤ (h.now s).toNanos + 10000000 * pauses

/-- With no pause left, it has come. -/
theorem Within.reached {h : Host σ} {t : Instant} {s : σ} (hw : h.Within 0 t s) :
    Instant.reached (some t) (h.now s) = true := by
  have hle : t.toNanos ≤ (h.now s).toNanos := by simpa [Within] using hw
  rw [Instant.reached, decide_eq_true_eq]
  exact hle

/-- It is no further away at a later time. -/
theorem Within.later {h : Host σ} {pauses : Nat} {t : Instant} {s s' : σ}
    (hw : h.Within pauses t s) (hlater : h.now s ≤ h.now s') : h.Within pauses t s' := by
  have hle : (h.now s).toNanos ≤ (h.now s').toNanos := hlater
  rw [Within] at hw ⊢
  omega

/-- **One pause less is left after a pause.** -/
theorem Within.pause {h : Host σ} (hlasting : h.Lasting) {pauses : Nat} {t : Instant} {s : σ}
    (hw : h.Within (pauses + 1) t s) : h.Within pauses t (h.pause pollInterval s) := by
  have hpause := hlasting s
  rw [toNanos_pollInterval] at hpause
  rw [Within] at hw ⊢
  cases hsum : (h.now s).checkedAdd pollInterval with
  | some u =>
      have hu := Instant.toNanos_of_checkedAdd hsum
      rw [toNanos_pollInterval] at hu
      have hpaused : u.toNanos ≤ (h.now (h.pause pollInterval s)).toNanos := hpause u (by omega)
      omega
  -- no reading is later than the end of the clock, so the deadline lies within the pause
  | none =>
      have hend := ((h.now s).checkedAdd_eq_none_iff pollInterval).mp hsum
      rw [toNanos_pollInterval] at hend
      have ht := t.toNanos_lt
      have hpaused : t.toNanos ≤ (h.now (h.pause pollInterval s)).toNanos := hpause t (by omega)
      omega

/-- **The looks at a span of time last until its end.** -/
theorem exists_looks_within {h : Host σ} {s : σ} {span : Duration} {t : Instant}
    (ht : (h.now s).checkedAdd span = some t) :
    ∃ pauses, looks span = pauses + 1 ∧ h.Within pauses t s := by
  have hsum := Instant.toNanos_of_checkedAdd ht
  refine ⟨span.toNanos / 10000000 + 1, rfl, ?_⟩
  rw [Within]
  omega

end Host

namespace Live

open Host

variable {σ : Type} {h : Host σ}

/-- By induction on the pauses that are left before the deadline. -/
theorem awaitLoop_add (hclock : h.Steady) (hlasting : h.Lasting) (grace : Duration) {t : Instant}
    (more pauses : Nat) {l : Live σ} (hw : h.Within pauses t l.system) :
    l.awaitLoop h grace (some t) (pauses + 1 + more) =
      l.awaitLoop h grace (some t) (pauses + 1) := by
  induction pauses generalizing l with
  | zero =>
      have hdue := hw.reached
      rw [Nat.zero_add, Nat.add_comm, awaitLoop, awaitLoop, if_pos hdue, if_pos hdue]
  | succ pauses ih =>
      rw [Nat.add_right_comm (pauses + 1) 1 more, awaitLoop, awaitLoop]
      by_cases hdue : Instant.reached (some t) (h.now l.system) = true
      · rw [if_pos hdue, if_pos hdue]
      · rw [if_neg hdue, if_neg hdue]
        have hlook := hw.later (hclock.poll l.system)
        generalize h.poll l.system = r at hlook
        obtain ⟨_ | _ | status, s⟩ := r
        · rfl
        · exact ih (Within.pause hlasting hlook)
        · rfl

/-- **A child's grace period is over before the looks are**: with more of them the same happens. -/
theorem awaitLoop_looks (hclock : h.Steady) (hlasting : h.Lasting) (grace : Duration) (l : Live σ)
    {t : Instant} (ht : (h.now l.system).checkedAdd grace = some t) (more : Nat) :
    l.awaitLoop h grace (some t) (looks grace + more) = l.awaitWithGrace h grace := by
  obtain ⟨pauses, hlooks, hw⟩ := exists_looks_within ht
  rw [awaitWithGrace, ht, hlooks]
  exact awaitLoop_add hclock hlasting grace more pauses hw

/-- Looking at a pump does not turn the clock back. -/
theorem le_syncStream (hclock : h.Steady) (stream : Stream) (l : Live σ) :
    h.now l.system ≤ h.now (l.syncStream h stream).system := by
  rw [syncStream]
  cases l.session.capture? stream with
  | none => exact Int.le_refl _
  | some c =>
      exact Int.le_trans (hclock.reads stream l.system) (hclock.jot _ _)

/-- By induction on the pauses that are left before the deadline. -/
theorem overdueLoop_add (hclock : h.Steady) (hlasting : h.Lasting) {t : Instant} (more pauses : Nat)
    {l : Live σ} (hw : h.Within pauses t l.system) :
    l.overdueLoop h (some t) (pauses + 1 + more) = l.overdueLoop h (some t) (pauses + 1) := by
  induction pauses generalizing l with
  | zero =>
      have hdue := ((hw.later (le_syncStream hclock .stdout l)).later
        (le_syncStream hclock .stderr _)).reached
      rw [← sync] at hdue
      rw [Nat.zero_add, Nat.add_comm, overdueLoop, overdueLoop]
      simp only [if_pos hdue]
  | succ pauses ih =>
      have hlook := (hw.later (le_syncStream hclock .stdout l)).later
        (le_syncStream hclock .stderr _)
      rw [← sync] at hlook
      rw [Nat.add_right_comm (pauses + 1) 1 more, overdueLoop, overdueLoop]
      generalize l.sync h = l' at hlook
      have hnext := ih (l := { l' with system := h.pause pollInterval l'.system })
        (Within.pause hlasting hlook)
      simp only [hnext]

/-- **Pumps are overdue before the looks are used up**: with more of them the same happens. -/
theorem overdueLoop_looks (hclock : h.Steady) (hlasting : h.Lasting) (span : Duration) (l : Live σ)
    {t : Instant} (ht : (h.now l.system).checkedAdd span = some t) (more : Nat) :
    l.overdueLoop h (some t) (looks span + more) = l.pumpsOverdue h span := by
  obtain ⟨pauses, hlooks, hw⟩ := exists_looks_within ht
  rw [pumpsOverdue, ht, hlooks]
  exact overdueLoop_add hclock hlasting more pauses hw

end Live

/-- The pauses of a rehearsal last. -/
theorem Rehearsal.lasting_host (delay : Duration) (found : List Read) :
    (Rehearsal.host delay found).Lasting :=
  fun _ _ hle => Instant.le_saturatingAdd_iff.mpr hle

end ChildWatch
