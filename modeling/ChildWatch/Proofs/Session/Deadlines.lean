import ChildWatch.Proofs.Session.Frame
import ChildWatch.Proofs.Session.FullOutput
import ChildWatch.Proofs.Session.GracePeriod
import Mathlib.Algebra.Ring.Int.Defs

/-! # Deadlines within the clock's range

A session sets a deadline by adding a span of time to a reading of its clock. A sum that the clock
cannot show is no deadline at all, and who waits for it would wait forever. Spans that are configured
are milliseconds of a 64-bit word, and the clock is far from its end; so there is always room.

* `Instant.InRange`, `Instant.checkedAdd_eq_none_iff_not_inRange` — which sums there are.
* `Instant.IsLater`, `Instant.exists_isLater` — a reading so many milliseconds later, with its
  seconds and nanoseconds.
* `Session.Under`, `Session.under_run` — a session keeps the spans of its configuration.
* `Live.waitLoop_cases`, `Live.waitLoop_of_unanswered` — one round of a wait, and any number of them:
  the deadline of the first poll stays.
* `Live.deadlines_in_range` — what comes of it for the deadlines of a session. -/

namespace ChildWatch

namespace Instant

/-! ## Sums of readings and spans -/

/-- **In the clock's range**: the whole seconds of so many nanoseconds fit a signed 64-bit word. -/
def InRange (n : Int) : Prop := -2 ^ 63 ≤ n / 10 ^ 9 ∧ n / 10 ^ 9 < 2 ^ 63

instance (n : Int) : Decidable (InRange n) := inferInstanceAs (Decidable (_ ∧ _))

/-- **There is no sum exactly if it is out of range.** -/
theorem checkedAdd_eq_none_iff_not_inRange (t : Instant) (d : Duration) :
    t.checkedAdd d = none ↔ ¬ InRange (t.toNanos + d.toNanos) := by
  have hge : -9223372036854775808 * 1000000000 ≤ t.toNanos := by
    have hs := t.secs_ge
    simp only [toNanos]
    omega
  rw [checkedAdd_eq_none_iff, InRange]
  omega

/-- **A reading some milliseconds later**, which is in range: the number of its nanoseconds is
split into whole seconds and the rest. -/
structure IsLater (t : Instant) (ms : UInt64) (u : Instant) : Prop where
  inRange : InRange (t.toNanos + ms.toNat * 10 ^ 6)
  secs_eq : u.secs = (t.toNanos + ms.toNat * 10 ^ 6) / 10 ^ 9
  nanos_eq : (u.nanos : Int) = (t.toNanos + ms.toNat * 10 ^ 6) % 10 ^ 9

/-- **There is room for any number of milliseconds** behind a reading below `2 ^ 62` seconds. -/
theorem exists_isLater {t : Instant} (ht : t.secs < 2 ^ 62) (ms : UInt64) :
    ∃ u, t.checkedAdd (.ofMillis ms) = some u ∧ t.IsLater ms u := by
  have hms := ms.toNat_lt
  have hge := t.secs_ge
  have hnanos := t.nanos_lt
  have hrange : InRange (t.toNanos + ms.toNat * 10 ^ 6) := by
    rw [InRange, toNanos]
    omega
  cases hsum : t.checkedAdd (.ofMillis ms) with
  | none =>
      rw [checkedAdd_eq_none_iff_not_inRange, Duration.toNanos_ofMillis] at hsum
      exact absurd hrange (by exact_mod_cast hsum)
  | some u =>
      have hu := toNanos_of_checkedAdd hsum
      have hlt := u.nanos_lt
      rw [Duration.toNanos_ofMillis, toNanos] at hu
      refine ⟨u, rfl, hrange, ?_, ?_⟩
      · omega
      · omega

end Instant

/-! ## The spans of a session -/

namespace Session

/-- A session **under a configuration** has its grace period and its time for waits. -/
structure Under (config : Config) (s : Session) : Prop where
  grace_eq : s.grace = config.terminateGrace
  defaultTimeout_eq : s.defaultTimeout = config.defaultWaitTimeout

theorem constant_grace : Constant Session.grace := ⟨fun _ _ _ _ => rfl, fun _ _ _ => rfl⟩

theorem constant_defaultTimeout : Constant Session.defaultTimeout :=
  ⟨fun _ _ _ _ => rfl, fun _ _ _ => rfl⟩

/-- **A session stays under the configuration of its launch**, whatever is done with it. -/
theorem under_run {σ : Type} (h : Host σ) (command : Command) (config : Config) (pid : Nat)
    (now : Instant) (system : σ) (ops : List Live.Op) :
    ((⟨.ofLaunch command config pid now, system⟩ : Live σ).run h ops).session.Under config :=
  ⟨constant_grace.run h _ ops, constant_defaultTimeout.run h _ ops⟩

/-- The spans of a release are milliseconds of a 64-bit word. -/
theorem Under.exists_millis {config : Config} {s : Session} (hs : s.Under config) {span : Duration}
    (hspan : s.grace = some span ∨ span = Live.settleTime) : ∃ ms, span = .ofMillis ms := by
  rcases hspan with hgrace | hsettle
  · rw [hs.grace_eq, Config.terminateGrace, Option.map_eq_some_iff] at hgrace
    obtain ⟨ms, -, hms⟩ := hgrace
    exact ⟨ms, hms.symm⟩
  · exact ⟨50, hsettle⟩

end Session

/-! ## The deadline of a wait -/

namespace Waiter

/-- The deadline that a poll works with and leaves: the first one sets it. -/
def Phase.due (w : Waiter) (now : Instant) : Phase → Option Instant
  | .fresh => now.checkedAdd w.timeout
  | .waiting deadline => deadline

theorem phase_proceed (w : Waiter) (phase : Phase) (now : Instant) (b : LogBuffer) :
    (w.proceed phase now b).2.1 = .waiting (phase.due w now) := by
  cases phase with
  | fresh => rfl
  | waiting deadline => rfl

end Waiter

namespace Live

variable {σ : Type} (h : Host σ)

/-- **A round of a wait** answers it, or the wait goes on with its deadline. -/
theorem waitLoop_cases (stream : Stream) (w : Waiter) (phase : Waiter.Phase) (l : Live σ) :
    (∃ answer m, ∀ polls, l.waitLoop h stream w (polls + 1) phase = (some answer, m)) ∨
    ∃ m : Live σ, ∀ polls, l.waitLoop h stream w (polls + 1) phase =
      m.waitLoop h stream w polls (.waiting (phase.due w (l.reading h))) := by
  simp only [waitLoop, reading]
  cases (l.sync h).session.capture? stream with
  | none => exact Or.inl ⟨_, _, fun polls => rfl⟩
  | some c =>
      simp only
      have hphase := w.phase_proceed phase (h.now (l.sync h).system) c.buffer
      generalize w.proceed phase (h.now (l.sync h).system) c.buffer = r at hphase
      obtain ⟨outcome, next, buffer⟩ := r
      simp only at hphase
      subst hphase
      cases w.answer outcome.verdict with
      | none => exact Or.inr ⟨_, fun polls => rfl⟩
      | some answer => exact Or.inl ⟨_, _, fun polls => rfl⟩

/-- **A wait keeps the deadline of its first poll** through any number of rounds without an answer.
The induction is on the rounds. -/
theorem waitLoop_of_unanswered {stream : Stream} {w : Waiter} {phase : Waiter.Phase} {l : Live σ}
    (rounds : Nat) (hnone : (l.waitLoop h stream w (rounds + 1) phase).1 = none) :
    ∃ m : Live σ, ∀ polls, l.waitLoop h stream w (rounds + 1 + polls) phase =
      m.waitLoop h stream w polls (.waiting (phase.due w (l.reading h))) := by
  induction rounds generalizing phase l with
  | zero =>
      rcases waitLoop_cases h stream w phase l with ⟨answer, m, hanswer⟩ | ⟨m, hgoes⟩
      · rw [hanswer] at hnone
        cases hnone
      · refine ⟨m, fun polls => ?_⟩
        rw [Nat.zero_add, Nat.add_comm, hgoes]
  | succ rounds ih =>
      rcases waitLoop_cases h stream w phase l with ⟨answer, m, hanswer⟩ | ⟨m, hgoes⟩
      · rw [hanswer] at hnone
        cases hnone
      · rw [hgoes] at hnone
        obtain ⟨m', hlater⟩ := ih hnone
        refine ⟨m', fun polls => ?_⟩
        rw [Nat.add_right_comm (rounds + 1) 1 polls, hgoes, hlater]
        rfl

/-! ## The deadlines of a session -/

variable {config : Config} {l : Live σ}

/-- **The loops of a release have a deadline**, whether they wait for the child or for the pumps. -/
theorem exists_loops_until (hl : l.session.Under config) (ht : (h.now l.system).secs < 2 ^ 62)
    {span : Duration} (hspan : l.session.grace = some span ∨ span = settleTime) :
    ∃ u, (h.now l.system).checkedAdd span = some u ∧
      l.awaitWithGrace h span = l.awaitLoop h span (some u) (looks span) ∧
      l.pumpsOverdue h span = l.overdueLoop h (some u) (looks span) := by
  obtain ⟨ms, rfl⟩ := hl.exists_millis hspan
  obtain ⟨u, hsum, -⟩ := Instant.exists_isLater ht ms
  refine ⟨u, hsum, ?_, ?_⟩
  · rw [awaitWithGrace, hsum]
  · rw [pumpsOverdue, hsum]

/-- **A wait for the default time has a deadline**, as long as it goes on. -/
theorem exists_waitDefault_until (hl : l.session.Under config) (ht : (l.reading h).secs < 2 ^ 62)
    (p : Pattern) :
    ∃ u, (l.reading h).IsLater config.defaultWaitTimeoutMs u ∧
      ∀ rounds, (l.waitDefault h p (rounds + 1)).1 = none →
        ∃ m : Live σ, ∀ polls, l.waitDefault h p (rounds + 1 + polls) =
          m.waitLoop h .stdout ⟨p, config.defaultWaitTimeout⟩ polls (.waiting (some u)) := by
  obtain ⟨u, hsum, hlater⟩ := Instant.exists_isLater ht config.defaultWaitTimeoutMs
  refine ⟨u, hlater, fun rounds hnone => ?_⟩
  rw [waitDefault, wait, hl.defaultTimeout_eq] at hnone
  obtain ⟨m, hgoes⟩ := waitLoop_of_unanswered h rounds hnone
  have hdue : Waiter.Phase.fresh.due ⟨p, config.defaultWaitTimeout⟩ (l.reading h) = some u := hsum
  refine ⟨m, fun polls => ?_⟩
  rw [waitDefault, wait, hl.defaultTimeout_eq, hgoes, hdue]

/-- **Deadlines are within the clock's range.** Take any configuration. A session that is launched
with it keeps its spans, whatever is done with it. While the clock is below `2 ^ 62` seconds, the
deadline of a wait for the default time is that many milliseconds later, and so is the end of the
grace period; the loops that wait for the child and for the pumps have a deadline; and a wait for the
default time, as long as it goes on, has the one that its first poll has set. Only a wait for a time
of its own may be without a deadline, and is so exactly if the sum is out of range. -/
theorem deadlines_in_range (config : Config) :
    (∀ (command : Command) (pid : Nat) (now : Instant) (system : σ) (ops : List Op),
      ((⟨.ofLaunch command config pid now, system⟩ : Live σ).run h ops).session.Under config) ∧
    (∀ t : Instant, t.secs < 2 ^ 62 →
      (∃ u, t.checkedAdd config.defaultWaitTimeout = some u ∧
        t.IsLater config.defaultWaitTimeoutMs u) ∧
      ∀ ms, config.terminateGraceMs = some ms → ∃ grace u, config.terminateGrace = some grace ∧
        t.checkedAdd grace = some u ∧ t.IsLater ms u) ∧
    (∀ l : Live σ, l.session.Under config → (h.now l.system).secs < 2 ^ 62 →
      ∀ span, l.session.grace = some span ∨ span = settleTime →
        ∃ u, (h.now l.system).checkedAdd span = some u ∧
          l.awaitWithGrace h span = l.awaitLoop h span (some u) (looks span) ∧
          l.pumpsOverdue h span = l.overdueLoop h (some u) (looks span)) ∧
    (∀ (l : Live σ) (p : Pattern), l.session.Under config → (l.reading h).secs < 2 ^ 62 →
      ∃ u, (l.reading h).IsLater config.defaultWaitTimeoutMs u ∧
        ∀ rounds, (l.waitDefault h p (rounds + 1)).1 = none →
          ∃ m : Live σ, ∀ polls, l.waitDefault h p (rounds + 1 + polls) =
            m.waitLoop h .stdout ⟨p, config.defaultWaitTimeout⟩ polls (.waiting (some u))) ∧
    (∀ (w : Waiter) (t : Instant) (b : LogBuffer),
      (w.poll .fresh t b).2.1 = .waiting none ↔
        ¬ Instant.InRange (t.toNanos + w.timeout.toNanos)) := by
  refine ⟨?_, fun t ht => ⟨?_, ?_⟩, ?_, ?_, ?_⟩
  · intro command pid now system ops
    exact Session.under_run h command config pid now system ops
  · exact Instant.exists_isLater ht config.defaultWaitTimeoutMs
  · intro ms hms
    obtain ⟨u, hsum, hlater⟩ := Instant.exists_isLater ht ms
    refine ⟨.ofMillis ms, u, ?_, hsum, hlater⟩
    rw [Config.terminateGrace, hms]
    rfl
  · intro l hl ht span hspan
    exact exists_loops_until h hl ht hspan
  · intro l p hl ht
    exact exists_waitDefault_until h hl ht p
  · intro w t b
    rw [Waiter.poll, w.phase_proceed, Waiter.Phase.waiting.injEq, Waiter.Phase.due,
      Instant.checkedAdd_eq_none_iff_not_inRange]

/-- A reading one nanosecond before `2 ^ 62` seconds. -/
def late : Instant :=
  ⟨4611686018427387903, 999999999, by omega, by omega, Duration.max.nanos_lt⟩

/-- The configuration with the longest spans. -/
def longest : Config :=
  { Config.default with
    defaultWaitTimeoutMs := 18446744073709551615
    terminateGraceMs := some 18446744073709551615 }

/-- A session with the longest spans, launched at that time. -/
def lateSession : Live Rehearsal :=
  ⟨.ofLaunch (.shell "sleep 20") longest 4242 late, ⟨late, none⟩⟩

/-- **With the longest spans, late on the clock**, every sum is in range: the nanoseconds are carried
into the seconds. The longest time that a wait can be given leaves the range. -/
theorem deadlines_in_range_longest :
    let h := Rehearsal.host .zero []
    late.secs < 2 ^ 62 ∧ longest.terminateGraceMs = some 18446744073709551615 ∧
      lateSession.session.Under longest ∧ (h.now lateSession.system).secs < 2 ^ 62 ∧
      (∃ u, late.checkedAdd longest.defaultWaitTimeout = some u ∧
        u.secs = 4630132762501097455 ∧ u.nanos = 614999999) ∧
      (∃ u, late.checkedAdd (.ofMillis 18446744073709551615) = some u ∧
        lateSession.awaitWithGrace h (.ofMillis 18446744073709551615) =
          lateSession.awaitLoop h (.ofMillis 18446744073709551615) (some u)
            (looks (.ofMillis 18446744073709551615))) ∧
      (∃ u, lateSession.pumpsOverdue h settleTime =
        lateSession.overdueLoop h (some u) (looks settleTime)) ∧
      (lateSession.waitDefault h (.substring "up") 2).1 = none ∧
      (∃ (u : Instant) (m : Live Rehearsal), ∀ polls,
        lateSession.waitDefault h (.substring "up") (2 + polls) = m.waitLoop h
          .stdout ⟨.substring "up", longest.defaultWaitTimeout⟩ polls (.waiting (some u))) ∧
      ((⟨.substring "up", .max⟩ : Waiter).poll .fresh late (.fresh .stdout)).2.1 = .waiting none := by
  intro h
  have hlate : late.secs < 2 ^ 62 := by decide
  have hgrace : longest.terminateGraceMs = some 18446744073709551615 := rfl
  have hunanswered : (lateSession.waitDefault h (.substring "up") 2).1 = none := by decide +kernel
  obtain ⟨hunder, hsums, hloops, hwaits, hnone⟩ := deadlines_in_range h longest
  have hl : lateSession.session.Under longest := hunder (.shell "sleep 20") 4242 late ⟨late, none⟩ []
  obtain ⟨⟨u, hsum, hlater⟩, -⟩ := hsums late hlate
  obtain ⟨grace, hgraceSum, hawait, -⟩ := hloops lateSession hl hlate _ (Or.inl rfl)
  obtain ⟨settled, -, -, hpumps⟩ := hloops lateSession hl hlate settleTime (Or.inr rfl)
  obtain ⟨due, -, hgoes⟩ := hwaits lateSession (.substring "up") hl hlate
  have hnanos : (u.nanos : Int) = 614999999 := hlater.nanos_eq
  refine ⟨hlate, hgrace, hl, hlate, ⟨u, hsum, hlater.secs_eq, ?_⟩, ⟨grace, hgraceSum, hawait⟩,
    ⟨settled, hpumps⟩, hunanswered, ⟨due, hgoes 1 hunanswered⟩, ?_⟩
  · exact Int.ofNat.inj hnanos
  · exact (hnone _ _ _).mpr (by decide)

end Live

end ChildWatch
