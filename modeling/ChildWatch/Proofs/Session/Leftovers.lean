import ChildWatch.Proofs.Session.CaptureRuns
import ChildWatch.Proofs.Session.GracePeriod

/-! # What is left of a group

A child may leave others of its group behind, which hold its streams open. They are asked to go, and
are killed if they outlast the grace period; but a signal is sent only straight after the pumps have
been looked at, and only if one of them had not stopped.

* `Host.HeldOpen` — the look at the pumps that comes before a signal for the group.
* `Host.Clears` — the rule for what is sent to the group of a child that has been stopped.
* `Live.Clearing` — the course of stopping what is left.
* `Clearing.overdueLoop`, `Clearing.stopLeftovers` and so on — each part of it keeps the rule. -/

namespace ChildWatch

namespace Host

variable {σ : Type}

/-! ## The rule -/

/-- What the pump of a stream has read while all this has passed. -/
def readsOf (past : List Record) (stream : Stream) : List Read :=
  past.flatMap fun r => r.event.reads stream

@[simp] theorem readsOf_append (past more : List Record) (stream : Stream) :
    readsOf (past ++ more) stream = readsOf past stream ++ readsOf more stream :=
  List.flatMap_append

/-- **A stream was still held open at the last look**, `s` being the session before all this has
passed: the pump of each captured stream was looked at in the end, and one of them had not stopped
after all that it had read. -/
def HeldOpen (s : Session) (past : List Record) : Prop :=
  ∃ earlier checks : List Record, past = earlier ++ checks ∧
    checks.map (·.event.asked) = s.streams.map some ∧
    ∃ stream c, s.capture? stream = some c ∧
      (c.pump.feedAll (readsOf past stream)).2.finished = false

/-- **The rule for stopping what is left of a group.** It is asked to go only while it holds a
stream open, and is killed only if it does so still when a grace period is over. -/
inductive Clears (h : Host σ) (s : Session) (past : List Record) : Record → Prop where
  /-- Nothing is said of what is no signal. -/
  | quiet {r : Record} (hr : r.event.sends = false) : Clears h s past r
  /-- The group is asked to go. -/
  | ask {t : Instant} {answer : Option Refusal} (hopen : HeldOpen s past) :
    Clears h s past ⟨t, .groupSignalled .terminate answer⟩
  /-- The group is killed. -/
  | kill {t : Instant} {answer : Option Refusal} {span : Duration} (hopen : HeldOpen s past)
    (hgrace : s.grace = some span)
    (hover : ∃ ask ∈ past, ask.Asks ∧
      (h.Steady → ask.time.toNanos + span.toNanos ≤ t.toNanos)) :
    Clears h s past ⟨t, .groupSignalled .kill answer⟩

end Host

namespace Live

open Host

variable {σ : Type} (h : Host σ) {l₀ l : Live (Traced σ)} {new : List Record}

/-- The course of stopping what is left of a group. The captures only go steps of their own. -/
structure Clearing (l₀ : Live (Traced σ)) (new : List Record) (l : Live (Traced σ)) : Prop where
  course : Course (Clears h l₀.session) l₀ new l
  goes : l₀.Goes l

/-- An entry in the journal is neither on record nor the captures' concern. -/
theorem Clearing.note (hr : Clearing h l₀ new l) (level : Journal.Level) (text : String) :
    Clearing h l₀ new (l.note h.traced level text) :=
  ⟨hr.course.note h level text, hr.goes.trans (goes_note h l level text)⟩

/-! ## Looking at the pumps -/

/-- What has been read since the beginning of a course is what its records say. -/
theorem Course.reads_eq {rule : List Record → Record → Prop} (hc : Course rule l₀ new l)
    (stream : Stream) : l.system.reads stream = l₀.system.reads stream ++ readsOf new stream := by
  rw [Traced.reads, hc.trace_eq, List.flatMap_append]
  rfl

/-- A session of which not every pump has stopped has a capture with a pump that has not. -/
theorem exists_of_not_pumpsFinished {s : Session} (hopen : s.pumpsFinished = false) :
    ∃ stream c, s.capture? stream = some c ∧ c.pump.finished = false := by
  rw [Session.pumpsFinished, List.all_eq_false] at hopen
  obtain ⟨stream, -, hstream⟩ := hopen
  cases hc : s.capture? stream with
  | none => simp [hc] at hstream
  | some c =>
      refine ⟨stream, c, hc, ?_⟩
      simpa [hc] using hstream

/-- **A look that finds a pump at work** finds a stream held open. -/
theorem Course.heldOpen {rule : List Record → Record → Prop} {looks : List Record}
    (hc : Course rule l₀ (new ++ looks) l) (hgoes : l₀.Goes l)
    (hasked : looks.map (·.event.asked) = l₀.session.streams.map some)
    (hopen : l.session.pumpsFinished = false) : HeldOpen l₀.session (new ++ looks) := by
  obtain ⟨stream, c', hc', hrunning⟩ := exists_of_not_pumpsFinished hopen
  obtain ⟨c, hc₀, hsteps⟩ := hgoes.steps_to hc'
  obtain ⟨more, hreads, hpump⟩ := Capture.feeds_steps hsteps
  have hmore : more = readsOf (new ++ looks) stream := by
    have heq := hreads.symm.trans (hc.reads_eq stream)
    exact List.append_cancel_left heq
  refine ⟨new, looks, rfl, hasked, stream, c, hc₀, ?_⟩
  rw [← hmore, ← hpump]
  exact hrunning

/-- **The pumps are looked at until a deadline**, by induction on the looks that are left. If some
pump is overdue then, the last look has found a stream held open, and the deadline has come. -/
theorem Clearing.overdueLoop (deadline : Option Instant) (looks : Nat) {l : Live (Traced σ)}
    {new : List Record} (hr : Clearing h l₀ new l) :
    ∃ looked, Clearing h l₀ (new ++ looked) (l.overdueLoop h.traced deadline looks).2 ∧
      ((l.overdueLoop h.traced deadline looks).1 = true →
        HeldOpen l₀.session (new ++ looked) ∧ Instant.reached deadline
          (h.now (l.overdueLoop h.traced deadline looks).2.system.state) = true) := by
  induction looks generalizing l new with
  | zero =>
      refine ⟨[], ⟨hr.course.nothing, hr.goes⟩, ?_⟩
      intro hover
      simp [Live.overdueLoop] at hover
  | succ looks ih =>
      obtain ⟨checks, hcourse, hasked⟩ := hr.course.sync h fun _ _ hsends _ => .quiet hsends
      have hgoes := hr.goes.trans (goes_sync h l)
      rw [hr.goes.streams_eq] at hasked
      rw [Live.overdueLoop]
      generalize l.sync h.traced = l' at hcourse hgoes
      by_cases hfinished : l'.session.pumpsFinished = true
      · rw [if_pos hfinished]
        refine ⟨checks, ⟨hcourse, hgoes⟩, ?_⟩
        intro hover
        simp at hover
      · rw [if_neg hfinished]
        rw [Bool.not_eq_true] at hfinished
        by_cases hdue : Instant.reached deadline (h.traced.now l'.system) = true
        · rw [if_pos hdue]
          exact ⟨checks, ⟨hcourse, hgoes⟩, fun _ =>
            ⟨hcourse.heldOpen hgoes hasked hfinished, hdue⟩⟩
        -- one pause, and the next look
        · rw [if_neg hdue]
          have hnext : Clearing h l₀ (new ++ checks)
              { l' with system := h.traced.pause pollInterval l'.system } :=
            ⟨hcourse.pause h pollInterval, hgoes.trans (goes_pause h l' pollInterval)⟩
          obtain ⟨looked, hlast, hover⟩ := ih hnext
          rw [List.append_assoc] at hlast hover
          exact ⟨checks ++ looked, hlast, hover⟩

/-- Pumps that are overdue have held a stream open for as long as they were given. -/
theorem Clearing.pumpsOverdue (span : Duration) (hr : Clearing h l₀ new l) :
    ∃ looked, Clearing h l₀ (new ++ looked) (l.pumpsOverdue h.traced span).2 ∧
      ((l.pumpsOverdue h.traced span).1 = true →
        HeldOpen l₀.session (new ++ looked) ∧ (h.now l.system.state).toNanos + span.toNanos ≤
          (h.now (l.pumpsOverdue h.traced span).2.system.state).toNanos) := by
  obtain ⟨looked, hlooked, hover⟩ :=
    hr.overdueLoop h ((h.now l.system.state).checkedAdd span) (looks span)
  refine ⟨looked, hlooked, fun hlate => ?_⟩
  obtain ⟨hopen, hdue⟩ := hover hlate
  rw [Instant.reached_checkedAdd, decide_eq_true_eq] at hdue
  exact ⟨hopen, hdue⟩

/-! ## Signals for what is left -/

/-- **A signal for what is left of the group**, if the rule allows it. -/
theorem Clearing.sendGroup (s : Signal) (hr : Clearing h l₀ new l)
    (hrule : ∀ answer, Clears h l₀.session new ⟨h.now l.system.state, .groupSignalled s answer⟩) :
    (∃ e l' sent, l.sendGroup h.traced s = (.error e, l') ∧ Clearing h l₀ (new ++ sent) l') ∨
    (∃ l', l.sendGroup h.traced s = (.ok (), l') ∧
      Clearing h l₀ (new ++ [⟨h.now l.system.state, .groupSignalled s none⟩]) l' ∧
      (h.Steady → h.now l.system.state ≤ h.now l'.system.state)) := by
  have hgoes := hr.goes.trans (goes_sendGroup h l s)
  rcases sendGroup_cases h l s with ⟨-, e, hsend⟩ | ⟨-, refusal, e, hsend⟩ | ⟨-, hsend⟩
  -- the host is not asked at all
  · left
    exact ⟨e, l, [], hsend, hr.course.nothing, hr.goes⟩
  -- the host refuses
  · left
    rw [hsend] at hgoes
    exact ⟨e, _, _, hsend, hr.course.asks h (hrule (some refusal)) _, hgoes⟩
  -- the signal is sent
  · right
    rw [hsend] at hgoes
    exact ⟨_, hsend, ⟨hr.course.asks h (hrule none) _, hgoes⟩, fun hclock => hclock.signalGroup _ _⟩

/-- What is left of the group is killed. -/
theorem Clearing.killLeftovers (hr : Clearing h l₀ new l) (hopen : HeldOpen l₀.session new)
    {span : Duration} (hgrace : l₀.session.grace = some span)
    (hover : ∃ ask ∈ new, ask.Asks ∧ (h.Steady →
      ask.time.toNanos + span.toNanos ≤ (h.now l.system.state).toNanos)) :
    ∃ sent, Clearing h l₀ (new ++ sent) (l.killLeftovers h.traced span) := by
  rw [Live.killLeftovers]
  generalize hn : l.note h.traced .warn _ = n
  have hnote : Clearing h l₀ new n := hn ▸ hr.note h .warn _
  have hlater (hclock : h.Steady) : h.now l.system.state ≤ h.now n.system.state := by
    rw [← hn]
    exact hclock.note _ _
  obtain ⟨ask, hask, hasks, hspent⟩ := hover
  have hspent' (hclock : h.Steady) :
      ask.time.toNanos + span.toNanos ≤ (h.now n.system.state).toNanos :=
    Int.le_trans (hspent hclock) (hlater hclock)
  rcases hnote.sendGroup h .kill fun answer =>
      .kill hopen hgrace ⟨ask, hask, hasks, hspent'⟩ with
    ⟨e, n', sent, hsend, hr'⟩ | ⟨n', hsend, hr', -⟩
  · simp only [hsend]
    exact ⟨sent, hr'.note h _ _⟩
  · simp only [hsend]
    exact ⟨_, hr'⟩

/-- What is left of the group has its grace period once it has been asked to go. -/
theorem Clearing.awaitLeftovers (hr : Clearing h l₀ new l) {span : Duration}
    (hgrace : l₀.session.grace = some span)
    (hasked : ∃ ask ∈ new, ask.Asks ∧ (h.Steady → ask.time ≤ h.now l.system.state)) :
    ∃ sent, Clearing h l₀ (new ++ sent) (l.awaitLeftovers h.traced span) := by
  obtain ⟨looked, hlooked, hover⟩ := hr.pumpsOverdue h span
  rw [Live.awaitLeftovers]
  by_cases hlate : (l.pumpsOverdue h.traced span).1 = true
  · rw [if_pos hlate]
    obtain ⟨hopen, hdue⟩ := hover hlate
    obtain ⟨ask, hask, hasks, hstart⟩ := hasked
    have hspent (hclock : h.Steady) : ask.time.toNanos + span.toNanos ≤
        (h.now (l.pumpsOverdue h.traced span).2.system.state).toNanos := by
      have hbefore : ask.time.toNanos ≤ (h.now l.system.state).toNanos := hstart hclock
      omega
    obtain ⟨sent, hkill⟩ := hlooked.killLeftovers h hopen hgrace
      ⟨ask, List.mem_append_left _ hask, hasks, hspent⟩
    rw [List.append_assoc] at hkill
    exact ⟨_, hkill⟩
  · rw [if_neg hlate]
    exact ⟨looked, hlooked⟩

/-- What is left of the group is asked to go while it holds a stream open. -/
theorem Clearing.askLeftovers (hr : Clearing h l₀ new l) (hopen : HeldOpen l₀.session new) :
    ∃ sent, Clearing h l₀ (new ++ sent) (l.askLeftovers h.traced) := by
  rw [Live.askLeftovers]
  generalize hn : l.note h.traced .debug _ = n
  have hnote : Clearing h l₀ new n := hn ▸ hr.note h .debug _
  rcases hnote.sendGroup h .terminate fun answer => .ask hopen with
    ⟨e, n', sent, hsend, hr'⟩ | ⟨n', hsend, hr', hlater⟩
  · simp only [hsend]
    exact ⟨sent, hr'.note h _ _⟩
  · simp only [hsend]
    cases hgrace : n'.session.grace with
    | none => exact ⟨_, hr'⟩
    | some span =>
        rw [hr'.course.grace_eq] at hgrace
        obtain ⟨sent, hwait⟩ := hr'.awaitLeftovers h hgrace
          ⟨_, List.mem_append_right _ (List.mem_singleton_self _), ⟨none, rfl⟩, hlater⟩
        rw [List.append_assoc] at hwait
        exact ⟨_, hwait⟩

/-- **Stopping what is left of the group keeps the rule.** -/
theorem Clearing.stopLeftovers (hr : Clearing h l₀ new l) :
    ∃ sent, Clearing h l₀ (new ++ sent) (l.stopLeftovers h.traced) := by
  obtain ⟨looked, hlooked, hover⟩ := hr.pumpsOverdue h settleTime
  rw [Live.stopLeftovers]
  by_cases hlate : (l.pumpsOverdue h.traced settleTime).1 = true
  · rw [if_pos hlate]
    obtain ⟨sent, hask⟩ := hlooked.askLeftovers h (hover hlate).1
    rw [List.append_assoc] at hask
    exact ⟨_, hask⟩
  · rw [if_neg hlate]
    exact ⟨looked, hlooked⟩

end Live

end ChildWatch
