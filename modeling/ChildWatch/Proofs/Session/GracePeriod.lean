import ChildWatch.Proofs.Session.Course
import ChildWatch.Proofs.Session.Recording
import ChildWatch.Proofs.Session.Rehearsal

/-! # The grace period of a child

A child that is to stop is asked by a signal for its group, and is killed if it outlasts its grace
period. It is looked at again and again until then, with a pause after each look, and not once more
when the period is over.

* `Host.Steady`, `Host.Lags` — a clock that never runs back, and how late a host may be.
* `Host.Refused`, `Host.Spent` — a signal for the group that has failed, and a grace period that is
  over.
* `Host.Stops` — the rule for what is sent while a child is stopped; `Stopping.stopChild` — it is
  kept.
* `stopChild_kills_after_last_look` — a child that is killed was running at a look made no earlier
  than one pause before the end of its grace period.
* `killed_although_ended` — a rehearsed child that ends after the last look and is killed all the
  same. -/

namespace ChildWatch

namespace Host

variable {σ : Type}

/-! ## Clocks -/

/-- **A clock that never runs back**, whatever the host is asked. -/
structure Steady (h : Host σ) : Prop where
  pause : ∀ d s, h.now s ≤ h.now (h.pause d s)
  idle : ∀ deadline s, h.now s ≤ h.now (h.idle deadline s)
  poll : ∀ s, h.now s ≤ h.now (h.poll s).2
  await : ∀ s, h.now s ≤ h.now (h.await s).2
  signal : ∀ sig s, h.now s ≤ h.now (h.signal sig s).2
  signalGroup : ∀ sig s, h.now s ≤ h.now (h.signalGroup sig s).2
  kill : ∀ s, h.now s ≤ h.now (h.kill s).2
  reads : ∀ stream s, h.now s ≤ h.now (h.reads stream s).2
  rest : ∀ stream s, h.now s ≤ h.now (h.rest stream s).2
  note : ∀ e s, h.now s ≤ h.now (h.note e s)

/-- Entries for the journal do not turn the clock back. -/
theorem Steady.jot {h : Host σ} (hclock : h.Steady) (entries : List Journal.Entry) (s : σ) :
    h.now s ≤ h.now (h.jot entries s) := by
  induction entries generalizing s with
  | nil => exact Int.le_refl _
  | cons entry rest ih => exact Int.le_trans (hclock.note entry s) (ih (h.note entry s))

/-- **How late a host may be**: a look at the child and the pause that follows it take at most `lag`
nanoseconds longer than the pause was to last. -/
def Lags (h : Host σ) (lag : Nat) : Prop :=
  ∀ s, (h.now (h.pause Live.pollInterval (h.poll s).2)).toNanos ≤
    (h.now s).toNanos + Live.pollInterval.toNanos + lag

/-! ## The rule -/

/-- Whether the group was asked to go, be it in vain. -/
def Record.Asks (r : Record) : Prop := ∃ answer, r.event = .groupSignalled .terminate answer

/-- **A signal for the group has failed**: the host has refused it, or it could not be sent at all
since no process can have that number. -/
def Refused (pid : Nat) (s : Signal) (past : List Record) : Prop :=
  Signal.maxPid < pid ∨ ∃ r ∈ past, ∃ refusal, r.event = .groupSignalled s (some refusal)

/-- A signal that has just been refused has failed. -/
theorem refused_concat {pid : Nat} {s : Signal} {past : List Record} {t : Instant}
    {refusal : Refusal} : Refused pid s (past ++ [⟨t, .groupSignalled s (some refusal)⟩]) :=
  Or.inr ⟨_, List.mem_append_right _ (List.mem_singleton_self _), refusal, rfl⟩

/-- **The grace period is over** at a time: the group was asked to go as long ago as that; and the
child, if it had any time, was looked at and found running when all that was left was the pause that
followed the look. -/
def Spent (h : Host σ) (grace : Duration) (past : List Record) (time : Instant) : Prop :=
  ∃ ask ∈ past, ask.Asks ∧
    (h.Steady → ask.time.toNanos + grace.toNanos ≤ time.toNanos) ∧
    (0 < grace.toNanos → ∃ look ∈ past, look.event = .polled (.ok none) ∧
      ∀ lag, h.Steady → h.Lags lag →
        ask.time.toNanos + grace.toNanos ≤
          look.time.toNanos + Live.pollInterval.toNanos + lag)

/-- **The rule for stopping a child.** Signals are sent only as long as the child has not been
reaped. The child alone is killed only after a signal for its group has failed, and the group only
when a grace period is over. -/
inductive Stops (h : Host σ) (pid : Nat) (grace : Option Duration) (past : List Record) :
    Record → Prop where
  /-- Nothing is said of what is no signal. -/
  | quiet {r : Record} (hr : r.event.sends = false) : Stops h pid grace past r
  /-- The group is asked to go. -/
  | ask {t : Instant} {answer : Option Refusal} (hchild : ¬ Reaped past) :
    Stops h pid grace past ⟨t, .groupSignalled .terminate answer⟩
  /-- The child alone is killed. -/
  | killChild {t : Instant} {answer : Except IoError Unit} (hchild : ¬ Reaped past)
    (hrefused : Refused pid .terminate past ∨ (grace ≠ none ∧ Refused pid .kill past)) :
    Stops h pid grace past ⟨t, .killed answer⟩
  /-- The group is killed. -/
  | killGroup {t : Instant} {answer : Option Refusal} {span : Duration} (hchild : ¬ Reaped past)
    (hgrace : grace = some span) (hspent : Spent h span past t) :
    Stops h pid grace past ⟨t, .groupSignalled .kill answer⟩

end Host

namespace Live

open Host

variable {σ : Type} (h : Host σ) {l₀ l l' : Live (Traced σ)} {new : List Record}

/-- The course of stopping a child. -/
abbrev Stopping (l₀ : Live (Traced σ)) : List Record → Live (Traced σ) → Prop :=
  Course (Stops h l₀.session.pid l₀.session.grace) l₀

/-! ## Asking the group to go -/

/-- **The group has been asked to go by `start`**, if its number is one that can be asked. -/
def AskedBy (pid : Nat) (new : List Record) (start : Instant) : Prop :=
  pid ≤ Signal.maxPid → ∃ ask ∈ new, ask.Asks ∧ (h.Steady → ask.time.toNanos ≤ start.toNanos)

/-- What comes after it does not take that back. -/
theorem AskedBy.mono {pid : Nat} {new' : List Record} {start : Instant}
    (hasked : AskedBy h pid new start) (hsub : new ⊆ new') : AskedBy h pid new' start := by
  intro hpid
  obtain ⟨ask, hask, hasks⟩ := hasked hpid
  exact ⟨ask, hsub hask, hasks⟩

/-- A child whose group cannot be asked to go is killed. -/
theorem askGroup_of_error {e : Error} (hsend : l.sendGroup h.traced .terminate = (.error e, l')) :
    (l.askGroup h.traced).session = l'.session ∧
      (∃ time answer,
        (l.askGroup h.traced).system.trace = l'.system.trace ++ [⟨time, .killed answer⟩]) ∧
      (h.Steady → h.now l'.system.state ≤ h.now (l.askGroup h.traced).system.state) := by
  simp only [Live.askGroup, hsend, killChild_traced]
  cases hanswer : (h.kill _).1 with
  | ok =>
      refine ⟨rfl, ⟨_, _, rfl⟩, fun hclock => ?_⟩
      exact Int.le_trans (hclock.note _ _) (hclock.kill _)
  | error e =>
      refine ⟨rfl, ⟨_, _, rfl⟩, fun hclock => ?_⟩
      exact Int.le_trans (hclock.note _ _) (Int.le_trans (hclock.kill _) (hclock.note _ _))

/-- **The group is asked to go**, and the child alone is killed if that fails. -/
theorem Stopping.askGroup (hc : Stopping h l₀ new l) (hchild : ¬ Reaped new) :
    ∃ sent, Stopping h l₀ (new ++ sent) (l.askGroup h.traced) ∧ ¬ Reaped sent ∧
      AskedBy h l₀.session.pid sent (h.now (l.askGroup h.traced).system.state) := by
  rcases sendGroup_cases h l .terminate with
    ⟨hpid, e, hsend⟩ | ⟨-, refusal, e, hsend⟩ | ⟨-, hsend⟩
  -- the host is not asked at all
  · rw [hc.pid_eq] at hpid
    obtain ⟨hsession, ⟨time, answer, htrace⟩, -⟩ := askGroup_of_error h hsend
    refine ⟨[⟨time, .killed answer⟩], hc.adds ?_ htrace hsession, ?_, ?_⟩
    · exact .killChild hchild (Or.inl (Or.inl hpid))
    · simp [Event.reaps]
    · exact fun hle => absurd hpid (Nat.not_lt.mpr hle)
  -- the host refuses
  · have hask := hc.asks h (e := .groupSignalled .terminate (some refusal)) (.ask hchild)
      (h.signalGroup .terminate l.system.state).2
    obtain ⟨hsession, ⟨time, answer, htrace⟩, hlater⟩ := askGroup_of_error h hsend
    have hkill := hask.adds (r := ⟨time, .killed answer⟩) ?_ htrace hsession
    · rw [List.append_assoc] at hkill
      refine ⟨_, hkill, ?_, fun _ => ⟨_, List.mem_cons_self, ⟨some refusal, rfl⟩, fun hclock => ?_⟩⟩
      · simp [Event.reaps]
      · exact Int.le_trans (hclock.signalGroup _ _) (hlater hclock)
    · refine .killChild ?_ (Or.inl refused_concat)
      simp [hchild, Event.reaps]
  -- the signal is sent
  · have hask := hc.asks h (e := .groupSignalled .terminate none) (.ask hchild)
      (h.signalGroup .terminate l.system.state).2
    have hleft : l.askGroup h.traced = { l with
        system := l.system.log h (.groupSignalled .terminate none)
          (h.signalGroup .terminate l.system.state).2 } := by
      simp only [Live.askGroup, hsend]
    rw [hleft]
    refine ⟨_, hask, ?_, fun _ => ⟨_, List.mem_singleton_self _, ⟨none, rfl⟩, fun hclock => ?_⟩⟩
    · simp [Event.reaps]
    · exact hclock.signalGroup _ _

/-! ## Waiting for the child -/

/-- Waiting for the child is the end of stopping it. -/
theorem Stopping.reap (hc : Stopping h l₀ new l) :
    ∃ sent, Stopping h l₀ (new ++ sent) (l.reap h.traced).2 :=
  Course.reap h hc fun _ => .quiet rfl

/-- The child is killed itself where its group cannot be; then it may be waited for. -/
theorem Stopping.killAlone (hc : Stopping h l₀ new l) (hchild : ¬ Reaped new)
    (hrefused : l₀.session.grace ≠ none ∧ Refused l₀.session.pid .kill new) :
    (∃ sent, Stopping h l₀ (new ++ sent) (l.killChild h.traced).2) ∧
      ∃ sent, Stopping h l₀ (new ++ sent) ((l.killChild h.traced).2.reap h.traced).2 := by
  have hkill := hc.asks h (e := .killed (h.kill l.system.state).1)
    (.killChild hchild (Or.inr hrefused)) (h.kill l.system.state).2
  obtain ⟨sent, hreap⟩ := Stopping.reap h hkill
  rw [List.append_assoc] at hreap
  exact ⟨⟨_, hkill⟩, ⟨_, hreap⟩⟩

/-- **The group is killed** once its grace period is over, and the child alone if that fails. -/
theorem Stopping.killGroup (hc : Stopping h l₀ new l) (hchild : ¬ Reaped new) {span : Duration}
    (hgrace : l₀.session.grace = some span)
    (hspent : l₀.session.pid ≤ Signal.maxPid → ∀ t,
      (h.Steady → h.now l.system.state ≤ t) → Spent h span new t) :
    ∃ sent, Stopping h l₀ (new ++ sent) (l.killGroup h.traced span).2 := by
  have hsome : l₀.session.grace ≠ none := by simp [hgrace]
  rw [Live.killGroup]
  generalize hn : l.note h.traced .warn _ = n
  have hnote : Stopping h l₀ new n := hn ▸ hc.note h .warn _
  have hlater (hclock : h.Steady) : h.now l.system.state ≤ h.now n.system.state := by
    rw [← hn]
    exact hclock.note _ _
  rcases sendGroup_cases h n .kill with
    ⟨hpid, e, hsend⟩ | ⟨hpid, refusal, e, hsend⟩ | ⟨hpid, hsend⟩
  -- the host is not asked at all
  · rw [hnote.pid_eq] at hpid
    obtain ⟨hkill, hreap⟩ := Stopping.killAlone h hnote hchild ⟨hsome, Or.inl hpid⟩
    simp only [hsend]
    generalize n.killChild h.traced = r at hkill hreap
    obtain ⟨_ | _, n'⟩ := r
    · exact hkill
    · exact hreap
  -- the host refuses
  · rw [hnote.pid_eq] at hpid
    have hsent := hnote.asks h (e := .groupSignalled .kill (some refusal))
      (.killGroup hchild hgrace (hspent hpid _ hlater)) (h.signalGroup .kill n.system.state).2
    obtain ⟨⟨killed, hkill⟩, ⟨reaped, hreap⟩⟩ :=
      Stopping.killAlone h hsent (by simp [hchild, Event.reaps])
        ⟨hsome, refused_concat⟩
    rw [List.append_assoc] at hkill hreap
    simp only [hsend]
    generalize Live.killChild h.traced _ = r at hkill hreap
    obtain ⟨_ | _, n'⟩ := r
    · exact ⟨_, hkill⟩
    · exact ⟨_, hreap⟩
  -- the signal is sent
  · rw [hnote.pid_eq] at hpid
    have hsent := hnote.asks h (e := .groupSignalled .kill none)
      (.killGroup hchild hgrace (hspent hpid _ hlater)) (h.signalGroup .kill n.system.state).2
    obtain ⟨sent, hreap⟩ := Stopping.reap h hsent
    rw [List.append_assoc] at hreap
    simp only [hsend]
    exact ⟨_, hreap⟩

/-- **A child was looked at** so late that only the pause after the look was left until now, or no
time has passed since `start`. -/
def LookedAt (start now : Instant) (new : List Record) : Prop :=
  now = start ∨ ∃ look ∈ new, look.event = .polled (.ok none) ∧
    ∀ lag, h.Lags lag → now.toNanos ≤ look.time.toNanos + pollInterval.toNanos + lag

/-- A deadline that has come is one of a grace period that is over. -/
theorem spent_of_reached {pid : Nat} {span : Duration} {start now t : Instant}
    (hasked : AskedBy h pid new start) (hlooked : LookedAt h start now new)
    (hdue : Instant.reached (start.checkedAdd span) now = true)
    (hpid : pid ≤ Signal.maxPid) (ht : h.Steady → now ≤ t) : Spent h span new t := by
  obtain ⟨ask, hask, hasks, hstart⟩ := hasked hpid
  rw [Instant.reached_checkedAdd, decide_eq_true_eq] at hdue
  refine ⟨ask, hask, hasks, fun hclock => ?_, fun hpos => ?_⟩
  · have hbefore := hstart hclock
    have hafter : now.toNanos ≤ t.toNanos := ht hclock
    omega
  · rcases hlooked with rfl | ⟨look, hlook, hrunning, hlag⟩
    -- some time was allowed, so it cannot be over before the first look
    · omega
    · refine ⟨look, hlook, hrunning, fun lag hclock hlags => ?_⟩
      have hbefore := hstart hclock
      have hlast := hlag lag hlags
      omega

/-- **The grace period**, by induction on the looks that are left. Until it is over the child has
been found running at every look. -/
theorem Stopping.awaitLoop (looks : Nat) {l : Live (Traced σ)} {new : List Record}
    (hc : Stopping h l₀ new l) (hchild : ¬ Reaped new) {span : Duration}
    (hgrace : l₀.session.grace = some span) {start : Instant}
    (hasked : AskedBy h l₀.session.pid new start)
    (hlooked : LookedAt h start (h.now l.system.state) new) :
    ∃ sent, Stopping h l₀ (new ++ sent)
      (l.awaitLoop h.traced span (start.checkedAdd span) looks).2 := by
  induction looks generalizing l new with
  | zero => exact Stopping.reap h hc
  | succ looks ih =>
      rw [Live.awaitLoop]
      by_cases hdue : Instant.reached (start.checkedAdd span) (h.traced.now l.system) = true
      · rw [if_pos hdue]
        exact hc.killGroup h hchild hgrace fun hpid t ht =>
          spent_of_reached h hasked hlooked hdue hpid ht
      · rw [if_neg hdue]
        have hpoll : h.traced.poll l.system = ((h.poll l.system.state).1,
          l.system.log h (.polled (h.poll l.system.state).1) (h.poll l.system.state).2) := rfl
        have hlook := hc.asks h (e := .polled (h.poll l.system.state).1) (.quiet rfl)
          (h.poll l.system.state).2
        rw [hpoll]
        cases hanswer : (h.poll l.system.state).1 with
        | error e =>
            rw [hanswer] at hlook
            exact ⟨_, hlook⟩
        | ok found =>
            rw [hanswer] at hlook
            cases found with
            | some status => exact ⟨_, hlook⟩
            -- still running: one pause, and the next look
            | none =>
                have hnext := hlook.pause h pollInterval
                have hasked' := hasked.mono h (List.subset_append_left new
                  [⟨h.now l.system.state, .polled (.ok none)⟩])
                obtain ⟨sent, hrest⟩ := ih hnext (by simp [hchild, Event.reaps]) hasked'
                  (Or.inr ⟨_, List.mem_append_right _ (List.mem_singleton_self _), rfl,
                    fun lag hlags => hlags l.system.state⟩)
                rw [List.append_assoc] at hrest
                exact ⟨_, hrest⟩

/-- A child that has been asked to go is waited for, and killed at the end of its grace period if it
has one. -/
theorem Stopping.awaitChild (hc : Stopping h l₀ new l) (hchild : ¬ Reaped new)
    (hasked : AskedBy h l₀.session.pid new (h.now l.system.state)) :
    ∃ sent, Stopping h l₀ (new ++ sent) (l.awaitChild h.traced).2 := by
  rw [Live.awaitChild]
  cases hgrace : l.session.grace with
  | none => exact Stopping.reap h hc
  | some span =>
      rw [hc.grace_eq] at hgrace
      exact Stopping.awaitLoop h _ hc hchild hgrace hasked (Or.inl rfl)

/-- **Stopping a child keeps the rule.** -/
theorem Stopping.stopChild (hc : Stopping h l₀ new l) (hchild : ¬ Reaped new) :
    ∃ sent, Stopping h l₀ (new ++ sent) (l.stopChild h.traced) := by
  obtain ⟨asked, hask, hnot, hasked⟩ := Stopping.askGroup h hc hchild
  have hasked' := hasked.mono h (List.subset_append_right new asked)
  obtain ⟨sent, hwait⟩ := Stopping.awaitChild h hask (by simp [hchild, hnot]) hasked'
  refine ⟨asked ++ sent, ?_⟩
  rw [List.append_assoc] at hwait
  rw [Live.stopChild]
  generalize Live.awaitChild h.traced _ = r at hwait
  obtain ⟨_ | _, l'⟩ := r
  · exact hwait.note h _ _
  · exact hwait.note h _ _

/-! ## The last look -/

/-- **A child that is killed was running at the last look**, and that look came no earlier than one
pause, and what the host was late by, before the end of the grace period. So a child that ends with
more time left than that is not followed by SIGKILL. What is on record is what the same operation
does on the host itself. -/
theorem stopChild_kills_after_last_look (hclock : h.Steady) {lag : Nat} (hlag : h.Lags lag)
    (l : Live (Traced σ)) {span : Duration} (hgrace : l.session.grace = some span)
    (hpos : 0 < span.toNanos) :
    ∃ new : List Record, (l.stopChild h.traced).system.trace = l.system.trace ++ new ∧
      (∀ (past : List Record) (kill : Record) (rest : List Record) (answer : Option Refusal),
        new = past ++ kill :: rest → kill.event = .groupSignalled .kill answer →
        ∃ ask ∈ past, ∃ look ∈ past, ask.Asks ∧ look.event = .polled (.ok none) ∧
          ask.time.toNanos + span.toNanos ≤ kill.time.toNanos ∧
          ask.time.toNanos + span.toNanos ≤
            look.time.toNanos + pollInterval.toNanos + lag) ∧
      (l.stopChild h.traced).forget = l.forget.stopChild h := by
  obtain ⟨new, hcourse⟩ := Stopping.stopChild h (Course.refl l) not_reaped_nil
  refine ⟨new, hcourse.trace_eq, ?_, (stopChild_forget h l).symm⟩
  intro past kill rest answer hnew hkill
  cases hcourse.keeps past kill rest hnew with
  | quiet hquiet => simp [hkill, Event.sends] at hquiet
  | ask => simp at hkill
  | killChild => simp at hkill
  | killGroup _ hgrace' hspent =>
      rw [hgrace, Option.some_inj] at hgrace'
      subst hgrace'
      obtain ⟨ask, hask, hasks, hover, hlooked⟩ := hspent
      obtain ⟨look, hlook, hrunning, hlast⟩ := hlooked hpos
      exact ⟨ask, hask, look, hlook, hasks, hrunning, hover hclock, hlast lag hclock hlag⟩

end Live

/-! ## A rehearsed stop -/

namespace Rehearsal

variable (delay : Duration) (found : List Read)

/-- The clock of a rehearsal never runs back. -/
theorem steady_host : (host delay found).Steady where
  pause d s := by
    have hle : s.clock.toNanos ≤ s.clock.toNanos + d.toNanos := by omega
    exact Instant.le_saturatingAdd_iff.mpr hle
  idle _ s := Int.le_refl _
  poll s := Int.le_refl _
  await s := by
    simp only [host]
    split
    · split
      · exact Int.le_refl _
      · rename_i hnot
        exact Int.le_of_lt (Int.not_le.mp hnot)
    · exact Int.le_refl _
  signal _ s := Int.le_refl _
  signalGroup sig s := by
    have hle : s.clock ≤ s.clock := Int.le_refl _
    cases sig <;> simpa [host] using hle
  kill s := by
    have hle : s.clock ≤ s.clock := Int.le_refl _
    simpa [host] using hle
  reads _ s := Int.le_refl _
  rest _ s := Int.le_refl _
  note _ s := Int.le_refl _

/-- A rehearsal is never late. -/
theorem lags_host : (host delay found).Lags 0 := by
  intro s
  have hpause := Instant.le_saturatingAdd_iff.mp
    (Int.le_refl (s.clock.saturatingAdd Live.pollInterval).toNanos)
  simpa [host] using hpause

end Rehearsal

namespace Live

open Host Rehearsal

/-- A child that takes a second to go and has 25 milliseconds for it is killed after 30, having been
found running at 20. -/
theorem stopChild_kills_after_last_look_rehearsed :
    (host (.ofMillis 1000) []).Steady ∧ (host (.ofMillis 1000) []).Lags 0 ∧
      (live 25).session.grace = some (.ofMillis 25) ∧ 0 < (Duration.ofMillis 25).toNanos ∧
      ∃ past rest, ((live 25).stopChild (host (.ofMillis 1000) []).traced).system.trace =
          past ++ ⟨moment 30, .groupSignalled .kill none⟩ :: rest ∧
        ∃ ask ∈ past, ∃ look ∈ past, ask.Asks ∧ look.event = .polled (.ok none) ∧
          ask.time.toNanos + 25000000 ≤ (moment 30).toNanos ∧
          ask.time.toNanos + 25000000 ≤ look.time.toNanos + 10000000 + 0 := by
  have hclock := steady_host (.ofMillis 1000) []
  have hlag := lags_host (.ofMillis 1000) []
  have hpos : 0 < (Duration.ofMillis 25).toNanos := by decide
  refine ⟨hclock, hlag, rfl, hpos, ?_⟩
  obtain ⟨new, htrace, hkilled, -⟩ :=
    stopChild_kills_after_last_look (host (.ofMillis 1000) []) hclock hlag (live 25) rfl hpos
  have hnew : new = [⟨moment 0, .groupSignalled .terminate none⟩, ⟨moment 0, .polled (.ok none)⟩,
      ⟨moment 10, .polled (.ok none)⟩, ⟨moment 20, .polled (.ok none)⟩] ++
      ⟨moment 30, .groupSignalled .kill none⟩ ::
        [⟨moment 30, .awaited (.ok (.signal 9))⟩] := htrace.symm
  exact ⟨_, _, htrace.trans hnew, hkilled _ _ _ none hnew rfl⟩

/-- **A child may be killed although it has ended.** With 10 milliseconds of grace, and gone by
itself after 5, it is found running at once and not looked at again. -/
theorem killed_although_ended :
    let done := (live 10).terminate (host (.ofMillis 5) [.data [], .data []]).traced
    (done.system.trace.filter (·.event.sends)).map (fun r => (r.time.toNanos, r.event)) =
        [(0, .groupSignalled .terminate none), (10000000, .groupSignalled .kill none)] ∧
      done.system.state.ending.map (fun e => (e.1.toNanos, e.2)) = some (5000000, .code 0) := by
  exact ⟨rfl, rfl⟩

end Live

end ChildWatch
