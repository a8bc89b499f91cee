import ChildWatch.Proofs.Session.Leftovers

/-! # Escalation

A release has two parts, each with a ladder of its own: the child is stopped, and then what is left
of its group. On both, the group is asked to go before it is killed, and the child alone is killed
only where its group could not be signalled.

* `Course.joinPumps` — following the pumps to the end sends nothing.
* `Live.Release`, `release_terminate` — the two parts of a release, each with the rule it keeps;
  `course_stopOrReap` and `clearing_terminate` are about one of them each.
* `Host.Escalates` — the rule of both ladders.
* `Live.terminate_escalates` — every release keeps it, and a second one does nothing. -/

namespace ChildWatch

namespace Live

open Host

variable {σ : Type} (h : Host σ) {l₀ l l' : Live (Traced σ)} {new : List Record}
  {rule : List Record → Record → Prop}

/-! ## The end of the pumps -/

/-- Following a pump to the end of its stream sends nothing. -/
theorem Course.joinPump (hc : Course rule l₀ new l) (stream : Stream)
    (hrule : ∀ past r, r.event.sends = false → rule past r) :
    ∃ rested, Course rule l₀ (new ++ rested) (l.joinPump h.traced stream) := by
  rw [Live.joinPump]
  cases hcapture : l.session.capture? stream with
  | none =>
      exact ⟨[], hc.nothing⟩
  | some c =>
      have hrest := hc.asks h (e := .rested stream (h.rest stream l.system.state).1)
        (hrule _ _ rfl) (h.rest stream l.system.state).2
      refine ⟨[⟨h.now l.system.state, .rested stream (h.rest stream l.system.state).1⟩], ?_⟩
      simp only
      generalize c.finish _ = r
      generalize pumpEntries c.pump _ = entries
      obtain ⟨result, c'⟩ := r
      have hcapture' := hrest.withCapture stream c'
        (trace_traced_jot h entries (h.traced.rest stream l.system).2)
      -- an error is put on the session's own record, and either way an entry is made
      cases result with
      | ok n => exact hcapture'.note h _ _
      | error e =>
          refine Course.note h ?_ _ _
          exact hcapture'.still rfl rfl rfl id

/-- So does following all of them: the induction is on the streams. -/
theorem Course.joinPumps (hc : Course rule l₀ new l)
    (hrule : ∀ past r, r.event.sends = false → rule past r) :
    ∃ rested, Course rule l₀ (new ++ rested) (l.joinPumps h.traced) := by
  rw [Live.joinPumps]
  generalize l.session.streams = streams
  induction streams generalizing l new with
  | nil =>
      exact ⟨[], hc.nothing⟩
  | cons stream streams ih =>
      obtain ⟨first, hfirst⟩ := hc.joinPump h stream hrule
      obtain ⟨rested, hrest⟩ := ih hfirst
      rw [List.append_assoc] at hrest
      exact ⟨first ++ rested, hrest⟩

/-! ## The two parts of a release -/

/-- **A release and its two parts**, from `l` over `m` to `l'`: the child is stopped, or is only
waited for if it is known to have ended; and from then on what is left of its group is stopped. -/
structure Release (l : Live (Traced σ)) (first : List Record) (m : Live (Traced σ))
    (second : List Record) (l' : Live (Traced σ)) : Prop where
  stopping : Stopping h l first m
  silent : l.session.state.isRunning = false → Keeps Silent first
  goes : l.Goes m
  ended : m.session.state.isRunning = false
  clearing : Course (Clears h m.session) m second l'

/-- **The first part of a release**: the child is stopped if it is running and else waited for, and
is known not to run after that. -/
theorem course_stopOrReap (l : Live (Traced σ)) :
    ∃ first, Stopping h l first (l.stopOrReap h.traced) ∧
      (l.session.state.isRunning = false → Keeps Silent first) ∧
      (l.stopOrReap h.traced).session.state.isRunning = false := by
  rw [Live.stopOrReap]
  rcases course_isAlive h l with
    ⟨n, looked, halive, hrunning, hlook⟩ | ⟨n, looked, halive, hlook, hended⟩
  · have hstart : Stopping h l looked n := hlook.mono fun _ _ hr => .quiet hr.1
    obtain ⟨sent, hstop⟩ := Stopping.stopChild h hstart hlook.keeps.not_reaped
    simp only [halive]
    refine ⟨looked ++ sent, hstop.still rfl rfl rfl fun _ => rfl, fun hend => ?_, rfl⟩
    simp [hrunning] at hend
  · obtain ⟨sent, hreap⟩ := hlook.reap h fun _ => rfl
    have hstate : (n.reap h.traced).2.session.state.isRunning = false := hended
    simp only [halive]
    generalize n.reap h.traced = r at hreap hstate
    obtain ⟨answer, n'⟩ := r
    have hquiet : Stopping h l (looked ++ sent) n' := hreap.mono fun _ _ hr => .quiet hr
    cases answer with
    | ok status => exact ⟨_, hquiet, fun _ => hreap.keeps, hstate⟩
    | error e => exact ⟨_, hquiet.note h _ _, fun _ => hreap.keeps, hstate⟩

/-- **The second part of a release** goes on where the child has been stopped. -/
theorem clearing_terminate (l : Live (Traced σ)) (hr : l.session.released = false) :
    ∃ second, Course (Clears h (l.stopOrReap h.traced).session) (l.stopOrReap h.traced) second
      (l.terminate h.traced) := by
  rw [terminate, hr, if_neg Bool.false_ne_true]
  generalize l.stopOrReap h.traced = m
  have hstart : Clearing h m [] m := ⟨.refl m, .refl m⟩
  obtain ⟨cleared, hclear⟩ := hstart.stopLeftovers h
  have hdrain : Course (Clears h m.session) m _ (m.stopLeftovers h.traced).drainBuffers :=
    hclear.course.still rfl rfl rfl id
  obtain ⟨rested, hjoin⟩ := hdrain.joinPumps h fun _ _ hr => .quiet hr
  generalize Live.joinPumps h.traced _ = j at hjoin
  have hreleased : Course (Clears h m.session) m _
      { j with session := { j.session with released := true } } :=
    hjoin.still rfl rfl rfl id
  exact ⟨_, hreleased.note h _ _⟩

/-- **Every release has the two parts.** -/
theorem release_terminate (l : Live (Traced σ)) (hr : l.session.released = false) :
    ∃ first m second, Release h l first m second (l.terminate h.traced) := by
  obtain ⟨first, hstop, hsilent, hended⟩ := course_stopOrReap h l
  obtain ⟨second, hclear⟩ := clearing_terminate h l hr
  exact ⟨first, _, second, hstop, hsilent, goes_stopOrReap h l, hended, hclear⟩

end Live

namespace Host

variable {σ : Type} {h : Host σ} {pid : Nat} {grace : Option Duration} {past : List Record}
  {r : Record}

/-! ## The rule of both ladders -/

/-- **The rule of escalation.** The group is killed only if there is a grace period, and only when
it was asked to go as long ago as that. The child alone is killed only after the group could not be
asked to go, or, at the end of a grace period, could not be killed. -/
structure Escalates (h : Host σ) (pid : Nat) (grace : Option Duration) (past : List Record)
    (r : Record) : Prop where
  killGroup : ∀ answer, r.event = .groupSignalled .kill answer →
    ∃ span, grace = some span ∧ ∃ ask ∈ past, ask.Asks ∧
      (h.Steady → ask.time.toNanos + span.toNanos ≤ r.time.toNanos)
  killChild : ∀ answer, r.event = .killed answer →
    Refused pid .terminate past ∨ (grace ≠ none ∧ Refused pid .kill past)

/-- A signal that has failed has failed whatever was before it. -/
theorem Refused.prepend {s : Signal} (earlier : List Record) (hr : Refused pid s past) :
    Refused pid s (earlier ++ past) := by
  rcases hr with hpid | ⟨r, hmem, hrefusal⟩
  · exact Or.inl hpid
  · exact Or.inr ⟨r, List.mem_append_right _ hmem, hrefusal⟩

/-- A record that keeps the rule keeps it whatever was before. -/
theorem Escalates.prepend (earlier : List Record) (hr : Escalates h pid grace past r) :
    Escalates h pid grace (earlier ++ past) r where
  killGroup answer hkill := by
    obtain ⟨span, hgrace, ask, hask, hover⟩ := hr.killGroup answer hkill
    exact ⟨span, hgrace, ask, List.mem_append_right _ hask, hover⟩
  killChild answer hkill := by
    rcases hr.killChild answer hkill with hrefused | ⟨hgrace, hrefused⟩
    · exact Or.inl (hrefused.prepend earlier)
    · exact Or.inr ⟨hgrace, hrefused.prepend earlier⟩

/-- What is no signal keeps the rule. -/
theorem escalates_of_silent (hr : r.event.sends = false) : Escalates h pid grace past r := by
  constructor
  · intro answer hkill
    simp [hkill, Event.sends] at hr
  · intro answer hkill
    simp [hkill, Event.sends] at hr

/-- The first step of a ladder keeps the rule. -/
theorem escalates_of_asks (hr : r.Asks) : Escalates h pid grace past r := by
  obtain ⟨answer, hask⟩ := hr
  constructor
  · intro answer hkill
    simp [hask] at hkill
  · intro answer hkill
    simp [hask] at hkill

/-- The ladder of the child keeps the rule. -/
theorem Stops.escalates (hr : Stops h pid grace past r) : Escalates h pid grace past r := by
  cases hr with
  | quiet hquiet => exact escalates_of_silent hquiet
  | ask => exact escalates_of_asks ⟨_, rfl⟩
  | killChild _ hrefused =>
      constructor
      · intro answer hkill
        simp at hkill
      · exact fun _ _ => hrefused
  | killGroup _ hgrace hspent =>
      constructor
      · intro _ _
        obtain ⟨ask, hask, hasks, hover, -⟩ := hspent
        exact ⟨_, hgrace, ask, hask, hasks, hover⟩
      · intro answer hkill
        simp at hkill

/-- So does the ladder of what is left. -/
theorem Clears.escalates {s : Session} (hr : Clears h s past r) :
    Escalates h s.pid s.grace past r := by
  cases hr with
  | quiet hquiet => exact escalates_of_silent hquiet
  | ask => exact escalates_of_asks ⟨_, rfl⟩
  | kill _ hgrace hover =>
      constructor
      · exact fun _ _ => ⟨_, hgrace, hover⟩
      · intro answer hkill
        simp at hkill

end Host

namespace Live

open Host Rehearsal

variable {σ : Type} (h : Host σ)

/-- **Escalation.** Whatever the child, its group and its pumps do and whatever becomes of the
signals, what a release of any session sends keeps the rule: with no grace period the group is never
killed, and the child alone only after the group could not be asked to go; with one, the group is
killed only as long after it was asked to go, and the child alone only after a signal for the group
has failed. A session that has been released before sends nothing and stays as it is. What is on
record is what the same operation does on the host itself. -/
theorem terminate_escalates (l : Live (Traced σ)) :
    ∃ new, (l.terminate h.traced).system.trace = l.system.trace ++ new ∧
      (∀ (past : List Record) (r : Record) (rest : List Record), new = past ++ r :: rest →
        Escalates h l.session.pid l.session.grace past r) ∧
      (l.session.released = true → new = [] ∧ l.terminate h.traced = l) ∧
      (l.terminate h.traced).forget = l.forget.terminate h := by
  have hforget := (terminate_forget h l).symm
  cases hr : l.session.released with
  | true =>
      have hsame := terminate_of_released h hr
      refine ⟨[], ?_, keeps_nil, fun _ => ⟨rfl, hsame⟩, hforget⟩
      rw [hsame, List.append_nil]
  | false =>
      obtain ⟨first, m, second, hrelease⟩ := release_terminate h l hr
      have hstop := hrelease.stopping.mono fun _ _ hr => hr.escalates
      -- what is left of the group is judged by all that has passed, as the child is
      have hclear : Course (fun past => Escalates h l.session.pid l.session.grace (first ++ past))
          m second (l.terminate h.traced) := by
        refine hrelease.clearing.mono fun past r hr => ?_
        have hkeeps := hr.escalates.prepend first
        rw [hstop.pid_eq, hstop.grace_eq] at hkeeps
        exact hkeeps
      have hboth := hstop.trans hclear
      refine ⟨first ++ second, hboth.trace_eq, hboth.keeps, fun hnot => ?_, hforget⟩
      simp at hnot

/-- **Both ladders.** A child that takes a second to go has 25 milliseconds for it and is killed
after 30; what it leaves behind holds its streams for 50 more, is asked to go, and is killed another
30 later. -/
theorem terminate_escalates_rehearsed :
    (host (.ofMillis 1000) []).Steady ∧
      ∃ past, ((live 25).terminate (host (.ofMillis 1000) []).traced).system.trace =
          past ++ ⟨moment 110, .groupSignalled .kill none⟩ ::
            [⟨moment 110, .rested .stdout []⟩, ⟨moment 110, .rested .stderr []⟩] ∧
        (past.filter (·.event.sends)).map (fun r => (r.time.toNanos, r.event)) =
          [(0, .groupSignalled .terminate none), (30000000, .groupSignalled .kill none),
            (80000000, .groupSignalled .terminate none)] ∧
        ∃ ask ∈ past, ask.Asks ∧ ask.time.toNanos + 25000000 ≤ (moment 110).toNanos := by
  have hclock := steady_host (.ofMillis 1000) []
  obtain ⟨new, htrace, hkeeps, -⟩ := terminate_escalates (host (.ofMillis 1000) []) (live 25)
  have hnew : new = new.take 28 ++ ⟨moment 110, .groupSignalled .kill none⟩ ::
      [⟨moment 110, .rested .stdout []⟩, ⟨moment 110, .rested .stderr []⟩] := by
    have heq : new = _ := htrace.symm
    rw [heq]
    rfl
  obtain ⟨span, hgrace, ask, hask, hasks, hover⟩ := (hkeeps _ _ _ hnew).killGroup none rfl
  have hspan : span = .ofMillis 25 := (Option.some_inj.mp hgrace).symm
  subst hspan
  refine ⟨hclock, new.take 28, ?_, ?_, ask, hask, hasks, hover hclock⟩
  · rw [← hnew]
    exact htrace
  · have heq : new = _ := htrace.symm
    rw [heq]
    rfl

end Live

end ChildWatch
