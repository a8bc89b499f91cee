import ChildWatch.Proofs.Log.BufferRuns

/-! # The verdict of a wait

What a poll answers is told by five different pieces of a wait: the look at all the lines, the closed
mark, the lines received one by one, the deadline, and the last look. Here they are shown to add up to
one rule, which knows nothing of them.

* `Waiter.judge` — the rule: over all lines that are there, the senders and the clock.
* `Waiter.Phase.Fits` — the invariant: a wait that goes on has its deadline from its first poll, and
  no line taken in holds the pattern.
* `Waiter.answer_poll` — one poll answers by the rule; `fits_poll` — and keeps the invariant.
* `Waiter.Watch` — a wait while its channel is used and the clock moves on; `answer_eq_judgement` —
  every poll of it answers by the rule. -/

namespace ChildWatch

open Log Text

namespace Waiter

/-- **The rule of a wait** that was first polled at `start` and is polled `now`: a line that holds the
pattern is a match, whatever else is the case; else the time is up if no sender is left or the clock
has come to `start` and the whole timeout; else the wait goes on. -/
def judge (w : Waiter) (start now : Instant) (lines : List Line) (isOpen : Bool) :
    Option (Except Error Unit) :=
  if lines.any w.pattern.accepts then some (.ok ())
  else if isOpen = false ∨ start.toNanos + w.timeout.toNanos ≤ now.toNanos then
    some (.error (.patternTimeout w.pattern.text w.timeout))
  else none

/-! ## Verdicts -/

/-- The verdict for a match that is there or not, a deadline that has come or not, and a channel that
is open or not. -/
def settle (found due isOpen : Bool) : Verdict :=
  if found then .matched else if !isOpen || due then .expired else .pending

/-- A wait goes on only without a match. -/
theorem settle_pending {found due isOpen : Bool} (h : settle found due isOpen = .pending) :
    found = false := by
  cases found with
  | false => rfl
  | true => simp [settle] at h

/-- The last look finds what is queued. -/
theorem verdict_lastLook (p : Pattern) (b : LogBuffer) :
    (lastLook p b).1.verdict = settle (b.channel.queue.any p.accepts) true b.channel.isOpen := by
  rw [lastLook_eq, settle, Bool.or_true]
  cases b.channel.queue.any p.accepts with
  | true => rfl
  | false => rfl

/-- Receiving line by line finds what is queued, as if it were looked at all together. -/
theorem verdict_receive_go (p : Pattern) (due : Bool) (queue : List Line) (b : LogBuffer)
    (hq : b.channel.queue = queue) :
    (receive.go p due queue b).1.verdict = settle (queue.any p.accepts) due b.channel.isOpen := by
  induction queue generalizing b with
  | nil =>
      rw [receive.go]
      by_cases hdue : due = true
      -- the deadline has come: the last look decides, over the same lines
      · rw [if_pos hdue, verdict_lastLook, hq, hdue]
      · rw [if_neg hdue]
        by_cases ho : b.channel.isOpen = true
        · rw [if_pos ho]
          simp [settle, ho, hdue, Outcome.verdict]
        · rw [if_neg ho]
          simp [settle, ho, Outcome.verdict]
  | cons line rest ih =>
      rw [receive.go]
      by_cases hdue : due = true
      · rw [if_pos hdue, verdict_lastLook, hq, hdue]
      · rw [if_neg hdue]
        by_cases hp : p.accepts line = true
        · simp [settle, hp, Outcome.verdict]
        -- a line that does not match counts for nothing, so the rest decides
        · simp only [hp]
          rw [if_neg Bool.false_ne_true, ih _ rfl, List.any_cons, Bool.eq_false_iff.mpr hp,
            Bool.false_or]
          rfl

theorem verdict_receive (p : Pattern) (due : Bool) (b : LogBuffer) :
    (receive p due b).1.verdict = settle (b.channel.queue.any p.accepts) due b.channel.isOpen :=
  verdict_receive_go p due b.channel.queue b rfl

/-- A later poll finds what is queued, although it receives one line before it looks at the
deadline. -/
theorem verdict_resume (w : Waiter) (deadline : Option Instant) (now : Instant) (b : LogBuffer) :
    (w.resume deadline now b).1.verdict =
      settle (b.channel.queue.any w.pattern.accepts) (Instant.reached deadline now)
        b.channel.isOpen := by
  rw [resume]
  cases hq : b.channel.queue with
  | nil =>
      by_cases ho : b.channel.isOpen = true
      · by_cases hdue : Instant.reached deadline now = true
        · simp only [ho, if_true, hdue]
          rw [verdict_lastLook, hq, ho]
        · simp [settle, ho, hdue, Outcome.verdict]
      · simp [settle, ho, Outcome.verdict]
  | cons line rest =>
      by_cases hp : w.pattern.accepts line = true
      · simp [settle, hp, Outcome.verdict]
      · simp only [hp]
        rw [if_neg Bool.false_ne_true, verdict_receive, List.any_cons, Bool.eq_false_iff.mpr hp,
          Bool.false_or]
        rfl

/-- The first poll finds what has been taken in and what is queued. Being closed is a reason to give
up only because a closed buffer has no sender left. -/
theorem verdict_firstPoll (w : Waiter) (now : Instant) {b : LogBuffer} (hb : b.Honest) :
    (w.firstPoll now b).1.verdict =
      settle ((b.lines ++ b.channel.queue).any w.pattern.accepts)
        (Instant.reached (now.checkedAdd w.timeout) now) b.channel.isOpen := by
  rw [firstPoll]
  by_cases hc : b.drain.contains w.pattern = true
  · have hany : (b.lines ++ b.channel.queue).any w.pattern.accepts = true := hc
    simp only [hc, if_true]
    rw [hany]
    rfl
  · have hany : (b.lines ++ b.channel.queue).any w.pattern.accepts = false :=
      Bool.eq_false_iff.mpr hc
    by_cases hclosed : b.drain.closed = true
    -- closed and honest: no sender is left, so the rule gives up as well
    · have ho : b.channel.isOpen = false := (b.takes_drain.honest hb hclosed).2
      simp only [hc, hclosed, if_true]
      rw [hany, ho]
      rfl
    -- open: after the drain nothing is queued, and the deadline may have come at once
    · simp only [hc, hclosed]
      rw [if_neg Bool.false_ne_true, if_neg Bool.false_ne_true, verdict_receive, hany]
      rfl

/-! ## One poll -/

/-- **What holds of a wait that goes on**: before its first poll nothing is fixed; after it the
deadline is the one of that poll, and no line taken in holds the pattern. -/
inductive Phase.Fits (w : Waiter) (lines : List Line) : Option Instant → Phase → Prop where
  | fresh : Phase.Fits w lines none .fresh
  | waiting (start : Instant) (hnone : lines.any w.pattern.accepts = false) :
      Phase.Fits w lines (some start) (.waiting (start.checkedAdd w.timeout))

/-- A settled verdict is the answer of the rule. -/
theorem answer_settle (w : Waiter) (start now : Instant) (lines : List Line) (isOpen : Bool) :
    w.answer (settle (lines.any w.pattern.accepts)
        (Instant.reached (start.checkedAdd w.timeout) now) isOpen) =
      w.judge start now lines isOpen := by
  rw [Instant.reached_checkedAdd, settle, judge]
  by_cases hany : lines.any w.pattern.accepts = true
  · rw [if_pos hany, if_pos hany]
    rfl
  · rw [if_neg hany, if_neg hany]
    by_cases hend : isOpen = false ∨ start.toNanos + w.timeout.toNanos ≤ now.toNanos
    · rw [if_pos hend, if_pos (by simpa using hend)]
      rfl
    · rw [if_neg hend, if_neg (by simpa using hend)]
      rfl

/-- The verdict of a poll, settled over everything that is there. -/
theorem verdict_poll {w : Waiter} {b : LogBuffer} {start : Option Instant} {phase : Phase}
    (hb : b.Honest) (hfits : phase.Fits w b.lines start) (now : Instant) :
    (w.poll phase now b).1 =
      settle ((b.lines ++ b.channel.queue).any w.pattern.accepts)
        (Instant.reached ((start.getD now).checkedAdd w.timeout) now) b.channel.isOpen := by
  cases hfits with
  | fresh => exact w.verdict_firstPoll now hb
  | waiting start hnone =>
      rw [List.any_append, hnone, Bool.false_or]
      exact w.verdict_resume (start.checkedAdd w.timeout) now b

/-- **One poll answers by the rule.** -/
theorem answer_poll {w : Waiter} {b : LogBuffer} {start : Option Instant} {phase : Phase}
    (hb : b.Honest) (hfits : phase.Fits w b.lines start) (now : Instant) :
    w.answer (w.poll phase now b).1 =
      w.judge (start.getD now) now (b.lines ++ b.channel.queue) b.channel.isOpen := by
  rw [verdict_poll hb hfits now, answer_settle]

/-- A wait on a closed buffer is over at its first poll, whatever the clock shows. -/
theorem answer_firstPoll_of_closed (w : Waiter) (now : Instant) {b : LogBuffer} (hb : b.Honest)
    (hclosed : b.closed = true) :
    w.answer (w.poll .fresh now b).1 =
      some (if b.lines.any w.pattern.accepts then .ok () else .error w.timeoutError) := by
  obtain ⟨hq, ho⟩ := hb hclosed
  rw [answer_poll hb .fresh now, hq, ho, List.append_nil, judge]
  by_cases hany : b.lines.any w.pattern.accepts = true
  · rw [if_pos hany, if_pos hany]
  · rw [if_neg hany, if_neg hany, if_pos (Or.inl rfl)]
    rfl

/-- **A poll that leaves the wait pending keeps the invariant**: the deadline stays that of the first
poll, and none of the lines it has received holds the pattern. -/
theorem fits_poll {w : Waiter} {b : LogBuffer} {start : Option Instant} {phase : Phase}
    (hb : b.Honest) (hfits : phase.Fits w b.lines start) (now : Instant)
    (hpending : (w.poll phase now b).1 = .pending) :
    (w.poll phase now b).2.1.Fits w (w.poll phase now b).2.2.lines (some (start.getD now)) := by
  have hnone : (w.poll phase now b).2.2.lines.any w.pattern.accepts = false := by
    -- no line that is there matches, and the poll has taken in only such lines
    rw [verdict_poll hb hfits now] at hpending
    have hall := settle_pending hpending
    rw [← (w.takes_poll phase now b).lines_append_queue, List.any_append, Bool.or_eq_false_iff]
      at hall
    exact hall.1
  cases hfits with
  | fresh => exact .waiting now hnone
  | waiting start _ => exact .waiting start hnone

/-! ## A wait among other things -/

/-- **What can happen while a wait has the buffer**: the sending side is used, the clock comes to a
reading, and the wait is polled. -/
inductive Happening where
  | use (u : Channel.Use)
  | clock (now : Instant)
  | poll

/-- **A wait under way**, with the reading of the clock, that at its first poll, and its answer once
a poll has completed it. -/
structure Watch where
  buffer : LogBuffer
  clock : Instant
  phase : Phase
  start : Option Instant
  answer : Option (Except Error Unit)

namespace Watch

/-- A wait that has not been polled. -/
def begin (b : LogBuffer) (now : Instant) : Watch := ⟨b, now, .fresh, none, none⟩

/-- A poll; a wait that is complete is polled no more. -/
def poll (w : Waiter) (s : Watch) : Watch :=
  match s.answer with
  | some _ => s
  | none =>
    let (verdict, phase, buffer) := w.poll s.phase s.clock s.buffer
    { s with
      buffer := buffer
      phase := phase
      start := some (s.start.getD s.clock)
      answer := w.answer verdict }

/-- One thing that happens. -/
def step (w : Waiter) (s : Watch) : Happening → Watch
  | .use u => { s with buffer := s.buffer.use u }
  | .clock now => { s with clock := now }
  | .poll => s.poll w

/-- **A schedule**: one thing after the other. -/
def run (w : Waiter) (s : Watch) (hs : List Happening) : Watch := hs.foldl (step w) s

/-- What the sending side does in a schedule. -/
def uses (hs : List Happening) : List Channel.Use :=
  hs.filterMap fun
    | .use u => some u
    | _ => none

/-- The invariant of a schedule: the buffer is honest, and a wait without an answer goes on as it
should. -/
structure Sound (w : Waiter) (s : Watch) : Prop where
  honest : s.buffer.Honest
  fits : s.answer = none → s.phase.Fits w s.buffer.lines s.start

theorem sound_begin {b : LogBuffer} (hb : b.Honest) (w : Waiter) (now : Instant) :
    (begin b now).Sound w :=
  ⟨hb, fun _ => .fresh⟩

/-- A wait has no answer only while its verdict is pending. -/
theorem pending_of_answer_eq_none {w : Waiter} {v : Verdict} (h : w.answer v = none) :
    v = .pending := by
  cases v with
  | pending => rfl
  | matched => simp [Waiter.answer] at h
  | expired => simp [Waiter.answer] at h

/-- Whatever happens, the invariant is kept. -/
theorem Sound.step {w : Waiter} {s : Watch} (h : s.Sound w) (e : Happening) :
    (s.step w e).Sound w := by
  cases e with
  | use u => exact ⟨LogBuffer.honest_use h.honest u, h.fits⟩
  | clock now => exact ⟨h.honest, h.fits⟩
  | poll =>
      rw [Watch.step, poll]
      cases ha : s.answer with
      -- a wait that has been answered is left alone
      | some a => exact h
      | none =>
          have hfits := h.fits ha
          refine ⟨(w.takes_poll s.phase s.clock s.buffer).honest h.honest, fun hnone => ?_⟩
          exact fits_poll h.honest hfits s.clock (pending_of_answer_eq_none hnone)

/-- A schedule keeps the invariant. -/
theorem Sound.run {w : Waiter} {s : Watch} (h : s.Sound w) (hs : List Happening) :
    (s.run w hs).Sound w := by
  induction hs generalizing s with
  | nil => exact h
  | cons e hs ih => exact ih (h.step e)

/-- A poll answers by the rule, unless the wait has been answered. -/
theorem Sound.answer_step_poll {w : Waiter} {s : Watch} (h : s.Sound w) :
    (s.step w .poll).answer =
      s.answer.or (w.judge (s.start.getD s.clock) s.clock
        (s.buffer.lines ++ s.buffer.channel.queue) s.buffer.channel.isOpen) := by
  rw [Watch.step, poll]
  cases ha : s.answer with
  | some a => simp [ha]
  | none =>
      rw [Option.none_or]
      exact answer_poll h.honest (h.fits ha) s.clock

/-- What happens changes the whole channel only through its sending side. -/
theorem whole_step (w : Waiter) (s : Watch) (e : Happening) :
    (s.step w e).buffer.whole = (uses [e]).foldl Channel.after s.buffer.whole := by
  cases e with
  | use u => exact s.buffer.whole_use u
  | clock now => rfl
  | poll =>
      rw [step, poll]
      split
      · rfl
      · exact (w.takes_poll s.phase s.clock s.buffer).whole_eq

/-- After a schedule the whole channel is what its sending side has made of it. -/
theorem whole_run (w : Waiter) (s : Watch) (hs : List Happening) :
    (s.run w hs).buffer.whole = (uses hs).foldl Channel.after s.buffer.whole := by
  induction hs generalizing s with
  | nil => rfl
  | cons e hs ih =>
      have huses : uses (e :: hs) = uses [e] ++ uses hs := List.filterMap_append (l := [e])
      rw [huses, List.foldl_append, ← whole_step w]
      exact ih (s.step w e)

/-- **Every poll of a wait answers by the rule**, on every buffer that a run can lead to, for every
pattern and timeout and whatever happens before the poll: a wait that has no answer yet gets the one
the rule gives for the lines in the buffer and in the channel at that poll, the senders left, the
reading at its first poll and the reading now. Those lines are the ones that were there when the wait
began and all that have been sent since. -/
theorem answer_eq_judgement (stream : Stream) (acts : List LogBuffer.Act) (w : Waiter)
    (now : Instant) (hs : List Happening) :
    let b := ((LogBuffer.Scene.fresh stream).run acts).buffer
    let s := (begin b now).run w hs
    (s.step w .poll).answer =
        s.answer.or (w.judge (s.start.getD s.clock) s.clock
          (s.buffer.lines ++ s.buffer.channel.queue) s.buffer.channel.isOpen) ∧
      s.buffer.whole = (uses hs).foldl Channel.after b.whole := by
  intro b s
  have hb : b.Honest := (LogBuffer.Scene.sound_run_fresh stream acts).honest
  have hs : s.Sound w := (sound_begin hb w now).run hs
  exact ⟨hs.answer_step_poll, whole_run w _ _⟩

end Watch

end Waiter

end ChildWatch
