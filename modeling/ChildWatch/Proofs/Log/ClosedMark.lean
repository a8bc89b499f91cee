import ChildWatch.Proofs.Log.BufferRuns

/-! # The closed mark of a buffer

A buffer is marked as closed by a drain that finds the channel without senders and by a wait that
receives nothing from it, and a wait gives up at once where it finds the mark. So the mark must
never come early, and a look at the buffer must not miss it.

* `LogBuffer.Exact` — the mark says whether a sender is left.
* `LogBuffer.exact_drain`, `Waiter.exact_poll` — a drain leaves the mark exact, and so does a poll
  that does not end in a match.
* `Scene.run_of_closed` — nothing comes to a closed buffer, and it stays closed.
* `Scene.closed_mark` — all of it, at every moment of a run. -/

namespace ChildWatch

open Log Text

namespace LogBuffer

/-- **The mark is exact**: the buffer is closed exactly when no sender is left. An honest buffer may
still be without the mark when its last sender has gone since it was looked at. -/
def Exact (b : LogBuffer) : Prop := b.closed = true ↔ b.channel.isOpen = false

/-- An honest buffer with a sender is not closed. -/
theorem Honest.exact_of_isOpen {b : LogBuffer} (hb : b.Honest) (ho : b.channel.isOpen = true) :
    b.Exact := by
  constructor
  · intro hclosed
    exact (hb hclosed).2
  · intro hnot
    simp [ho] at hnot

/-- A drain finds out whether a sender is left. -/
theorem exact_drain {b : LogBuffer} (hb : b.Honest) : b.drain.Exact := by
  constructor
  · intro hclosed
    exact (b.takes_drain.honest hb hclosed).2
  · intro ho
    rw [isOpen_drain] at ho
    simp [drain, ho]

/-- The mark is right where no sender is left. -/
theorem exact_markClosed {b : LogBuffer} (ho : b.channel.isOpen = false) : b.markClosed.Exact :=
  ⟨fun _ => ho, fun _ => rfl⟩

end LogBuffer

namespace Waiter

open LogBuffer

/-- Receiving line by line leaves the mark exact, unless it has stopped at a match: then it has not
come to the end of the queue. -/
theorem exact_receive_go (p : Pattern) (due : Bool) (queue : List Line) (b : LogBuffer)
    (hq : b.channel.queue = queue) (hb : b.Honest)
    (hverdict : (receive.go p due queue b).1.verdict ≠ .matched) :
    (receive.go p due queue b).2.Exact := by
  induction queue generalizing b with
  | nil =>
      rw [receive.go] at hverdict ⊢
      by_cases hdue : due = true
      · rw [if_pos hdue]
        exact exact_drain hb
      · rw [if_neg hdue]
        by_cases ho : b.channel.isOpen = true
        · rw [if_pos ho]
          exact hb.exact_of_isOpen ho
        · rw [if_neg ho]
          exact exact_markClosed (Bool.eq_false_iff.mpr ho)
  | cons line rest ih =>
      rw [receive.go] at hverdict ⊢
      by_cases hdue : due = true
      · rw [if_pos hdue]
        exact exact_drain hb
      · rw [if_neg hdue] at hverdict ⊢
        by_cases hp : p.accepts line = true
        · simp [hp, Outcome.verdict] at hverdict
        · simp only [hp] at hverdict ⊢
          exact ih _ rfl ((LogBuffer.takes_receive hq).honest hb) hverdict

/-- A later poll leaves the mark exact, unless it ends in a match. -/
theorem exact_resume (w : Waiter) (deadline : Option Instant) (now : Instant) {b : LogBuffer}
    (hb : b.Honest) (hverdict : (w.resume deadline now b).1.verdict ≠ .matched) :
    (w.resume deadline now b).2.Exact := by
  rw [resume] at hverdict ⊢
  cases hq : b.channel.queue with
  | nil =>
      by_cases ho : b.channel.isOpen = true
      · simp only [ho, if_true]
        by_cases hdue : Instant.reached deadline now = true
        · rw [if_pos hdue]
          exact exact_drain hb
        · rw [if_neg hdue]
          exact hb.exact_of_isOpen ho
      · simp only [ho]
        exact exact_markClosed (Bool.eq_false_iff.mpr ho)
  | cons line rest =>
      rw [hq] at hverdict
      by_cases hp : w.pattern.accepts line = true
      · simp [hp, Outcome.verdict] at hverdict
      · simp only [hp] at hverdict ⊢
        exact exact_receive_go _ _ _ _ rfl ((LogBuffer.takes_receive hq).honest hb) hverdict

/-- So does the first poll, which begins with a drain. -/
theorem exact_firstPoll (w : Waiter) (now : Instant) {b : LogBuffer} (hb : b.Honest)
    (hverdict : (w.firstPoll now b).1.verdict ≠ .matched) : (w.firstPoll now b).2.2.Exact := by
  rw [firstPoll] at hverdict ⊢
  by_cases hc : b.drain.contains w.pattern = true
  · simp [hc, Outcome.verdict] at hverdict
  · by_cases hclosed : b.drain.closed = true
    · simp only [hc, hclosed, if_true]
      exact exact_drain hb
    · simp only [hc, hclosed] at hverdict ⊢
      exact exact_receive_go _ _ _ _ rfl (b.takes_drain.honest hb) hverdict

/-- **A poll leaves the mark exact**, unless it ends in a match. -/
theorem exact_poll (w : Waiter) (phase : Phase) (now : Instant) {b : LogBuffer} (hb : b.Honest)
    (hverdict : (w.poll phase now b).1 ≠ .matched) : (w.poll phase now b).2.2.Exact := by
  cases phase with
  | fresh => exact w.exact_firstPoll now hb hverdict
  | waiting deadline => exact w.exact_resume deadline now hb hverdict

end Waiter

namespace LogBuffer.Scene

/-- One act brings nothing to a closed buffer, and leaves it closed. -/
theorem Sound.step_of_closed {s : Scene} (h : s.Sound) (hclosed : s.buffer.closed = true)
    (a : Act) : (s.step a).buffer.lines = s.buffer.lines ∧ (s.step a).buffer.closed = true := by
  rcases s.step_cases a with ⟨u, hb, -⟩ | ⟨htakes, -⟩
  -- the sending side touches neither the lines taken in nor the mark
  · rw [hb]
    exact ⟨rfl, hclosed⟩
  -- the receiving side has nothing to take in
  · rw [htakes.eq_of_closed h.honest hclosed]
    exact ⟨rfl, hclosed⟩

/-- **Nothing comes to a closed buffer** for the rest of the run, and it stays closed. -/
theorem Sound.run_of_closed {s : Scene} (h : s.Sound) (hclosed : s.buffer.closed = true)
    (acts : List Act) :
    (s.run acts).buffer.lines = s.buffer.lines ∧ (s.run acts).buffer.closed = true := by
  induction acts generalizing s with
  | nil => exact ⟨rfl, hclosed⟩
  | cons a acts ih =>
      obtain ⟨hlines, hclosed'⟩ := h.step_of_closed hclosed a
      obtain ⟨hrest, hlast⟩ := ih (h.step a) hclosed'
      exact ⟨hrest.trans hlines, hlast⟩

/-- A poll of the wait under way leaves the mark exact, unless it ends in a match. -/
theorem Sound.exact_step_poll {s : Scene} (h : s.Sound) {a : Attempt} (ha : s.attempt = some a)
    (now : Instant) (hverdict : (a.waiter.poll a.phase now s.buffer).1 ≠ .matched) :
    (s.step (.poll now)).buffer.Exact := by
  have hpoll := a.waiter.exact_poll a.phase now h.honest hverdict
  rw [Scene.step, Scene.poll, ha]
  exact hpoll

/-- **The closed mark**, at every moment `s` of a run. Where it is set, no sender is open and
nothing is queued; at every later moment it is set, the lines are the same, and nothing is queued.
Right after a drain, after a snapshot, and after a poll that leaves the wait pending or finds its
time to be up, it is set exactly when no sender is open. -/
theorem closed_mark (stream : Stream) (before : List Act) :
    let s := (fresh stream).run before
    (s.buffer.closed = true →
      s.buffer.channel.isOpen = false ∧ s.buffer.channel.queue = [] ∧
      ∀ after, (s.run after).buffer.lines = s.buffer.lines ∧
        (s.run after).buffer.channel.queue = [] ∧ (s.run after).buffer.closed = true) ∧
    (s.step .drain).buffer.Exact ∧
    (s.step .snapshot).buffer.Exact ∧
    ∀ a now, s.attempt = some a →
      let answer := a.waiter.answer (a.waiter.poll a.phase now s.buffer).1
      (answer = none ∨
        answer = some (.error (.patternTimeout a.waiter.pattern.text a.waiter.timeout))) →
      (s.step (.poll now)).buffer.Exact := by
  intro s
  have hs : s.Sound := sound_run_fresh stream before
  refine ⟨fun hclosed => ?_, exact_drain hs.honest, exact_drain hs.honest, ?_⟩
  · obtain ⟨hq, ho⟩ := hs.honest hclosed
    refine ⟨ho, hq, fun after => ?_⟩
    obtain ⟨hlines, hlast⟩ := hs.run_of_closed hclosed after
    exact ⟨hlines, ((hs.run after).honest hlast).1, hlast⟩
  · intro a now ha answer hanswer
    refine hs.exact_step_poll ha now fun hmatched => ?_
    -- a match would have been answered as one
    simp [answer, hmatched, Waiter.answer] at hanswer

end LogBuffer.Scene

end ChildWatch
