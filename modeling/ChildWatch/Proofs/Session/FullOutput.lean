import ChildWatch.Proofs.Session.CaptureRuns

/-! # Waits on output that comes to an end

A wait that does not run out of time before the output ends has seen all of it when it gives up. So
its answer is told from the full output alone, and not from the moments at which it was polled.

* `Live.captured`, `Live.outputOver` — what has been captured of the output, and whether it has ended.
* `Live.OnRecord`, `Live.Grows` — the sessions there can be, and how the output of one grows;
  `OnRecord.step`, `OnRecord.sync` and so on — every operation does that.
* `Live.round` — one round of a wait, `OnRecord.answer_round` — its answer by the rule.
* `Live.captured_of_matched` — a wait that is answered by a match has captured one;
  `waitLoop_of_over` — a wait on output that has ended is answered by all of it.
* `Live.EndsInTime` — the output ends within the time of a wait, `EndsInTime.answer` — which then is
  answered by the full output. -/

namespace ChildWatch.Live

open Host Text

variable {σ : Type}

/-- **All that has been captured of the output**, taken in or still queued. -/
def captured (l : Live σ) : List Line :=
  l.session.stdout.buffer.lines ++ l.session.stdout.buffer.channel.queue

/-- Whether the output has been read to its end. -/
def outputOver (l : Live σ) : Bool := l.session.stdout.pump.finished

/-- A pattern that is found in some lines is found in any lines that begin with them. -/
theorem any_of_isPrefix {lines more : List Line} {p : Pattern} (hbegins : lines <+: more)
    (hany : lines.any p.accepts = true) : more.any p.accepts = true := by
  rw [List.any_eq_true] at hany ⊢
  obtain ⟨line, hline, haccepts⟩ := hany
  exact ⟨line, hbegins.subset hline, haccepts⟩

/-- **The output of a session grows** up to a later moment: nothing that was captured is gone, and
after the end nothing is added. -/
structure Grows (l l' : Live σ) : Prop where
  prefix_captured : l.captured <+: l'.captured
  ended : l.outputOver = true → l'.outputOver = true ∧ l'.captured = l.captured

namespace Grows

variable {l l' l'' : Live σ}

theorem refl (l : Live σ) : l.Grows l := ⟨List.prefix_rfl, fun hover => ⟨hover, rfl⟩⟩

theorem trans (h₁ : l.Grows l') (h₂ : l'.Grows l'') : l.Grows l'' where
  prefix_captured := h₁.prefix_captured.trans h₂.prefix_captured
  ended hover := by
    obtain ⟨hover', heq⟩ := h₁.ended hover
    obtain ⟨hover'', heq'⟩ := h₂.ended hover'
    exact ⟨hover'', heq'.trans heq⟩

/-- A pattern that is found stays found. -/
theorem any_captured (hgrows : l.Grows l') {p : Pattern} (hany : l.captured.any p.accepts = true) :
    l'.captured.any p.accepts = true :=
  any_of_isPrefix hgrows.prefix_captured hany

end Grows

/-! ## Sessions on record -/

/-- A session **on record**: its captures are accounted for by some record of its host. -/
def OnRecord (l : Live σ) : Prop := ∃ t : Live (Traced σ), t.Sound ∧ t.forget = l

/-- A session that has just been launched is on record. -/
theorem onRecord_launched (command : Command) (config : Config) (pid : Nat) (now : Instant)
    (system : σ) : OnRecord ⟨.ofLaunch command config pid now, system⟩ :=
  ⟨launched command config pid now system, sound_launched command config pid now system, rfl⟩

/-- The output is always captured, and follows its pump. -/
theorem Sound.follows_stdout {t : Live (Traced σ)} (ht : t.Sound) :
    t.session.stdout.Follows .stdout (t.system.reads .stdout) := by
  have hc : t.session.capture? .stdout = some t.session.stdout := rfl
  exact ht.follows hc

/-- What is captured on record is what the pump has pushed. -/
theorem Sound.captured_eq {t : Live (Traced σ)} (ht : t.Sound) : t.captured = t.pushed .stdout :=
  ht.follows_stdout.lines_append_queue

/-- The output is over when the pump has stopped. -/
theorem Sound.outputOver_eq {t : Live (Traced σ)} (ht : t.Sound) :
    t.outputOver = (Pump.follow .stdout (t.system.reads .stdout)).2.finished := by
  have hpump := ht.follows_stdout.pump_eq
  rw [outputOver, hpump]
  rfl

/-- **From one sound moment to a later one the output grows.** -/
theorem Sound.grows {t t' : Live (Traced σ)} (ht : t.Sound) (ht' : t'.Sound) (hlater : t.Later t') :
    t.forget.Grows t'.forget := by
  have hmem : Stream.stdout ∈ t.session.streams := Session.mem_streams.mpr ⟨_, rfl⟩
  have hbegins := hlater.prefix_pushed hmem
  refine ⟨?_, ?_⟩
  · show t.captured <+: t'.captured
    rw [ht.captured_eq, ht'.captured_eq]
    exact hbegins
  · intro hover
    show t'.outputOver = true ∧ t'.captured = t.captured
    have hfinished : (Pump.follow .stdout (t.system.reads .stdout)).2.finished = true := by
      rw [← ht.outputOver_eq]
      exact hover
    -- a pump that has stopped makes nothing of the reads after its end
    obtain ⟨more, hmore⟩ := hlater.prefix_reads .stdout hmem
    rw [ht'.outputOver_eq, ht'.captured_eq, ht.captured_eq, pushed, pushed, ← hmore,
      Pump.follow_append, Pump.feedAll_of_finished hfinished, List.append_nil]
    exact ⟨hfinished, rfl⟩

namespace OnRecord

variable {l : Live σ} (h : Host σ)

theorem of_sound {t t' : Live (Traced σ)} (hboth : t.Sound → t'.Sound ∧ t.Later t')
    (ht : t.Sound) : t'.forget.OnRecord ∧ t.forget.Grows t'.forget := by
  obtain ⟨ht', hlater⟩ := hboth ht
  exact ⟨⟨t', ht', rfl⟩, ht.grows ht' hlater⟩

/-- **Every operation leaves a session on record**, and its output grows. -/
theorem step (hl : l.OnRecord) (op : Op) : (l.step h op).OnRecord ∧ l.Grows (l.step h op) := by
  obtain ⟨t, ht, rfl⟩ := hl
  rw [step_forget]
  exact of_sound (fun ht => ht.step h op) ht

/-- So does a look at the pumps. -/
theorem sync (hl : l.OnRecord) : (l.sync h).OnRecord ∧ l.Grows (l.sync h) := by
  obtain ⟨t, ht, rfl⟩ := hl
  rw [sync_forget]
  exact of_sound (fun ht => ⟨ht.goes (goes_sync h t), ht.later_of_goes (goes_sync h t)⟩) ht

/-- Whatever else happens on the system makes no difference. -/
theorem system (hl : l.OnRecord) (system : σ) :
    OnRecord { l with system := system } ∧ l.Grows { l with system := system } := by
  refine ⟨?_, List.prefix_rfl, fun hover => ⟨hover, rfl⟩⟩
  obtain ⟨t, ht, rfl⟩ := hl
  exact ⟨{ t with system := { t.system with state := system } },
    ht.goes (.of_reads fun _ => rfl), rfl⟩

/-- Neither does the buffer of the output taking in what is queued. -/
theorem look (hl : l.OnRecord) {b : LogBuffer} (hb : l.session.stdout.buffer.Takes b) :
    OnRecord { l with
      session := l.session.withCapture .stdout { l.session.stdout with buffer := b } } := by
  obtain ⟨t, ht, rfl⟩ := hl
  exact ⟨{ t with session := t.session.withCapture .stdout { t.session.stdout with buffer := b } },
    ht.goes (.capture rfl (.look _ _ hb) fun _ _ => rfl), rfl⟩

/-- The buffer of the output is honest. -/
theorem honest (hl : l.OnRecord) : l.session.stdout.buffer.Honest := by
  obtain ⟨t, ht, rfl⟩ := hl
  exact ht.follows_stdout.honest

/-- Its channel is open until the output is over. -/
theorem isOpen_eq (hl : l.OnRecord) :
    l.session.stdout.buffer.channel.isOpen = !l.outputOver := by
  obtain ⟨t, ht, rfl⟩ := hl
  exact ht.follows_stdout.isOpen_eq

end OnRecord

/-! ## Rounds of a wait -/

section Rounds

variable (h : Host σ) (w : Waiter)

/-- **One round of a wait**: a look at the pumps and a poll. -/
def round (phase : Waiter.Phase) (l : Live σ) : Waiter.Outcome × Waiter.Phase × Live σ :=
  let l := l.sync h
  let (outcome, phase, buffer) := w.proceed phase (h.now l.system) l.session.stdout.buffer
  (outcome, phase,
    { l with session := l.session.withCapture .stdout { l.session.stdout with buffer := buffer } })

/-- The session at the next round of a wait that goes on: some time has passed. -/
def goOn (phase : Waiter.Phase) (l : Live σ) : Live σ :=
  { (l.round h w phase).2.2 with
    system := h.idle (deadline (l.round h w phase).2.1) (l.round h w phase).2.2.system }

/-- The session when a round has ended a wait, of which an entry may be made. -/
def settled (phase : Waiter.Phase) (l : Live σ) : Live σ :=
  { (l.round h w phase).2.2 with
    system := h.jot (waitEntry w (l.round h w phase).2.2.session.stdout.buffer.stream
      (l.round h w phase).1).toList (l.round h w phase).2.2.system }

/-- The reading of the clock at the poll of a round. -/
def reading (l : Live σ) : Instant := h.now (l.sync h).system

/-- A wait goes on to another round, or it is over. -/
theorem waitLoop_succ (polls : Nat) (phase : Waiter.Phase) (l : Live σ) :
    l.waitLoop h .stdout w (polls + 1) phase =
      match w.answer (l.round h w phase).1.verdict with
      | none => waitLoop h .stdout w polls (l.round h w phase).2.1 (l.goOn h w phase)
      | some answer => (some answer, l.settled h w phase) :=
  rfl

end Rounds

variable {h : Host σ} {w : Waiter} {polls : Nat} {phase : Waiter.Phase} {start : Option Instant}
  {l : Live σ}

/-- A look at the pumps takes the reads of the output. -/
theorem stdout_sync (l : Live σ) :
    (l.sync h).session.stdout = l.session.stdout.take (h.reads .stdout l.system).1 := by
  rw [sync]
  -- the other pump, if there is one, is a capture of its own
  have hother (l : Live σ) : (l.syncStream h .stderr).session.stdout = l.session.stdout := by
    rw [syncStream]
    cases l.session.capture? .stderr with
    | none => rfl
    | some c => rfl
  rw [hother]
  rfl

/-- It takes no line in. -/
theorem lines_sync (l : Live σ) :
    (l.sync h).session.stdout.buffer.lines = l.session.stdout.buffer.lines := by
  rw [stdout_sync]
  rfl

/-- It queues the lines that the reads complete. -/
theorem captured_sync (l : Live σ) :
    (l.sync h).captured =
      l.captured ++ (l.session.stdout.pump.feedAll (h.reads .stdout l.system).1).1 := by
  rw [captured, stdout_sync]
  exact Capture.lines_deliver _ _ _

/-- The output is over if they bring the pump to its end. -/
theorem outputOver_sync (l : Live σ) :
    (l.sync h).outputOver =
      (l.session.stdout.pump.feedAll (h.reads .stdout l.system).1).2.finished := by
  rw [outputOver, stdout_sync]
  rfl

/-- A poll moves lines from the queue to the buffer, and that is all. -/
theorem captured_round (phase : Waiter.Phase) (l : Live σ) :
    (l.round h w phase).2.2.captured = (l.sync h).captured :=
  (w.takes_proceed phase (h.now (l.sync h).system)
    (l.sync h).session.stdout.buffer).lines_append_queue

/-- Nothing is read in a round but what its look at the pumps finds, whatever else happens. -/
theorem grows_round (w : Waiter) (phase : Waiter.Phase) (l : Live σ) (system : σ) :
    (l.sync h).Grows { (l.round h w phase).2.2 with system := system } where
  prefix_captured := by
    rw [← captured_round (w := w) phase l]
    exact List.prefix_rfl
  ended hover := ⟨hover, captured_round phase l⟩

namespace OnRecord

theorem round (hl : l.OnRecord) (phase : Waiter.Phase) : (l.round h w phase).2.2.OnRecord :=
  (hl.sync h).1.look (w.takes_proceed phase (h.now (l.sync h).system) _)

/-- **A round is answered by the rule**, over all that has been captured. -/
theorem answer_round (hl : l.OnRecord) (hfits : phase.Fits w l.session.stdout.buffer.lines start) :
    w.answer (l.round h w phase).1.verdict =
      w.judge (start.getD (l.reading h)) (l.reading h) (l.sync h).captured
        (!(l.sync h).outputOver) := by
  have hsync := (hl.sync h).1
  rw [← lines_sync (h := h)] at hfits
  rw [← hsync.isOpen_eq]
  exact Waiter.answer_poll hsync.honest hfits (l.reading h)

/-- A round that finds the output at its end is answered by all of it. -/
theorem answer_round_of_over (hl : l.OnRecord)
    (hfits : phase.Fits w l.session.stdout.buffer.lines start)
    (hover : (l.sync h).outputOver = true) :
    w.answer (l.round h w phase).1.verdict =
      some (if (l.sync h).captured.any w.pattern.accepts then .ok ()
        else .error w.timeoutError) := by
  rw [hl.answer_round hfits, hover, Waiter.judge, if_pos (Or.inl (Bool.not_true))]
  split
  · rfl
  · rfl

/-- A round without an answer keeps the invariant of waits. -/
theorem fits_round (hl : l.OnRecord) (hfits : phase.Fits w l.session.stdout.buffer.lines start)
    (hnone : w.answer (l.round h w phase).1.verdict = none) :
    (l.round h w phase).2.1.Fits w (l.round h w phase).2.2.session.stdout.buffer.lines
      (some (start.getD (l.reading h))) := by
  rw [← lines_sync (h := h)] at hfits
  exact Waiter.fits_poll (hl.sync h).1.honest hfits (l.reading h)
    (Waiter.Watch.pending_of_answer_eq_none hnone)

end OnRecord

/-- The rule finds a match only in the lines. -/
theorem any_of_judge_eq_ok {start now : Instant} {lines : List Line} {isOpen : Bool}
    (hjudge : w.judge start now lines isOpen = some (.ok ())) :
    lines.any w.pattern.accepts = true := by
  unfold Waiter.judge at hjudge
  split at hjudge
  · assumption
  split at hjudge
  · cases hjudge
  · cases hjudge

/-- **A wait that is answered by a match has captured one.** The induction is on the polls that are
left. -/
theorem captured_of_matched (hl : l.OnRecord)
    (hfits : phase.Fits w l.session.stdout.buffer.lines start)
    (hmatched : (l.waitLoop h .stdout w polls phase).1 = some (.ok ())) :
    (l.waitLoop h .stdout w polls phase).2.captured.any w.pattern.accepts = true := by
  induction polls generalizing phase start l with
  | zero => cases hmatched
  | succ polls ih =>
      rw [waitLoop_succ] at hmatched ⊢
      cases hanswer : w.answer (l.round h w phase).1.verdict with
      | none =>
          simp only [hanswer] at hmatched ⊢
          exact ih ((hl.round phase).system _).1 (hl.fits_round hfits hanswer) hmatched
      | some answer =>
          simp only [hanswer, Option.some.injEq] at hmatched ⊢
          subst hmatched
          rw [hl.answer_round hfits] at hanswer
          show (l.round h w phase).2.2.captured.any w.pattern.accepts = true
          rw [captured_round]
          exact any_of_judge_eq_ok hanswer

/-- **A wait that finds the output at its end** is answered by all of it, and leaves it as it is. -/
theorem waitLoop_of_over (polls : Nat) (hl : l.OnRecord)
    (hfits : phase.Fits w l.session.stdout.buffer.lines start)
    (hover : (l.sync h).outputOver = true) :
    (l.waitLoop h .stdout w (polls + 1) phase).1 =
        some (if (l.sync h).captured.any w.pattern.accepts then .ok ()
          else .error w.timeoutError) ∧
      (l.waitLoop h .stdout w (polls + 1) phase).2.outputOver = true ∧
      (l.waitLoop h .stdout w (polls + 1) phase).2.captured = (l.sync h).captured := by
  rw [waitLoop_succ]
  simp only [hl.answer_round_of_over hfits hover]
  exact ⟨trivial, hover, captured_round phase l⟩

/-! ## Output that ends in time -/

/-- **The output ends in time** for a wait that was first polled at `start`, with so many polls left:
up to the poll that finds it at its end, the time of the wait is not up at any poll. What has been
captured is always the beginning of the full output, and in the end all of it. -/
inductive EndsInTime (h : Host σ) (w : Waiter) (full : List Line) :
    Option Instant → Nat → Waiter.Phase → Live σ → Prop where
  /-- The output is over, with time to spare or not. -/
  | ended {start : Option Instant} {polls : Nat} {phase : Waiter.Phase} {l : Live σ}
    (hover : (l.sync h).outputOver = true) (hfull : (l.sync h).captured = full) :
    EndsInTime h w full start (polls + 1) phase l
  /-- More is to come, there is time left, and a wait that goes on sees the end in time. -/
  | more {start : Option Instant} {polls : Nat} {phase : Waiter.Phase} {l : Live σ}
    (hopen : (l.sync h).outputOver = false) (hbegins : (l.sync h).captured <+: full)
    (htime : (l.reading h).toNanos <
      (start.getD (l.reading h)).toNanos + w.timeout.toNanos)
    (hnext : w.answer (l.round h w phase).1.verdict = none →
      EndsInTime h w full (some (start.getD (l.reading h))) polls (l.round h w phase).2.1
        (l.goOn h w phase)) :
    EndsInTime h w full start (polls + 1) phase l

variable {full : List Line}

/-- **Such a wait is answered by the full output**: with a match if some line of it holds the pattern,
and else, once all of it has been captured, with the error of a timeout. The induction is on the
rounds. -/
theorem EndsInTime.answer (hends : EndsInTime h w full start polls phase l)
    (hl : l.OnRecord) (hfits : phase.Fits w l.session.stdout.buffer.lines start) :
    (l.waitLoop h .stdout w polls phase).1 =
        some (if full.any w.pattern.accepts then .ok () else .error w.timeoutError) ∧
      (full.any w.pattern.accepts = false →
        (l.waitLoop h .stdout w polls phase).2.outputOver = true ∧
          (l.waitLoop h .stdout w polls phase).2.captured = full) := by
  induction hends with
  | @ended start polls phase l hover hfull =>
      obtain ⟨hanswer, hover', hcaptured⟩ := waitLoop_of_over polls hl hfits hover
      rw [hfull] at hanswer hcaptured
      exact ⟨hanswer, fun _ => ⟨hover', hcaptured⟩⟩
  | @more start polls phase l hopen hbegins htime hnext ih =>
      have hanswer := hl.answer_round (h := h) hfits
      rw [hopen, Bool.not_false, Waiter.judge] at hanswer
      rw [waitLoop_succ]
      by_cases hany : (l.sync h).captured.any w.pattern.accepts = true
      · -- seen before the end, and so in the full output
        have hfull : full.any w.pattern.accepts = true := any_of_isPrefix hbegins hany
        rw [if_pos hany] at hanswer
        simp only [hanswer, hfull, if_true]
        exact ⟨trivial, fun hnot => absurd hnot Bool.noConfusion⟩
      · -- not seen, more to come and time left: the wait goes on
        have hend : ¬ (true = false ∨ (start.getD (l.reading h)).toNanos + w.timeout.toNanos ≤
            (l.reading h).toNanos) := by
          intro hend
          rcases hend with hend | hend
          · cases hend
          · omega
        rw [if_neg hany, if_neg hend] at hanswer
        simp only [hanswer]
        exact ih hanswer ((hl.round phase).system _).1 (hl.fits_round hfits hanswer)

end ChildWatch.Live
