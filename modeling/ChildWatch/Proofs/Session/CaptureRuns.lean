import ChildWatch.Proofs.Log.WaitVerdict
import ChildWatch.Proofs.Session.CaptureSteps
import ChildWatch.Proofs.Session.Recording
import ChildWatch.Proofs.Session.Rehearsal

/-! # Captured streams are complete

A session reads the streams of its child through pumps of their own. In any run, and whatever the host
does, each buffer holds the first of the lines of its own stream, and all of them once the session has
been released.

* `Live.Sound` — the invariant: every capture follows its pump, and a release has closed them all.
* `Live.Later` — what one moment has to do with a later one.
* `Live.Joined`, `terminate_spec` — the release follows the pumps to the end, one after the other.
* `Sound.step`, `Sound.run` — every operation and every run keeps the invariant.
* `Sound.complete` — a closed capture holds the lines of the transcript of its stream.
* `Live.captured_streams_complete` — what comes of it for the one who uses a session. -/

namespace ChildWatch

namespace Live

open Host Text

variable {σ : Type} (h : Host σ)

/-! ## The invariant -/

/-- All the lines that the pump of a stream has pushed. -/
def pushed (l : Live (Traced σ)) (stream : Stream) : List Line :=
  (Pump.follow stream (l.system.reads stream)).1

/-- The error of a result, if it is one. -/
def failure : Except Error Nat → List Error
  | .ok _ => []
  | .error e => [e]

/-- The error with which the pump of a stream has stopped, if it failed. -/
def failures (l : Live (Traced σ)) (stream : Stream) : List Error :=
  (Pump.follow stream (l.system.reads stream)).2.outcome.elim [] failure

/-- **The invariant of a session.** Every capture follows its pump. Before the release no result of a
pump has been collected and no error is on record; after it all the buffers are closed. -/
structure Sound (l : Live (Traced σ)) : Prop where
  follows : ∀ {stream : Stream} {c : Capture}, l.session.capture? stream = some c →
    c.Follows stream (l.system.reads stream)
  uncollected : l.session.released = false → ∀ {stream : Stream} {c : Capture},
    l.session.capture? stream = some c → c.pump.collected = false
  pumpErrors_eq : l.session.released = false → l.session.pumpErrors = []
  closed : l.session.released = true → ∀ {stream : Stream} {c : Capture},
    l.session.capture? stream = some c → c.buffer.closed = true

/-- **What one moment of a session has to do with a later one**: each captured stream has been read
further, and after a release nothing happens to the captures. -/
structure Later (l l' : Live (Traced σ)) : Prop where
  streams_eq : l'.session.streams = l.session.streams
  prefix_reads : ∀ stream ∈ l.session.streams, l.system.reads stream <+: l'.system.reads stream
  released : l.session.released = true → l'.session.released = true
  capture_eq : l.session.released = true → ∀ {stream : Stream} {c : Capture},
    l.session.capture? stream = some c → l'.session.capture? stream = some c

namespace Later

variable {l l' l'' : Live (Traced σ)}

theorem refl (l : Live (Traced σ)) : l.Later l :=
  ⟨rfl, fun _ _ => List.prefix_rfl, id, fun _ _ _ => id⟩

theorem trans (h₁ : l.Later l') (h₂ : l'.Later l'') : l.Later l'' where
  streams_eq := h₂.streams_eq.trans h₁.streams_eq
  prefix_reads stream hs :=
    (h₁.prefix_reads stream hs).trans (h₂.prefix_reads stream (h₁.streams_eq ▸ hs))
  released hr := h₂.released (h₁.released hr)
  capture_eq hr _ _ hc := h₂.capture_eq (h₁.released hr) (h₁.capture_eq hr hc)

/-- A pump never takes back a line. -/
theorem prefix_pushed (hlater : l.Later l') {stream : Stream} (hs : stream ∈ l.session.streams) :
    l.pushed stream <+: l'.pushed stream := by
  obtain ⟨more, hmore⟩ := hlater.prefix_reads stream hs
  rw [pushed, pushed, ← hmore, Pump.follow_append]
  exact List.prefix_append _ _

end Later

variable {l l' : Live (Traced σ)}

/-- Each capture that is there after an operation was there before it. -/
theorem Goes.steps_to (hgoes : l.Goes l') {stream : Stream} {c' : Capture}
    (hc' : l'.session.capture? stream = some c') :
    ∃ c, l.session.capture? stream = some c ∧
      Capture.Steps (c, l.system.reads stream) (c', l'.system.reads stream) := by
  have hs : stream ∈ l'.session.streams := Session.mem_streams.mpr ⟨c', hc'⟩
  rw [hgoes.streams_eq] at hs
  obtain ⟨c, hc⟩ := Session.mem_streams.mp hs
  obtain ⟨d, hd, hsteps⟩ := hgoes.steps hc
  rw [hc', Option.some_inj] at hd
  subst hd
  exact ⟨c, hc, hsteps⟩

/-- **An operation short of a release keeps the invariant.** -/
theorem Sound.goes (hl : l.Sound) (hgoes : l.Goes l') : l'.Sound where
  follows hc' := by
    obtain ⟨c, hc, hsteps⟩ := hgoes.steps_to hc'
    exact Capture.Follows.steps hsteps (hl.follows hc)
  uncollected hr _ _ hc' := by
    obtain ⟨c, hc, hsteps⟩ := hgoes.steps_to hc'
    rw [hgoes.released_eq] at hr
    exact (Capture.collected_steps hsteps).trans (hl.uncollected hr hc)
  pumpErrors_eq hr := by
    rw [hgoes.released_eq] at hr
    exact hgoes.pumpErrors_eq.trans (hl.pumpErrors_eq hr)
  closed hr _ _ hc' := by
    obtain ⟨c, hc, hsteps⟩ := hgoes.steps_to hc'
    rw [hgoes.released_eq] at hr
    have hclosed := hl.closed hr hc
    have heq := Capture.Follows.steps_of_closed hsteps (hl.follows hc) hclosed
    exact (congrArg (fun d : Capture => d.buffer.closed) heq).trans hclosed

theorem Sound.later_of_goes (hl : l.Sound) (hgoes : l.Goes l') : l.Later l' where
  streams_eq := hgoes.streams_eq
  prefix_reads stream hs := by
    obtain ⟨c, hc⟩ := Session.mem_streams.mp hs
    obtain ⟨c', -, hsteps⟩ := hgoes.steps hc
    exact Capture.prefix_reads_steps hsteps
  released hr := hgoes.released_eq.trans hr
  capture_eq hr stream c hc := by
    obtain ⟨c', hc', hsteps⟩ := hgoes.steps hc
    have heq := Capture.Follows.steps_of_closed hsteps (hl.follows hc) (hl.closed hr hc)
    rw [hc']
    exact congrArg some heq

/-! ## The release -/

/-- **What following pumps to the end of their streams comes to**: these captures are closed, the
others are left alone, and the failures of the pumps are put on record one after the other. -/
structure Joined (streams : List Stream) (l l' : Live (Traced σ)) : Prop where
  released_eq : l'.session.released = l.session.released
  streams_eq : l'.session.streams = l.session.streams
  others : ∀ other, other ∉ streams → l'.session.capture? other = l.session.capture? other ∧
    l'.system.reads other = l.system.reads other
  complete : ∀ stream ∈ streams, l.system.reads stream <+: l'.system.reads stream ∧
    ∃ c, l'.session.capture? stream = some c ∧ c.Follows stream (l'.system.reads stream) ∧
      c.buffer.closed = true
  pumpErrors_eq : l'.session.pumpErrors = l.session.pumpErrors ++ streams.flatMap l'.failures

/-- A capture whose pump can be followed to the end of the stream. -/
def Ready (l : Live (Traced σ)) (stream : Stream) : Prop :=
  ∃ c, l.session.capture? stream = some c ∧ c.Follows stream (l.system.reads stream) ∧
    c.pump.collected = false

/-- The session after one pump has been followed to the end of its stream. -/
theorem joinPump_spec {stream : Stream} {c c' : Capture} {result : Except Error Nat}
    (hc : l.session.capture? stream = some c)
    (hfinish : c.finish (h.traced.rest stream l.system).1 = (result, c')) :
    (l.joinPump h.traced stream).session =
        { l.session.withCapture stream c' with
          pumpErrors := l.session.pumpErrors ++ failure result } ∧
      ∀ other, (l.joinPump h.traced stream).system.reads other =
        (h.traced.rest stream l.system).2.reads other := by
  rw [joinPump]
  simp only [hc, hfinish]
  -- the entries of the pump and of the session leave the record alone
  generalize pumpEntries c.pump _ = entries
  have hreads (other : Stream) := reads_traced_jot h (h.traced.rest stream l.system).2 other entries
  cases result with
  | ok n =>
      refine ⟨?_, fun other => (reads_traced_note h _ other _).trans (hreads other)⟩
      rw [failure, List.append_nil, ← Session.pumpErrors_withCapture l.session stream c']
      rfl
  | error e =>
      refine ⟨?_, fun other => (reads_traced_note h _ other _).trans (hreads other)⟩
      rw [failure, ← Session.pumpErrors_withCapture l.session stream c']
      rfl

theorem joined_joinPump {stream : Stream} (hready : l.Ready stream) :
    Joined [stream] l (l.joinPump h.traced stream) := by
  obtain ⟨c, hc, hfollows, hcollected⟩ := hready
  obtain ⟨result, c', hfinish, hfollows', hresult, hclosed⟩ :=
    hfollows.finish hcollected (h.traced.rest stream l.system).1
  obtain ⟨hsession, hreads⟩ := joinPump_spec h hc hfinish
  have hown := (hreads stream).trans (reads_traced_rest h l.system stream)
  refine ⟨?_, ?_, ?_, ?_, ?_⟩
  · rw [hsession]
    exact Session.released_withCapture _ _ _
  · rw [hsession]
    exact Session.streams_withCapture _ _ _
  · intro other hother
    have hne : other ≠ stream := fun heq => hother (List.mem_singleton.mpr heq)
    refine ⟨?_, (hreads other).trans (reads_traced_rest_of_ne h l.system other (Ne.symm hne))⟩
    rw [hsession, Session.capture?_pumpErrors, Session.capture?_withCapture_of_ne hne]
  · intro other hother
    obtain rfl := List.mem_singleton.mp hother
    refine ⟨?_, c', ?_, ?_, hclosed⟩
    · rw [hown]
      exact List.prefix_append _ _
    · rw [hsession, Session.capture?_pumpErrors, Session.capture?_withCapture hc]
    · rw [hown]
      exact hfollows'
  · rw [hsession, List.flatMap_singleton, failures, hown, hresult]
    rfl

theorem failures_eq {stream : Stream}
    (hreads : l'.system.reads stream = l.system.reads stream) :
    l'.failures stream = l.failures stream := by
  rw [failures, failures, hreads]

/-- The induction is on the streams; the captures of those that are left are still as they were. -/
theorem joined_foldl_joinPump (streams : List Stream) (hnodup : streams.Nodup)
    (hready : ∀ stream ∈ streams, l.Ready stream) :
    Joined streams l (streams.foldl (joinPump h.traced) l) := by
  induction streams generalizing l with
  | nil =>
      refine ⟨rfl, rfl, fun _ _ => ⟨rfl, rfl⟩, ?_, ?_⟩
      · intro stream hs
        exact absurd hs List.not_mem_nil
      · exact (List.append_nil _).symm
  | cons stream streams ih =>
      obtain ⟨hnot, hnodup⟩ := List.nodup_cons.mp hnodup
      have hfirst := joined_joinPump h (hready stream List.mem_cons_self)
      -- the other pumps have been left alone and can still be followed
      have hready' : ∀ other ∈ streams, (l.joinPump h.traced stream).Ready other := by
        intro other hother
        have hne : other ∉ [stream] := fun heq => hnot (List.mem_singleton.mp heq ▸ hother)
        obtain ⟨hcapture, hreads⟩ := hfirst.others other hne
        rw [Ready, hcapture, hreads]
        exact hready other (List.mem_cons_of_mem stream hother)
      have hrest := ih hnodup hready'
      obtain ⟨hcapture, hreads⟩ := hrest.others stream hnot
      rw [List.foldl_cons]
      refine ⟨hrest.released_eq.trans hfirst.released_eq,
        hrest.streams_eq.trans hfirst.streams_eq, ?_, ?_, ?_⟩
      · intro other hother
        rw [List.mem_cons, not_or] at hother
        obtain ⟨hcapture', hreads'⟩ := hrest.others other hother.2
        obtain ⟨hcapture, hreads⟩ := hfirst.others other (mt List.mem_singleton.mp hother.1)
        exact ⟨hcapture'.trans hcapture, hreads'.trans hreads⟩
      · intro other hother
        rcases List.mem_cons.mp hother with rfl | hother
        -- closed by the first join, and left alone by those after it
        · rw [hcapture, hreads]
          exact hfirst.complete other (List.mem_singleton.mpr rfl)
        · have hne : other ∉ [stream] := fun heq => hnot (List.mem_singleton.mp heq ▸ hother)
          obtain ⟨hahead, hclosed⟩ := hrest.complete other hother
          rw [(hfirst.others other hne).2] at hahead
          exact ⟨hahead, hclosed⟩
      · rw [hrest.pumpErrors_eq, hfirst.pumpErrors_eq, List.append_assoc, List.flatMap_singleton,
          List.flatMap_cons, failures_eq hreads]

/-- Every captured stream of a sound session is ready to be followed to its end, before a release. -/
theorem Sound.ready (hl : l.Sound) (hr : l.session.released = false) {stream : Stream}
    (hs : stream ∈ l.session.streams) : l.Ready stream := by
  obtain ⟨c, hc⟩ := Session.mem_streams.mp hs
  exact ⟨c, hc, hl.follows hc, hl.uncollected hr hc⟩

/-- The session that has followed all its pumps, marked as released. -/
theorem Joined.released {m j : Live (Traced σ)} (hrm : m.session.released = false)
    (hjoined : Joined m.session.streams m j) :
    Sound { j with session := { j.session with released := true } } ∧
      m.Later { j with session := { j.session with released := true } } := by
  have hclosed {stream : Stream} {c : Capture} (hc : j.session.capture? stream = some c) :
      c.Follows stream (j.system.reads stream) ∧ c.buffer.closed = true := by
    have hs : stream ∈ m.session.streams := hjoined.streams_eq ▸ Session.mem_streams.mpr ⟨c, hc⟩
    obtain ⟨-, d, hd, hfollows, hclosed⟩ := hjoined.complete stream hs
    rw [hc, Option.some_inj] at hd
    subst hd
    exact ⟨hfollows, hclosed⟩
  refine ⟨⟨?_, ?_, ?_, ?_⟩, ⟨?_, ?_, ?_, ?_⟩⟩
  · intro stream c hc
    rw [Session.capture?_released] at hc
    exact (hclosed hc).1
  · intro hr
    exact absurd hr Bool.noConfusion
  · intro hr
    exact absurd hr Bool.noConfusion
  · intro _ stream c hc
    rw [Session.capture?_released] at hc
    exact (hclosed hc).2
  · exact hjoined.streams_eq
  · exact fun stream hs => (hjoined.complete stream hs).1
  · exact fun _ => rfl
  · intro hr
    exact absurd (hrm.symm.trans hr) Bool.noConfusion

/-- **A release** closes all the captures and puts the failures of their pumps on record. -/
theorem terminate_spec (hl : l.Sound) (hr : l.session.released = false) :
    (l.terminate h.traced).Sound ∧ l.Later (l.terminate h.traced) ∧
      (l.terminate h.traced).session.released = true ∧
      (l.terminate h.traced).session.pumpErrors =
        l.session.streams.flatMap (l.terminate h.traced).failures := by
  have hgoes := ((goes_stopOrReap h l).trans (goes_stopLeftovers h _)).trans (goes_drainBuffers _)
  rw [terminate, hr, if_neg Bool.false_ne_true, joinPumps]
  -- up to here the captures have only gone steps of their own; now the pumps are joined
  generalize drainBuffers _ = m at hgoes
  have hm := hl.goes hgoes
  have hrm : m.session.released = false := hgoes.released_eq.trans hr
  have hjoined := joined_foldl_joinPump h m.session.streams m.session.nodup_streams
    fun stream hs => hm.ready hrm hs
  generalize m.session.streams.foldl (joinPump h.traced) m = j at hjoined
  obtain ⟨hsound, hlater⟩ := hjoined.released hrm
  have hnote := goes_note h { j with session := { j.session with released := true } } .info
    ("Released '" ++ j.session.command.text ++ "' (pid " ++ toString j.session.pid ++ "): " ++
      j.session.state.text ++ ", " ++ toString j.session.stdout.buffer.lines.length ++
      " stdout lines captured")
  refine ⟨hsound.goes hnote, ?_, rfl, ?_⟩
  · exact ((hl.later_of_goes hgoes).trans hlater).trans (hsound.later_of_goes hnote)
  · have herrors := hjoined.pumpErrors_eq
    rw [hm.pumpErrors_eq hrm, hgoes.streams_eq] at herrors
    exact herrors

/-! ## Runs -/

theorem terminate_of_released (hr : l.session.released = true) : l.terminate h.traced = l := by
  rw [terminate, if_pos hr]

/-- Taking the errors off the record leaves the captures alone. -/
theorem Sound.takePumpErrors (hl : l.Sound) :
    Sound { l with session := l.session.takePumpErrors.2 } ∧
      l.Later { l with session := l.session.takePumpErrors.2 } := by
  refine ⟨⟨?_, ?_, fun _ => rfl, ?_⟩, ⟨rfl, fun _ _ => List.prefix_rfl, id, ?_⟩⟩
  · intro stream c hc
    rw [Session.takePumpErrors, Session.capture?_pumpErrors] at hc
    exact hl.follows hc
  · intro hr stream c hc
    rw [Session.takePumpErrors, Session.capture?_pumpErrors] at hc
    exact hl.uncollected hr hc
  · intro hr stream c hc
    rw [Session.takePumpErrors, Session.capture?_pumpErrors] at hc
    exact hl.closed hr hc
  · intro _ stream c hc
    rw [Session.takePumpErrors, Session.capture?_pumpErrors]
    exact hc

/-- **Every operation keeps the invariant**, and what it makes of the captures is a later moment. -/
theorem Sound.step (hl : l.Sound) (op : Op) :
    (l.step h.traced op).Sound ∧ l.Later (l.step h.traced op) := by
  have hgoes {l' : Live (Traced σ)} (hgoes : l.Goes l') : l'.Sound ∧ l.Later l' :=
    ⟨hl.goes hgoes, hl.later_of_goes hgoes⟩
  cases op with
  | isAlive => exact hgoes (goes_isAlive h l)
  | snapshot stream => exact hgoes (goes_snapshot h stream l)
  | wait stream w polls => exact hgoes (goes_waitLoop h stream w polls .fresh l)
  | signal s => exact hgoes (goes_signal h s l)
  | pause d => exact hgoes (goes_pause h l d)
  | takePumpErrors => exact hl.takePumpErrors
  | terminate =>
      cases hr : l.session.released with
      | true =>
          rw [Live.step, terminate_of_released h hr]
          exact ⟨hl, .refl l⟩
      | false =>
          obtain ⟨hsound, hlater, -, -⟩ := terminate_spec h hl hr
          exact ⟨hsound, hlater⟩

/-- So does every run: the induction is on the operations. -/
theorem Sound.run (hl : l.Sound) (ops : List Op) :
    (l.run h.traced ops).Sound ∧ l.Later (l.run h.traced ops) := by
  induction ops generalizing l with
  | nil => exact ⟨hl, .refl l⟩
  | cons op ops ih =>
      obtain ⟨hstep, hlater⟩ := hl.step h op
      obtain ⟨hrun, hlater'⟩ := ih hstep
      exact ⟨hrun, hlater.trans hlater'⟩

/-- **A session that has just been launched**, with nothing on the record of its host. -/
def launched (command : Command) (config : Config) (pid : Nat) (now : Instant) (system : σ) :
    Live (Traced σ) :=
  ⟨.ofLaunch command config pid now, ⟨system, []⟩⟩

/-- It is sound: nothing has been read. -/
theorem sound_launched (command : Command) (config : Config) (pid : Nat) (now : Instant)
    (system : σ) : (launched command config pid now system).Sound := by
  refine ⟨?_, ?_, fun _ => rfl, ?_⟩
  · intro stream c hc
    rw [Session.capture?_ofLaunch hc]
    exact Capture.follows_fresh stream
  · intro _ stream c hc
    rw [Session.capture?_ofLaunch hc]
    rfl
  · intro hr
    exact absurd hr Bool.noConfusion

/-! ## After the release -/

/-- **A closed capture is complete**: it holds all the lines that its pump has pushed, the pump has
stopped, and the lines and the failure of the pump are those of the transcript of its stream. -/
theorem Sound.complete (hl : l.Sound) (hr : l.session.released = true) {stream : Stream}
    {c : Capture} (hc : l.session.capture? stream = some c) :
    c.buffer.lines = l.pushed stream ∧ c.buffer.closed = true ∧ c.pump.finished = true ∧
      ∀ pieces ending, Transcript (Served.ofReads (l.system.reads stream)) pieces ending →
        l.pushed stream = pieces.map Line.ofRaw ∧
        l.failures stream = failure (ending.result stream pieces.length) := by
  have hfollows := hl.follows hc
  have hclosed := hl.closed hr hc
  have hfinished := (hfollows.over hclosed).2
  refine ⟨hfollows.lines_eq hclosed, hclosed, hfinished, ?_⟩
  intro pieces ending htranscript
  rw [hfollows.pump_eq] at hfinished
  obtain ⟨hlines, hout⟩ := Pump.follow_transcript hfinished htranscript
  rw [failures, hout]
  exact ⟨hlines, rfl⟩

/-- What a session finds when it looks at a capture that is closed. -/
theorem Sound.sync_of_released (hl : l.Sound) (hr : l.session.released = true) {stream : Stream}
    {c : Capture} (hc : l.session.capture? stream = some c) :
    (l.sync h.traced).session.capture? stream = some c :=
  (hl.later_of_goes (goes_sync h l)).capture_eq hr hc

/-- **A wait on a closed capture is over at its first poll**: all the lines are there. -/
theorem Sound.wait_of_released (hl : l.Sound) (hr : l.session.released = true) {stream : Stream}
    {c : Capture} (hc : l.session.capture? stream = some c) (w : Waiter) (polls : Nat) :
    (l.wait h.traced stream w (polls + 1)).1 =
      some (if c.buffer.lines.any w.pattern.accepts then .ok () else .error w.timeoutError) := by
  have hsync := hl.sync_of_released h hr hc
  have hhonest := (hl.follows hc).honest
  have hclosed := hl.closed hr hc
  rw [wait, waitLoop]
  generalize l.sync h.traced = l' at hsync
  have hanswer := w.answer_firstPoll_of_closed (h.traced.now l'.system) hhonest hclosed
  simp only [hsync]
  rw [Waiter.poll] at hanswer
  generalize w.proceed .fresh (h.traced.now l'.system) c.buffer = p at hanswer
  obtain ⟨outcome, phase, buffer⟩ := p
  simp only [hanswer]

/-- A snapshot of a closed capture shows all the lines. -/
theorem Sound.snapshot_of_released (hl : l.Sound) (hr : l.session.released = true)
    {stream : Stream} {c : Capture} (hc : l.session.capture? stream = some c) :
    (l.snapshot h.traced stream).1 = c.buffer.texts := by
  have hsync := hl.sync_of_released h hr hc
  have hdrain := c.buffer.takes_drain.eq_of_closed (hl.follows hc).honest (hl.closed hr hc)
  rw [snapshot]
  generalize l.sync h.traced = l' at hsync
  simp only [hsync, LogBuffer.snapshot]
  rw [hdrain]

/-- **Captured streams are complete.** Take any session on any host, and anything that is done with it
before and after it is terminated. Of each stream that is captured:

* before the release its buffer holds the first of the lines that its own pump has pushed, and what
  has been pushed is the first of what will have been pushed at the release;
* the release closes the buffer on all the lines that the pump has pushed, and the pump has stopped;
* these are the lines of the transcript of all that has been read of the stream, which there is, and
  the pump has failed if the transcript ends so;
* nothing changes the buffer afterwards and no line is pushed; a snapshot shows all the lines, and a
  wait is over at its first poll.

The failures of the pumps are on record after the release, the output's first, each once. Without the
record of its host, the session is the one that the same operations lead to on the host itself. -/
theorem captured_streams_complete (command : Command) (config : Config) (pid : Nat) (now : Instant)
    (system : σ) (before after : List Op) :
    let mid := (launched command config pid now system).run h.traced before
    let done := mid.terminate h.traced
    let late := done.run h.traced after
    (∀ stream ∈ config.captured, ∃ c d,
      mid.session.capture? stream = some c ∧
      c.buffer.lines <+: mid.pushed stream ∧ mid.pushed stream <+: done.pushed stream ∧
      done.session.capture? stream = some d ∧
      d.buffer.lines = done.pushed stream ∧ d.buffer.closed = true ∧ d.pump.finished = true ∧
      (∃ pieces ending, Transcript (Served.ofReads (done.system.reads stream)) pieces ending) ∧
      (∀ pieces ending, Transcript (Served.ofReads (done.system.reads stream)) pieces ending →
        done.pushed stream = pieces.map Line.ofRaw ∧
        done.failures stream = failure (ending.result stream pieces.length)) ∧
      late.session.capture? stream = some d ∧ late.pushed stream = done.pushed stream ∧
      (late.snapshot h.traced stream).1 = d.buffer.texts ∧
      ∀ (w : Waiter) (polls : Nat), (late.wait h.traced stream w (polls + 1)).1 =
        some (if d.buffer.lines.any w.pattern.accepts then .ok ()
          else .error (.patternTimeout w.pattern.text w.timeout))) ∧
    done.session.released = true ∧
    (done.session.pumpErrors =
      if mid.session.released then mid.session.pumpErrors
      else config.captured.flatMap done.failures) ∧
    late.forget = (⟨.ofLaunch command config pid now, system⟩ : Live σ).run h
      (before ++ .terminate :: after) := by
  intro mid done late
  have hforget : late.forget = (⟨.ofLaunch command config pid now, system⟩ : Live σ).run h
      (before ++ .terminate :: after) := by
    have hrun := run_forget h (launched command config pid now system) (before ++ .terminate :: after)
    rw [run_append h.traced] at hrun
    exact hrun.symm
  have hstart := sound_launched command config pid now system
  obtain ⟨hmid, hbefore⟩ := hstart.run h before
  have hstreams : mid.session.streams = config.captured :=
    hbefore.streams_eq.trans (Session.streams_ofLaunch command config pid now)
  obtain ⟨hdone, hrelease⟩ := hmid.step h .terminate
  obtain ⟨hlate, hafter⟩ := hdone.run h after
  -- a second release changes nothing, so the errors on record are those of the first
  have hreleased : done.session.released = true ∧
      done.session.pumpErrors = if mid.session.released then mid.session.pumpErrors
        else config.captured.flatMap done.failures := by
    cases hr : mid.session.released with
    | true =>
        have hsame : done = mid := terminate_of_released h hr
        rw [hsame, hr]
        exact ⟨rfl, rfl⟩
    | false =>
        obtain ⟨-, -, hreleased, herrors⟩ := terminate_spec h hmid hr
        rw [hstreams] at herrors
        exact ⟨hreleased, herrors⟩
  refine ⟨?_, hreleased.1, hreleased.2, hforget⟩
  intro stream hs
  rw [← hstreams] at hs
  obtain ⟨c, hc⟩ := Session.mem_streams.mp hs
  obtain ⟨d, hd⟩ := Session.mem_streams.mp (hrelease.streams_eq ▸ hs)
  obtain ⟨hlines, hclosed, hfinished, htranscripts⟩ := hdone.complete hreleased.1 hd
  -- closed by the release, the capture is the same ever after
  have hd' := hafter.capture_eq hreleased.1 hd
  have hlast := hafter.released hreleased.1
  obtain ⟨hlines', -⟩ := hlate.complete hlast hd'
  exact ⟨c, d, hc, (hmid.follows hc).prefix_lines, hrelease.prefix_pushed hs, hd, hlines, hclosed,
    hfinished, Transcript.exists_ofReads _, htranscripts, hd', hlines'.symm.trans hlines,
    hlate.snapshot_of_released h hlast hd', hlate.wait_of_released h hlast hd'⟩

/-- What was read of the output before its end is captured by a release, a line without its end too. -/
example :
    let found := [.data [117, 112, 10, 111], .interrupted, .data [110], .data [], .data []]
    let done := (Rehearsal.live 10).terminate (Rehearsal.host .zero found).traced
    done.session.stdout.buffer.lines = [⟨"up"⟩, ⟨"on"⟩] ∧ done.pushed .stdout = [⟨"up"⟩, ⟨"on"⟩] := by
  decide

end Live

end ChildWatch
