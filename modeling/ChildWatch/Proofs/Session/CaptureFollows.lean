import ChildWatch.Proofs.Log.Intake
import ChildWatch.Proofs.Log.PumpTranscript
import Mathlib.Logic.Relation

/-! # A captured stream follows its pump

The pump of a captured stream reads at its own pace, and its owner drains the buffer or waits on it at
any time between two reads.

* `Pump.follow` — what a pump has made of the reads of its stream so far.
* `Capture.Step`, `Capture.Steps` — what can happen to a capture: reads come in, or queued lines are
  taken in.
* `Capture.Follows` — the invariant: lines taken in and lines queued are what the pump has given.
* `Follows.finish` — following the pump to the end of its stream closes the buffer on all its lines.
* `Follows.steps_of_closed` — nothing changes a capture that is closed. -/

namespace ChildWatch

open Log Text

namespace Pump

/-- The lines and the state of a pump that has read so much of its stream. -/
def follow (stream : Stream) (reads : List Read) : List Line × Pump := (fresh stream).feedAll reads

/-- A pump that has read so much reads some more. -/
theorem follow_append (stream : Stream) (reads more : List Read) :
    follow stream (reads ++ more) =
      ((follow stream reads).1 ++ ((follow stream reads).2.feedAll more).1,
        ((follow stream reads).2.feedAll more).2) :=
  feedAll_append (fresh stream) reads more

/-- **A pump that has stopped has given the lines of the transcript** of what it has read. -/
theorem follow_transcript {stream : Stream} {reads : List Read} {pieces : List (List UInt8)}
    {ending : Ending} (hfinished : (follow stream reads).2.finished = true)
    (htranscript : Transcript (Served.ofReads reads) pieces ending) :
    (follow stream reads).1 = pieces.map Line.ofRaw ∧
      (follow stream reads).2.outcome = some (ending.result stream pieces.length) := by
  have hidle : (fresh stream).Idle := ⟨rfl, rfl⟩
  obtain ⟨q, hq, hout, -⟩ := feedAll_transcript htranscript hidle
  rw [← drive_served, drive_of_finished hfinished] at hq
  rw [follow, hq, hout, fresh, Nat.zero_add]
  exact ⟨rfl, rfl⟩

/-- Whether its result has been collected makes no difference to what a pump makes of a read. -/
theorem feed_collected (p : Pump) (collected : Bool) (r : Read) :
    ({ p with collected := collected } : Pump).feed r =
      ((p.feed r).1, { (p.feed r).2 with collected := collected }) := by
  cases hp : p.finished with
  | true =>
      have hp' : ({ p with collected := collected } : Pump).finished = true := hp
      rw [feed_of_finished hp, feed_of_finished hp']
  | false =>
      have hp' : ({ p with collected := collected } : Pump).finished = false := hp
      unfold feed
      rw [hp, hp']
      cases r with
      | data bytes =>
          cases bytes with
          | nil =>
              by_cases hpending : p.pending.isEmpty = true
              · simp only [hpending, if_true]
                rfl
              · simp only [hpending]
                rfl
          | cons b bs => rfl
      | interrupted => rfl
      | failed fault => rfl
      | panicked => rfl

theorem feedAll_collected (p : Pump) (collected : Bool) (reads : List Read) :
    ({ p with collected := collected } : Pump).feedAll reads =
      ((p.feedAll reads).1, { (p.feedAll reads).2 with collected := collected }) := by
  induction reads generalizing p with
  | nil => rfl
  | cons r reads ih => rw [feedAll_cons, feedAll_cons, feed_collected, ih]

/-- A read collects no result. -/
theorem collected_feedAll (p : Pump) (reads : List Read) :
    (p.feedAll reads).2.collected = p.collected := by
  have h := feedAll_collected p p.collected reads
  rw [show ({ p with collected := p.collected } : Pump) = p from rfl] at h
  rw [h]

/-- A pump that has stopped does not start again. -/
theorem finished_feedAll {p : Pump} (hp : p.finished = true) (reads : List Read) :
    (p.feedAll reads).2.finished = true := by
  rw [feedAll_of_finished hp]
  exact hp

/-- A pump that is followed to the end of its stream stops. -/
theorem finished_drive (p : Pump) (reads : List Read) : (p.drive reads).2.finished = true := by
  rw [drive, feedAll_append]
  exact (feedAll_end _).2

end Pump

namespace Capture

/-- **What can happen to a captured stream** of which so much has been read: more reads come in, or
the buffer takes in some of the lines that are queued. -/
inductive Step : Capture × List Read → Capture × List Read → Prop where
  | take (c : Capture) (reads more : List Read) : Step (c, reads) (c.take more, reads ++ more)
  | look (c : Capture) (reads : List Read) {b : LogBuffer} (h : c.buffer.Takes b) :
      Step (c, reads) ({ c with buffer := b }, reads)

/-- Any number of steps, one after the other. -/
abbrev Steps : Capture × List Read → Capture × List Read → Prop := Relation.ReflTransGen Step

/-- **A capture follows its pump**: the pump is the one that has read so much; the lines taken in and
the lines queued are those it has given; its sender is open as long as it has not stopped; and the
buffer is honest about being closed. -/
structure Follows (stream : Stream) (reads : List Read) (c : Capture) : Prop where
  pump_eq : c.pump = { (Pump.follow stream reads).2 with collected := c.pump.collected }
  lines_append_queue :
    c.buffer.lines ++ c.buffer.channel.queue = (Pump.follow stream reads).1
  senders_eq : c.buffer.channel.senders = [!c.pump.finished]
  honest : c.buffer.Honest

theorem follows_fresh (stream : Stream) : (fresh stream).Follows stream [] :=
  ⟨rfl, rfl, rfl, LogBuffer.honest_fresh stream⟩

variable {stream : Stream} {reads : List Read} {c : Capture}

/-- The channel is open as long as the pump has not stopped. -/
theorem Follows.isOpen_eq (h : c.Follows stream reads) :
    c.buffer.channel.isOpen = !c.pump.finished := by
  rw [Channel.isOpen, h.senders_eq]
  cases c.pump.finished <;> rfl

/-- What is taken in is the beginning of what the pump has given. -/
theorem Follows.prefix_lines (h : c.Follows stream reads) :
    c.buffer.lines <+: (Pump.follow stream reads).1 := by
  rw [← h.lines_append_queue]
  exact List.prefix_append _ _

/-- Lines delivered by a pump are put at the end of the queue, and the only sender is closed when it
has stopped. -/
theorem deliver_eq {b : LogBuffer} {stopped : Bool} (hb : b.channel.senders = [!stopped])
    (lines : List Line) (stops : Bool) (hstops : stopped = true → stops = true) :
    deliver b lines stops =
      { b with channel := ⟨[!stops], b.channel.queue ++ lines⟩ } := by
  rw [deliver, Channel.close, Channel.isSenderOpen]
  cases stopped <;> cases stops <;> simp_all [Channel.enqueue]

/-- Taking reads puts the lines that they complete at the end of the queue. -/
theorem Follows.take_eq (h : c.Follows stream reads) (more : List Read) :
    c.take more =
      ⟨(c.pump.feedAll more).2,
        { c.buffer with
          channel := ⟨[!(c.pump.feedAll more).2.finished],
            c.buffer.channel.queue ++ (c.pump.feedAll more).1⟩ }⟩ := by
  have hstops (hp : c.pump.finished = true) := Pump.finished_feedAll hp more
  simp only [take]
  rw [deliver_eq h.senders_eq _ _ hstops]

/-- **A capture still follows its pump after more reads.** -/
theorem Follows.take (h : c.Follows stream reads) (more : List Read) :
    (c.take more).Follows stream (reads ++ more) := by
  have hfeed := Pump.feedAll_collected (Pump.follow stream reads).2 c.pump.collected more
  rw [← h.pump_eq] at hfeed
  rw [h.take_eq more]
  refine ⟨?_, ?_, rfl, ?_⟩
  · rw [Pump.follow_append, hfeed]
  · rw [Pump.follow_append, hfeed, ← h.lines_append_queue, List.append_assoc]
  · intro hclosed
    -- a closed buffer has no sender, so the pump has stopped and gives nothing
    obtain ⟨hq, ho⟩ := h.honest hclosed
    have hp : c.pump.finished = true := by
      rw [h.isOpen_eq] at ho
      simpa using ho
    rw [Pump.feedAll_of_finished hp, hq, hp]
    exact ⟨rfl, rfl⟩

/-- A capture still follows its pump when its buffer takes in lines. -/
theorem Follows.look (h : c.Follows stream reads) {b : LogBuffer} (hb : c.buffer.Takes b) :
    ({ c with buffer := b } : Capture).Follows stream reads where
  pump_eq := h.pump_eq
  lines_append_queue := hb.lines_append_queue.trans h.lines_append_queue
  senders_eq := hb.senders_eq.trans h.senders_eq
  honest := hb.honest h.honest

/-- Whatever happens to a capture, it follows its pump. -/
theorem Follows.steps {x y : Capture × List Read} (hsteps : Steps x y)
    (h : x.1.Follows stream x.2) : y.1.Follows stream y.2 := by
  induction hsteps with
  | refl => exact h
  | tail _ hstep ih =>
      cases hstep with
      | take c reads more => exact ih.take more
      | look c reads hb => exact ih.look hb

/-- Whatever happens to a capture, the result of its pump is not collected by it. -/
theorem collected_steps {x y : Capture × List Read} (hsteps : Steps x y) :
    y.1.pump.collected = x.1.pump.collected := by
  induction hsteps with
  | refl => rfl
  | tail _ hstep ih =>
      cases hstep with
      | take c reads more =>
          rw [← ih]
          exact Pump.collected_feedAll c.pump more
      | look c reads hb => exact ih

/-- Whatever happens to a capture, its stream is read further. -/
theorem prefix_reads_steps {x y : Capture × List Read} (hsteps : Steps x y) : x.2 <+: y.2 := by
  induction hsteps with
  | refl => exact List.prefix_rfl
  | tail _ hstep ih =>
      cases hstep with
      | take c reads more => exact ih.trans (List.prefix_append reads more)
      | look c reads hb => exact ih

/-- Whatever happens to a capture, its pump is the one that has been fed the reads. -/
theorem feeds_steps {x y : Capture × List Read} (hsteps : Steps x y) :
    ∃ more, y.2 = x.2 ++ more ∧ y.1.pump = (x.1.pump.feedAll more).2 := by
  induction hsteps with
  | refl => exact ⟨[], (List.append_nil _).symm, rfl⟩
  | tail _ hstep ih =>
      obtain ⟨more, hreads, hpump⟩ := ih
      cases hstep with
      | take c reads new =>
          refine ⟨more ++ new, ?_, ?_⟩
          · rw [← List.append_assoc, ← hreads]
          · rw [Pump.feedAll_append, ← hpump]
            rfl
      | look c reads hb => exact ⟨more, hreads, hpump⟩

/-! ## Closed captures -/

/-- A capture whose buffer is closed has nothing queued, and its pump has stopped. -/
theorem Follows.over (h : c.Follows stream reads) (hclosed : c.buffer.closed = true) :
    c.buffer.channel.queue = [] ∧ c.pump.finished = true := by
  obtain ⟨hq, ho⟩ := h.honest hclosed
  rw [h.isOpen_eq] at ho
  exact ⟨hq, by simpa using ho⟩

/-- All that the pump has given has been taken in by a closed capture. -/
theorem Follows.lines_eq (h : c.Follows stream reads) (hclosed : c.buffer.closed = true) :
    c.buffer.lines = (Pump.follow stream reads).1 := by
  rw [← h.lines_append_queue, (h.over hclosed).1, List.append_nil]

/-- A closed capture takes no reads. -/
theorem Follows.take_of_closed (h : c.Follows stream reads) (hclosed : c.buffer.closed = true)
    (more : List Read) : c.take more = c := by
  obtain ⟨hq, hp⟩ := h.over hclosed
  rw [h.take_eq more, Pump.feedAll_of_finished hp, List.append_nil, ← h.senders_eq]

/-- **Nothing that happens to a closed capture changes it.** -/
theorem Follows.steps_of_closed {x y : Capture × List Read} (hsteps : Steps x y)
    (h : x.1.Follows stream x.2) (hclosed : x.1.buffer.closed = true) : y.1 = x.1 := by
  induction hsteps with
  | refl => rfl
  | @tail y z hxy hstep ih =>
      have hy := h.steps hxy
      cases hstep with
      | take c reads more =>
          rw [← ih] at hclosed
          rw [← ih]
          exact hy.take_of_closed hclosed more
      | look c reads hb =>
          rw [← ih] at hclosed
          rw [← ih, hb.eq_of_closed hy.honest hclosed]

/-! ## The end of a stream -/

/-- **Following the pump to the end of its stream** closes the buffer on all the lines that it gives,
and reports how it ended. -/
theorem Follows.finish (h : c.Follows stream reads) (hc : c.pump.collected = false)
    (more : List Read) :
    ∃ result c', c.finish more = (result, c') ∧
      c'.Follows stream (reads ++ (more ++ [.data [], .data []])) ∧
      (Pump.follow stream (reads ++ (more ++ [.data [], .data []]))).2.outcome = some result ∧
      c'.buffer.closed = true := by
  have hfeed := Pump.feedAll_collected (Pump.follow stream reads).2 c.pump.collected
    (more ++ [.data [], .data []])
  rw [← h.pump_eq] at hfeed
  have hdrive : c.pump.drive more = c.pump.feedAll (more ++ [.data [], .data []]) := rfl
  -- the pump has stopped and its result is still there to be collected
  have hend := Pump.finished_drive c.pump more
  obtain ⟨result, hresult⟩ := Option.isSome_iff_exists.mp hend
  rw [hdrive] at hend hresult
  have hcollected := (Pump.collected_feedAll c.pump (more ++ [.data [], .data []])).trans hc
  -- its last lines are queued, its sender is closed, and only then comes the drain
  refine ⟨result, _, Pump.finish_eq hdrive hresult hcollected, ?_, ?_, ?_⟩
  · rw [deliver_eq h.senders_eq _ true fun _ => rfl]
    refine ⟨?_, ?_, ?_, fun _ => ⟨rfl, rfl⟩⟩
    · rw [Pump.follow_append, hfeed]
    · rw [Pump.follow_append, hfeed, ← h.lines_append_queue]
      simp
    · change [!true] = [!(c.pump.feedAll (more ++ [.data [], .data []])).2.finished]
      rw [hend]
  · rw [Pump.follow_append]
    rw [hfeed] at hresult
    exact hresult
  · rw [deliver_eq h.senders_eq _ true fun _ => rfl]
    exact Bool.or_true _

end Capture

end ChildWatch
