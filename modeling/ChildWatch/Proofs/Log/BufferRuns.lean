import ChildWatch.Log.Pump
import ChildWatch.Proofs.Log.Intake

/-! # Runs over a log buffer

A buffer is used from two sides at once: senders and pumps put lines into its channel at any time,
and its owner drains it, looks at it and waits on it.

* `LogBuffer.Scene` — the buffer with everything that is under way around it, and the lines that
  have been sent with success so far.
* `Scene.step`, `Scene.run` — one act and a run of acts, in any order.
* `Scene.step_cases` — the only two things that an act can do to the buffer.
* `Scene.run_loses_no_line` — after any run the lines taken in and the lines queued are the lines
  sent. -/

namespace ChildWatch

open Log Text

namespace LogBuffer

/-- A **pump at work** on a sender of its own. `outbox` is what its last read has led to and has not
come to pass yet: the lines to send one by one, and the end of the sender once the pump has stopped. -/
structure Feeder where
  sender : Nat
  pump : Pump
  outbox : List Channel.Use

/-- A pump reads again once it has sent everything from the read before. -/
def Feeder.read (f : Feeder) (r : Read) : Feeder :=
  if f.outbox.isEmpty && !f.pump.finished then
    let (lines, pump) := f.pump.feed r
    { f with
      pump := pump
      outbox := lines.map (.send f.sender) ++ if pump.finished then [.close f.sender] else [] }
  else f

/-- A wait under way. -/
structure Attempt where
  waiter : Waiter
  phase : Waiter.Phase

/-- **A buffer in use**: the pumps that feed it, the wait that is under way, and all lines sent with
success so far, in the order in which they were sent. -/
structure Scene where
  buffer : LogBuffer
  feeders : List Feeder
  attempt : Option Attempt
  sent : List Line

/-- **What can happen** to a buffer in use: its sending side is used, a pump is started on a sender
cloned for it, a pump reads, or sends what comes next; the owner drains the buffer, takes a snapshot,
looks for a pattern, begins a wait, polls it, or drops it. -/
inductive Act where
  | use (u : Channel.Use)
  | startPump
  | read (feeder : Nat) (r : Read)
  | push (feeder : Nat)
  | drain
  | snapshot
  | contains (p : Pattern)
  | wait (w : Waiter)
  | poll (now : Instant)
  | giveUp

namespace Scene

/-- An empty buffer of which nothing is under way. -/
def fresh (stream : Stream) : Scene := ⟨.fresh stream, [], none, []⟩

/-- A use of the sending side; a line that is sent with success is put on record. -/
def use (s : Scene) (u : Channel.Use) : Scene :=
  { s with buffer := s.buffer.use u, sent := s.sent ++ s.buffer.channel.accepted u }

/-- The next use in the outbox of a pump. -/
def push (s : Scene) (feeder : Nat) : Scene :=
  match s.feeders[feeder]? with
  | some ⟨sender, pump, u :: outbox⟩ =>
    { s.use u with feeders := s.feeders.set feeder ⟨sender, pump, outbox⟩ }
  | _ => s

/-- The owner uses the buffer. A wait has it for itself, so one that is under way is dropped first. -/
def own (s : Scene) (b : LogBuffer) : Scene := { s with buffer := b, attempt := none }

/-- A poll of the wait under way, which is over unless the verdict is still pending. -/
def poll (s : Scene) (now : Instant) : Scene :=
  match s.attempt with
  | none => s
  | some a =>
    let (verdict, phase, buffer) := a.waiter.poll a.phase now s.buffer
    { s with
      buffer := buffer
      attempt := if verdict = .pending then some ⟨a.waiter, phase⟩ else none }

/-- **One act.** -/
def step (s : Scene) : Act → Scene
  | .use u => s.use u
  | .startPump =>
    { s.use .clone with
      feeders := s.feeders ++ [⟨s.buffer.channel.senders.length, .fresh s.buffer.stream, []⟩] }
  | .read k r => { s with feeders := s.feeders.modify k (·.read r) }
  | .push k => s.push k
  | .drain => s.own s.buffer.drain
  | .snapshot => s.own s.buffer.snapshot.2
  | .contains _ => s.own s.buffer
  | .wait w => { s with attempt := some ⟨w, .fresh⟩ }
  | .poll now => s.poll now
  | .giveUp => { s with attempt := none }

/-- **A run** of acts. -/
def run (s : Scene) (acts : List Act) : Scene := acts.foldl step s

/-- **What one act can do to the buffer**: its sending side is used, and what is sent with success
goes on record, or queued lines are taken in. -/
theorem step_cases (s : Scene) (a : Act) :
    (∃ u, (s.step a).buffer = s.buffer.use u ∧
        (s.step a).sent = s.sent ++ s.buffer.channel.accepted u) ∨
      (s.buffer.Takes (s.step a).buffer ∧ (s.step a).sent = s.sent) := by
  cases a with
  | use u => exact Or.inl ⟨u, rfl, rfl⟩
  | startPump => exact Or.inl ⟨.clone, rfl, rfl⟩
  | push k =>
      rw [step, push]
      split
      · exact Or.inl ⟨_, rfl, rfl⟩
      · exact Or.inr ⟨.refl _, rfl⟩
  | drain => exact Or.inr ⟨s.buffer.takes_drain, rfl⟩
  | snapshot => exact Or.inr ⟨s.buffer.takes_drain, rfl⟩
  | poll now =>
      rw [step, poll]
      split
      · exact Or.inr ⟨.refl _, rfl⟩
      · exact Or.inr ⟨Waiter.takes_poll _ _ _ _, rfl⟩
  | read k r => exact Or.inr ⟨.refl _, rfl⟩
  | contains p => exact Or.inr ⟨.refl _, rfl⟩
  | wait w => exact Or.inr ⟨.refl _, rfl⟩
  | giveUp => exact Or.inr ⟨.refl _, rfl⟩

/-- **The invariant of a run**: the lines taken in and the lines queued are the lines sent with
success, and the buffer is honest about being closed. -/
structure Sound (s : Scene) : Prop where
  complete : s.buffer.lines ++ s.buffer.channel.queue = s.sent
  honest : s.buffer.Honest

theorem sound_fresh (stream : Stream) : (fresh stream).Sound := ⟨rfl, honest_fresh stream⟩

/-- One act keeps the invariant. -/
theorem Sound.step {s : Scene} (h : s.Sound) (a : Act) : (s.step a).Sound := by
  rcases s.step_cases a with ⟨u, hb, hs⟩ | ⟨ht, hs⟩
  -- the sending side: what is accepted goes to the end of both the queue and the record
  · constructor
    · rw [hb, hs, lines_use, channel_use, Channel.queue_after, ← List.append_assoc, h.complete]
    · rw [hb]
      exact honest_use h.honest u
  -- the receiving side: lines move from the queue to the buffer
  · constructor
    · rw [ht.lines_append_queue, hs, h.complete]
    · exact ht.honest h.honest

/-- A run keeps the invariant. -/
theorem Sound.run {s : Scene} (h : s.Sound) (acts : List Act) : (s.run acts).Sound := by
  induction acts generalizing s with
  | nil => exact h
  | cons a acts ih => exact ih (h.step a)

/-- The invariant holds after every run. -/
theorem sound_run_fresh (stream : Stream) (acts : List Act) : ((fresh stream).run acts).Sound :=
  (sound_fresh stream).run acts

/-- One act removes nothing, neither from the buffer nor from the record. -/
theorem prefix_step (s : Scene) (a : Act) :
    s.buffer.lines <+: (s.step a).buffer.lines ∧ s.sent <+: (s.step a).sent := by
  rcases s.step_cases a with ⟨u, hb, hs⟩ | ⟨ht, hs⟩
  · rw [hb, hs, lines_use]
    exact ⟨List.prefix_rfl, List.prefix_append _ _⟩
  · rw [hs]
    exact ⟨ht.prefix_lines, List.prefix_rfl⟩

/-- A run removes nothing. -/
theorem prefix_run (s : Scene) (acts : List Act) :
    s.buffer.lines <+: (s.run acts).buffer.lines ∧ s.sent <+: (s.run acts).sent := by
  induction acts generalizing s with
  | nil => exact ⟨List.prefix_rfl, List.prefix_rfl⟩
  | cons a acts ih =>
      obtain ⟨hlines, hsent⟩ := s.prefix_step a
      obtain ⟨hlines', hsent'⟩ := ih (s.step a)
      exact ⟨hlines.trans hlines', hsent.trans hsent'⟩

/-- **No line is lost, doubled, moved or removed.** At every moment `s` of a run the lines of the
buffer followed by the queued lines are the lines sent with success, in the order in which they were
sent; a snapshot shows all of them; and at every later moment `t` the lines of the buffer, and the
lines sent, begin with those of `s`. -/
theorem run_loses_no_line (stream : Stream) (before after : List Act) :
    let s := (fresh stream).run before
    let t := s.run after
    s.buffer.lines ++ s.buffer.channel.queue = s.sent ∧
      s.buffer.snapshot.1 = s.sent.map (·.text) ∧
      s.buffer.lines <+: t.buffer.lines ∧ s.sent <+: t.sent := by
  intro s t
  have hsound : s.Sound := sound_run_fresh stream before
  refine ⟨hsound.complete, ?_, s.prefix_run after⟩
  rw [snapshot, texts, lines_drain, hsound.complete]

end Scene

end LogBuffer

end ChildWatch
