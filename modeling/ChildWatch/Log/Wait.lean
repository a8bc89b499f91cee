import ChildWatch.Log.Buffer
import ChildWatch.Time.Instant

/-! # Waiting for a pattern

A wait runs on a buffer and a clock and is polled: each poll answers that the pattern has been seen,
that the time is up, or that the wait goes on.

* `Waiter` — a pattern and the time allowed for it.
* `Waiter.Outcome` — what a poll comes to, `Waiter.proceed` — one poll. The first one fixes the
  deadline.
* `Waiter.poll` — one poll and its verdict, `Waiter.answer` — what the one who waits is told of it. -/

namespace ChildWatch

open Log Text

/-- A **waiter**: what is waited for, and for how long at most. -/
structure Waiter where
  pattern : Pattern
  timeout : Duration

namespace Waiter

/-- How far a wait has come: not yet polled, or polled once, with the deadline that fixed, if the
clock can show it. -/
inductive Phase where
  | fresh
  | waiting (deadline : Option Instant)

/-- The answer to a poll. -/
inductive Verdict where
  | matched
  | expired
  | pending
deriving DecidableEq, Repr

/-- **What a poll comes to.** A match is found among the lines that the first poll looks at, in a line
that is received, or by the last look; without one the stream comes to its end or the time is up; or
the wait goes on. -/
inductive Outcome where
  | captured
  | received
  | foundLast
  | closed
  | timedOut
  | pending
deriving DecidableEq, Repr

/-- The verdict on what a poll comes to. -/
def Outcome.verdict : Outcome → Verdict
  | .captured | .received | .foundLast => .matched
  | .closed | .timedOut => .expired
  | .pending => .pending

/-- The error of a wait that is over without a match. -/
def timeoutError (w : Waiter) : Error := .patternTimeout w.pattern.text w.timeout

/-- What the one who waits is told, if the verdict ends the wait. -/
def answer (w : Waiter) : Verdict → Option (Except Error Unit)
  | .matched => some (.ok ())
  | .expired => some (.error w.timeoutError)
  | .pending => none

/-- **The last look**, when the deadline has come: what is queued is taken in, and these lines still
count. -/
def lastLook (p : Pattern) (b : LogBuffer) : Outcome × LogBuffer :=
  let start := b.lines.length
  let b := b.drain
  (if (b.lines.drop start).any p.accepts then .foundLast else .timedOut, b)

/-- The lines that the last look is about are those that were queued. -/
theorem lastLook_eq (p : Pattern) (b : LogBuffer) :
    lastLook p b =
      (if b.channel.queue.any p.accepts then .foundLast else .timedOut, b.drain) := by
  simp [lastLook]

/-- **Receiving** queued lines one by one, up to the first that matches; what is queued after it
stays there. `due` is whether the deadline has come, which is asked before each line. With nothing
queued the wait is over if no sender is left. -/
def receive (p : Pattern) (due : Bool) (b : LogBuffer) : Outcome × LogBuffer :=
  go b.channel.queue b
where
  /-- The buffer's queue is `queue`. -/
  go (queue : List Line) (b : LogBuffer) : Outcome × LogBuffer :=
    if due then lastLook p b
    else
      match queue with
      | [] => if b.channel.isOpen then (.pending, b) else (.closed, b.markClosed)
      | line :: rest =>
        let b := { b with channel := { b.channel with queue := rest } }.push line
        if p.accepts line then (.received, b) else go rest b

/-- The first poll: takes in what is queued and looks at all the lines. -/
def firstPoll (w : Waiter) (now : Instant) (b : LogBuffer) : Outcome × Phase × LogBuffer :=
  let deadline := now.checkedAdd w.timeout
  let b := b.drain
  let (outcome, b) :=
    if b.contains w.pattern then (.captured, b)
    else if b.closed then (.closed, b)
    else receive w.pattern (Instant.reached deadline now) b
  (outcome, .waiting deadline, b)

/-- A later poll: one queued line is received before the deadline is looked at. -/
def resume (w : Waiter) (deadline : Option Instant) (now : Instant) (b : LogBuffer) :
    Outcome × LogBuffer :=
  let due := Instant.reached deadline now
  match b.channel.queue with
  | [] =>
    if b.channel.isOpen then if due then lastLook w.pattern b else (.pending, b)
    else (.closed, b.markClosed)
  | line :: rest =>
    let b := { b with channel := { b.channel with queue := rest } }.push line
    if w.pattern.accepts line then (.received, b) else receive w.pattern due b

/-- **One poll** at a reading of the clock, and what it comes to. -/
def proceed (w : Waiter) (phase : Phase) (now : Instant) (b : LogBuffer) :
    Outcome × Phase × LogBuffer :=
  match phase with
  | .fresh => w.firstPoll now b
  | .waiting deadline =>
    let (outcome, b) := w.resume deadline now b
    (outcome, .waiting deadline, b)

/-- One poll, with the verdict alone. -/
def poll (w : Waiter) (phase : Phase) (now : Instant) (b : LogBuffer) :
    Verdict × Phase × LogBuffer :=
  ((w.proceed phase now b).1.verdict, (w.proceed phase now b).2)

end Waiter

end ChildWatch
