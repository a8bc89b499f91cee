import ChildWatch.Journal.Entry
import ChildWatch.Log.Pump
import ChildWatch.Session.Delivery
import ChildWatch.Session.State
import ChildWatch.Time.Instant

/-! # The host of a session

What a session asks of the system that its child runs on. A host answers from a state of its own and
may answer as it likes, so that whatever holds of a session on every host holds of every behaviour
of its child.

* `Host` — the questions.
* `Host.jot` — entries for the journal, as many as there are to make. -/

namespace ChildWatch

/-- A **host** of one child, `σ` being the state of the system. The child leads a group of processes,
and the pumps of its streams read at their own pace: a session learns of their reads when it asks. -/
structure Host (σ : Type) where
  /-- The reading of the clock. -/
  now : σ → Instant
  /-- Some time passes. -/
  pause : Duration → σ → σ
  /-- Time passes until a pump has read something, or to a deadline. -/
  idle : Option Instant → σ → σ
  /-- How the child ended, if it has; once that is known, the child is gone. -/
  poll : σ → Except IoError (Option ExitStatus) × σ
  /-- Time passes until the child has ended, and then it is gone. -/
  await : σ → Except IoError ExitStatus × σ
  /-- A signal for the child. -/
  signal : Signal → σ → Option Refusal × σ
  /-- A signal for the child's group. -/
  signalGroup : Signal → σ → Option Refusal × σ
  /-- The child is killed, if it is not gone already. -/
  kill : σ → Except IoError Unit × σ
  /-- What the pump of a stream has read since this was last asked. -/
  reads : Stream → σ → List Read × σ
  /-- Time passes until the pump of a stream is at the end of it: what it has read since. -/
  rest : Stream → σ → List Read × σ
  /-- An entry for the journal. -/
  note : Journal.Entry → σ → σ

/-- Entries for the journal, one after the other. -/
def Host.jot {σ : Type} (h : Host σ) : List Journal.Entry → σ → σ
  | [], system => system
  | entry :: rest, system => jot h rest (h.note entry system)

end ChildWatch
