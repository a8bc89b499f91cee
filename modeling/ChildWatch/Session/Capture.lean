import ChildWatch.Log.Buffer
import ChildWatch.Log.Pump

/-! # Captured streams

A stream that is captured: the pump that reads it and the buffer that its lines are queued for.

* `Capture.take` — reads of the pump, whose lines are queued.
* `Capture.finish` — the last reads, and what became of the pump. -/

namespace ChildWatch

/-- A **captured stream**. -/
structure Capture where
  pump : Pump
  buffer : LogBuffer

namespace Capture

/-- A stream of which nothing has been read. -/
def fresh (stream : Stream) : Capture := ⟨.fresh stream, .fresh stream⟩

/-- The buffer after the pump has given lines. The pump holds the first sender of the channel and
lets go of it when it stops. -/
def deliver (b : LogBuffer) (lines : List Text.Line) (stopped : Bool) : LogBuffer :=
  let channel := b.channel.enqueue lines
  { b with channel := if stopped then (channel.close 0).2 else channel }

/-- Lines that are delivered are queued, whether or not the pump stops. -/
theorem lines_deliver (b : LogBuffer) (lines : List Text.Line) (stopped : Bool) :
    (deliver b lines stopped).lines ++ (deliver b lines stopped).channel.queue =
      b.lines ++ b.channel.queue ++ lines := by
  have hclose (c : Log.Channel) : (c.close 0).2.queue = c.queue := by
    rw [Log.Channel.close]
    split
    · rfl
    · rfl
  cases stopped with
  | false => simp [deliver]
  | true => simp [deliver, hclose]

/-- **Reads of the pump**: the lines they complete are queued. -/
def take (c : Capture) (reads : List Read) : Capture :=
  let (lines, pump) := c.pump.feedAll reads
  ⟨pump, deliver c.buffer lines pump.finished⟩

/-- **The last reads of the pump**, which stops at the end of them if not before, and its result. The
buffer takes in everything. -/
def finish (c : Capture) (reads : List Read) : Except Error Nat × Capture :=
  let (lines, pump) := c.pump.drive reads
  let (result, pump) := pump.join
  (result, ⟨pump, (deliver c.buffer lines true).drain⟩)

/-- The buffer after a drain. -/
def drain (c : Capture) : Capture := { c with buffer := c.buffer.drain }

end Capture

end ChildWatch
