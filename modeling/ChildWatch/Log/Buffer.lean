import ChildWatch.Log.Channel
import ChildWatch.Pattern
import ChildWatch.Stream

/-! # Log buffers

The record of everything captured from a stream, with the channel that feeds it. Lines are only ever
added, at the end.

* `LogBuffer.drain` — takes in what is queued.
* `LogBuffer.snapshot` — takes it in and shows all the lines.
* `LogBuffer.contains` — whether a line taken in holds a pattern. -/

namespace ChildWatch

open Log Text

/-- A **log buffer**: the lines taken in, the channel, and whether the channel has been seen to be
at its end. -/
structure LogBuffer where
  stream : Stream
  lines : List Line
  channel : Channel
  closed : Bool
deriving DecidableEq, Repr

namespace LogBuffer

/-- An empty buffer with a fresh channel. -/
def fresh (stream : Stream) : LogBuffer := ⟨stream, [], .fresh, false⟩

/-- Whether nothing has been taken in. -/
def isEmpty (b : LogBuffer) : Bool := b.lines.isEmpty

/-- One line taken in. -/
def push (b : LogBuffer) (line : Line) : LogBuffer := { b with lines := b.lines ++ [line] }

/-- The end of the channel has been seen. -/
def markClosed (b : LogBuffer) : LogBuffer := { b with closed := true }

/-- **Takes in every queued line.** If no sender is left the buffer is closed. -/
def drain (b : LogBuffer) : LogBuffer :=
  { b with
    lines := b.lines ++ b.channel.queue
    channel := { b.channel with queue := [] }
    closed := b.closed || !b.channel.isOpen }

/-- How many lines a drain takes in. -/
def drainCount (b : LogBuffer) : Nat := b.channel.queue.length

/-- The texts of the lines taken in. -/
def texts (b : LogBuffer) : List String := b.lines.map (·.text)

/-- Everything captured so far, after a drain. -/
def snapshot (b : LogBuffer) : List String × LogBuffer := (b.drain.texts, b.drain)

/-- Whether a line taken in holds the pattern. -/
def contains (b : LogBuffer) (p : Pattern) : Bool := b.lines.any p.accepts

@[simp] theorem lines_drain (b : LogBuffer) : b.drain.lines = b.lines ++ b.channel.queue := rfl

@[simp] theorem queue_drain (b : LogBuffer) : b.drain.channel.queue = [] := rfl

@[simp] theorem isOpen_drain (b : LogBuffer) :
    b.drain.channel.isOpen = b.channel.isOpen := rfl

@[simp] theorem lines_push (b : LogBuffer) (line : Line) :
    (b.push line).lines = b.lines ++ [line] := rfl

end LogBuffer

end ChildWatch
