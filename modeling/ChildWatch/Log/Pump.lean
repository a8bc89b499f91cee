import ChildWatch.Error
import ChildWatch.Text.Line

/-! # Line pumps

A pump reads the bytes of a stream and cuts them into lines. It is fed one read at a time.

* `Read` — what one read of a stream gives.
* `Pump.feed` — takes in one read and gives the lines it completes.
* `Pump.join` — collects the result of a pump that has stopped, once.
* `Source.reads` — the reads of a scripted source through a buffer of a given size. -/

namespace ChildWatch

open Text

/-- What one read of a stream gives: bytes, an interruption, a fault, or a panic. No bytes at all
mean the end of the stream, for now. -/
inductive Read where
  | data (bytes : List UInt8)
  | interrupted
  | failed (fault : IoFault)
  | panicked
deriving DecidableEq, Repr

/-- An error of a read, which is an interruption if it is not a fault. -/
def Read.ofError (e : IoError) : Read := e.fault?.elim .interrupted .failed

/-- A **pump**: the stream it reads, the bytes of the line under way, newest first, how many lines it
has given, and how it stopped, if it has. -/
structure Pump where
  stream : Stream
  pending : List UInt8
  pushed : Nat
  outcome : Option (Except Error Nat)
  collected : Bool

namespace Pump

/-- A pump that has read nothing. -/
def fresh (stream : Stream) : Pump := ⟨stream, [], 0, none, false⟩

/-- Whether the pump has stopped. -/
def finished (p : Pump) : Bool := p.outcome.isSome

/-- Bytes cut into lines: `pending` is the line under way, newest byte first, and `done` the lines
found so far, latest first. -/
def cut (pending : List UInt8) (done : List Line) : List UInt8 → List Line × List UInt8
  | [] => (done.reverse, pending)
  | b :: rest =>
    if b = Line.lineFeed then cut [] (.ofRaw (b :: pending).reverse :: done) rest
    else cut (b :: pending) done rest

/-- The pump after giving some lines. -/
def gave (p : Pump) (lines : List Line) (pending : List UInt8) : Pump :=
  { p with pending := pending, pushed := p.pushed + lines.length }

/-- The pump after it stops. -/
def stop (p : Pump) (outcome : Except Error Nat) : Pump := { p with outcome := some outcome }

/-- **One read.** At the end of the stream an unfinished line is given and reading goes on; with none
the pump stops. A fault or a panic stops it, and an unfinished line is lost. -/
def feed (p : Pump) (r : Read) : List Line × Pump :=
  if p.finished then ([], p)
  else
    match r with
    | .data [] =>
      if p.pending.isEmpty then ([], p.stop (.ok p.pushed))
      else
        let lines := [Line.ofRaw p.pending.reverse]
        (lines, p.gave lines [])
    | .data bytes =>
      let (lines, pending) := cut p.pending [] bytes
      (lines, p.gave lines pending)
    | .interrupted => ([], p)
    | .failed fault => ([], p.stop (.error (.pumpRead p.stream fault.error)))
    | .panicked => ([], p.stop (.error (.pumpPanicked p.stream)))

/-- Reads one after the other. -/
def feedAll (p : Pump) : List Read → List Line × Pump
  | [] => ([], p)
  | r :: rest =>
    let (lines, p) := p.feed r
    let (more, p) := p.feedAll rest
    (lines ++ more, p)

/-- Reads one after the other, and then the end of the stream as often as it takes to stop. -/
def drive (p : Pump) (reads : List Read) : List Line × Pump :=
  p.feedAll (reads ++ [.data [], .data []])

/-- **The result of a pump that has stopped**: how many lines it gave, or why it stopped. It is
handed out once; after that there is nothing left to report. -/
def join (p : Pump) : Except Error Nat × Pump :=
  if p.collected then (.ok 0, p)
  else (p.outcome.getD (.ok p.pushed), { p with collected := true })

end Pump

/-- A step of a scripted source. -/
inductive Source where
  | bytes (bs : List UInt8)
  | zero
  | error (e : IoError)
  | panic

namespace Source

/-- Bytes in pieces of at most `size`. -/
def pieces (size : Nat) : Nat → List UInt8 → List (List UInt8)
  | 0, _ => []
  | fuel + 1, bs =>
    if bs.isEmpty then []
    else bs.take size :: pieces size fuel (bs.drop size)

/-- The reads of a step through a buffer of `size` bytes. A step without bytes is passed over. -/
def stepReads (size : Nat) : Source → List Read
  | bytes bs => (pieces size bs.length bs).map .data
  | zero => [.data []]
  | error e => [.ofError e]
  | panic => [.panicked]

/-- The size of the buffer that pumps read through. -/
def bufferSize : Nat := 8192

/-- The reads of a script. -/
def reads (size : Nat) (steps : List Source) : List Read := steps.flatMap (stepReads size)

end Source

end ChildWatch
