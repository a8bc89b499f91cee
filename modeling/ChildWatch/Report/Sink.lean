import ChildWatch.Error.Io
import ChildWatch.Text.Utf8

/-! # Sinks that accept bytes piecemeal

A place to write bytes to, which takes them in pieces of its own choosing, may be interrupted, and
may stop taking them.

* `Sink.write` — one call: how many bytes were taken, or why none.
* `Sink.writeAll` — calls until the bytes are used up, again after an interruption.
* `Sink.accepted` — everything taken so far. -/

namespace ChildWatch

/-- The next stretch of a sink's behaviour: room for so many bytes, or one interrupted call. A call
never takes more than the stretch it falls into, so short stretches make short writes. -/
inductive SinkStretch where
  | room (bytes : Nat)
  | interrupted
deriving DecidableEq, Repr

/-- What a sink does after its stretches: take everything, answer every call with a fault, or take
nothing more. -/
inductive SinkEnd where
  | unlimited
  | broken (fault : IoFault)
  | full
deriving DecidableEq, Repr

/-- The end of a sink whose calls fail with an error. An interruption is tried again and is no end of
anything: the sink takes everything after it. -/
def SinkEnd.fails (e : IoError) : SinkEnd := e.fault?.elim .unlimited .broken

/-- The answer to one call. -/
inductive WriteReply where
  | took (bytes : Nat)
  | interrupted
  | failed (fault : IoFault)
deriving DecidableEq, Repr

/-- A **sink**: its coming behaviour, what it has taken, newest byte first, and the replies it has
given, newest first. -/
structure Sink where
  stretches : List SinkStretch
  ending : SinkEnd
  taken : List UInt8
  replies : List WriteReply
deriving DecidableEq, Repr

namespace Sink

/-- A sink that has not been written to. -/
def fresh (stretches : List SinkStretch) (ending : SinkEnd) : Sink := ⟨stretches, ending, [], []⟩

/-- Everything taken so far, in order. -/
def accepted (s : Sink) : List UInt8 := s.taken.reverse

/-- The sink after a reply to the bytes offered, of which it keeps those it took. -/
def reply (s : Sink) (rest : List SinkStretch) (offered : List UInt8) (r : WriteReply) : Sink :=
  { s with
    stretches := rest
    taken := match r with
      | .took n => (offered.take n).reverse ++ s.taken
      | _ => s.taken
    replies := r :: s.replies }

/-- **One call** with bytes to write. A stretch of room takes what fits into it; one that is used up
is passed over. -/
def write (s : Sink) (bytes : List UInt8) : WriteReply × Sink :=
  match s.stretches.dropWhile (· == .room 0) with
  | .interrupted :: rest => (.interrupted, s.reply rest bytes .interrupted)
  | .room n :: rest =>
    let k := min n bytes.length
    (.took k, s.reply (.room (n - k) :: rest) bytes (.took k))
  | [] =>
    match s.ending with
    | .unlimited => (.took bytes.length, s.reply [] bytes (.took bytes.length))
    | .broken fault => (.failed fault, s.reply [] bytes (.failed fault))
    | .full => (.took 0, s.reply [] bytes (.took 0))

/-- What is reported when a sink takes nothing of what it is offered. -/
def wroteNothing : IoError := .custom .writeZero "failed to write whole buffer"

/-- Calls for all the bytes. Every call but the last uses up a stretch, so more `fuel` than there are
stretches is never used up. -/
def writeLoop : Nat → Sink → List UInt8 → Option IoError × Sink
  | 0, s, _ => (none, s)
  | fuel + 1, s, bytes =>
    if bytes.isEmpty then (none, s)
    else
      match s.write bytes with
      | (.took 0, s') => (some wroteNothing, s')
      | (.took n, s') => writeLoop fuel s' (bytes.drop n)
      | (.interrupted, s') => writeLoop fuel s' bytes
      | (.failed fault, s') => (some fault.error, s')

/-- **Writing all the bytes**: `none` if they were all taken, else the error that ended it. Nothing
is written, and no call made, for no bytes. -/
def writeAll (s : Sink) (bytes : List UInt8) : Option IoError × Sink :=
  writeLoop (s.stretches.length + 2) s bytes

end Sink

end ChildWatch
