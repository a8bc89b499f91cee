import ChildWatch.Session.Release

/-! # Runs of a session on record

A session is used in any order, by operations one after the other. Its host answers as it likes, so
what the session did can only be told from what passed between the two. `Host.traced` is the same host
with a record of that beside its state.

* `Live.Op`, `Live.step`, `Live.run` — the operations, one of them, and any number of them.
* `Host.Event` — a question to the host that matters, with the answer to it.
* `Host.Traced`, `Host.traced` — a state with its record, and the host that keeps it.
* `Traced.reads` — all that the pump of a stream has read. -/

namespace ChildWatch

namespace Live

variable {σ : Type} (h : Host σ)

/-- **What can be done with a session**: dropping it is terminating it, and a wait that is dropped is
one that is given up after some polls. Time may pass between two operations. -/
inductive Op where
  | isAlive
  | snapshot (stream : Stream)
  | wait (stream : Stream) (w : Waiter) (polls : Nat)
  | signal (s : Signal)
  | takePumpErrors
  | terminate
  | pause (d : Duration)

/-- The session after an operation. -/
def step (l : Live σ) : Op → Live σ
  | .isAlive => (l.isAlive h).2
  | .snapshot stream => (l.snapshot h stream).2
  | .wait stream w polls => (l.wait h stream w polls).2
  | .signal s => (l.signal h s).2
  | .takePumpErrors => { l with session := l.session.takePumpErrors.2 }
  | .terminate => l.terminate h
  | .pause d => { l with system := h.pause d l.system }

/-- The session after any number of operations, one after the other. -/
def run (l : Live σ) (ops : List Op) : Live σ := ops.foldl (step h) l

theorem run_append (l : Live σ) (ops more : List Op) :
    l.run h (ops ++ more) = (l.run h ops).run h more :=
  List.foldl_append

end Live

namespace Host

/-- **What passes between a session and its host**: how the child was found, what was sent to it, and
what the pumps have read. -/
inductive Event where
  | polled (answer : Except IoError (Option ExitStatus))
  | awaited (answer : Except IoError ExitStatus)
  | signalled (s : Signal) (refusal : Option Refusal)
  | groupSignalled (s : Signal) (refusal : Option Refusal)
  | killed (answer : Except IoError Unit)
  | read (stream : Stream) (reads : List Read)
  | rested (stream : Stream) (reads : List Read)

/-- The reads that an event brings from a stream. A pump that has come to the end of its stream has
read the end of it: a read of no bytes, and a second one if the first has only ended a line. -/
def Event.reads (stream : Stream) : Event → List Read
  | .read s reads => if s = stream then reads else []
  | .rested s reads => if s = stream then reads ++ [.data [], .data []] else []
  | _ => []

/-- An event with the reading of the clock at which the host was asked. -/
structure Record where
  time : Instant
  event : Event

/-- The state of a host with the record of what has passed, oldest first. -/
structure Traced (σ : Type) where
  state : σ
  trace : List Record

variable {σ : Type}

/-- The state and the record after one more event. -/
def Traced.log (t : Traced σ) (h : Host σ) (e : Event) (state : σ) : Traced σ :=
  ⟨state, t.trace ++ [⟨h.now t.state, e⟩]⟩

/-- **The same host, on record.** -/
def traced (h : Host σ) : Host (Traced σ) where
  now t := h.now t.state
  pause d t := { t with state := h.pause d t.state }
  idle deadline t := { t with state := h.idle deadline t.state }
  poll t :=
    let (answer, state) := h.poll t.state
    (answer, t.log h (.polled answer) state)
  await t :=
    let (answer, state) := h.await t.state
    (answer, t.log h (.awaited answer) state)
  signal s t :=
    let (refusal, state) := h.signal s t.state
    (refusal, t.log h (.signalled s refusal) state)
  signalGroup s t :=
    let (refusal, state) := h.signalGroup s t.state
    (refusal, t.log h (.groupSignalled s refusal) state)
  kill t :=
    let (answer, state) := h.kill t.state
    (answer, t.log h (.killed answer) state)
  reads stream t :=
    let (reads, state) := h.reads stream t.state
    (reads, t.log h (.read stream reads) state)
  rest stream t :=
    let (reads, state) := h.rest stream t.state
    (reads, t.log h (.rested stream reads) state)
  note e t := { t with state := h.note e t.state }

namespace Traced

/-- **All that the pump of a stream has read**, in the order in which it was read. -/
def reads (t : Traced σ) (stream : Stream) : List Read :=
  t.trace.flatMap fun r => r.event.reads stream

@[simp] theorem reads_mk (state : σ) (t : Traced σ) (stream : Stream) :
    reads { t with state := state } stream = t.reads stream := rfl

@[simp] theorem reads_log (t : Traced σ) (h : Host σ) (e : Event) (state : σ) (stream : Stream) :
    (t.log h e state).reads stream = t.reads stream ++ e.reads stream := by
  simp [reads, log]

end Traced

/-- Entries for the journal are not on record. -/
theorem jot_traced (h : Host σ) (entries : List Journal.Entry) (t : Traced σ) :
    h.traced.jot entries t = { t with state := h.jot entries t.state } := by
  induction entries generalizing t with
  | nil => rfl
  | cons entry rest ih => exact ih (h.traced.note entry t)

@[simp] theorem trace_traced_jot (h : Host σ) (entries : List Journal.Entry) (t : Traced σ) :
    (h.traced.jot entries t).trace = t.trace := by
  rw [jot_traced]

section Reads

variable (h : Host σ) (t : Traced σ) (stream : Stream)

@[simp] theorem reads_traced_pause (d : Duration) :
    (h.traced.pause d t).reads stream = t.reads stream := rfl

@[simp] theorem reads_traced_idle (deadline : Option Instant) :
    (h.traced.idle deadline t).reads stream = t.reads stream := rfl

@[simp] theorem reads_traced_note (e : Journal.Entry) :
    (h.traced.note e t).reads stream = t.reads stream := rfl

@[simp] theorem reads_traced_jot (entries : List Journal.Entry) :
    (h.traced.jot entries t).reads stream = t.reads stream := by
  rw [jot_traced, Traced.reads_mk]

@[simp] theorem reads_traced_poll : (h.traced.poll t).2.reads stream = t.reads stream := by
  simp [traced, Event.reads]

@[simp] theorem reads_traced_await : (h.traced.await t).2.reads stream = t.reads stream := by
  simp [traced, Event.reads]

@[simp] theorem reads_traced_signal (s : Signal) :
    (h.traced.signal s t).2.reads stream = t.reads stream := by
  simp [traced, Event.reads]

@[simp] theorem reads_traced_signalGroup (s : Signal) :
    (h.traced.signalGroup s t).2.reads stream = t.reads stream := by
  simp [traced, Event.reads]

@[simp] theorem reads_traced_kill : (h.traced.kill t).2.reads stream = t.reads stream := by
  simp [traced, Event.reads]

/-- What a pump is found to have read goes on the record of its stream. -/
theorem reads_traced_reads :
    (h.traced.reads stream t).2.reads stream = t.reads stream ++ (h.traced.reads stream t).1 := by
  simp [traced, Event.reads]

theorem reads_traced_reads_of_ne {other : Stream} (hne : other ≠ stream) :
    (h.traced.reads other t).2.reads stream = t.reads stream := by
  simp [traced, Event.reads, hne]

/-- So does the rest of it, up to the end of the stream. -/
theorem reads_traced_rest :
    (h.traced.rest stream t).2.reads stream =
      t.reads stream ++ ((h.traced.rest stream t).1 ++ [.data [], .data []]) := by
  simp [traced, Event.reads]

theorem reads_traced_rest_of_ne {other : Stream} (hne : other ≠ stream) :
    (h.traced.rest other t).2.reads stream = t.reads stream := by
  simp [traced, Event.reads, hne]

end Reads

end Host

end ChildWatch
