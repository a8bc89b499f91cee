import ChildWatch.Session.Basic

/-! # The release of a session

A session is released once: its child is stopped and reaped, what is left of its group is asked to
go, and the pumps are followed to the end of their streams.

* `Live.stopChild` — SIGTERM for the group, and SIGKILL when a grace period is over.
* `Live.stopLeftovers` — the same for members of the group that still hold the child's streams.
* `Live.joinPumps` — the results of the pumps.
* `Live.terminate` — all of it. -/

namespace ChildWatch.Live

variable {σ : Type} (h : Host σ)

/-- How long the streams of a child that has been reaped may take to come to their end. -/
def settleTime : Duration := .ofMillis 50

/-- As many looks as a span of time allows for, with a pause between one and the next. -/
def looks (span : Duration) : Nat := span.toNanos / pollInterval.toNanos + 2

/-- **A signal for the child's group.** The system is asked only for a number that a process can
have. -/
def sendGroup (s : Signal) (l : Live σ) : Except Error Unit × Live σ :=
  if Signal.maxPid < l.session.pid then (s.deliver l.session.pid none, l)
  else
    let (refusal, system) := h.signalGroup s l.system
    (s.deliver l.session.pid refusal, { l with system := system })

/-- The child alone is killed. -/
def killChild (l : Live σ) : Except IoError Unit × Live σ :=
  let (answer, system) := h.kill l.system
  (answer, { l with system := system })

/-- The child is waited for. -/
def reap (l : Live σ) : Except IoError ExitStatus × Live σ :=
  let (status, system) := h.await l.system
  (status, { l with system := system })

/-- SIGKILL for the group, or for the child alone if the group cannot be signalled; then the child is
waited for. -/
def killGroup (grace : Duration) (l : Live σ) : Except IoError ExitStatus × Live σ :=
  let l := note h .warn ("pid " ++ toString l.session.pid ++ " still running " ++ grace.text ++
    " after SIGTERM, sending SIGKILL") l
  match sendGroup h .kill l with
  | (.ok (), l) => reap h l
  | (.error _, l) =>
    match killChild h l with
    | (.ok (), l) => reap h l
    | (.error e, l) => (.error e, l)

/-- The child is polled until the deadline and then killed. One that outlasts all the looks before the
deadline has come is waited for. -/
def awaitLoop (grace : Duration) (deadline : Option Instant) :
    Nat → Live σ → Except IoError ExitStatus × Live σ
  | 0, l => reap h l
  | n + 1, l =>
    if Instant.reached deadline (h.now l.system) then killGroup h grace l
    else
      match h.poll l.system with
      | (.error e, system) => (.error e, { l with system := system })
      | (.ok (some status), system) => (.ok status, { l with system := system })
      | (.ok none, system) =>
        awaitLoop grace deadline n { l with system := h.pause pollInterval system }

/-- **The grace period** of a child that has been sent SIGTERM. -/
def awaitWithGrace (grace : Duration) (l : Live σ) : Except IoError ExitStatus × Live σ :=
  awaitLoop h grace ((h.now l.system).checkedAdd grace) (looks grace) l

/-- SIGTERM for the group; if it cannot be signalled, the child is killed. -/
def askGroup (l : Live σ) : Live σ :=
  match sendGroup h .terminate l with
  | (.ok (), l) => l
  | (.error e, l) =>
    let l := note h .warn ("SIGTERM to pid " ++ toString l.session.pid ++ " failed (" ++ e.message ++
      "), killing instead") l
    match killChild h l with
    | (.ok (), l) => l
    | (.error e, l) =>
      note h .debug ("Kill of pid " ++ toString l.session.pid ++ " failed: " ++ e.message) l

/-- A child that has been asked to go is waited for, with a grace period or for as long as it takes. -/
def awaitChild (l : Live σ) : Except IoError ExitStatus × Live σ :=
  match l.session.grace with
  | some grace => awaitWithGrace h grace l
  | none => reap h l

/-- **Stopping the child**, which is reaped in the end, whatever that takes. -/
def stopChild (l : Live σ) : Live σ :=
  match awaitChild h (askGroup h l) with
  | (.ok status, l) =>
    note h .debug ("pid " ++ toString l.session.pid ++ " stopped: " ++ status.text) l
  | (.error e, l) =>
    note h .warn ("Waiting for pid " ++ toString l.session.pid ++ " failed: " ++ e.message) l

/-- Whether the deadline comes before every pump has stopped, found out in a number of looks. -/
def overdueLoop (deadline : Option Instant) : Nat → Live σ → Bool × Live σ
  | 0, l => (false, l)
  | n + 1, l =>
    let l := sync h l
    if l.session.pumpsFinished then (false, l)
    else if Instant.reached deadline (h.now l.system) then (true, l)
    else overdueLoop deadline n { l with system := h.pause pollInterval l.system }

/-- Whether some pump has not stopped after a span of time. -/
def pumpsOverdue (span : Duration) (l : Live σ) : Bool × Live σ :=
  overdueLoop h ((h.now l.system).checkedAdd span) (looks span) l

/-- SIGKILL for what is left of a group that still holds output when its grace period is over. -/
def killLeftovers (grace : Duration) (l : Live σ) : Live σ :=
  let l := note h .warn ("Process group " ++ toString l.session.pid ++ " still holds output " ++
    grace.text ++ " after SIGTERM, sending SIGKILL") l
  match sendGroup h .kill l with
  | (.ok (), l) => l
  | (.error e, l) =>
    note h .debug ("Killing process group " ++ toString l.session.pid ++ " failed: " ++ e.message) l

/-- The grace period of what is left of a group that has been sent SIGTERM. -/
def awaitLeftovers (grace : Duration) (l : Live σ) : Live σ :=
  let looked := pumpsOverdue h grace l
  if looked.1 then killLeftovers h grace looked.2 else looked.2

/-- SIGTERM for what is left of a group, and its grace period. -/
def askLeftovers (l : Live σ) : Live σ :=
  let l := note h .debug ("Output of pid " ++ toString l.session.pid ++
    " still open after exit, stopping its group") l
  match sendGroup h .terminate l with
  | (.error e, l) =>
    note h .debug ("Signalling process group " ++ toString l.session.pid ++ " failed: " ++
      e.message) l
  | (.ok (), l) =>
    match l.session.grace with
    | some grace => awaitLeftovers h grace l
    | none => l

/-- **Stopping what is left of the group.** Signals are sent only while some stream is still held
open, since as long as that is so the number of the group is not given to another. -/
def stopLeftovers (l : Live σ) : Live σ :=
  let looked := pumpsOverdue h settleTime l
  if looked.1 then askLeftovers h looked.2 else looked.2

/-- The pump of one captured stream is followed to the end of the stream; an error of it is put on
record. -/
def joinPump (l : Live σ) (stream : Stream) : Live σ :=
  match l.session.capture? stream with
  | none => l
  | some c =>
    let (reads, system) := h.rest stream l.system
    let (result, after) := c.finish reads
    -- what the pump reads at the end of the stream is nothing, twice if a line is still under way
    let entries := pumpEntries c.pump (reads ++ [.data [], .data []])
    let l := ⟨l.session.withCapture stream after, h.jot entries system⟩
    match result with
    | .ok n =>
      note h .debug (stream.name ++ " pump joined after " ++ toString n ++ " lines") l
    | .error e =>
      note h .error (stream.name ++ " pump failed: " ++ e.message)
        { l with session := { l.session with pumpErrors := l.session.pumpErrors ++ [e] } }

/-- **The results of the pumps**, the output's first. -/
def joinPumps (l : Live σ) : Live σ := l.session.streams.foldl (joinPump h) l

/-- The child is stopped if it is running, and else waited for. -/
def stopOrReap (l : Live σ) : Live σ :=
  match isAlive h l with
  | (true, l) =>
    let l := stopChild h l
    { l with session := { l.session with state := .terminated } }
  | (false, l) =>
    match reap h l with
    | (.ok _, l) => l
    | (.error e, l) =>
      note h .debug ("Reaping pid " ++ toString l.session.pid ++ " failed: " ++ e.message) l

/-- The buffers take in what is queued. -/
def drainBuffers (l : Live σ) : Live σ :=
  { l with session := { l.session with
      stdout := l.session.stdout.drain
      stderr := l.session.stderr.map Capture.drain } }

/-- **The release of a session.** A second one does nothing, and none of it fails. -/
def terminate (l : Live σ) : Live σ :=
  if l.session.released then l
  else
    let l := joinPumps h (drainBuffers (stopLeftovers h (stopOrReap h l)))
    let l := { l with session := { l.session with released := true } }
    note h .info ("Released '" ++ l.session.command.text ++ "' (pid " ++ toString l.session.pid ++
      "): " ++ l.session.state.text ++ ", " ++ toString l.session.stdout.buffer.lines.length ++
      " stdout lines captured") l

end ChildWatch.Live
