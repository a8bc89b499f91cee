import ChildWatch.Config.Basic
import ChildWatch.Log.Wait
import ChildWatch.Session.Capture
import ChildWatch.Session.Host
import ChildWatch.Text.Quoted

/-! # Sessions

A session owns one child from its launch to its release.

* `Session.ofLaunch` — the session of a child that has just been launched.
* `Live` — a session together with the system it runs on; `Live.isAlive`, `Live.snapshot`,
  `Live.wait`, `Live.signal` are what can be done with it until it is released. -/

namespace ChildWatch

/-- A **session**. The error stream is there if it is captured. `released` is set once, when the
child has been reaped and the pumps have stopped. -/
structure Session where
  command : Command
  pid : Nat
  state : SessionState
  startedAt : Instant
  stdout : Capture
  stderr : Option Capture
  grace : Option Duration
  defaultTimeout : Duration
  pumpErrors : List Error
  released : Bool

/-- The streams that a session with this configuration captures. -/
def Config.captured (config : Config) : List Stream :=
  .stdout :: if config.stderr = .capture then [.stderr] else []

namespace Session

/-- The session of a child that has just been launched. -/
def ofLaunch (command : Command) (config : Config) (pid : Nat) (now : Instant) : Session where
  command := command
  pid := pid
  state := .running
  startedAt := now
  stdout := .fresh .stdout
  stderr := if config.stderr = .capture then some (.fresh .stderr) else none
  grace := config.terminateGrace
  defaultTimeout := config.defaultWaitTimeout
  pumpErrors := []
  released := false

/-- What a session tells about itself. Lines still queued do not count. -/
def info (s : Session) : SessionInfo :=
  ⟨s.command, s.pid, s.state, s.stdout.buffer.lines.length⟩

/-- The capture of a stream. -/
def capture? (s : Session) : Stream → Option Capture
  | .stdout => some s.stdout
  | .stderr => s.stderr

/-- The session with another capture of a stream that it captures. -/
def withCapture (s : Session) (stream : Stream) (c : Capture) : Session :=
  match stream with
  | .stdout => { s with stdout := c }
  | .stderr => { s with stderr := s.stderr.map fun _ => c }

/-- The streams that are captured, in the order in which they are dealt with. -/
def streams (s : Session) : List Stream :=
  .stdout :: if s.stderr.isSome then [.stderr] else []

/-- Whether every pump has stopped. -/
def pumpsFinished (s : Session) : Bool :=
  s.streams.all fun stream => (s.capture? stream).all (·.pump.finished)

/-- The state in the notation of its cases. -/
def stateNotation : SessionState → String
  | .running => "Running"
  | .exited (some code) => "Exited(Some(" ++ toString code ++ "))"
  | .exited none => "Exited(None)"
  | .terminated => "Terminated"

/-- **A session in full**, for those who debug it. -/
def debugText (s : Session) : String :=
  "ProcessSession \x7B command: Command \x7B argv: " ++ Text.Quoted.encodeList s.command.argv ++
    " \x7D, pid: " ++ toString s.pid ++ ", state: " ++ stateNotation s.state ++ ", released: " ++ toString s.released ++ " \x7D"

/-- The session takes all the errors of its pumps off its record. -/
def takePumpErrors (s : Session) : List Error × Session :=
  (s.pumpErrors, { s with pumpErrors := [] })

end Session

/-- A session **at work**: with the state of the system it runs on. -/
structure Live (σ : Type) where
  session : Session
  system : σ

namespace Live

variable {σ : Type} (h : Host σ)

/-- An entry of the session for the journal. -/
def note (level : Journal.Level) (text : String) (l : Live σ) : Live σ :=
  { l with system := h.note ⟨level, .session, text⟩ l.system }

/-- The entry a pump makes of a read: when it has been interrupted and tries again, and when it stops at
the end of its stream or with the error of a read. A panic stops it without one. -/
def pumpEntry (before : Pump) (r : Read) (after : Pump) : Option Journal.Entry :=
  if before.finished then none
  else
    match r, after.outcome with
    | .interrupted, _ =>
      some ⟨.debug, .pump, before.stream.name ++ " read interrupted (EINTR), retrying..."⟩
    | _, some (.ok n) =>
      some ⟨.debug, .pump, before.stream.name ++ " pump reached EOF after " ++ toString n ++ " lines"⟩
    | _, some (.error (.pumpRead stream source)) =>
      some ⟨.error, .pump, stream.name ++ " read error (" ++ source.errorKind.description ++ "): " ++
        source.message⟩
    | _, _ => none

/-- The entries it makes of some reads. -/
def pumpEntries (p : Pump) : List Read → List Journal.Entry
  | [] => []
  | r :: rest =>
    let after := (p.feed r).2
    (pumpEntry p r after).toList ++ pumpEntries after rest

/-- The reads of the pump of one stream, if the stream is captured. -/
def syncStream (stream : Stream) (l : Live σ) : Live σ :=
  match l.session.capture? stream with
  | none => l
  | some c =>
    let (reads, system) := h.reads stream l.system
    ⟨l.session.withCapture stream (c.take reads), h.jot (pumpEntries c.pump reads) system⟩

/-- **The pumps' reads up to now.** They go on beside everything else, so a session asks for them
whenever it looks at a buffer or at a pump. -/
def sync (l : Live σ) : Live σ := syncStream h .stderr (syncStream h .stdout l)

/-- **Whether the child is still running.** A child that was running is polled; one that cannot be
polled counts as running. -/
def isAlive (l : Live σ) : Bool × Live σ :=
  if l.session.state.isRunning then
    match h.poll l.system with
    | (.ok (some status), system) =>
      let session := { l.session with state := .exited status.code? }
      (false, note h .debug
        ("pid " ++ toString session.pid ++ " exited on its own: " ++ status.text) ⟨session, system⟩)
    | (_, system) => (true, { l with system := system })
  else (false, l)

/-- **Everything captured from a stream so far**; nothing from one that is not captured. -/
def snapshot (stream : Stream) (l : Live σ) : List String × Live σ :=
  let l := sync h l
  match l.session.capture? stream with
  | none => ([], l)
  | some c =>
    let (texts, buffer) := c.buffer.snapshot
    (texts, { l with session := l.session.withCapture stream { c with buffer := buffer } })

/-- The entry a wait for a pattern on a stream makes when it is over. A match that is found by the
last look makes none. -/
def waitEntry (w : Waiter) (stream : Stream) (outcome : Waiter.Outcome) : Option Journal.Entry :=
  let quoted := "\"" ++ w.pattern.text ++ "\""
  match outcome with
  | .captured => some ⟨.trace, .waiter, quoted ++ " already captured"⟩
  | .received => some ⟨.trace, .waiter, quoted ++ " matched after waiting"⟩
  | .closed => some ⟨.debug, .waiter, stream.name ++ " closed before " ++ quoted ++ " appeared"⟩
  | .timedOut =>
    some ⟨.debug, .waiter, "Timed out after " ++ w.timeout.text ++ " waiting for " ++ quoted⟩
  | .foundLast | .pending => none

/-- The deadline that a wait has fixed. -/
def deadline : Waiter.Phase → Option Instant
  | .fresh => none
  | .waiting deadline => deadline

/-- A wait that has come to a phase, polled whenever a pump has read something and at the deadline.
It is given up after `polls` polls. -/
def waitLoop (stream : Stream) (w : Waiter) :
    Nat → Waiter.Phase → Live σ → Option (Except Error Unit) × Live σ
  | 0, _, l => (none, l)
  | polls + 1, phase, l =>
    let l := sync h l
    match l.session.capture? stream with
    | none => (some (.error (.streamNotCaptured stream)), l)
    | some c =>
      let (outcome, phase, buffer) := w.proceed phase (h.now l.system) c.buffer
      let session := l.session.withCapture stream { c with buffer := buffer }
      match w.answer outcome.verdict with
      | none => waitLoop stream w polls phase ⟨session, h.idle (deadline phase) l.system⟩
      | some answer =>
        (some answer, ⟨session, h.jot (waitEntry w buffer.stream outcome).toList l.system⟩)

/-- **Waiting for a pattern on a stream**, for a given time at most. A wait that is still pending
after `polls` polls is dropped without an answer; the lines it has received stay in the buffer. -/
def wait (stream : Stream) (w : Waiter) (polls : Nat) (l : Live σ) :
    Option (Except Error Unit) × Live σ :=
  waitLoop h stream w polls .fresh l

/-- Waiting on the output for the time that holds where none is given. -/
def waitDefault (p : Pattern) (polls : Nat) (l : Live σ) : Option (Except Error Unit) × Live σ :=
  wait h .stdout ⟨p, l.session.defaultTimeout⟩ polls l

/-- A signal is sent to the child. The system is asked only for a number that a process can have. -/
def send (s : Signal) (l : Live σ) : Except Error Unit × Live σ :=
  if Signal.maxPid < l.session.pid then (s.deliver l.session.pid none, l)
  else
    let (refusal, system) := h.signal s l.system
    (s.deliver l.session.pid refusal, { l with system := system })

/-- **A signal for the child alone**, which goes on being watched. Nothing is sent once the child is
known to have ended. -/
def signal (s : Signal) (l : Live σ) : Except Error Unit × Live σ :=
  match isAlive h l with
  | (false, l) =>
    (.error (s.failure ("pid " ++ toString l.session.pid ++ " is not running")), l)
  | (true, l) =>
    send h s (note h .debug ("Sending " ++ s.name ++ " to pid " ++ toString l.session.pid) l)

/-- The time between two looks at a child that is waited for. -/
def pollInterval : Duration := .ofMillis 10

/-- The child is polled until it is no longer running, `looks` times at most. -/
def waitExit : Nat → Live σ → Bool × Live σ
  | 0, l => isAlive h l
  | looks + 1, l =>
    match isAlive h l with
    | (false, l) => (false, l)
    | (true, l) => waitExit looks { l with system := h.pause pollInterval l.system }

end Live

end ChildWatch
