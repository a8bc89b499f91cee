import ChildWatch.Proofs.Session.Runs

/-! # A host to rehearse on

A child that ends a given time after it has been asked to go, on a clock that nothing moves but the
session itself. Whatever is to be shown of a session at work is shown on it.

* `Rehearsal` — the clock and the end of the child; `Rehearsal.host` — the host.
* `Rehearsal.live` — a session on it, with a record. -/

namespace ChildWatch

/-- A **rehearsal**: what the clock shows, and when and how the child ends, if that is settled. -/
structure Rehearsal where
  clock : Instant
  ending : Option (Instant × ExitStatus)

namespace Rehearsal

/-- A child that has not been asked to go. -/
def start : Rehearsal := ⟨.zero, none⟩

/-- The child ends at a time, if it has not ended before. -/
def endBy (s : Rehearsal) (time : Instant) (status : ExitStatus) : Rehearsal :=
  match s.ending with
  | some (earlier, _) => if earlier ≤ time then s else { s with ending := some (time, status) }
  | none => { s with ending := some (time, status) }

/-- **A host to rehearse on.** Time passes only in pauses, which last as long as they are to, and
while the child is waited for. The child ends `delay` after it has been asked to go, and at once
when it is killed. A pump that is looked at has just read `found`. -/
def host (delay : Duration) (found : List Read) : Host Rehearsal where
  now s := s.clock
  pause d s := { s with clock := s.clock.saturatingAdd d }
  idle _ s := s
  poll s :=
    (.ok (s.ending.bind fun (time, status) => if time ≤ s.clock then some status else none), s)
  await s :=
    match s.ending with
    | some (time, status) => (.ok status, if time ≤ s.clock then s else { s with clock := time })
    | none => (.ok (.code 0), s)
  signal _ s := (none, s)
  signalGroup sig s :=
    match sig with
    | .interrupt => (none, s)
    | .terminate => (none, s.endBy (s.clock.saturatingAdd delay) (.code 0))
    | .kill => (none, s.endBy s.clock (.signal 9))
  kill s := (.ok (), s.endBy s.clock (.signal 9))
  reads _ s := (found, s)
  rest _ s := ([], s)
  note _ s := s

@[simp] theorem clock_endBy (s : Rehearsal) (time : Instant) (status : ExitStatus) :
    (s.endBy time status).clock = s.clock := by
  rw [endBy]
  split
  · split <;> rfl
  · rfl

/-- The reading of the clock after some milliseconds. -/
def moment (ms : UInt64) : Instant := Instant.zero.saturatingAdd (.ofMillis ms)

/-- A session in a rehearsal, with a grace period in milliseconds. -/
def live (graceMs : UInt64) : Live (Host.Traced Rehearsal) :=
  ⟨.ofLaunch (.shell "sleep 20") { Config.default with terminateGraceMs := some graceMs } 4242
    .zero, ⟨start, []⟩⟩

end Rehearsal

end ChildWatch
