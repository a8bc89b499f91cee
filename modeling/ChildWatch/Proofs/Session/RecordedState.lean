import ChildWatch.Proofs.Session.AfterReaping
import ChildWatch.Proofs.Session.Frame

/-! # The recorded state of a child

A session records that its child runs until it finds otherwise, once: the child has ended on its own,
or the release has stopped it. Only a look at the child decides which of the two it is; whoever waits
for it after that, and reaps it, writes nothing down.

* `blind_state` — what has to do with the pumps only leaves the recorded state alone.
* `Live.found` — what a look at a running child finds; `isAlive_of_running` — how it is recorded.
* `Op.leaves` — the state in which an operation leaves a child that was running.
* `step_of_running`, `step_of_not_running` — one operation.
* `Live.Settled` — the invariant: a session that has been released does not record a running child.
* `recorded_state_changes_once` — what comes of it for every run. -/

namespace ChildWatch

/-- Only one state is that of a running child. -/
theorem SessionState.isRunning_iff {s : SessionState} : s.isRunning = true ↔ s = .running := by
  cases s <;> simp [isRunning]

namespace Live

open Host

/-- The recorded state does not depend on the pumps. -/
theorem blind_state : Session.Blind Session.state := fun _ _ _ _ => rfl

variable {σ : Type} (h : Host σ) {l l' : Live (Traced σ)}

/-! ## Looking at the child -/

/-- **What a look at a running child finds.** A child that cannot be looked at counts as running. -/
def found : Except IoError (Option ExitStatus) → SessionState
  | .ok (some status) => .exited status.code?
  | _ => .running

/-- The answer to a look at the child, if it is looked at now. -/
def look (l : Live (Traced σ)) : Except IoError (Option ExitStatus) := (h.poll l.system.state).1

/-- **The record begins with the look**: what has passed between two moments, if the child has been
looked at first of all. -/
def LooksFirst (l l' : Live (Traced σ)) : Prop :=
  ∃ rest, l'.system.trace =
    l.system.trace ++ ⟨h.now l.system.state, .polled (l.look h)⟩ :: rest

/-- What passes later does not matter. -/
theorem LooksFirst.mono (hlooks : l.LooksFirst h l') {m : Live (Traced σ)} {new : List Record}
    (htrace : m.system.trace = l'.system.trace ++ new) : l.LooksFirst h m := by
  obtain ⟨rest, hrest⟩ := hlooks
  refine ⟨rest ++ new, ?_⟩
  rw [htrace, hrest, List.append_assoc, List.cons_append]

/-- **Looking at a child that was running** puts the look on record and writes down what it has
found. -/
theorem isAlive_of_running (hrunning : l.session.state = .running) :
    ∃ n, l.isAlive h.traced = ((found (l.look h)).isRunning, n) ∧
      n.session.state = found (l.look h) ∧ l.LooksFirst h n := by
  have hpoll : h.traced.poll l.system =
      (l.look h, l.system.log h (.polled (l.look h)) (h.poll l.system.state).2) := rfl
  have hfirst (session : Session) (system : σ) :
      l.LooksFirst h ⟨session, l.system.log h (.polled (l.look h)) system⟩ := ⟨[], rfl⟩
  rw [isAlive, if_pos (SessionState.isRunning_iff.mpr hrunning), hpoll]
  cases hlook : l.look h with
  | error e =>
      rw [hlook] at hfirst
      exact ⟨_, rfl, hrunning, hfirst _ _⟩
  | ok answer =>
      rw [hlook] at hfirst
      cases answer with
      | none => exact ⟨_, rfl, hrunning, hfirst _ _⟩
      | some status => exact ⟨_, rfl, rfl, hfirst _ _⟩

/-- A child that is known to have ended is not looked at. -/
theorem isAlive_of_not_running (hended : l.session.state ≠ .running) :
    l.isAlive h.traced = (false, l) := by
  rw [isAlive, if_neg (mt SessionState.isRunning_iff.mp hended)]

/-- **What is answered is what is written down.** -/
theorem isAlive_eq_isRunning (l : Live (Traced σ)) :
    (l.isAlive h.traced).1 = (l.isAlive h.traced).2.session.state.isRunning := by
  by_cases hrunning : l.session.state = .running
  · obtain ⟨n, heq, hstate, -⟩ := isAlive_of_running h hrunning
    rw [heq, hstate]
  · rw [isAlive_of_not_running h hrunning]
    exact (Bool.eq_false_iff.mpr (mt SessionState.isRunning_iff.mp hrunning)).symm

/-! ## One operation -/

/-- Whether an operation begins with a look at a child that is running. -/
def Op.looks : Op → Bool
  | .isAlive | .signal _ | .terminate => true
  | _ => false

/-- **The state in which an operation leaves a child that was running**, if `answer` is the answer to
a look at it: what the look has found, if the operation looks at all; and a child that was still
running is stopped by a release. -/
def Op.leaves (answer : Except IoError (Option ExitStatus)) : Op → SessionState
  | .isAlive | .signal _ => found answer
  | .terminate => if (found answer).isRunning then .terminated else found answer
  | _ => .running

/-- A release that stops a child. -/
theorem stopOrReap_of_running (hrunning : l.session.state = .running) :
    (l.stopOrReap h.traced).session.state = Op.leaves (l.look h) .terminate ∧
      l.LooksFirst h (l.stopOrReap h.traced) := by
  obtain ⟨n, heq, hstate, hfirst⟩ := isAlive_of_running h hrunning
  rw [stopOrReap, heq, Op.leaves]
  cases hfound : (found (l.look h)).isRunning with
  | true =>
      have hstart : Stopping h n [] n := .refl n
      obtain ⟨sent, hstop⟩ := hstart.stopChild h not_reaped_nil
      exact ⟨rfl, hfirst.mono h hstop.trace_eq⟩
  | false =>
      have htrace : (n.reap h.traced).2.system.trace =
          n.system.trace ++ [⟨h.now n.system.state, .awaited (h.await n.system.state).1⟩] := rfl
      have hreap := hfirst.mono h htrace
      have hstate' : (n.reap h.traced).2.session.state = found (l.look h) := hstate
      simp only
      generalize n.reap h.traced = r at hreap hstate'
      obtain ⟨_ | _, n'⟩ := r
      · exact ⟨hstate', hreap⟩
      · exact ⟨hstate', hreap⟩

/-- Nothing after that touches the state. -/
theorem state_terminate (l : Live (Traced σ)) (hr : l.session.released = false) :
    (l.terminate h.traced).session.state = (l.stopOrReap h.traced).session.state := by
  rw [terminate, hr, if_neg Bool.false_ne_true]
  simp only [session_note]
  rw [blind_state.joinPumps, blind_state.drainBuffers, blind_state.stopLeftovers]

/-- **An operation on a child that was running.** -/
theorem step_of_running (hrunning : l.session.state = .running)
    (hr : l.session.released = false) (op : Op) :
    (l.step h.traced op).session.state = op.leaves (l.look h) ∧
      (op.looks = true → l.LooksFirst h (l.step h.traced op)) := by
  cases op with
  | isAlive =>
      obtain ⟨n, heq, hstate, hfirst⟩ := isAlive_of_running h hrunning
      rw [Live.step, heq]
      exact ⟨hstate, fun _ => hfirst⟩
  | snapshot stream =>
      refine ⟨?_, fun hlooks => absurd hlooks Bool.false_ne_true⟩
      exact (blind_state.snapshot h.traced l stream).trans hrunning
  | wait stream w polls =>
      refine ⟨?_, fun hlooks => absurd hlooks Bool.false_ne_true⟩
      exact (blind_state.waitLoop h.traced l stream w polls .fresh).trans hrunning
  | signal s =>
      obtain ⟨n, heq, hstate, hfirst⟩ := isAlive_of_running h hrunning
      rw [Live.step, Live.signal, heq]
      cases hfound : (found (l.look h)).isRunning with
      | false => exact ⟨hstate, fun _ => hfirst⟩
      | true =>
          have hnote : Course (fun _ _ => True) n [] _ := (Course.refl n).note h .debug
            ("Sending " ++ s.name ++ " to pid " ++ toString n.session.pid)
          obtain ⟨sent, hsend, -⟩ := hnote.send h s fun _ _ => trivial
          refine ⟨?_, fun _ => hfirst.mono h hsend.trace_eq⟩
          exact (congrArg Session.state (session_send h.traced _ s)).trans hstate
  | takePumpErrors =>
      exact ⟨hrunning, fun hlooks => absurd hlooks Bool.false_ne_true⟩
  | terminate =>
      obtain ⟨hstate, hfirst⟩ := stopOrReap_of_running h hrunning
      obtain ⟨second, hclear⟩ := clearing_terminate h l hr
      exact ⟨(state_terminate h l hr).trans hstate, fun _ => hfirst.mono h hclear.trace_eq⟩
  | pause d =>
      exact ⟨hrunning, fun hlooks => absurd hlooks Bool.false_ne_true⟩

/-- A release of a child that is known to have ended only waits for it. -/
theorem state_stopOrReap_of_not_running (hended : l.session.state ≠ .running) :
    (l.stopOrReap h.traced).session.state = l.session.state := by
  have hreap := congrArg Session.state (session_reap h.traced l)
  rw [stopOrReap, isAlive_of_not_running h hended]
  simp only
  generalize l.reap h.traced = r at hreap
  obtain ⟨_ | _, l'⟩ := r
  · exact hreap
  · exact hreap

/-- **An operation on a child that is known to have ended** does not write anything else down. -/
theorem step_of_not_running (hended : l.session.state ≠ .running) (op : Op) :
    (l.step h.traced op).session.state = l.session.state := by
  cases op with
  | isAlive =>
      rw [Live.step, isAlive_of_not_running h hended]
  | snapshot stream => exact blind_state.snapshot h.traced l stream
  | wait stream w polls => exact blind_state.waitLoop h.traced l stream w polls .fresh
  | signal s =>
      rw [Live.step, Live.signal, isAlive_of_not_running h hended]
  | takePumpErrors => rfl
  | terminate =>
      rw [Live.step]
      cases hr : l.session.released with
      | true => rw [terminate_of_released h hr]
      | false =>
          rw [state_terminate h l hr]
          exact state_stopOrReap_of_not_running h hended
  | pause d => rfl

/-! ## Runs -/

/-- **The invariant**: a session that has been released does not record a running child. -/
def Settled (l : Live (Traced σ)) : Prop :=
  l.session.released = true → l.session.state ≠ .running

/-- An operation leaves a child that was running recorded as such only if it is no release. -/
theorem Op.leaves_terminate_ne (answer : Except IoError (Option ExitStatus)) :
    Op.leaves answer .terminate ≠ .running := by
  rw [Op.leaves]
  split
  · exact SessionState.noConfusion
  · rename_i hfound
    exact mt SessionState.isRunning_iff.mpr hfound

/-- A release leaves nobody recorded as running. -/
theorem Settled.terminate (hl : l.Settled) : (l.terminate h.traced).session.state ≠ .running := by
  cases hr : l.session.released with
  | true =>
      rw [terminate_of_released h hr]
      exact hl hr
  | false =>
      by_cases hrunning : l.session.state = .running
      · have hstep := (step_of_running h hrunning hr .terminate).1
        rw [Live.step] at hstep
        rw [hstep]
        exact Op.leaves_terminate_ne _
      · have hstep := step_of_not_running h hrunning .terminate
        rw [Live.step] at hstep
        rw [hstep]
        exact hrunning

/-- Every other operation leaves a session unreleased. -/
theorem released_step {op : Op} (hr : (l.step h.traced op).session.released = true) :
    l.session.released = true ∨ op = .terminate := by
  cases op with
  | isAlive => exact Or.inl ((goes_isAlive h l).released_eq ▸ hr)
  | snapshot stream => exact Or.inl ((goes_snapshot h stream l).released_eq ▸ hr)
  | wait stream w polls => exact Or.inl ((goes_waitLoop h stream w polls .fresh l).released_eq ▸ hr)
  | signal s => exact Or.inl ((goes_signal h s l).released_eq ▸ hr)
  | takePumpErrors => exact Or.inl hr
  | terminate => exact Or.inr rfl
  | pause d => exact Or.inl hr

/-- **Every operation keeps the invariant.** -/
theorem Settled.step (hl : l.Settled) (op : Op) : (l.step h.traced op).Settled := by
  intro hr
  rcases released_step h hr with hbefore | rfl
  · rw [step_of_not_running h (hl hbefore) op]
    exact hl hbefore
  · exact hl.terminate h

/-- So does every run: the induction is on the operations. -/
theorem Settled.run (hl : l.Settled) (ops : List Op) : (l.run h.traced ops).Settled := by
  induction ops generalizing l with
  | nil => exact hl
  | cons op ops ih => exact ih (hl.step h op)

/-- **Once the child is known to have ended, nothing else is written down.** The induction is on the
operations. -/
theorem run_of_not_running (hended : l.session.state ≠ .running) (ops : List Op) :
    (l.run h.traced ops).session.state = l.session.state := by
  induction ops generalizing l with
  | nil => rfl
  | cons op ops ih =>
      have hstep := step_of_not_running h hended op
      exact (ih (hstep ▸ hended)).trans hstep

/-- A release marks the session as released, unless it has been before. -/
theorem released_terminate (hl : l.Sound) : (l.terminate h.traced).session.released = true := by
  cases hr : l.session.released with
  | true =>
      rw [terminate_of_released h hr]
      exact hr
  | false =>
      obtain ⟨-, -, hreleased, -⟩ := terminate_spec h hl hr
      exact hreleased

/-- A session in whose run there has been a release is released. -/
theorem Sound.released_run (hl : l.Sound) {ops : List Op} (hmem : Op.terminate ∈ ops) :
    (l.run h.traced ops).session.released = true := by
  obtain ⟨earlier, later, rfl⟩ := List.append_of_mem hmem
  obtain ⟨hsound, -⟩ := hl.run h earlier
  obtain ⟨hsound', -⟩ := hsound.step h .terminate
  obtain ⟨-, hlater⟩ := hsound'.run h later
  rw [run_append]
  exact hlater.released (released_terminate h hsound)

/-- **The recorded state changes once.** Take any session on any host, anything that is done with it,
and one more operation.

* The state is that of a running child at first.
* While it is, an operation that looks at the child does so first of all, and leaves it as the look
  has found it, with the code of its status if it has ended; only a release that has found it running
  leaves it as stopped; any other operation leaves the state as it is.
* Once it has changed it stays as it is, whatever is done after that.
* Whoever asks whether the child is alive is told so just if the state he leaves is that of a running
  child.
* After a release the state is not that of a running child, and another release is none: the session
  and its host stay as they are, and nothing is asked of the host.

Without the record of its host, the session is the one that the same operations lead to on the host
itself. -/
theorem recorded_state_changes_once (command : Command) (config : Config) (pid : Nat)
    (now : Instant) (system : σ) (before : List Op) (op : Op) (after : List Op) :
    let start := launched command config pid now system
    let l := start.run h.traced before
    start.session.state = .running ∧
    (l.session.state = .running →
      (l.step h.traced op).session.state = op.leaves (l.look h) ∧
        (op.looks = true → l.LooksFirst h (l.step h.traced op))) ∧
    (l.session.state ≠ .running → (l.run h.traced after).session.state = l.session.state) ∧
    ((l.isAlive h.traced).1 = true ↔ (l.isAlive h.traced).2.session.state = .running) ∧
    (Op.terminate ∈ before → l.session.state ≠ .running ∧ l.terminate h.traced = l) ∧
    l.forget = (⟨.ofLaunch command config pid now, system⟩ : Live σ).run h before := by
  intro start l
  have hstart : start.Settled := fun hr => absurd hr Bool.false_ne_true
  have hsettled : l.Settled := hstart.run h before
  refine ⟨rfl, ?_, ?_, ?_, ?_, (run_forget h _ before).symm⟩
  · intro hrunning
    have hr : l.session.released = false := by
      cases hr : l.session.released with
      | false => rfl
      | true => exact absurd hrunning (hsettled hr)
    exact step_of_running h hrunning hr op
  · intro hended
    exact run_of_not_running h hended after
  · rw [isAlive_eq_isRunning, SessionState.isRunning_iff]
  · intro hmem
    have hr : l.session.released = true :=
      (sound_launched command config pid now system).released_run h hmem
    exact ⟨hsettled hr, terminate_of_released h hr⟩

end Live

end ChildWatch
