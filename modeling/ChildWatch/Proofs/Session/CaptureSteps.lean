import ChildWatch.Proofs.Session.CaptureFollows
import ChildWatch.Proofs.Session.Runs

/-! # What the operations of a session do to its captures

Whatever is done with a session, short of following its pumps to the end, its captures only go the
steps that a capture can go.

* `Session.streams`, `Session.withCapture` — which streams are captured, and one capture replaced.
* `Live.Goes` — any number of steps on each capture, and the rest of the record left alone.
* `goes_sync`, `goes_waitLoop`, `goes_stopOrReap` and so on — each operation does this and no more. -/

namespace ChildWatch

namespace Session

variable {s : Session} {stream other : Stream} {c : Capture}

theorem capture?_withCapture (hc : s.capture? stream = some c) (c' : Capture) :
    (s.withCapture stream c').capture? stream = some c' := by
  cases stream with
  | stdout => rfl
  | stderr =>
      have hs : s.stderr = some c := hc
      rw [withCapture, capture?, hs]
      rfl

theorem capture?_withCapture_of_ne (hne : other ≠ stream) (c' : Capture) :
    (s.withCapture stream c').capture? other = s.capture? other := by
  cases stream <;> cases other
  · exact absurd rfl hne
  · rfl
  · rfl
  · exact absurd rfl hne

@[simp] theorem streams_withCapture (s : Session) (stream : Stream) (c : Capture) :
    (s.withCapture stream c).streams = s.streams := by
  cases stream with
  | stdout => rfl
  | stderr => rw [streams, withCapture, streams, Option.isSome_map]

@[simp] theorem released_withCapture (s : Session) (stream : Stream) (c : Capture) :
    (s.withCapture stream c).released = s.released := by
  cases stream <;> rfl

@[simp] theorem pumpErrors_withCapture (s : Session) (stream : Stream) (c : Capture) :
    (s.withCapture stream c).pumpErrors = s.pumpErrors := by
  cases stream <;> rfl

theorem capture?_pumpErrors (s : Session) (stream : Stream) (errors : List Error) :
    ({ s with pumpErrors := errors } : Session).capture? stream = s.capture? stream := by
  cases stream <;> rfl

theorem capture?_released (s : Session) (stream : Stream) (released : Bool) :
    ({ s with released := released } : Session).capture? stream = s.capture? stream := by
  cases stream <;> rfl

/-- The streams of a session are those of which it has a capture. -/
theorem mem_streams : stream ∈ s.streams ↔ ∃ c, s.capture? stream = some c := by
  rw [← Option.isSome_iff_exists]
  cases stream with
  | stdout => simp [streams, capture?]
  | stderr =>
      rw [streams, capture?]
      cases s.stderr <;> simp

theorem streams_ofLaunch (command : Command) (config : Config) (pid : Nat) (now : Instant) :
    (ofLaunch command config pid now).streams = config.captured := by
  rw [streams, ofLaunch, Config.captured]
  by_cases hmode : config.stderr = .capture
  · rw [if_pos hmode, if_pos hmode]
    rfl
  · rw [if_neg hmode, if_neg hmode]
    rfl

/-- Of a session that has just been launched no stream has been read. -/
theorem capture?_ofLaunch {command : Command} {config : Config} {pid : Nat} {now : Instant}
    (hc : (ofLaunch command config pid now).capture? stream = some c) : c = .fresh stream := by
  cases stream with
  | stdout => exact (Option.some_inj.mp hc).symm
  | stderr =>
      rw [capture?, ofLaunch] at hc
      split at hc
      · exact (Option.some_inj.mp hc).symm
      · exact absurd hc (by simp)

theorem nodup_streams (s : Session) : s.streams.Nodup := by
  rw [streams]
  cases s.stderr <;> simp

end Session

namespace Live

open Host Text

variable {σ : Type} (h : Host σ)

/-- **What an operation does to the captures**: any number of steps on each of them. No stream is
captured or given up, no error is put on record, and the session is not released. -/
structure Goes (l l' : Live (Traced σ)) : Prop where
  released_eq : l'.session.released = l.session.released
  pumpErrors_eq : l'.session.pumpErrors = l.session.pumpErrors
  streams_eq : l'.session.streams = l.session.streams
  steps : ∀ {stream : Stream} {c : Capture}, l.session.capture? stream = some c →
    ∃ c', l'.session.capture? stream = some c' ∧
      Capture.Steps (c, l.system.reads stream) (c', l'.system.reads stream)

namespace Goes

variable {l l' l'' : Live (Traced σ)}

theorem refl (l : Live (Traced σ)) : l.Goes l := ⟨rfl, rfl, rfl, fun hc => ⟨_, hc, .refl⟩⟩

theorem trans (h₁ : l.Goes l') (h₂ : l'.Goes l'') : l.Goes l'' where
  released_eq := h₂.released_eq.trans h₁.released_eq
  pumpErrors_eq := h₂.pumpErrors_eq.trans h₁.pumpErrors_eq
  streams_eq := h₂.streams_eq.trans h₁.streams_eq
  steps hc := by
    obtain ⟨c', hc', hsteps⟩ := h₁.steps hc
    obtain ⟨c'', hc'', hsteps'⟩ := h₂.steps hc'
    exact ⟨c'', hc'', hsteps.trans hsteps'⟩

/-- Nothing happens to the captures while the pumps are not asked what they have read. -/
theorem of_reads {system : Traced σ} (hreads : ∀ stream, system.reads stream = l.system.reads stream) :
    l.Goes { l with system := system } where
  released_eq := rfl
  pumpErrors_eq := rfl
  streams_eq := rfl
  steps {stream c} hc := by
    refine ⟨c, hc, ?_⟩
    rw [hreads stream]

/-- The state of the child is not the captures' concern. -/
theorem state (l : Live (Traced σ)) (state : SessionState) :
    l.Goes { l with session := { l.session with state := state } } := by
  refine ⟨rfl, rfl, rfl, fun {stream c} hc => ⟨c, ?_, .refl⟩⟩
  cases stream <;> exact hc

/-- One step on one capture is a step of the session, if the others have read nothing. -/
theorem capture {stream : Stream} {c c' : Capture} {system : Traced σ}
    (hc : l.session.capture? stream = some c)
    (hstep : Capture.Step (c, l.system.reads stream) (c', system.reads stream))
    (hothers : ∀ other, other ≠ stream → system.reads other = l.system.reads other) :
    l.Goes ⟨l.session.withCapture stream c', system⟩ where
  released_eq := Session.released_withCapture _ _ _
  pumpErrors_eq := Session.pumpErrors_withCapture _ _ _
  streams_eq := Session.streams_withCapture _ _ _
  steps {other d} hd := by
    by_cases hne : other = stream
    -- the capture that goes the step
    · subst hne
      rw [hc, Option.some_inj] at hd
      subst hd
      exact ⟨c', Session.capture?_withCapture hc c', .single hstep⟩
    -- any other stays where it is
    · refine ⟨d, ?_, ?_⟩
      · rw [Session.capture?_withCapture_of_ne hne, hd]
      · rw [hothers other hne]

end Goes

/-! ## Questions to the host -/

section Questions

variable (l : Live (Traced σ))

theorem goes_note (level : Journal.Level) (text : String) : l.Goes (l.note h.traced level text) :=
  .of_reads fun stream => reads_traced_note h l.system stream _

theorem goes_pause (d : Duration) : l.Goes { l with system := h.traced.pause d l.system } :=
  .of_reads fun stream => reads_traced_pause h l.system stream d

theorem goes_idle (deadline : Option Instant) :
    l.Goes { l with system := h.traced.idle deadline l.system } :=
  .of_reads fun stream => reads_traced_idle h l.system stream deadline

theorem goes_poll : l.Goes { l with system := (h.traced.poll l.system).2 } :=
  .of_reads fun stream => reads_traced_poll h l.system stream

theorem goes_reap : l.Goes (l.reap h.traced).2 :=
  .of_reads fun stream => reads_traced_await h l.system stream

theorem goes_killChild : l.Goes (l.killChild h.traced).2 :=
  .of_reads fun stream => reads_traced_kill h l.system stream

theorem goes_send (s : Signal) : l.Goes (l.send h.traced s).2 := by
  rw [send]
  split
  · exact .refl l
  · exact .of_reads fun stream => reads_traced_signal h l.system stream s

theorem goes_sendGroup (s : Signal) : l.Goes (l.sendGroup h.traced s).2 := by
  rw [sendGroup]
  split
  · exact .refl l
  · exact .of_reads fun stream => reads_traced_signalGroup h l.system stream s

end Questions

/-! ## Operations before a release -/

theorem goes_syncStream (stream : Stream) (l : Live (Traced σ)) :
    l.Goes (l.syncStream h.traced stream) := by
  rw [syncStream]
  cases hc : l.session.capture? stream with
  | none => exact .refl l
  | some c =>
      have hown := reads_traced_reads h l.system stream
      have hothers (other : Stream) (hne : other ≠ stream) :=
        reads_traced_reads_of_ne h l.system other (Ne.symm hne)
      have hstep := Capture.Step.take c (l.system.reads stream) (h.traced.reads stream l.system).1
      rw [← hown] at hstep
      have htake := Goes.capture hc hstep hothers
      -- a pump that has just stopped may also make an entry in the journal
      exact htake.trans (.of_reads fun other => reads_traced_jot h _ other _)

theorem goes_sync (l : Live (Traced σ)) : l.Goes (l.sync h.traced) :=
  (goes_syncStream h .stdout l).trans (goes_syncStream h .stderr _)

theorem goes_isAlive (l : Live (Traced σ)) : l.Goes (l.isAlive h.traced).2 := by
  rw [isAlive]
  by_cases hrunning : l.session.state.isRunning = true
  · rw [if_pos hrunning]
    have hpoll := goes_poll h l
    generalize h.traced.poll l.system = r at hpoll
    obtain ⟨_ | _ | status, system⟩ := r
    · exact hpoll
    · exact hpoll
    · exact hpoll.trans ((Goes.state _ _).trans (goes_note h _ _ _))
  · rw [if_neg hrunning]
    exact .refl l

theorem goes_snapshot (stream : Stream) (l : Live (Traced σ)) :
    l.Goes (l.snapshot h.traced stream).2 := by
  have hsync := goes_sync h l
  rw [snapshot]
  generalize l.sync h.traced = l' at hsync
  cases hc : l'.session.capture? stream with
  | none =>
      exact hsync
  | some c =>
      exact hsync.trans (.capture hc (.look c _ c.buffer.takes_drain) fun _ _ => rfl)

/-- The induction is on the polls that are left; each of them takes in queued lines. -/
theorem goes_waitLoop (stream : Stream) (w : Waiter) (polls : Nat) (phase : Waiter.Phase)
    (l : Live (Traced σ)) : l.Goes (l.waitLoop h.traced stream w polls phase).2 := by
  induction polls generalizing phase l with
  | zero => exact .refl l
  | succ polls ih =>
      have hsync := goes_sync h l
      rw [waitLoop]
      generalize l.sync h.traced = l' at hsync
      cases hc : l'.session.capture? stream with
      | none =>
          exact hsync
      | some c =>
          have htakes := w.takes_proceed phase (h.traced.now l'.system) c.buffer
          simp only
          generalize w.proceed phase (h.traced.now l'.system) c.buffer = p at htakes
          obtain ⟨outcome, phase', buffer⟩ := p
          have hlook : l'.Goes
              { l' with session := l'.session.withCapture stream { c with buffer := buffer } } :=
            .capture hc (.look c _ htakes) fun _ _ => rfl
          have hpoll := hsync.trans hlook
          -- the wait goes on after some time, or it is over
          cases hanswer : w.answer outcome.verdict with
          | none =>
              exact (hpoll.trans (goes_idle h _ _)).trans (ih _ _)
          | some answer =>
              exact hpoll.trans (.of_reads fun other => reads_traced_jot h _ other _)

theorem goes_signal (s : Signal) (l : Live (Traced σ)) : l.Goes (l.signal h.traced s).2 := by
  have halive := goes_isAlive h l
  rw [signal]
  generalize l.isAlive h.traced = r at halive
  obtain ⟨alive, l'⟩ := r
  cases alive with
  | false => exact halive
  | true => exact (halive.trans (goes_note h _ _ _)).trans (goes_send h _ s)

/-! ## Stopping the child -/

theorem goes_killGroup (grace : Duration) (l : Live (Traced σ)) :
    l.Goes (l.killGroup h.traced grace).2 := by
  have hsend := (goes_note h l .warn ("pid " ++ toString l.session.pid ++ " still running " ++
    grace.text ++ " after SIGTERM, sending SIGKILL")).trans (goes_sendGroup h _ .kill)
  rw [killGroup]
  generalize sendGroup h.traced .kill _ = r at hsend
  obtain ⟨_ | _, l'⟩ := r
  · have hkill := hsend.trans (goes_killChild h l')
    simp only
    generalize l'.killChild h.traced = r at hkill
    obtain ⟨_ | _, l''⟩ := r
    · exact hkill
    · exact hkill.trans (goes_reap h l'')
  · exact hsend.trans (goes_reap h l')

/-- The induction is on the looks that are left. -/
theorem goes_awaitLoop (grace : Duration) (deadline : Option Instant) (looks : Nat)
    (l : Live (Traced σ)) : l.Goes (l.awaitLoop h.traced grace deadline looks).2 := by
  induction looks generalizing l with
  | zero => exact goes_reap h l
  | succ looks ih =>
      rw [awaitLoop]
      by_cases hdue : Instant.reached deadline (h.traced.now l.system) = true
      · rw [if_pos hdue]
        exact goes_killGroup h grace l
      · rw [if_neg hdue]
        have hpoll := goes_poll h l
        generalize h.traced.poll l.system = r at hpoll
        obtain ⟨_ | _ | status, system⟩ := r
        · exact hpoll
        · exact (hpoll.trans (goes_pause h _ _)).trans (ih _)
        · exact hpoll

theorem goes_askGroup (l : Live (Traced σ)) : l.Goes (l.askGroup h.traced) := by
  have hsend := goes_sendGroup h l .terminate
  rw [askGroup]
  generalize l.sendGroup h.traced .terminate = r at hsend
  obtain ⟨e | _, l'⟩ := r
  · have hkill := (hsend.trans (goes_note h l' .warn ("SIGTERM to pid " ++
      toString l'.session.pid ++ " failed (" ++ e.message ++ "), killing instead"))).trans
      (goes_killChild h _)
    simp only
    generalize killChild h.traced _ = r at hkill
    obtain ⟨_ | _, l''⟩ := r
    · exact hkill.trans (goes_note h l'' _ _)
    · exact hkill
  · exact hsend

theorem goes_awaitChild (l : Live (Traced σ)) : l.Goes (l.awaitChild h.traced).2 := by
  rw [awaitChild]
  split
  · exact goes_awaitLoop h _ _ _ l
  · exact goes_reap h l

theorem goes_stopChild (l : Live (Traced σ)) : l.Goes (l.stopChild h.traced) := by
  rw [stopChild]
  have hend := (goes_askGroup h l).trans (goes_awaitChild h _)
  generalize awaitChild h.traced _ = r at hend
  obtain ⟨_ | _, l'⟩ := r
  · exact hend.trans (goes_note h _ _ _)
  · exact hend.trans (goes_note h _ _ _)

/-! ## What is left of the group -/

/-- The induction is on the looks that are left. -/
theorem goes_overdueLoop (deadline : Option Instant) (looks : Nat) (l : Live (Traced σ)) :
    l.Goes (l.overdueLoop h.traced deadline looks).2 := by
  induction looks generalizing l with
  | zero => exact .refl l
  | succ looks ih =>
      rw [overdueLoop]
      have hsync := goes_sync h l
      generalize l.sync h.traced = l' at hsync
      split
      · exact hsync
      · split
        · exact hsync
        · exact (hsync.trans (goes_pause h _ _)).trans (ih _)

theorem goes_pumpsOverdue (span : Duration) (l : Live (Traced σ)) :
    l.Goes (l.pumpsOverdue h.traced span).2 :=
  goes_overdueLoop h _ _ l

theorem goes_killLeftovers (grace : Duration) (l : Live (Traced σ)) :
    l.Goes (l.killLeftovers h.traced grace) := by
  have hsend := (goes_note h l .warn ("Process group " ++ toString l.session.pid ++
    " still holds output " ++ grace.text ++ " after SIGTERM, sending SIGKILL")).trans
    (goes_sendGroup h _ .kill)
  rw [killLeftovers]
  generalize sendGroup h.traced .kill _ = r at hsend
  obtain ⟨_ | _, l'⟩ := r
  · exact hsend.trans (goes_note h l' _ _)
  · exact hsend

theorem goes_awaitLeftovers (grace : Duration) (l : Live (Traced σ)) :
    l.Goes (l.awaitLeftovers h.traced grace) := by
  have hover := goes_pumpsOverdue h grace l
  rw [awaitLeftovers]
  split
  · exact hover.trans (goes_killLeftovers h grace _)
  · exact hover

theorem goes_askLeftovers (l : Live (Traced σ)) : l.Goes (l.askLeftovers h.traced) := by
  have hsend := (goes_note h l .debug ("Output of pid " ++ toString l.session.pid ++
    " still open after exit, stopping its group")).trans (goes_sendGroup h _ .terminate)
  rw [askLeftovers]
  generalize sendGroup h.traced .terminate _ = r at hsend
  obtain ⟨_ | _, l'⟩ := r
  · exact hsend.trans (goes_note h l' _ _)
  · simp only
    split
    · exact hsend.trans (goes_awaitLeftovers h _ l')
    · exact hsend

theorem goes_stopLeftovers (l : Live (Traced σ)) : l.Goes (l.stopLeftovers h.traced) := by
  have hover := goes_pumpsOverdue h settleTime l
  rw [stopLeftovers]
  split
  · exact hover.trans (goes_askLeftovers h _)
  · exact hover

theorem goes_stopOrReap (l : Live (Traced σ)) : l.Goes (l.stopOrReap h.traced) := by
  have halive := goes_isAlive h l
  rw [stopOrReap]
  generalize l.isAlive h.traced = r at halive
  obtain ⟨alive, l'⟩ := r
  cases alive with
  | false =>
      have hreap := halive.trans (goes_reap h l')
      simp only
      generalize l'.reap h.traced = r at hreap
      obtain ⟨_ | _, l''⟩ := r
      · exact hreap.trans (goes_note h l'' _ _)
      · exact hreap
  | true => exact (halive.trans (goes_stopChild h l')).trans (.state _ _)

theorem goes_drainBuffers (l : Live (Traced σ)) : l.Goes l.drainBuffers where
  released_eq := rfl
  pumpErrors_eq := rfl
  streams_eq := by
    rw [drainBuffers, Session.streams, Session.streams, Option.isSome_map]
  steps {stream c} hc := by
    refine ⟨c.drain, ?_, .single (.look c _ c.buffer.takes_drain)⟩
    cases stream with
    | stdout => exact congrArg (Option.map Capture.drain) hc
    | stderr => exact congrArg (Option.map Capture.drain) hc

end Live

end ChildWatch
