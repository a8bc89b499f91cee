import ChildWatch.Proofs.Session.Runs

/-! # What the operations of a session leave alone

Most of what is done with a session asks its host and leaves the session as it is, or only tells of
its pumps. Whatever else there is to see of a session is the same before and after.

* `session_send`, `session_stopChild` and so on — what leaves the session as it is.
* `Session.Blind` — a view of a session that sees nothing of its pumps; `Blind.sync`,
  `Blind.stopLeftovers` and so on — what leaves such a view alone.
* `Session.Constant` — a view that does not see how far the session has come either;
  `Constant.step`, `Constant.run` — it is the same at every time. -/

namespace ChildWatch

/-! ## What leaves the session as it is -/

namespace Live

variable {σ : Type} (h : Host σ) (l : Live σ)

@[simp] theorem session_note (level : Journal.Level) (text : String) :
    (l.note h level text).session = l.session := rfl

@[simp] theorem session_reap : (l.reap h).2.session = l.session := rfl

@[simp] theorem session_killChild : (l.killChild h).2.session = l.session := rfl

@[simp] theorem session_send (s : Signal) : (l.send h s).2.session = l.session := by
  rw [send]
  split <;> rfl

@[simp] theorem session_sendGroup (s : Signal) : (l.sendGroup h s).2.session = l.session := by
  rw [sendGroup]
  split <;> rfl

@[simp] theorem session_killGroup (grace : Duration) :
    (l.killGroup h grace).2.session = l.session := by
  rw [killGroup, note]
  generalize h.note _ l.system = system
  have hsend := session_sendGroup h ⟨l.session, system⟩ .kill
  generalize sendGroup h .kill _ = r at hsend
  obtain ⟨_ | _, l'⟩ := r
  · have hkill := session_killChild h l'
    simp only
    generalize l'.killChild h = r at hkill
    obtain ⟨_ | _, l''⟩ := r
    · exact hkill.trans hsend
    · exact hkill.trans hsend
  · exact hsend

/-- The induction is on the looks that are left. -/
@[simp] theorem session_awaitLoop (grace : Duration) (deadline : Option Instant) (looks : Nat) :
    (l.awaitLoop h grace deadline looks).2.session = l.session := by
  induction looks generalizing l with
  | zero => rfl
  | succ looks ih =>
      rw [awaitLoop]
      by_cases hdue : Instant.reached deadline (h.now l.system) = true
      · rw [if_pos hdue]
        exact session_killGroup h l grace
      · rw [if_neg hdue]
        generalize h.poll l.system = r
        obtain ⟨_ | _ | status, system⟩ := r
        · rfl
        · exact ih _
        · rfl

@[simp] theorem session_askGroup : (l.askGroup h).session = l.session := by
  have hsend := session_sendGroup h l .terminate
  rw [askGroup]
  generalize l.sendGroup h .terminate = r at hsend
  obtain ⟨e | _, l'⟩ := r
  · simp only [note]
    generalize h.note _ l'.system = system
    have hkill := session_killChild h ⟨l'.session, system⟩
    generalize killChild h _ = r at hkill
    obtain ⟨_ | _, l''⟩ := r
    · exact hkill.trans hsend
    · exact hkill.trans hsend
  · exact hsend

@[simp] theorem session_awaitChild : (l.awaitChild h).2.session = l.session := by
  rw [awaitChild]
  cases l.session.grace with
  | none => rfl
  | some grace => exact session_awaitLoop h l grace _ _

/-- **Stopping the child** reaps it and does not write that down. -/
@[simp] theorem session_stopChild : (l.stopChild h).session = l.session := by
  have hend := (session_awaitChild h (l.askGroup h)).trans (session_askGroup h l)
  rw [stopChild]
  generalize awaitChild h _ = r at hend
  obtain ⟨_ | _, l'⟩ := r
  · exact hend
  · exact hend

@[simp] theorem session_killLeftovers (grace : Duration) :
    (l.killLeftovers h grace).session = l.session := by
  rw [killLeftovers, note]
  generalize h.note _ l.system = system
  have hsend := session_sendGroup h ⟨l.session, system⟩ .kill
  generalize sendGroup h .kill _ = r at hsend
  obtain ⟨_ | _, l'⟩ := r
  · exact hsend
  · exact hsend

end Live

/-! ## Views that see nothing of the pumps -/

namespace Session

variable {α : Type} {view : Session → α}

/-- **A view that is blind to the pumps**: what it sees of a session depends neither on the captures
nor on the errors on record. -/
def Blind (view : Session → α) : Prop :=
  ∀ (s : Session) (stdout : Capture) (stderr : Option Capture) (errors : List Error),
    view { s with stdout := stdout, stderr := stderr, pumpErrors := errors } = view s

namespace Blind

variable (hview : Blind view)

include hview

theorem withCapture (s : Session) (stream : Stream) (c : Capture) :
    view (s.withCapture stream c) = view s := by
  cases stream with
  | stdout => exact hview s c s.stderr s.pumpErrors
  | stderr => exact hview s s.stdout (s.stderr.map fun _ => c) s.pumpErrors

variable {σ : Type} (h : Host σ) (l : Live σ)

theorem syncStream (stream : Stream) : view (l.syncStream h stream).session = view l.session := by
  rw [Live.syncStream]
  cases l.session.capture? stream with
  | none => rfl
  | some c => exact hview.withCapture _ _ _

/-- **Looking at the pumps** only changes what is known of them. -/
theorem sync : view (l.sync h).session = view l.session :=
  (hview.syncStream h _ .stderr).trans (hview.syncStream h l .stdout)

theorem snapshot (stream : Stream) : view (l.snapshot h stream).2.session = view l.session := by
  have hsync := hview.sync h l
  rw [Live.snapshot]
  generalize l.sync h = l' at hsync
  cases l'.session.capture? stream with
  | none => exact hsync
  | some c => exact (hview.withCapture _ _ _).trans hsync

/-- The induction is on the polls that are left. -/
theorem waitLoop (stream : Stream) (w : Waiter) (polls : Nat) (phase : Waiter.Phase) :
    view (l.waitLoop h stream w polls phase).2.session = view l.session := by
  induction polls generalizing phase l with
  | zero => rfl
  | succ polls ih =>
      have hsync := hview.sync h l
      rw [Live.waitLoop]
      generalize l.sync h = l' at hsync
      cases l'.session.capture? stream with
      | none => exact hsync
      | some c =>
          simp only
          split
          · rw [ih]
            exact (hview.withCapture _ _ _).trans hsync
          · exact (hview.withCapture _ _ _).trans hsync

/-- The induction is on the looks that are left. -/
theorem overdueLoop (deadline : Option Instant) (looks : Nat) :
    view (l.overdueLoop h deadline looks).2.session = view l.session := by
  induction looks generalizing l with
  | zero => rfl
  | succ looks ih =>
      have hsync := hview.sync h l
      rw [Live.overdueLoop]
      generalize l.sync h = l' at hsync
      split
      · exact hsync
      · split
        · exact hsync
        · rw [ih]
          exact hsync

theorem awaitLeftovers (grace : Duration) :
    view (l.awaitLeftovers h grace).session = view l.session := by
  have hlooked := hview.overdueLoop h l ((h.now l.system).checkedAdd grace) (Live.looks grace)
  rw [Live.awaitLeftovers, Live.pumpsOverdue]
  generalize Live.overdueLoop h _ _ l = looked at hlooked
  split
  · rw [Live.session_killLeftovers, hlooked]
  · exact hlooked

theorem askLeftovers : view (l.askLeftovers h).session = view l.session := by
  rw [Live.askLeftovers, Live.note]
  generalize h.note _ l.system = system
  have hsend := Live.session_sendGroup h ⟨l.session, system⟩ .terminate
  generalize Live.sendGroup h .terminate _ = r at hsend
  obtain ⟨_ | _, l'⟩ := r
  · exact congrArg view hsend
  · simp only
    cases l'.session.grace with
    | none => exact congrArg view hsend
    | some grace => exact (hview.awaitLeftovers h l' grace).trans (congrArg view hsend)

/-- **Stopping what is left of the group** only looks at the pumps. -/
theorem stopLeftovers : view (l.stopLeftovers h).session = view l.session := by
  have hlooked := hview.overdueLoop h l ((h.now l.system).checkedAdd Live.settleTime)
    (Live.looks Live.settleTime)
  rw [Live.stopLeftovers, Live.pumpsOverdue]
  generalize Live.overdueLoop h _ _ l = looked at hlooked
  split
  · rw [hview.askLeftovers, hlooked]
  · exact hlooked

theorem joinPump (stream : Stream) : view (l.joinPump h stream).session = view l.session := by
  rw [Live.joinPump]
  cases l.session.capture? stream with
  | none => rfl
  | some c =>
      have hcapture := hview.withCapture l.session stream
        (c.finish (h.rest stream l.system).1).2
      simp only
      split
      · exact hcapture
      · exact (hview _ _ _ _).trans hcapture

/-- The induction is on the streams. -/
theorem joinPumps : view (l.joinPumps h).session = view l.session := by
  rw [Live.joinPumps]
  generalize l.session.streams = streams
  induction streams generalizing l with
  | nil => rfl
  | cons stream streams ih =>
      rw [List.foldl_cons, ih, hview.joinPump]

theorem drainBuffers : view l.drainBuffers.session = view l.session := hview _ _ _ _

end Blind

/-! ## Constants of a session -/

/-- **A constant of a session**: a view that is blind to the pumps, to the recorded state of the child
and to whether the session has been released. -/
structure Constant (view : Session → α) : Prop where
  blind : Blind view
  course : ∀ (s : Session) (state : SessionState) (released : Bool),
    view { s with state := state, released := released } = view s

namespace Constant

variable (hview : Constant view)

include hview

theorem state (s : Session) (state : SessionState) : view { s with state := state } = view s :=
  hview.course s state s.released

variable {σ : Type} (h : Host σ) (l : Live σ)

theorem isAlive : view (l.isAlive h).2.session = view l.session := by
  rw [Live.isAlive]
  by_cases hrunning : l.session.state.isRunning = true
  · rw [if_pos hrunning]
    generalize h.poll l.system = r
    obtain ⟨_ | _ | status, system⟩ := r
    · rfl
    · rfl
    · exact hview.state _ _
  · rw [if_neg hrunning]

theorem signal (s : Signal) : view (l.signal h s).2.session = view l.session := by
  have halive := hview.isAlive h l
  rw [Live.signal]
  generalize l.isAlive h = r at halive
  obtain ⟨_ | _, l'⟩ := r
  · exact halive
  · simp only
    rw [Live.session_send, Live.session_note]
    exact halive

theorem stopOrReap : view (l.stopOrReap h).session = view l.session := by
  have halive := hview.isAlive h l
  rw [Live.stopOrReap]
  generalize l.isAlive h = r at halive
  obtain ⟨_ | _, l'⟩ := r
  · have hreap := Live.session_reap h l'
    simp only
    generalize l'.reap h = r at hreap
    obtain ⟨_ | _, l''⟩ := r
    · exact (congrArg view hreap).trans halive
    · exact (congrArg view hreap).trans halive
  · simp only
    rw [hview.state, Live.session_stopChild]
    exact halive

/-- **A release** leaves the constants of a session as they are. -/
theorem terminate : view (l.terminate h).session = view l.session := by
  rw [Live.terminate]
  split
  · rfl
  · rw [Live.session_note, hview.course, hview.blind.joinPumps, hview.blind.drainBuffers,
      hview.blind.stopLeftovers, hview.stopOrReap]

/-- **Every operation** does. -/
theorem step (op : Live.Op) : view (l.step h op).session = view l.session := by
  cases op with
  | isAlive => exact hview.isAlive h l
  | snapshot stream => exact hview.blind.snapshot h l stream
  | wait stream w polls => exact hview.blind.waitLoop h l stream w polls .fresh
  | signal s => exact hview.signal h l s
  | takePumpErrors => exact hview.blind _ _ _ _
  | terminate => exact hview.terminate h l
  | pause d => rfl

/-- So does every run: the induction is on the operations. -/
theorem run (ops : List Live.Op) : view (l.run h ops).session = view l.session := by
  induction ops generalizing l with
  | nil => rfl
  | cons op ops ih => exact (ih (l.step h op)).trans (hview.step h l op)

end Constant

end Session

end ChildWatch
