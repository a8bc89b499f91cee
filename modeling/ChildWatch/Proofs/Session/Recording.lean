import ChildWatch.Proofs.Session.Runs

/-! # Keeping a record changes nothing

What a session does on a host with a record is what it does on the host itself: the record is written
and never read.

* `Live.forget` — a session without the record of its host.
* `poll_forget`, `reads_forget` and so on — the questions to the host have the same answers.
* `run_forget` — a run on record, without the record, is the run. -/

namespace ChildWatch.Live

open Host

variable {σ : Type} (h : Host σ)

/-- The session without the record of its host. -/
def forget (l : Live (Traced σ)) : Live σ := ⟨l.session, l.system.state⟩

/-- An answer, and the session without the record of its host. -/
def forgetting {α : Type} (r : α × Live (Traced σ)) : α × Live σ := (r.1, r.2.forget)

@[simp] theorem session_forget (l : Live (Traced σ)) : l.forget.session = l.session := rfl

variable (l : Live (Traced σ))

/-! ## Questions to the host -/

theorem now_forget : h.now l.forget.system = h.traced.now l.system := rfl

theorem poll_forget :
    h.poll l.forget.system =
      ((h.traced.poll l.system).1, (h.traced.poll l.system).2.state) := rfl

theorem reads_forget (stream : Stream) :
    h.reads stream l.forget.system =
      ((h.traced.reads stream l.system).1, (h.traced.reads stream l.system).2.state) := rfl

theorem rest_forget (stream : Stream) :
    h.rest stream l.forget.system =
      ((h.traced.rest stream l.system).1, (h.traced.rest stream l.system).2.state) := rfl

theorem note_forget (level : Journal.Level) (text : String) :
    l.forget.note h level text = (l.note h.traced level text).forget := rfl

theorem reap_forget : l.forget.reap h = forgetting (l.reap h.traced) := rfl

theorem killChild_forget : l.forget.killChild h = forgetting (l.killChild h.traced) := rfl

theorem send_forget (s : Signal) : l.forget.send h s = forgetting (l.send h.traced s) := by
  rw [send, send, session_forget]
  split <;> rfl

theorem sendGroup_forget (s : Signal) :
    l.forget.sendGroup h s = forgetting (l.sendGroup h.traced s) := by
  rw [sendGroup, sendGroup, session_forget]
  split <;> rfl

/-! ## Operations before a release -/

theorem syncStream_forget (stream : Stream) :
    l.forget.syncStream h stream = (l.syncStream h.traced stream).forget := by
  rw [syncStream, syncStream, session_forget]
  cases l.session.capture? stream with
  | none => rfl
  | some c =>
      rw [reads_forget]
      generalize h.traced.reads stream l.system = r
      obtain ⟨reads, t⟩ := r
      simp only [jot_traced]
      rfl

theorem sync_forget : l.forget.sync h = (l.sync h.traced).forget := by
  rw [sync, sync, syncStream_forget, syncStream_forget]

theorem isAlive_forget : l.forget.isAlive h = forgetting (l.isAlive h.traced) := by
  rw [isAlive, isAlive, session_forget]
  by_cases hrunning : l.session.state.isRunning = true
  · rw [if_pos hrunning, if_pos hrunning, poll_forget]
    generalize h.traced.poll l.system = r
    obtain ⟨_ | _ | status, t⟩ := r
    · rfl
    · rfl
    · rfl
  · rw [if_neg hrunning, if_neg hrunning]
    rfl

theorem snapshot_forget (stream : Stream) :
    l.forget.snapshot h stream = forgetting (l.snapshot h.traced stream) := by
  rw [snapshot, snapshot, sync_forget]
  generalize l.sync h.traced = l'
  simp only [session_forget]
  cases l'.session.capture? stream with
  | none => rfl
  | some c => rfl

theorem waitLoop_forget (stream : Stream) (w : Waiter) (polls : Nat) (phase : Waiter.Phase) :
    l.forget.waitLoop h stream w polls phase =
      forgetting (l.waitLoop h.traced stream w polls phase) := by
  induction polls generalizing phase l with
  | zero => rfl
  | succ polls ih =>
      rw [waitLoop, waitLoop, sync_forget]
      generalize l.sync h.traced = l'
      simp only [session_forget]
      cases l'.session.capture? stream with
      | none => rfl
      | some c =>
          simp only [now_forget]
          generalize w.proceed phase (h.traced.now l'.system) c.buffer = p
          obtain ⟨outcome, phase', buffer⟩ := p
          -- both polls are the same, and so is the time that passes before the next
          cases hanswer : w.answer outcome.verdict with
          | none =>
              exact ih ⟨l'.session.withCapture stream { c with buffer := buffer },
                h.traced.idle (deadline phase') l'.system⟩ phase'
          | some answer =>
              simp only [jot_traced]
              rfl

theorem signal_forget (s : Signal) : l.forget.signal h s = forgetting (l.signal h.traced s) := by
  rw [signal, signal, isAlive_forget]
  generalize l.isAlive h.traced = r
  obtain ⟨alive, l'⟩ := r
  cases alive with
  | false => rfl
  | true => exact send_forget h (l'.note h.traced _ _) s

/-! ## The release -/

theorem killGroup_forget (grace : Duration) :
    l.forget.killGroup h grace = forgetting (l.killGroup h.traced grace) := by
  rw [killGroup, killGroup, session_forget, note_forget, sendGroup_forget]
  generalize sendGroup h.traced .kill _ = r
  obtain ⟨_ | _, l'⟩ := r
  · simp only [forgetting, killChild_forget]
    generalize l'.killChild h.traced = r
    obtain ⟨_ | _, l''⟩ := r
    · rfl
    · rfl
  · rfl

theorem awaitLoop_forget (grace : Duration) (deadline : Option Instant) (looks : Nat) :
    l.forget.awaitLoop h grace deadline looks =
      forgetting (l.awaitLoop h.traced grace deadline looks) := by
  induction looks generalizing l with
  | zero => rfl
  | succ looks ih =>
      rw [awaitLoop, awaitLoop, now_forget]
      by_cases hdue : Instant.reached deadline (h.traced.now l.system) = true
      · rw [if_pos hdue, if_pos hdue]
        exact killGroup_forget h l grace
      · rw [if_neg hdue, if_neg hdue, poll_forget]
        generalize h.traced.poll l.system = r
        obtain ⟨_ | _ | status, t⟩ := r
        · rfl
        · exact ih ⟨l.session, h.traced.pause pollInterval t⟩
        · rfl

theorem askGroup_forget : l.forget.askGroup h = (l.askGroup h.traced).forget := by
  rw [askGroup, askGroup, sendGroup_forget]
  generalize l.sendGroup h.traced .terminate = r
  obtain ⟨e | _, l'⟩ := r
  · simp only [forgetting, session_forget, note_forget, killChild_forget]
    generalize killChild h.traced _ = r
    obtain ⟨_ | _, l''⟩ := r
    · rfl
    · rfl
  · rfl

theorem awaitChild_forget : l.forget.awaitChild h = forgetting (l.awaitChild h.traced) := by
  rw [awaitChild, awaitChild, session_forget]
  cases l.session.grace with
  | none => rfl
  | some grace => exact awaitLoop_forget h l grace _ _

theorem stopChild_forget : l.forget.stopChild h = (l.stopChild h.traced).forget := by
  rw [stopChild, stopChild, askGroup_forget, awaitChild_forget]
  generalize awaitChild h.traced _ = r
  obtain ⟨_ | _, l'⟩ := r
  · rfl
  · rfl

theorem overdueLoop_forget (deadline : Option Instant) (looks : Nat) :
    l.forget.overdueLoop h deadline looks =
      forgetting (l.overdueLoop h.traced deadline looks) := by
  induction looks generalizing l with
  | zero => rfl
  | succ looks ih =>
      rw [overdueLoop, overdueLoop, sync_forget]
      generalize l.sync h.traced = l'
      rw [session_forget, now_forget]
      by_cases hfinished : l'.session.pumpsFinished = true
      · rw [if_pos hfinished, if_pos hfinished]
        rfl
      · rw [if_neg hfinished, if_neg hfinished]
        by_cases hdue : Instant.reached deadline (h.traced.now l'.system) = true
        · rw [if_pos hdue, if_pos hdue]
          rfl
        · rw [if_neg hdue, if_neg hdue]
          exact ih { l' with system := h.traced.pause pollInterval l'.system }

theorem pumpsOverdue_forget (span : Duration) :
    l.forget.pumpsOverdue h span = forgetting (l.pumpsOverdue h.traced span) :=
  overdueLoop_forget h l _ _

theorem killLeftovers_forget (grace : Duration) :
    l.forget.killLeftovers h grace = (l.killLeftovers h.traced grace).forget := by
  rw [killLeftovers, killLeftovers, session_forget, note_forget, sendGroup_forget]
  generalize sendGroup h.traced .kill _ = r
  obtain ⟨_ | _, l'⟩ := r
  · rfl
  · rfl

theorem awaitLeftovers_forget (grace : Duration) :
    l.forget.awaitLeftovers h grace = (l.awaitLeftovers h.traced grace).forget := by
  rw [awaitLeftovers, awaitLeftovers, pumpsOverdue_forget]
  generalize l.pumpsOverdue h.traced grace = r
  obtain ⟨overdue, l'⟩ := r
  cases overdue with
  | false => rfl
  | true => exact killLeftovers_forget h l' grace

theorem askLeftovers_forget : l.forget.askLeftovers h = (l.askLeftovers h.traced).forget := by
  rw [askLeftovers, askLeftovers, session_forget, note_forget, sendGroup_forget]
  generalize sendGroup h.traced .terminate _ = r
  obtain ⟨_ | _, l'⟩ := r
  · rfl
  · simp only [forgetting, session_forget]
    cases l'.session.grace with
    | none => rfl
    | some grace => exact awaitLeftovers_forget h l' grace

theorem stopLeftovers_forget : l.forget.stopLeftovers h = (l.stopLeftovers h.traced).forget := by
  rw [stopLeftovers, stopLeftovers, pumpsOverdue_forget]
  generalize l.pumpsOverdue h.traced settleTime = r
  obtain ⟨overdue, l'⟩ := r
  cases overdue with
  | false => rfl
  | true => exact askLeftovers_forget h l'

theorem stopOrReap_forget : l.forget.stopOrReap h = (l.stopOrReap h.traced).forget := by
  rw [stopOrReap, stopOrReap, isAlive_forget]
  generalize l.isAlive h.traced = r
  obtain ⟨alive, l'⟩ := r
  cases alive with
  | false =>
      simp only [forgetting, reap_forget]
      generalize l'.reap h.traced = r
      obtain ⟨_ | _, l''⟩ := r
      · rfl
      · rfl
  | true =>
      simp only [forgetting, stopChild_forget]
      rfl

theorem joinPump_forget (stream : Stream) :
    l.forget.joinPump h stream = (l.joinPump h.traced stream).forget := by
  rw [joinPump, joinPump, session_forget]
  cases l.session.capture? stream with
  | none => rfl
  | some c =>
      rw [rest_forget]
      generalize h.traced.rest stream l.system = r
      obtain ⟨reads, t⟩ := r
      simp only [jot_traced]
      generalize c.finish reads = r
      obtain ⟨_ | _, c'⟩ := r
      · rfl
      · rfl

theorem joinPumps_forget : l.forget.joinPumps h = (l.joinPumps h.traced).forget := by
  rw [joinPumps, joinPumps, session_forget]
  generalize l.session.streams = streams
  induction streams generalizing l with
  | nil => rfl
  | cons stream streams ih =>
      rw [List.foldl_cons, List.foldl_cons, joinPump_forget]
      exact ih _

theorem terminate_forget : l.forget.terminate h = (l.terminate h.traced).forget := by
  have hdrain (l : Live (Traced σ)) : l.forget.drainBuffers = l.drainBuffers.forget := rfl
  rw [terminate, terminate, session_forget]
  by_cases hr : l.session.released = true
  · rw [if_pos hr, if_pos hr]
  · rw [if_neg hr, if_neg hr, stopOrReap_forget, stopLeftovers_forget, hdrain, joinPumps_forget]
    rfl

/-! ## Runs -/

theorem step_forget (op : Op) : l.forget.step h op = (l.step h.traced op).forget := by
  cases op with
  | isAlive => exact congrArg Prod.snd (isAlive_forget h l)
  | snapshot stream => exact congrArg Prod.snd (snapshot_forget h l stream)
  | wait stream w polls => exact congrArg Prod.snd (waitLoop_forget h l stream w polls .fresh)
  | signal s => exact congrArg Prod.snd (signal_forget h l s)
  | takePumpErrors => rfl
  | terminate => exact terminate_forget h l
  | pause d => rfl

/-- **The record changes nothing**: a run on record, without the record, is the run on the host. -/
theorem run_forget (ops : List Op) : l.forget.run h ops = (l.run h.traced ops).forget := by
  induction ops generalizing l with
  | nil => rfl
  | cons op ops ih =>
      rw [run, run, List.foldl_cons, List.foldl_cons, step_forget]
      exact ih _

end ChildWatch.Live
