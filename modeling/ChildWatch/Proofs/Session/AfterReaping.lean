import ChildWatch.Proofs.Session.Escalation

/-! # After the child has been reaped

The number of a child that has been reaped may be given to another process. Whatever is done with a
session, and whenever its child ends, nothing is sent to that number any more, and nothing to the
group unless a stream has just been found open: whoever holds it may be one of the group.

* `Host.Careful` — the rule: what may be sent after the child has been reaped.
* `course_snapshot`, `Course.waitLoop`, `Course.send` — what the operations before a release add.
* `Live.Guarded` — the invariant: the rule has been kept, and a session knows that its child is
  reaped.
* `Guarded.step`, `Guarded.run` — every operation and every run keeps it.
* `Live.nothing_sent_after_reaping` — what comes of it for the one who uses a session. -/

namespace ChildWatch

namespace Host

/-- **The rule of care**, for a session that was `s` when it was launched: once the child has been
reaped nothing is sent but signals for the group, and those only straight after a look that has
found a stream held open. -/
def Careful (s : Session) (past : List Record) (r : Record) : Prop :=
  Reaped past → r.event.sends = false ∨
    ∃ sig answer, r.event = .groupSignalled sig answer ∧ HeldOpen s past

variable {s : Session} {past : List Record} {r : Record}

theorem careful_of_silent (hr : r.event.sends = false) : Careful s past r :=
  fun _ => Or.inl hr

/-- Nobody needs to care before the child has been reaped. -/
theorem careful_of_not_reaped (hpast : ¬ Reaped past) : Careful s past r :=
  fun hreaped => absurd hreaped hpast

/-- The rule for stopping a child implies care. -/
theorem Stops.careful {σ : Type} {h : Host σ} {pid : Nat} {grace : Option Duration}
    (hr : Stops h pid grace past r) {earlier : List Record} (hearlier : ¬ Reaped earlier) :
    Careful s (earlier ++ past) r := by
  cases hr with
  | quiet hquiet => exact careful_of_silent hquiet
  | ask hchild => exact careful_of_not_reaped (by simp [hearlier, hchild])
  | killChild hchild _ => exact careful_of_not_reaped (by simp [hearlier, hchild])
  | killGroup hchild _ _ => exact careful_of_not_reaped (by simp [hearlier, hchild])

/-- So does the rule for stopping what is left of its group, if the streams that are held open are
those of the session. -/
theorem Clears.careful {σ : Type} {h : Host σ} {m : Session} (hr : Clears h m past r)
    {earlier : List Record} (hopen : HeldOpen m past → HeldOpen s (earlier ++ past)) :
    Careful s (earlier ++ past) r := by
  cases hr with
  | quiet hquiet => exact careful_of_silent hquiet
  | ask hheld => exact fun _ => Or.inr ⟨_, _, rfl, hopen hheld⟩
  | kill hheld _ _ => exact fun _ => Or.inr ⟨_, _, rfl, hopen hheld⟩

end Host

namespace Live

open Host

variable {σ : Type} (h : Host σ) {l₀ l l' : Live (Traced σ)} {new : List Record}
  {rule : List Record → Record → Prop}

/-! ## Operations before a release -/

/-- A snapshot only looks at the pumps. -/
theorem course_snapshot (stream : Stream) (l : Live (Traced σ)) :
    ∃ new, Course Inert l new (l.snapshot h.traced stream).2 := by
  have hstart : Course Inert l [] l := .refl l
  obtain ⟨looks, hsync, -⟩ := hstart.sync h fun _ _ hsends hreaps => ⟨hsends, hreaps⟩
  rw [snapshot]
  generalize l.sync h.traced = l' at hsync
  cases hc : l'.session.capture? stream with
  | none => exact ⟨_, hsync⟩
  | some c =>
      exact ⟨_, hsync.withCapture stream _ rfl⟩

/-- So does a wait, at each poll: the induction is on the polls that are left. -/
theorem Course.waitLoop (stream : Stream) (w : Waiter) (polls : Nat) (phase : Waiter.Phase)
    {l : Live (Traced σ)} {new : List Record} (hc : Course Inert l₀ new l) :
    ∃ looks, Course Inert l₀ (new ++ looks) (l.waitLoop h.traced stream w polls phase).2 := by
  induction polls generalizing phase l new with
  | zero =>
      exact ⟨[], hc.nothing⟩
  | succ polls ih =>
      obtain ⟨looks, hsync, -⟩ := hc.sync h fun _ _ hsends hreaps => ⟨hsends, hreaps⟩
      rw [Live.waitLoop]
      generalize l.sync h.traced = l' at hsync
      cases hcapture : l'.session.capture? stream with
      | none => exact ⟨looks, hsync⟩
      | some c =>
          simp only
          generalize w.proceed phase (h.traced.now l'.system) c.buffer = p
          obtain ⟨outcome, phase', buffer⟩ := p
          -- the wait goes on after some time, or it is over
          cases hanswer : w.answer outcome.verdict with
          | none =>
              have hidle : Course Inert l₀ (new ++ looks)
                  ⟨l'.session.withCapture stream { c with buffer := buffer },
                    h.traced.idle (deadline phase') l'.system⟩ :=
                hsync.withCapture stream _ rfl
              obtain ⟨more, hrest⟩ := ih phase' hidle
              rw [List.append_assoc] at hrest
              exact ⟨looks ++ more, hrest⟩
          | some answer =>
              exact ⟨looks, hsync.withCapture stream _ (trace_traced_jot h _ _)⟩

/-- **A signal for the child** adds one record, or none if no process can have its number. -/
theorem Course.send (hc : Course rule l₀ new l) (s : Signal)
    (hrule : ∀ t answer, rule new ⟨t, .signalled s answer⟩) :
    ∃ sent, Course rule l₀ (new ++ sent) (l.send h.traced s).2 ∧ ¬ Reaped sent := by
  rw [Live.send]
  by_cases hpid : Signal.maxPid < l.session.pid
  · rw [if_pos hpid]
    exact ⟨[], hc.nothing, not_reaped_nil⟩
  · rw [if_neg hpid]
    refine ⟨_, hc.asks h (hrule _ (h.signal s l.system.state).1) _, ?_⟩
    simp [Event.reaps]

/-! ## The invariant -/

/-- **The invariant of a session** that was `s` when it was launched: it is sound, it still has the
child and the streams of its launch, it knows if the child has been reaped, and it has kept the rule
of care. -/
structure Guarded (s : Session) (l : Live (Traced σ)) : Prop where
  sound : l.Sound
  pid_eq : l.session.pid = s.pid
  streams_eq : l.session.streams = s.streams
  ended : Reaped l.system.trace → l.session.state.isRunning = false
  careful : Keeps (Careful s) l.system.trace

variable {command : Command} {config : Config} {pid : Nat} {now : Instant}

/-- **Streams held open, from the launch on.** The captures of a sound session have come of what its
pumps have read since then. -/
theorem Sound.heldOpen (hl : l.Sound)
    (hstreams : l.session.streams = (Session.ofLaunch command config pid now).streams)
    {past : List Record} (hopen : HeldOpen l.session past) :
    HeldOpen (Session.ofLaunch command config pid now) (l.system.trace ++ past) := by
  obtain ⟨earlier, checks, hpast, hasked, stream, c, hc, hrunning⟩ := hopen
  have hmem : stream ∈ (Session.ofLaunch command config pid now).streams :=
    hstreams ▸ Session.mem_streams.mpr ⟨c, hc⟩
  obtain ⟨c₀, hc₀⟩ := Session.mem_streams.mp hmem
  have hreads : readsOf (l.system.trace ++ past) stream =
      l.system.reads stream ++ readsOf past stream := readsOf_append _ _ _
  have hfollow := Pump.follow_append stream (l.system.reads stream) (readsOf past stream)
  rw [(hl.follows hc).pump_eq, Pump.feedAll_collected] at hrunning
  refine ⟨l.system.trace ++ earlier, checks, ?_, ?_, stream, c₀, hc₀, ?_⟩
  · rw [hpast, List.append_assoc]
  · rw [hasked, hstreams]
  · rw [Session.capture?_ofLaunch hc₀, hreads]
    change (Pump.follow stream (l.system.reads stream ++ readsOf past stream)).2.finished = false
    rw [hfollow]
    exact hrunning

/-- A session that has just been launched is guarded. -/
theorem guarded_launched (command : Command) (config : Config) (pid : Nat) (now : Instant)
    (system : σ) :
    (launched command config pid now system).Guarded (.ofLaunch command config pid now) where
  sound := sound_launched command config pid now system
  pid_eq := rfl
  streams_eq := rfl
  ended hreaped := absurd hreaped not_reaped_nil
  careful := keeps_nil

/-- A child that counts as running has not been reaped. -/
theorem Guarded.not_reaped {s : Session} (hg : l.Guarded s)
    (hrunning : l.session.state.isRunning = true) : ¬ Reaped l.system.trace := by
  intro hreaped
  simp [hg.ended hreaped] at hrunning

/-- **A release is careful.** While the child is stopped it has not been reaped; and afterwards what
is left of its group is sent signals only while it holds a stream open. -/
theorem Guarded.terminate (hg : l.Guarded (.ofLaunch command config pid now)) :
    ∃ new, Course (fun past => Careful (.ofLaunch command config pid now) (l.system.trace ++ past))
        l new (l.terminate h.traced) ∧
      (Reaped new → (l.terminate h.traced).session.state.isRunning = false) := by
  cases hr : l.session.released with
  | true =>
      rw [terminate_of_released h hr]
      exact ⟨[], .refl l, fun hreaped => absurd hreaped not_reaped_nil⟩
  | false =>
      obtain ⟨first, m, second, hrelease⟩ := release_terminate h l hr
      have hstop := hrelease.stopping
      have hfirst : Course
          (fun past => Careful (.ofLaunch command config pid now) (l.system.trace ++ past))
          l first m := by
        cases hrunning : l.session.state.isRunning with
        | true => exact hstop.mono fun past r hr => hr.careful (hg.not_reaped hrunning)
        | false =>
            have hsilent := hrelease.silent hrunning
            exact { hstop with keeps := hsilent.mono fun past r hr => careful_of_silent hr }
      have hm := hg.sound.goes hrelease.goes
      have hstreams := hrelease.goes.streams_eq.trans hg.streams_eq
      have hsecond : Course (fun past => Careful (.ofLaunch command config pid now)
          (l.system.trace ++ (first ++ past))) m second (l.terminate h.traced) := by
        refine hrelease.clearing.mono fun past r hr => ?_
        rw [← List.append_assoc, ← hstop.trace_eq]
        exact hr.careful fun hopen => hm.heldOpen hstreams hopen
      exact ⟨_, hfirst.trans hsecond, fun _ => hrelease.clearing.ended hrelease.ended⟩

/-- **What every operation adds** keeps the rule of care; and if it reaps the child, the session
knows. -/
theorem Guarded.course_step (hg : l.Guarded (.ofLaunch command config pid now)) (op : Op) :
    ∃ new, Course (fun past => Careful (.ofLaunch command config pid now) (l.system.trace ++ past))
        l new (l.step h.traced op) ∧
      (Reaped new → (l.step h.traced op).session.state.isRunning = false) := by
  -- an operation that only looks sends nothing and reaps nobody
  have hinert {new : List Record} {l' : Live (Traced σ)} (hc : Course Inert l new l') :
      ∃ new, Course (fun past => Careful (.ofLaunch command config pid now)
          (l.system.trace ++ past)) l new l' ∧
        (Reaped new → l'.session.state.isRunning = false) :=
    ⟨new, hc.mono fun _ _ hr => careful_of_silent hr.1,
      fun hreaped => absurd hreaped hc.keeps.not_reaped⟩
  cases op with
  | isAlive =>
      rw [Live.step]
      rcases course_isAlive h l with ⟨n, looked, heq, -, hlook⟩ | ⟨n, looked, heq, hlook, hended⟩
      · rw [heq]
        exact hinert hlook
      · rw [heq]
        exact ⟨looked, hlook.mono fun _ _ hr => careful_of_silent hr, fun _ => hended⟩
  | snapshot stream =>
      obtain ⟨looks, hlooks⟩ := course_snapshot h stream l
      exact hinert hlooks
  | wait stream w polls =>
      obtain ⟨looks, hlooks⟩ := (Course.refl l).waitLoop h stream w polls .fresh
      exact hinert hlooks
  | signal s =>
      rw [Live.step, Live.signal]
      rcases course_isAlive h l with
        ⟨n, looked, heq, hrunning, hlook⟩ | ⟨n, looked, heq, hlook, hended⟩
      · rw [heq]
        have hchild := hlook.keeps.not_reaped
        have hcare : Course (fun past => Careful (.ofLaunch command config pid now)
            (l.system.trace ++ past)) l looked n :=
          hlook.mono fun _ _ hr => careful_of_silent hr.1
        obtain ⟨sent, hsend, hnot⟩ := (hcare.note h .debug _).send h s fun t answer =>
          careful_of_not_reaped (by simp [hg.not_reaped hrunning, hchild])
        refine ⟨looked ++ sent, hsend, fun hreaped => ?_⟩
        simp [hchild, hnot] at hreaped
      · rw [heq]
        exact ⟨looked, hlook.mono fun _ _ hr => careful_of_silent hr, fun _ => hended⟩
  | takePumpErrors => exact hinert ((Course.refl l).still rfl rfl rfl id)
  | terminate => exact hg.terminate h
  | pause d => exact hinert ((Course.refl l).pause h d)

/-- **Every operation keeps the invariant.** -/
theorem Guarded.step (hg : l.Guarded (.ofLaunch command config pid now)) (op : Op) :
    (l.step h.traced op).Guarded (.ofLaunch command config pid now) := by
  obtain ⟨hsound, hlater⟩ := hg.sound.step h op
  obtain ⟨new, hcourse, hended⟩ := hg.course_step h op
  refine ⟨hsound, ?_, ?_, ?_, ?_⟩
  · exact hcourse.pid_eq.trans hg.pid_eq
  · exact hlater.streams_eq.trans hg.streams_eq
  · intro hreaped
    rw [hcourse.trace_eq, reaped_append] at hreaped
    rcases hreaped with hbefore | hnow
    · exact hcourse.ended (hg.ended hbefore)
    · exact hended hnow
  · rw [hcourse.trace_eq]
    exact hg.careful.append hcourse.keeps

/-- So does every run: the induction is on the operations. -/
theorem Guarded.run (hg : l.Guarded (.ofLaunch command config pid now)) (ops : List Op) :
    (l.run h.traced ops).Guarded (.ofLaunch command config pid now) := by
  induction ops generalizing l with
  | nil => exact hg
  | cons op ops ih => exact ih (hg.step h op)

/-- **After the child has been reaped.** Take any session on any host, and anything that is done with
it, in any order. Once the child has been reaped, no signal is sent to it and it is not killed; its
group is sent a signal only straight after the pumps have been looked at, when one of them had not
stopped; and whoever asks for a signal is told that the child is not running, and nothing else
happens. Without the record of its host, the session is the one that the same operations lead to on
the host itself. -/
theorem nothing_sent_after_reaping (command : Command) (config : Config) (pid : Nat) (now : Instant)
    (system : σ) (ops : List Op) :
    let l := (launched command config pid now system).run h.traced ops
    (∀ (past : List Record) (r : Record) (rest : List Record),
      l.system.trace = past ++ r :: rest → Reaped past → r.event.sends = false ∨
        ∃ sig answer, r.event = .groupSignalled sig answer ∧
          HeldOpen (.ofLaunch command config pid now) past) ∧
    (Reaped l.system.trace → ∀ s : Signal, l.signal h.traced s =
      (.error (.signalSendFailed s.name ("pid " ++ toString pid ++ " is not running")), l)) ∧
    l.forget = (⟨.ofLaunch command config pid now, system⟩ : Live σ).run h ops := by
  intro l
  have hg := (guarded_launched command config pid now system).run h ops
  refine ⟨hg.careful, ?_, (run_forget h _ ops).symm⟩
  intro hreaped s
  have hended : l.session.state.isRunning = false := hg.ended hreaped
  have hpid : l.session.pid = pid := hg.pid_eq
  have halive : l.isAlive h.traced = (false, l) := by
    rw [isAlive, hended]
    rfl
  rw [signal, halive]
  simp only [Signal.failure, hpid]

end Live

end ChildWatch
