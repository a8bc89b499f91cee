import ChildWatch.Proofs.Session.CaptureSteps

/-! # The course of an operation

What a session sends, and when, is told by the record of its host. "This only after that" is a rule
that judges each record by those before it, and an operation keeps the rule if every record that it
adds does.

* `Event.sends`, `Event.reaps`, `Event.asked` — what the kinds of events are.
* `Host.Reaped` — the child has been reaped.
* `Host.Keeps` — a rule that is kept by all records; `Silent` and `Inert` are two of them.
* `Live.Course` — from one moment to another: the records that have been added keep a rule, and the
  session is still that of the same child.
* `Course.note`, `Course.asks`, `Course.sync` and so on — what each question adds.
* `course_isAlive`, `sendGroup_cases` — all that can come of looking at the child and of a signal
  for its group. -/

namespace ChildWatch

namespace Host

/-! ## Events and rules -/

/-- Whether an event is a **signal**, for the child or for its group. -/
def Event.sends : Event → Bool
  | .signalled .. | .groupSignalled .. | .killed _ => true
  | _ => false

/-- Whether an event is **the reaping of the child**: its status is known, and its number may be
given to another process from then on. -/
def Event.reaps : Event → Bool
  | .polled (.ok (some _)) | .awaited (.ok _) => true
  | _ => false

/-- The stream whose pump an event has looked at. -/
def Event.asked : Event → Option Stream
  | .read stream _ => some stream
  | _ => none

/-- **The child has been reaped** at some time. -/
def Reaped (past : List Record) : Prop := ∃ r ∈ past, r.event.reaps = true

@[simp] theorem not_reaped_nil : ¬ Reaped [] := by simp [Reaped]

@[simp] theorem reaped_append {past more : List Record} :
    Reaped (past ++ more) ↔ Reaped past ∨ Reaped more := by
  simp [Reaped, or_and_right, exists_or]

@[simp] theorem reaped_cons {r : Record} {past : List Record} :
    Reaped (r :: past) ↔ r.event.reaps = true ∨ Reaped past := by
  simp [Reaped]

/-- **Every record keeps the rule**, which judges it by the records before it. -/
def Keeps (rule : List Record → Record → Prop) (trace : List Record) : Prop :=
  ∀ past r rest, trace = past ++ r :: rest → rule past r

/-- A rule for those who only look: nothing is sent. -/
def Silent (_ : List Record) (r : Record) : Prop := r.event.sends = false

/-- A rule for those who do not even wait: nothing is sent, and the child is not reaped. -/
def Inert (_ : List Record) (r : Record) : Prop :=
  r.event.sends = false ∧ r.event.reaps = false

variable {rule rule' : List Record → Record → Prop} {trace more : List Record}

theorem keeps_nil : Keeps rule [] := by
  intro past r rest heq
  simp at heq

/-- Each record of a trace that keeps a rule is judged by some past. -/
theorem Keeps.exists_past (h : Keeps rule trace) {r : Record} (hr : r ∈ trace) :
    ∃ past, rule past r := by
  obtain ⟨past, rest, heq⟩ := List.append_of_mem hr
  exact ⟨past, h past r rest heq⟩

/-- Where nobody is reaped, the child is not. -/
theorem Keeps.not_reaped (h : Keeps Inert trace) : ¬ Reaped trace := by
  rintro ⟨r, hr, hreaps⟩
  obtain ⟨past, -, hnot⟩ := h.exists_past hr
  simp [hnot] at hreaps

theorem Keeps.mono (h : Keeps rule trace)
    (himp : ∀ past r, rule past r → rule' past r) : Keeps rule' trace :=
  fun past r rest heq => himp past r (h past r rest heq)

/-- Records are judged one after the other: those that come later have the earlier ones in their
past. -/
theorem Keeps.append (h : Keeps rule trace)
    (hmore : Keeps (fun past => rule (trace ++ past)) more) : Keeps rule (trace ++ more) := by
  intro past r rest heq
  rcases List.append_eq_append_iff.mp heq with ⟨between, hpast, hmore'⟩ | ⟨between, htrace, hrest⟩
  -- the record is among those that have been added
  · have hrule := hmore between r rest hmore'
    rw [hpast]
    exact hrule
  -- it was there before, unless nothing was there behind `past`
  · cases between with
    | nil =>
        rw [List.append_nil] at htrace
        have hrule : rule (trace ++ []) r := hmore [] r rest hrest.symm
        rw [List.append_nil, htrace] at hrule
        exact hrule
    | cons r' between =>
        rw [List.cons_append, List.cons.injEq] at hrest
        obtain ⟨rfl, -⟩ := hrest
        exact h past r between htrace

theorem Keeps.concat (h : Keeps rule trace) {r : Record} (hr : rule trace r) :
    Keeps rule (trace ++ [r]) := by
  refine h.append fun past r' rest heq => ?_
  cases past with
  | nil =>
      rw [List.nil_append, List.cons.injEq] at heq
      rw [List.append_nil, ← heq.1]
      exact hr
  | cons _ past => simp at heq

end Host

namespace Session

variable (s : Session) (stream : Stream) (c : Capture)

@[simp] theorem pid_withCapture : (s.withCapture stream c).pid = s.pid := by
  cases stream <;> rfl

@[simp] theorem state_withCapture : (s.withCapture stream c).state = s.state := by
  cases stream <;> rfl

@[simp] theorem grace_withCapture : (s.withCapture stream c).grace = s.grace := by
  cases stream <;> rfl

end Session

namespace Live

open Host

variable {σ : Type} (h : Host σ)

/-- **The course of an operation** from `l₀` to `l`: `new` is what has passed, by a rule that judges
each record by the new ones before it. The session still has the same child and the same grace
period, and a child that is known to have ended does not run again. -/
structure Course (rule : List Record → Record → Prop) (l₀ : Live (Traced σ)) (new : List Record)
    (l : Live (Traced σ)) : Prop where
  trace_eq : l.system.trace = l₀.system.trace ++ new
  keeps : Keeps rule new
  pid_eq : l.session.pid = l₀.session.pid
  grace_eq : l.session.grace = l₀.session.grace
  ended : l₀.session.state.isRunning = false → l.session.state.isRunning = false

namespace Course

variable {rule rule' : List Record → Record → Prop} {l₀ l l' : Live (Traced σ)}
  {new more : List Record}

theorem refl (l : Live (Traced σ)) : Course rule l [] l :=
  ⟨(List.append_nil _).symm, keeps_nil, rfl, rfl, id⟩

theorem mono (hc : Course rule l₀ new l) (himp : ∀ past r, rule past r → rule' past r) :
    Course rule' l₀ new l :=
  { hc with keeps := hc.keeps.mono himp }

/-- One course goes on where another has ended. -/
theorem trans (hc : Course rule l₀ new l)
    (hmore : Course (fun past => rule (new ++ past)) l more l') :
    Course rule l₀ (new ++ more) l' where
  trace_eq := by rw [hmore.trace_eq, hc.trace_eq, List.append_assoc]
  keeps := hc.keeps.append hmore.keeps
  pid_eq := hmore.pid_eq.trans hc.pid_eq
  grace_eq := hmore.grace_eq.trans hc.grace_eq
  ended hend := hmore.ended (hc.ended hend)

/-- A course to which nothing is added. -/
theorem nothing (hc : Course rule l₀ new l) : Course rule l₀ (new ++ []) l := by
  rw [List.append_nil]
  exact hc

/-- Nothing passes while nothing is asked. -/
theorem still (hc : Course rule l₀ new l) (htrace : l'.system.trace = l.system.trace)
    (hpid : l'.session.pid = l.session.pid) (hgrace : l'.session.grace = l.session.grace)
    (hended : l.session.state.isRunning = false → l'.session.state.isRunning = false) :
    Course rule l₀ new l' :=
  ⟨htrace.trans hc.trace_eq, hc.keeps, hpid.trans hc.pid_eq, hgrace.trans hc.grace_eq,
    fun hend => hended (hc.ended hend)⟩

/-- A capture may come of what is known already. -/
theorem withCapture (hc : Course rule l₀ new l) (stream : Stream) (c : Capture)
    {system : Traced σ} (htrace : system.trace = l.system.trace) :
    Course rule l₀ new ⟨l.session.withCapture stream c, system⟩ := by
  refine hc.still htrace ?_ ?_ ?_
  · exact Session.pid_withCapture _ _ _
  · exact Session.grace_withCapture _ _ _
  · intro hend
    rw [Session.state_withCapture]
    exact hend

/-- An entry in the journal is not on record. -/
theorem note (hc : Course rule l₀ new l) (level : Journal.Level) (text : String) :
    Course rule l₀ new (l.note h.traced level text) :=
  hc.still rfl rfl rfl id

/-- Neither is a pause. -/
theorem pause (hc : Course rule l₀ new l) (d : Duration) :
    Course rule l₀ new { l with system := h.traced.pause d l.system } :=
  hc.still rfl rfl rfl id

/-- One more record is added. -/
theorem adds (hc : Course rule l₀ new l) {r : Record} (hrule : rule new r)
    (htrace : l'.system.trace = l.system.trace ++ [r]) (hsession : l'.session = l.session) :
    Course rule l₀ (new ++ [r]) l' where
  trace_eq := by rw [htrace, hc.trace_eq, List.append_assoc]
  keeps := hc.keeps.concat hrule
  pid_eq := by rw [hsession, hc.pid_eq]
  grace_eq := by rw [hsession, hc.grace_eq]
  ended hend := by rw [hsession, hc.ended hend]

/-- **A question to the host** adds its record. -/
theorem asks (hc : Course rule l₀ new l) {e : Event} (hrule : rule new ⟨h.now l.system.state, e⟩)
    (state : σ) :
    Course rule l₀ (new ++ [⟨h.now l.system.state, e⟩])
      { l with system := l.system.log h e state } :=
  hc.adds hrule rfl rfl

/-- Waiting for the child adds one record. -/
theorem reap (hc : Course rule l₀ new l)
    (hrule : ∀ answer, rule new ⟨h.now l.system.state, .awaited answer⟩) :
    ∃ more, Course rule l₀ (new ++ more) (l.reap h.traced).2 :=
  ⟨_, hc.asks h (hrule _) _⟩

/-! ### Looking at the pumps -/

/-- Looking at the pump of one stream adds one record, if the stream is captured. -/
theorem syncStream (hc : Course rule l₀ new l) (stream : Stream)
    (hrule : ∀ past r, r.event.sends = false → r.event.reaps = false → rule past r) :
    ∃ looks, Course rule l₀ (new ++ looks) (l.syncStream h.traced stream) ∧
      looks.map (·.event.asked) =
        if (l.session.capture? stream).isSome then [some stream] else [] := by
  rw [Live.syncStream]
  cases hcapture : l.session.capture? stream with
  | none =>
      exact ⟨[], hc.nothing, rfl⟩
  | some c =>
      refine ⟨[⟨h.now l.system.state, .read stream (h.reads stream l.system.state).1⟩], ?_, rfl⟩
      have hread := hc.asks h (e := .read stream (h.reads stream l.system.state).1)
        (hrule _ _ rfl rfl) (h.reads stream l.system.state).2
      -- the entry of a pump that has stopped is not on record
      exact hread.withCapture stream _ (trace_traced_jot h _ _)

/-- **Looking at the pumps** adds one record for each captured stream, the output's first. -/
theorem sync (hc : Course rule l₀ new l)
    (hrule : ∀ past r, r.event.sends = false → r.event.reaps = false → rule past r) :
    ∃ looks, Course rule l₀ (new ++ looks) (l.sync h.traced) ∧
      looks.map (·.event.asked) = l.session.streams.map some := by
  obtain ⟨first, hfirst, hasked⟩ := hc.syncStream h .stdout hrule
  have hstreams := (goes_syncStream h .stdout l).streams_eq
  rw [Live.sync]
  generalize l.syncStream h.traced .stdout = l' at hfirst hstreams
  obtain ⟨second, hsecond, hasked'⟩ := hfirst.syncStream h .stderr hrule
  refine ⟨first ++ second, ?_, ?_⟩
  · rw [← List.append_assoc]
    exact hsecond
  · rw [List.map_append, hasked, hasked', ← hstreams, Session.streams]
    by_cases hstderr : l'.session.stderr.isSome = true
    · simp [Session.capture?, hstderr]
    · simp [Session.capture?, hstderr]

end Course

/-! ## Questions with several answers -/

variable (l : Live (Traced σ))

/-- Killing the child adds one record, whatever comes of it. -/
theorem killChild_traced :
    l.killChild h.traced = ((h.kill l.system.state).1, { l with
      system := l.system.log h (.killed (h.kill l.system.state).1) (h.kill l.system.state).2 }) :=
  rfl

/-- **All that can come of looking at the child**: it counts as running and has not been reaped; or
it is known to have ended, which may have been found out just now. -/
theorem course_isAlive :
    (∃ l' looked, l.isAlive h.traced = (true, l') ∧ l.session.state.isRunning = true ∧
      Course Inert l looked l') ∨
    (∃ l' looked, l.isAlive h.traced = (false, l') ∧ Course Silent l looked l' ∧
      l'.session.state.isRunning = false) := by
  rw [isAlive]
  cases hrunning : l.session.state.isRunning with
  | false =>
      right
      exact ⟨l, [], rfl, .refl l, hrunning⟩
  | true =>
      have hpoll : h.traced.poll l.system =
          ((h.poll l.system.state).1, l.system.log h (.polled (h.poll l.system.state).1)
            (h.poll l.system.state).2) := rfl
      rw [if_pos rfl, hpoll]
      generalize h.poll l.system.state = r
      obtain ⟨_ | _ | status, state⟩ := r
      -- a child that cannot be looked at counts as running
      · left
        exact ⟨_, _, rfl, rfl, (Course.refl l).asks h ⟨rfl, rfl⟩ state⟩
      · left
        exact ⟨_, _, rfl, rfl, (Course.refl l).asks h ⟨rfl, rfl⟩ state⟩
      -- its status is known: it is reaped, and the session knows it
      · right
        have hlook : Course Silent l _ _ :=
          (Course.refl l).asks h (e := .polled (.ok (some status))) rfl state
        refine ⟨_, _, rfl, hlook.still ?_ ?_ ?_ ?_, ?_⟩
        · rfl
        · rfl
        · rfl
        · exact fun _ => rfl
        · rfl

/-- **All that can come of a signal for the group**: the host is not asked, since no process can
have that number; or it refuses; or the signal is sent. -/
theorem sendGroup_cases (s : Signal) :
    (Signal.maxPid < l.session.pid ∧ ∃ e, l.sendGroup h.traced s = (.error e, l)) ∨
    (l.session.pid ≤ Signal.maxPid ∧ ∃ refusal e, l.sendGroup h.traced s = (.error e, { l with
      system := l.system.log h (.groupSignalled s (some refusal))
        (h.signalGroup s l.system.state).2 })) ∨
    (l.session.pid ≤ Signal.maxPid ∧ l.sendGroup h.traced s = (.ok (), { l with
      system := l.system.log h (.groupSignalled s none)
        (h.signalGroup s l.system.state).2 })) := by
  rw [sendGroup]
  by_cases hpid : Signal.maxPid < l.session.pid
  · left
    rw [if_pos hpid, Signal.deliver, if_pos hpid]
    exact ⟨hpid, _, rfl⟩
  · right
    have hsend : h.traced.signalGroup s l.system =
        ((h.signalGroup s l.system.state).1,
          l.system.log h (.groupSignalled s (h.signalGroup s l.system.state).1)
            (h.signalGroup s l.system.state).2) := rfl
    rw [if_neg hpid, hsend]
    simp only [Signal.deliver, if_neg hpid]
    cases (h.signalGroup s l.system.state).1 with
    | none => exact Or.inr ⟨Nat.le_of_not_lt hpid, rfl⟩
    | some refusal => exact Or.inl ⟨Nat.le_of_not_lt hpid, refusal, _, rfl⟩

end Live

end ChildWatch
