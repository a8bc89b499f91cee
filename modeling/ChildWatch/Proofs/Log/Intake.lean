import ChildWatch.Log.Wait

/-! # What the receiving side does to a buffer

A drain, a poll of a wait and everything they are made of only ever move the oldest queued lines to
the end of the buffer.

* `LogBuffer.whole` — the channel as if nothing had been received from it.
* `LogBuffer.Takes` — the one thing that the receiving side does; `takes_drain`, `takes_receive`,
  `takes_resume`, `takes_firstPoll` and `takes_proceed` say so of each operation.
* `LogBuffer.use` — a use of the sending side, and `whole_use`: on the whole channel it is the same
  use.
* `LogBuffer.Honest` — a closed buffer has nothing left to come. Both sides keep it. -/

namespace ChildWatch

open Log Text

namespace Log.Channel

/-- A **use of the sending side**: a line is sent, a sender is closed, or one more sender is made. -/
inductive Use where
  | send (sender : Nat) (line : Line)
  | close (sender : Nat)
  | clone

/-- The channel after a use. -/
def after (c : Channel) : Use → Channel
  | .send i line => (c.send i line).2
  | .close i => (c.close i).2
  | .clone => c.addSender.2

/-- The line that a use **sends with success**, if it is one that sends. -/
def accepted (c : Channel) : Use → List Line
  | .send i line => if (c.send i line).1 then [line] else []
  | .close _ => []
  | .clone => []

/-- A use puts the line that is sent with success at the end of the queue. -/
theorem queue_after (c : Channel) (u : Use) : (c.after u).queue = c.queue ++ c.accepted u := by
  cases u with
  | send i line =>
      rw [after, accepted, send]
      split <;> simp
  | close i =>
      rw [after, accepted, close]
      split <;> simp
  | clone => simp [after, accepted, addSender]

/-- A use does the same whatever lines stand in front of the queue. -/
theorem after_prepend (c : Channel) (earlier : List Line) (u : Use) :
    after { c with queue := earlier ++ c.queue } u =
      { c.after u with queue := earlier ++ (c.after u).queue } := by
  have hopen (i : Nat) :
      isSenderOpen { c with queue := earlier ++ c.queue } i = c.isSenderOpen i := rfl
  cases u with
  | send i line =>
      rw [after, after, send, send, hopen]
      by_cases hi : c.isSenderOpen i
      · rw [if_pos hi, if_pos hi]
        simp [enqueue]
      · rw [if_neg hi, if_neg hi]
  | close i =>
      rw [after, after, close, close, hopen]
      by_cases hi : c.isSenderOpen i
      · rw [if_pos hi, if_pos hi]
      · rw [if_neg hi, if_neg hi]
  | clone => rfl

/-- With no sender left there is no open sender. -/
theorem isSenderOpen_of_not_isOpen {c : Channel} (h : c.isOpen = false) (i : Nat) :
    c.isSenderOpen i = false := by
  rw [isSenderOpen]
  cases hi : c.senders[i]? with
  | none => rfl
  | some s =>
      have hmem : s ∈ c.senders := List.mem_of_getElem? hi
      cases s with
      | false => rfl
      | true =>
          rw [isOpen, List.contains_eq_mem, decide_eq_false_iff_not] at h
          exact absurd hmem h

/-- Nothing is sent with success once no sender is left. -/
theorem accepted_of_not_isOpen {c : Channel} (h : c.isOpen = false) (u : Use) :
    c.accepted u = [] := by
  cases u with
  | send i line => simp [accepted, send, isSenderOpen_of_not_isOpen h i]
  | close i => rfl
  | clone => rfl

/-- **No sender ever comes back**: a channel without an open sender stays without. -/
theorem isOpen_after_of_not_isOpen {c : Channel} (h : c.isOpen = false) (u : Use) :
    (c.after u).isOpen = false := by
  cases u with
  | send i line => simp [after, send, isSenderOpen_of_not_isOpen h i, h]
  | close i => simp [after, close, isSenderOpen_of_not_isOpen h i, h]
  | clone =>
      have hs : true ∉ c.senders := by simpa [isOpen] using h
      simp [after, addSender, isOpen, hs]

end Log.Channel

namespace LogBuffer

/-- The **whole** channel: what its queue would be if nothing had been received from it. -/
def whole (b : LogBuffer) : Channel := { b.channel with queue := b.lines ++ b.channel.queue }

@[simp] theorem senders_whole (b : LogBuffer) : b.whole.senders = b.channel.senders := rfl

@[simp] theorem isOpen_whole (b : LogBuffer) : b.whole.isOpen = b.channel.isOpen := rfl

/-- A buffer whose sending side is used. -/
def use (b : LogBuffer) (u : Channel.Use) : LogBuffer := { b with channel := b.channel.after u }

@[simp] theorem lines_use (b : LogBuffer) (u : Channel.Use) : (b.use u).lines = b.lines := rfl

@[simp] theorem channel_use (b : LogBuffer) (u : Channel.Use) :
    (b.use u).channel = b.channel.after u := rfl

/-- The sending side does to the whole channel what it does to the channel. -/
theorem whole_use (b : LogBuffer) (u : Channel.Use) : (b.use u).whole = b.whole.after u :=
  (Channel.after_prepend b.channel b.lines u).symm

/-! ## Taking in -/

/-- **`b'` is `b` after it has taken in some of the queued lines**, the oldest first. If that has
closed it, nothing is queued any more and no sender is left. -/
structure Takes (b b' : LogBuffer) : Prop where
  /-- Nothing is lost, added or put in another order, and the senders are left alone. -/
  whole_eq : b'.whole = b.whole
  /-- The stream that is recorded stays the same. -/
  stream_eq : b'.stream = b.stream
  /-- What has been taken in stays where it is. -/
  prefix_lines : b.lines <+: b'.lines
  /-- A closed buffer stays closed. -/
  closed_of_closed : b.closed = true → b'.closed = true
  /-- A buffer is closed only when everything has been taken in and nothing can come. -/
  exhausted : b'.closed = true →
    b.closed = true ∨ (b'.channel.queue = [] ∧ b'.channel.isOpen = false)

namespace Takes

variable {b b' b'' : LogBuffer}

theorem refl (b : LogBuffer) : b.Takes b :=
  ⟨rfl, rfl, List.prefix_rfl, id, Or.inl⟩

/-- The lines taken in and those queued, together, stay the same. -/
theorem lines_append_queue (h : b.Takes b') :
    b'.lines ++ b'.channel.queue = b.lines ++ b.channel.queue :=
  congrArg Channel.queue h.whole_eq

theorem senders_eq (h : b.Takes b') : b'.channel.senders = b.channel.senders := by
  rw [← senders_whole, h.whole_eq, senders_whole]

theorem isOpen_eq (h : b.Takes b') : b'.channel.isOpen = b.channel.isOpen := by
  rw [← isOpen_whole, h.whole_eq, isOpen_whole]

/-- With nothing queued there is nothing to take in. -/
theorem of_queue_nil (h : b.Takes b') (hq : b.channel.queue = []) :
    b'.lines = b.lines ∧ b'.channel.queue = [] := by
  have hall := h.lines_append_queue
  obtain ⟨more, hmore⟩ := h.prefix_lines
  -- what is new in the buffer and what is left in the queue together are nothing
  rw [hq, ← hmore, List.append_assoc, List.append_right_inj] at hall
  obtain ⟨hnil, hqueue⟩ := List.append_eq_nil_iff.mp hall
  refine ⟨?_, hqueue⟩
  rw [← hmore, hnil, List.append_nil]

theorem trans (h : b.Takes b') (h' : b'.Takes b'') : b.Takes b'' where
  whole_eq := h'.whole_eq.trans h.whole_eq
  stream_eq := h'.stream_eq.trans h.stream_eq
  prefix_lines := h.prefix_lines.trans h'.prefix_lines
  closed_of_closed hb := h'.closed_of_closed (h.closed_of_closed hb)
  exhausted hb'' := by
    rcases h'.exhausted hb'' with hb' | hover
    · rcases h.exhausted hb' with hb | ⟨hq, ho⟩
      · exact Or.inl hb
      -- closed by the first part, which left nothing for the second to take in
      · exact Or.inr ⟨(h'.of_queue_nil hq).2, h'.isOpen_eq.trans ho⟩
    · exact Or.inr hover

end Takes

/-- A drain takes in everything that is queued. -/
theorem takes_drain (b : LogBuffer) : b.Takes b.drain where
  whole_eq := by simp [whole, drain]
  stream_eq := rfl
  prefix_lines := List.prefix_append _ _
  closed_of_closed hb := by simp [drain, hb]
  exhausted hb := by
    simp only [drain, Bool.or_eq_true, Bool.not_eq_true'] at hb
    exact hb.imp_right fun ho => ⟨rfl, ho⟩

/-- One line received takes in the oldest queued line. -/
theorem takes_receive {b : LogBuffer} {line : Line} {rest : List Line}
    (hq : b.channel.queue = line :: rest) :
    b.Takes ({ b with channel := { b.channel with queue := rest } }.push line) where
  whole_eq := by simp [whole, push, hq]
  stream_eq := rfl
  prefix_lines := List.prefix_append _ _
  closed_of_closed hb := hb
  exhausted hb := Or.inl hb

/-- The end of the channel is seen when nothing is queued and no sender is left. -/
theorem takes_markClosed {b : LogBuffer} (hq : b.channel.queue = [])
    (ho : b.channel.isOpen = false) : b.Takes b.markClosed where
  whole_eq := rfl
  stream_eq := rfl
  prefix_lines := List.prefix_rfl
  closed_of_closed _ := rfl
  exhausted _ := Or.inr ⟨hq, ho⟩

end LogBuffer

namespace Waiter

/-- Receiving line by line takes in what it receives. -/
theorem takes_receive_go (p : Pattern) (due : Bool) (queue : List Line) (b : LogBuffer)
    (hq : b.channel.queue = queue) : b.Takes (receive.go p due queue b).2 := by
  induction queue generalizing b with
  | nil =>
      rw [receive.go]
      by_cases hdue : due = true
      · rw [if_pos hdue]
        exact b.takes_drain
      · rw [if_neg hdue]
        by_cases ho : b.channel.isOpen = true
        · rw [if_pos ho]
          exact .refl b
        · rw [if_neg ho]
          exact LogBuffer.takes_markClosed hq (Bool.eq_false_iff.mpr ho)
  | cons line rest ih =>
      rw [receive.go]
      by_cases hdue : due = true
      · rw [if_pos hdue]
        exact b.takes_drain
      · rw [if_neg hdue]
        have hline := LogBuffer.takes_receive hq
        by_cases hp : p.accepts line = true
        -- a match: the lines behind it stay queued
        · simp only [hp, if_true]
          exact hline
        · simp only [hp]
          exact hline.trans (ih _ rfl)

theorem takes_receive (p : Pattern) (due : Bool) (b : LogBuffer) :
    b.Takes (receive p due b).2 :=
  takes_receive_go p due b.channel.queue b rfl

/-- A later poll takes in what it receives. -/
theorem takes_resume (w : Waiter) (deadline : Option Instant) (now : Instant) (b : LogBuffer) :
    b.Takes (w.resume deadline now b).2 := by
  rw [resume]
  cases hq : b.channel.queue with
  | nil =>
      by_cases ho : b.channel.isOpen = true
      · simp only [ho, if_true]
        by_cases hdue : Instant.reached deadline now = true
        · rw [if_pos hdue]
          exact b.takes_drain
        · rw [if_neg hdue]
          exact .refl b
      · simp only [ho]
        exact LogBuffer.takes_markClosed hq (Bool.eq_false_iff.mpr ho)
  | cons line rest =>
      have hline := LogBuffer.takes_receive hq
      by_cases hp : w.pattern.accepts line = true
      · simp only [hp, if_true]
        exact hline
      · simp only [hp]
        exact hline.trans (takes_receive _ _ _)

/-- The first poll takes in everything that is queued. -/
theorem takes_firstPoll (w : Waiter) (now : Instant) (b : LogBuffer) :
    b.Takes (w.firstPoll now b).2.2 := by
  rw [firstPoll]
  by_cases hc : b.drain.contains w.pattern = true
  · simp only [hc, if_true]
    exact b.takes_drain
  · by_cases hclosed : b.drain.closed = true
    · simp only [hc, hclosed, if_true]
      exact b.takes_drain
    · simp only [hc, hclosed]
      exact b.takes_drain.trans (takes_receive _ _ _)

/-- **A poll only takes in queued lines**, whatever it comes to. -/
theorem takes_proceed (w : Waiter) (phase : Phase) (now : Instant) (b : LogBuffer) :
    b.Takes (w.proceed phase now b).2.2 := by
  cases phase with
  | fresh => exact w.takes_firstPoll now b
  | waiting deadline => exact w.takes_resume deadline now b

theorem takes_poll (w : Waiter) (phase : Phase) (now : Instant) (b : LogBuffer) :
    b.Takes (w.poll phase now b).2.2 :=
  w.takes_proceed phase now b

end Waiter

namespace LogBuffer

/-! ## What the closed mark says -/

/-- **An honest buffer** is closed only if nothing is queued and no sender is left. -/
def Honest (b : LogBuffer) : Prop :=
  b.closed = true → b.channel.queue = [] ∧ b.channel.isOpen = false

theorem honest_fresh (stream : Stream) : (fresh stream).Honest := by
  intro h
  simp [fresh] at h

/-- The receiving side keeps a buffer honest. -/
theorem Takes.honest {b b' : LogBuffer} (h : b.Takes b') (hb : b.Honest) : b'.Honest := by
  intro hclosed
  rcases h.exhausted hclosed with hb' | hover
  · obtain ⟨hq, ho⟩ := hb hb'
    exact ⟨(h.of_queue_nil hq).2, h.isOpen_eq.trans ho⟩
  · exact hover

/-- **Nothing on the receiving side changes a closed buffer** that is honest. -/
theorem Takes.eq_of_closed {b b' : LogBuffer} (h : b.Takes b') (hb : b.Honest)
    (hclosed : b.closed = true) : b' = b := by
  have hq := (hb hclosed).1
  obtain ⟨hlines, hq'⟩ := h.of_queue_nil hq
  have hsenders := h.senders_eq
  have hclosed' := h.closed_of_closed hclosed
  have hstream := h.stream_eq
  -- the two agree in every field
  obtain ⟨_, _, ⟨_, _⟩, _⟩ := b
  obtain ⟨_, _, ⟨_, _⟩, _⟩ := b'
  simp_all

/-- The sending side keeps a buffer honest, since no sender comes back. -/
theorem honest_use {b : LogBuffer} (hb : b.Honest) (u : Channel.Use) : (b.use u).Honest := by
  intro hclosed
  obtain ⟨hq, ho⟩ := hb hclosed
  refine ⟨?_, Channel.isOpen_after_of_not_isOpen ho u⟩
  rw [channel_use, Channel.queue_after, hq, Channel.accepted_of_not_isOpen ho u, List.append_nil]

end LogBuffer

end ChildWatch
