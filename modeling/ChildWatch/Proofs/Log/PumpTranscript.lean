import ChildWatch.Session.Capture

/-! # What a pump makes of its stream

A stream is served in reads of any size, with interruptions in between, and a pump cuts what it is
served into lines. How the reads fall does not matter to it.

* `Served` — what a stream serves, one thing at a time, whatever the reads.
* `Transcript` — the pieces that a pump should make of it, and how it should end.
* `Pump.feedAll_served` — a pump cannot tell reads from the things they serve.
* `Pump.feedAll_transcript` — a pump gives the lines of the transcript and stops as it ends.
* `Served.ofReads`, `Pump.drive_served` — reads with the end of the stream after them, and a pump that
  is followed to it.
* `Pump.drive_transcript` — so it is for a scripted source read through a buffer of any size. -/

namespace ChildWatch

open Text

/-- **What a stream serves**, one thing at a time. -/
inductive Served where
  /-- A byte. -/
  | byte (b : UInt8)
  /-- A read of no bytes: the end of the stream, for now. -/
  | nothing
  /-- An error after which nothing is tried again. -/
  | failed (fault : IoFault)
  /-- A panic of the reader. -/
  | panicked

namespace Served

/-- What one read serves. An interruption serves nothing at all. -/
def ofRead : Read → List Served
  | .data [] => [.nothing]
  | .data (b :: bs) => (b :: bs).map .byte
  | .interrupted => []
  | .failed fault => [.failed fault]
  | .panicked => [.panicked]

/-- What a step of a scripted source serves. -/
def ofSource : Source → List Served
  | .bytes bs => bs.map .byte
  | .zero => [.nothing]
  | .error e => e.fault?.elim [] ([.failed ·])
  | .panic => [.panicked]

/-- What a script serves. After its last step every read is of no bytes; two of them are as good as
any number, since the first may only end a line and the second finds nothing. -/
def ofScript (script : List Source) : List Served := script.flatMap ofSource ++ [.nothing, .nothing]

/-- What reads serve, with the end of the stream after them. -/
def ofReads (reads : List Read) : List Served := reads.flatMap ofRead ++ [.nothing, .nothing]

/-- The read that serves one thing alone. -/
def read : Served → Read
  | .byte b => .data [b]
  | .nothing => .data []
  | .failed fault => .failed fault
  | .panicked => .panicked

end Served

/-- How a pump ends. -/
inductive Ending where
  | finished
  | failed (fault : IoFault)
  | panicked

/-- What a pump that has given `n` lines reports of its end. -/
def Ending.result (stream : Stream) (n : Nat) : Ending → Except Error Nat
  | .finished => .ok n
  | .failed fault => .error (.pumpRead stream fault.error)
  | .panicked => .error (.pumpPanicked stream)

/-- **The transcript of a stream**: the pieces to be made of what it serves, and how the pump ends. A
piece is a run of bytes up to and with a line feed, or a run without one that a read of no bytes ends.
A read of no bytes with nothing before it is the end, and so is a fault or a panic; the bytes between
the last piece and a fault or a panic are dropped, and what comes after the end does not matter. -/
inductive Transcript : List Served → List (List UInt8) → Ending → Prop where
  | finished (rest : List Served) : Transcript (.nothing :: rest) [] .finished
  | failed {part : List UInt8} (hpart : Line.lineFeed ∉ part) (fault : IoFault)
      (rest : List Served) : Transcript (part.map .byte ++ .failed fault :: rest) [] (.failed fault)
  | panicked {part : List UInt8} (hpart : Line.lineFeed ∉ part) (rest : List Served) :
      Transcript (part.map .byte ++ .panicked :: rest) [] .panicked
  | line {part : List UInt8} {rest : List Served} {pieces : List (List UInt8)} {ending : Ending}
      (hpart : Line.lineFeed ∉ part) (more : Transcript rest pieces ending) :
      Transcript (part.map .byte ++ .byte Line.lineFeed :: rest)
        ((part ++ [Line.lineFeed]) :: pieces) ending
  | fragment {part : List UInt8} {rest : List Served} {pieces : List (List UInt8)} {ending : Ending}
      (hpart : Line.lineFeed ∉ part) (hne : part ≠ []) (more : Transcript rest pieces ending) :
      Transcript (part.map .byte ++ .nothing :: rest) (part :: pieces) ending

namespace Transcript

/-- Whatever a stream serves has a transcript. The bytes of the piece under way are `part`. -/
theorem exists_of_part (served : List Served) (part : List UInt8) (hpart : Line.lineFeed ∉ part) :
    ∃ pieces ending,
      Transcript (part.map .byte ++ (served ++ [.nothing, .nothing])) pieces ending := by
  induction served generalizing part with
  | nil =>
      by_cases hne : part = []
      · subst hne
        exact ⟨[], .finished, .finished _⟩
      · exact ⟨[part], .finished, .fragment hpart hne (.finished _)⟩
  | cons x served ih =>
      cases x with
      | byte b =>
          by_cases hb : b = Line.lineFeed
          -- the line feed ends the piece under way, and the next one begins
          · subst hb
            obtain ⟨pieces, ending, h⟩ := ih [] List.not_mem_nil
            exact ⟨_, ending, .line hpart h⟩
          -- any other byte goes on with it
          · have hpart' : Line.lineFeed ∉ part ++ [b] := by
              simp [hpart, Ne.symm hb]
            obtain ⟨pieces, ending, h⟩ := ih (part ++ [b]) hpart'
            refine ⟨pieces, ending, ?_⟩
            simpa using h
      | nothing =>
          by_cases hne : part = []
          -- with nothing under way this is the end, whatever comes after it
          · subst hne
            exact ⟨[], .finished, .finished _⟩
          · obtain ⟨pieces, ending, h⟩ := ih [] List.not_mem_nil
            exact ⟨_, ending, .fragment hpart hne h⟩
      | failed fault => exact ⟨[], .failed fault, .failed hpart fault _⟩
      | panicked => exact ⟨[], .panicked, .panicked hpart _⟩

/-- **Whatever is read has a transcript**, once the stream is at its end. -/
theorem exists_ofReads (reads : List Read) :
    ∃ pieces ending, Transcript (Served.ofReads reads) pieces ending :=
  exists_of_part (reads.flatMap Served.ofRead) [] List.not_mem_nil

/-- **Every script has a transcript.** -/
theorem exists_ofScript (script : List Source) :
    ∃ pieces ending, Transcript (Served.ofScript script) pieces ending :=
  exists_of_part (script.flatMap Served.ofSource) [] List.not_mem_nil

end Transcript

namespace Pump

/-! ## Reads do not matter, only what they serve -/

/-- A pump that has stopped stays as it is. -/
theorem feed_of_finished {p : Pump} (h : p.finished = true) (r : Read) : p.feed r = ([], p) := by
  unfold feed
  rw [if_pos h]

@[simp] theorem feedAll_nil (p : Pump) : p.feedAll [] = ([], p) := rfl

theorem feedAll_cons (p : Pump) (r : Read) (reads : List Read) :
    p.feedAll (r :: reads) =
      ((p.feed r).1 ++ ((p.feed r).2.feedAll reads).1, ((p.feed r).2.feedAll reads).2) := rfl

theorem feedAll_of_finished {p : Pump} (h : p.finished = true) (reads : List Read) :
    p.feedAll reads = ([], p) := by
  induction reads with
  | nil => rfl
  | cons r reads ih => rw [feedAll_cons, feed_of_finished h, ih, List.append_nil]

@[simp] theorem feedAll_singleton (p : Pump) (r : Read) : p.feedAll [r] = p.feed r := by
  simp [feedAll]

/-- Reads one part after the other. -/
theorem feedAll_append (p : Pump) (reads more : List Read) :
    p.feedAll (reads ++ more) =
      ((p.feedAll reads).1 ++ ((p.feedAll reads).2.feedAll more).1,
        ((p.feedAll reads).2.feedAll more).2) := by
  induction reads generalizing p with
  | nil => simp
  | cons r reads ih =>
      rw [List.cons_append, feedAll_cons, feedAll_cons, ih]
      simp only [List.append_assoc]

theorem cut_done (pending : List UInt8) (done : List Line) (bytes : List UInt8) :
    cut pending done bytes =
      (done.reverse ++ (cut pending [] bytes).1, (cut pending [] bytes).2) := by
  induction bytes generalizing pending done with
  | nil => simp [cut]
  | cons b bytes ih =>
      rw [cut, cut]
      by_cases hb : b = Line.lineFeed
      · rw [if_pos hb, if_pos hb, ih [] (_ :: done), ih [] [_]]
        simp
      · rw [if_neg hb, if_neg hb, ih (b :: pending) done]

/-- Bytes are cut in one go as they are cut one part after the other. -/
theorem cut_append (pending bytes more : List UInt8) :
    cut pending [] (bytes ++ more) =
      ((cut pending [] bytes).1 ++ (cut (cut pending [] bytes).2 [] more).1,
        (cut (cut pending [] bytes).2 [] more).2) := by
  induction bytes generalizing pending with
  | nil => simp [cut]
  | cons b bytes ih =>
      rw [List.cons_append, cut, cut]
      by_cases hb : b = Line.lineFeed
      · rw [if_pos hb, if_pos hb, cut_done [] [_] (bytes ++ more), cut_done [] [_] bytes, ih]
        simp
      · rw [if_neg hb, if_neg hb, ih]

/-- A read of some bytes, by a pump that goes on. -/
theorem feed_data {p : Pump} (hp : p.finished = false) {bytes : List UInt8} (hne : bytes ≠ []) :
    p.feed (.data bytes) =
      ((cut p.pending [] bytes).1,
        p.gave (cut p.pending [] bytes).1 (cut p.pending [] bytes).2) := by
  obtain ⟨b, bs, rfl⟩ := List.exists_cons_of_ne_nil hne
  unfold feed
  rw [hp]
  rfl

/-- A read of many bytes is a read of each of them. -/
theorem feed_data_eq_feedAll (p : Pump) {bytes : List UInt8} (hne : bytes ≠ []) :
    p.feed (.data bytes) = p.feedAll (bytes.map fun b => .data [b]) := by
  cases hp : p.finished with
  | true => rw [feed_of_finished hp, feedAll_of_finished hp]
  | false =>
    induction bytes generalizing p with
    | nil => exact absurd rfl hne
    | cons b bytes ih =>
        by_cases hbytes : bytes = []
        · subst hbytes
          rw [List.map_singleton, feedAll_singleton]
        -- cutting goes on after the first byte where it has stopped before
        · have hone := feed_data hp (List.cons_ne_nil b [])
          have hgave : (p.feed (.data [b])).2.finished = false := by
            rw [hone]
            exact hp
          have hcut := cut_append p.pending [b] bytes
          rw [List.singleton_append] at hcut
          rw [List.map_cons, feedAll_cons, ← ih _ hbytes hgave, feed_data hgave hbytes,
            feed_data hp hne, hcut, hone]
          simp [gave, Nat.add_assoc]

/-- One read is as good as reads of the things it serves, one at a time. -/
theorem feedAll_ofRead (p : Pump) (r : Read) :
    p.feedAll ((Served.ofRead r).map Served.read) = p.feed r := by
  cases r with
  | data bytes =>
      cases bytes with
      | nil => exact p.feedAll_singleton _
      | cons b bs =>
          rw [feed_data_eq_feedAll p (List.cons_ne_nil b bs), Served.ofRead, List.map_map]
          rfl
  | interrupted =>
      unfold feed
      split <;> rfl
  | failed fault => exact p.feedAll_singleton _
  | panicked => exact p.feedAll_singleton _

/-- **A pump cannot tell reads from the things they serve**, so neither the sizes of the reads nor
interruptions make a difference to it. -/
theorem feedAll_served (p : Pump) (reads : List Read) :
    p.feedAll ((reads.flatMap Served.ofRead).map Served.read) = p.feedAll reads := by
  induction reads generalizing p with
  | nil => rfl
  | cons r reads ih =>
      rw [List.flatMap_cons, List.map_append, feedAll_append, feedAll_ofRead, ih, feedAll_cons]

/-! ## A pump follows the transcript -/

/-- Bytes without a line feed are added to the line under way. -/
theorem feedAll_part {p : Pump} (hp : p.finished = false) {part : List UInt8}
    (hpart : Line.lineFeed ∉ part) :
    p.feedAll ((part.map Served.byte).map Served.read) =
      ([], { p with pending := part.reverse ++ p.pending }) := by
  induction part generalizing p with
  | nil => rfl
  | cons b part ih =>
      rw [List.mem_cons, not_or] at hpart
      have hb : b ≠ Line.lineFeed := Ne.symm hpart.1
      have hone : p.feed (.data [b]) = ([], { p with pending := b :: p.pending }) := by
        rw [feed_data hp (List.cons_ne_nil b [])]
        simp [cut, hb, gave]
      have hgoes : ({ p with pending := b :: p.pending } : Pump).finished = false := hp
      rw [List.map_cons, List.map_cons, feedAll_cons, Served.read, hone, ih hgoes hpart.2]
      simp

/-- A pump at the end of a line, that goes on. -/
structure Idle (p : Pump) : Prop where
  pending_eq : p.pending = []
  goes_on : p.finished = false

/-- A pump that has read `part` since it was idle. -/
def holding (p : Pump) (part : List UInt8) : Pump := { p with pending := part.reverse }

/-- Bytes without a line feed, and then something else. -/
theorem feedAll_part_cons {p : Pump} (hp : p.Idle) {part : List UInt8}
    (hpart : Line.lineFeed ∉ part) (x : Served) (rest : List Served) :
    p.feedAll ((part.map Served.byte ++ x :: rest).map Served.read) =
      (p.holding part).feedAll (x.read :: rest.map Served.read) := by
  rw [List.map_append, List.map_cons, feedAll_append, feedAll_part hp.goes_on hpart, hp.pending_eq,
    List.append_nil, List.nil_append]
  rfl

/-- The end of a line makes a line of the bytes before it. -/
theorem feed_lineFeed {p : Pump} (hp : p.Idle) (part : List UInt8) :
    (p.holding part).feed (.data [Line.lineFeed]) =
      ([Line.ofRaw (part ++ [Line.lineFeed])],
        p.gave [Line.ofRaw (part ++ [Line.lineFeed])] []) := by
  have hgoes : (p.holding part).finished = false := hp.goes_on
  rw [feed_data hgoes (List.cons_ne_nil _ _)]
  simp [holding, cut, gave]

/-- A read of no bytes makes a line of the bytes before it, if there are any. -/
theorem feed_nothing {p : Pump} (hp : p.Idle) {part : List UInt8} (hne : part ≠ []) :
    (p.holding part).feed (.data []) = ([Line.ofRaw part], p.gave [Line.ofRaw part] []) := by
  have hgoes : (p.holding part).finished = false := hp.goes_on
  unfold feed
  rw [hgoes]
  simp [holding, hne, gave]

/-- A pump that has given a line is idle again. -/
theorem Idle.gave {p : Pump} (hp : p.Idle) (lines : List Line) : (p.gave lines []).Idle :=
  ⟨rfl, hp.goes_on⟩

/-- **A pump gives the lines of the transcript and stops as it ends.** The induction is on the
transcript; between two pieces the pump is idle. -/
theorem feedAll_transcript {served : List Served} {pieces : List (List UInt8)} {ending : Ending}
    (h : Transcript served pieces ending) {p : Pump} (hp : p.Idle) :
    ∃ q, p.feedAll (served.map Served.read) = (pieces.map Line.ofRaw, q) ∧
      q.outcome = some (ending.result p.stream (p.pushed + pieces.length)) ∧
      q.collected = p.collected := by
  induction h generalizing p with
  | finished rest =>
      have hend : p.feed (.data []) = ([], p.stop (.ok p.pushed)) := by
        unfold feed
        rw [hp.goes_on, hp.pending_eq]
        rfl
      -- stopped: whatever is served after the end makes no difference
      refine ⟨p.stop (.ok p.pushed), ?_, rfl, rfl⟩
      rw [List.map_cons, feedAll_cons, Served.read, hend, feedAll_of_finished rfl]
      rfl
  | @failed part hpart fault rest =>
      have hend : (p.holding part).feed (.failed fault) =
          ([], (p.holding part).stop (.error (.pumpRead p.stream fault.error))) := by
        unfold feed
        rw [show (p.holding part).finished = false from hp.goes_on]
        rfl
      refine ⟨(p.holding part).stop (.error (.pumpRead p.stream fault.error)), ?_, rfl, rfl⟩
      rw [feedAll_part_cons hp hpart, feedAll_cons, Served.read, hend, feedAll_of_finished rfl]
      rfl
  | @panicked part hpart rest =>
      have hend : (p.holding part).feed .panicked =
          ([], (p.holding part).stop (.error (.pumpPanicked p.stream))) := by
        unfold feed
        rw [show (p.holding part).finished = false from hp.goes_on]
        rfl
      refine ⟨(p.holding part).stop (.error (.pumpPanicked p.stream)), ?_, rfl, rfl⟩
      rw [feedAll_part_cons hp hpart, feedAll_cons, Served.read, hend, feedAll_of_finished rfl]
      rfl
  | @line part rest pieces ending hpart more ih =>
      -- the pump is idle after the line, which counts as pushed
      obtain ⟨q, hq, hout, hcollected⟩ := ih (hp.gave [Line.ofRaw (part ++ [Line.lineFeed])])
      refine ⟨q, ?_, ?_, hcollected⟩
      · rw [feedAll_part_cons hp hpart, feedAll_cons, Served.read, feed_lineFeed hp, hq]
        rfl
      · rw [hout, gave, List.length_singleton, List.length_cons, Nat.add_right_comm,
          Nat.add_assoc]
  | @fragment part rest pieces ending hpart hne more ih =>
      obtain ⟨q, hq, hout, hcollected⟩ := ih (hp.gave [Line.ofRaw part])
      refine ⟨q, ?_, ?_, hcollected⟩
      · rw [feedAll_part_cons hp hpart, feedAll_cons, Served.read, feed_nothing hp hne, hq]
        rfl
      · rw [hout, gave, List.length_singleton, List.length_cons, Nat.add_right_comm,
          Nat.add_assoc]

/-- Followed to the end of its stream, a pump gives what the reads serve up to that end. -/
theorem drive_served (p : Pump) (reads : List Read) :
    p.drive reads = p.feedAll ((Served.ofReads reads).map Served.read) := by
  rw [drive, ← feedAll_served, List.flatMap_append]
  rfl

/-- A pump that has stopped is at the end of its stream. -/
theorem drive_of_finished {p : Pump} {reads : List Read}
    (hfinished : (p.feedAll reads).2.finished = true) : p.drive reads = p.feedAll reads := by
  rw [drive, feedAll_append, feedAll_of_finished hfinished, List.append_nil]

/-- **Two reads of no bytes stop every pump**: the first may end a line, the second finds nothing. -/
theorem feedAll_end (p : Pump) :
    (p.feedAll [.data [], .data []]).1.length ≤ 1 ∧
      (p.feedAll [.data [], .data []]).2.finished = true := by
  -- with nothing under way a read of no bytes is the end
  have hend {q : Pump} (hq : q.finished = false) (hpending : q.pending = []) :
      q.feed (.data []) = ([], q.stop (.ok q.pushed)) := by
    unfold feed
    rw [hq, hpending]
    rfl
  rw [feedAll_cons, feedAll_singleton]
  cases hp : p.finished with
  | true =>
      rw [feed_of_finished hp, feed_of_finished hp]
      exact ⟨Nat.zero_le 1, hp⟩
  | false =>
      by_cases hpending : p.pending = []
      · rw [hend hp hpending, feed_of_finished rfl]
        exact ⟨Nat.zero_le 1, rfl⟩
      · have hline : p.feed (.data []) =
            ([Line.ofRaw p.pending.reverse], p.gave [Line.ofRaw p.pending.reverse] []) := by
          unfold feed
          rw [hp]
          simp [hpending]
        have hgoes : (p.gave [Line.ofRaw p.pending.reverse] []).finished = false := hp
        rw [hline, hend hgoes rfl]
        exact ⟨Nat.le_refl 1, rfl⟩

/-- What a pump has given before is the beginning of what it gives in all, and at most one line is
still to come of it. -/
theorem prefix_drive (p : Pump) (reads : List Read) :
    (p.feedAll reads).1 <+: (p.drive reads).1 ∧
      (p.drive reads).1.length ≤ (p.feedAll reads).1.length + 1 := by
  rw [drive, feedAll_append, List.length_append]
  exact ⟨List.prefix_append _ _, Nat.add_le_add_left (feedAll_end _).1 _⟩

end Pump

namespace Source

/-! ## Scripted sources -/

/-- The pieces that fit into a buffer, together, are the bytes; none of them is empty. -/
theorem flatten_pieces {size : Nat} (hsize : 0 < size) (fuel : Nat) (bs : List UInt8)
    (hfuel : bs.length ≤ fuel) :
    (pieces size fuel bs).flatten = bs ∧ ∀ piece ∈ pieces size fuel bs, piece ≠ [] := by
  induction fuel generalizing bs with
  | zero =>
      have hbs : bs = [] := List.length_eq_zero_iff.mp (Nat.le_zero.mp hfuel)
      subst hbs
      simp [pieces]
  | succ fuel ih =>
      cases bs with
      | nil => simp [pieces]
      | cons b bs =>
          have hshort : ((b :: bs).drop size).length ≤ fuel := by
            rw [List.length_drop]
            omega
          obtain ⟨hflat, hne⟩ := ih _ hshort
          have hpieces : pieces size (fuel + 1) (b :: bs) =
              (b :: bs).take size :: pieces size fuel ((b :: bs).drop size) := rfl
          rw [hpieces]
          constructor
          · rw [List.flatten_cons, hflat, List.take_append_drop]
          · intro piece hpiece
            rcases List.mem_cons.mp hpiece with rfl | hpiece
            · rw [Ne, List.take_eq_nil_iff, not_or]
              exact ⟨Nat.pos_iff_ne_zero.mp hsize, List.cons_ne_nil b bs⟩
            · exact hne piece hpiece

/-- What reads of some bytes each serve is the bytes. -/
theorem served_data {chunks : List (List UInt8)} (hne : ∀ chunk ∈ chunks, chunk ≠ []) :
    (chunks.map Read.data).flatMap Served.ofRead = chunks.flatten.map .byte := by
  induction chunks with
  | nil => rfl
  | cons chunk chunks ih =>
      obtain ⟨b, bs, rfl⟩ := List.exists_cons_of_ne_nil (hne _ List.mem_cons_self)
      have hrest := ih fun c hc => hne c (List.mem_cons_of_mem _ hc)
      rw [List.map_cons, List.flatMap_cons, hrest, Served.ofRead, List.flatten_cons,
        List.map_append]

/-- A step of a script serves the same through a buffer of any size. -/
theorem served_stepReads {size : Nat} (hsize : 0 < size) (s : Source) :
    (stepReads size s).flatMap Served.ofRead = Served.ofSource s := by
  cases s with
  | bytes bs =>
      obtain ⟨hflat, hne⟩ := flatten_pieces hsize bs.length bs (Nat.le_refl _)
      rw [stepReads, served_data hne, hflat, Served.ofSource]
  | zero => rfl
  | error e =>
      rw [stepReads, Read.ofError, Served.ofSource, List.flatMap_singleton]
      cases e.fault? with
      | none => rfl
      | some fault => rfl
  | panic => rfl

/-- The reads of a script serve what the script serves. -/
theorem ofReads_reads {size : Nat} (hsize : 0 < size) (script : List Source) :
    Served.ofReads (reads size script) = Served.ofScript script := by
  rw [Served.ofReads, reads, List.flatMap_assoc, Served.ofScript]
  simp only [served_stepReads hsize]

end Source

namespace Pump

/-- The result of a pump that has stopped is handed out if nobody has collected it yet. -/
theorem join_eq {p : Pump} {result : Except Error Nat} (hout : p.outcome = some result)
    (hcollected : p.collected = false) : p.join = (result, { p with collected := true }) := by
  rw [join, hcollected, hout]
  rfl

/-- So it is for a capture whose pump is followed to the end of its stream. -/
theorem finish_eq {c : Capture} {reads : List Read} {lines : List Line} {p : Pump}
    {result : Except Error Nat} (hdrive : c.pump.drive reads = (lines, p))
    (hout : p.outcome = some result) (hcollected : p.collected = false) :
    c.finish reads =
      (result, ⟨{ p with collected := true }, (Capture.deliver c.buffer lines true).drain⟩) := by
  simp only [Capture.finish, hdrive, join_eq hout hcollected]

/-- What a pump makes of a script depends only on what the script serves. -/
theorem drive_reads {size : Nat} (hsize : 0 < size) (p : Pump) (script : List Source) :
    p.drive (Source.reads size script) =
      p.feedAll ((Served.ofScript script).map Served.read) := by
  rw [drive_served, Source.ofReads_reads hsize]

/-- **A pump follows its stream.** For every script, read through a buffer of any size, there is a
transcript of what the script serves; and for every such transcript the pump gives exactly the lines
of its pieces, in order, stops, and reports once how it ended: with the number of lines, or with the
error or the panic. Followed to the end, it has put these lines and no others into the buffer, which
is closed. Any other script that serves the same, through any other buffer, comes to the same. -/
theorem drive_transcript (stream : Stream) {size : Nat} (hsize : 0 < size) (script : List Source) :
    (∃ pieces ending, Transcript (Served.ofScript script) pieces ending) ∧
    (∀ pieces ending, Transcript (Served.ofScript script) pieces ending →
      ∃ p, (fresh stream).drive (Source.reads size script) = (pieces.map Line.ofRaw, p) ∧
        p.finished = true ∧
        p.join.1 = ending.result stream pieces.length ∧
        p.join.2.join.1 = .ok 0 ∧
        ∃ c, (Capture.fresh stream).finish (Source.reads size script) =
            (ending.result stream pieces.length, c) ∧
          c.buffer.lines = pieces.map Line.ofRaw ∧ c.buffer.closed = true) ∧
    ∀ size' script', 0 < size' → Served.ofScript script' = Served.ofScript script →
      (fresh stream).drive (Source.reads size' script') =
        (fresh stream).drive (Source.reads size script) := by
  refine ⟨Transcript.exists_ofScript script, ?_, ?_⟩
  · intro pieces ending htranscript
    -- the pump begins idle and follows the transcript, whatever the size of the buffer
    have hidle : (fresh stream).Idle := ⟨rfl, rfl⟩
    obtain ⟨p, hp, hout, hcollected⟩ := feedAll_transcript htranscript hidle
    have hdrive : (fresh stream).drive (Source.reads size script) =
        (pieces.map Line.ofRaw, p) := by
      rw [drive_reads hsize, hp]
    have hout' : p.outcome = some (ending.result stream pieces.length) := by
      rw [hout, fresh, Nat.zero_add]
    have hjoin := join_eq hout' hcollected
    refine ⟨p, hdrive, ?_, ?_, ?_, ?_⟩
    · rw [finished, hout]
      rfl
    · rw [hjoin]
    · rw [hjoin]
      rfl
    · exact ⟨_, finish_eq hdrive hout' hcollected, rfl, rfl⟩
  · intro size' script' hsize' hserved
    rw [drive_reads hsize', drive_reads hsize, hserved]

/-- A line that is interrupted in its middle and cut by the buffer, a line that the end of the stream
cuts off for a while, and a line that an error cuts off for good. -/
theorem drive_transcript_broken_pipe :
    0 < 2 ∧
      ∃ p, (fresh .stderr).drive (Source.reads 2
          [.bytes [97, 98, 99], .error (.kind .interrupted), .bytes [13, 10, 100], .zero,
            .bytes [101], .error (.kind .brokenPipe), .bytes [102, 10]]) =
          ([⟨"abc"⟩, ⟨"d"⟩], p) ∧
        p.join.1 = .error (.pumpRead .stderr (.kind .brokenPipe)) ∧ p.join.2.join.1 = .ok 0 := by
  refine ⟨by decide, ?_⟩
  obtain ⟨-, hall, -⟩ := drive_transcript .stderr (by decide : 0 < 2)
    [.bytes [97, 98, 99], .error (.kind .interrupted), .bytes [13, 10, 100], .zero,
      .bytes [101], .error (.kind .brokenPipe), .bytes [102, 10]]
  obtain ⟨p, hlines, -, hfirst, hsecond, -⟩ := hall [[97, 98, 99, 13, 10], [100]]
    (.failed ⟨.kind .brokenPipe, rfl⟩)
    (@Transcript.line [97, 98, 99, 13] _ _ _ (by decide)
      (@Transcript.fragment [100] _ _ _ (by decide) (by decide)
        (@Transcript.failed [101] (by decide) ⟨.kind .brokenPipe, rfl⟩ _)))
  exact ⟨p, hlines, hfirst, hsecond⟩

end Pump

end ChildWatch
