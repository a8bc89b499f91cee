import ChildWatch.Proofs.Log.PumpTranscript
import ChildWatch.Proofs.Report.Writing
import ChildWatch.Proofs.Text.Lines

/-! # Reports are read back

A report puts each captured line on a line of its own. Whoever reads it finds the captured lines
again, because none of them has a line feed in it.

* `Text.Line.Single` — a line without a line feed; `Pump.single_feed` — one read gives only such
  lines, whatever it brings, and `Pump.single_feedAll` — so do all of them.
* `Report.split_fullText` — the pieces of a report between its line feeds.
* `Capture.snapshot_transcript` — the lines that are shown are those that were read.
* `captured_report_read_back` — the report of a captured stream is empty only if nothing was
  captured, and else splits into what was. -/

namespace ChildWatch

open Text

/-! ## Captured lines are single lines -/

namespace Text.Line

/-- A **single line** has no line feed in it. -/
def Single (line : Line) : Prop := '\n' ∉ line.text.toList

/-- Bytes without a line feed make a single line. -/
theorem single_ofRaw {raw : List UInt8} (h : lineFeed ∉ body raw) : (ofRaw raw).Single :=
  lineFeed_not_mem_decodeLossy h

/-- The end of the stream may come in the middle of a line. -/
theorem single_ofRaw_part {part : List UInt8} (h : lineFeed ∉ part) : (ofRaw part).Single := by
  apply single_ofRaw
  rw [body_eq_strip, strip_of_not_mem h]
  exact h

/-- A line feed at the end is dropped, and a carriage return before it. -/
theorem single_ofRaw_concat {part : List UInt8} (h : lineFeed ∉ part) :
    (ofRaw (part ++ [lineFeed])).Single := by
  apply single_ofRaw
  rw [body_eq_strip]
  rcases eq_concat_or_getLast?_ne carriageReturn part with ⟨text, rfl⟩ | hbare
  · rw [strip_concat_ret]
    intro hmem
    exact h (List.mem_append_left _ hmem)
  · rw [strip_concat hbare]
    exact h

end Text.Line

namespace Pump

/-- **A pump between lines**: the bytes it holds back have no line feed among them. -/
def Between (p : Pump) : Prop := Line.lineFeed ∉ p.pending

theorem between_fresh (stream : Stream) : (fresh stream).Between := by
  intro hmem
  cases hmem

/-- Cutting gives single lines, and leaves no line feed behind. The induction is on the bytes; the
bytes held back are those behind the last line feed. -/
theorem single_cut {pending bytes : List UInt8} {done : List Line} (hp : Line.lineFeed ∉ pending)
    (hdone : ∀ line ∈ done, line.Single) :
    (∀ line ∈ (cut pending done bytes).1, line.Single) ∧
      Line.lineFeed ∉ (cut pending done bytes).2 := by
  induction bytes generalizing pending done with
  | nil =>
      constructor
      · intro line hline
        exact hdone line (List.mem_reverse.mp hline)
      · exact hp
  | cons b rest ih =>
      rw [cut]
      by_cases hb : b = Line.lineFeed
      · rw [if_pos hb]
        apply ih
        · simp
        · intro line hline
          rcases List.mem_cons.mp hline with rfl | hold
          · rw [List.reverse_cons, hb]
            exact Line.single_ofRaw_concat (by simpa using hp)
          · exact hdone line hold
      · rw [if_neg hb]
        apply ih
        · intro hmem
          rcases List.mem_cons.mp hmem with heq | hold
          · exact hb heq.symm
          · exact hp hold
        · exact hdone

variable {p : Pump}

/-- **One read gives single lines**, whatever it brings, and leaves the pump between lines. -/
theorem single_feed (hp : p.Between) (r : Read) :
    (∀ line ∈ (p.feed r).1, line.Single) ∧ (p.feed r).2.Between := by
  by_cases hfinished : p.finished = true
  · rw [feed_of_finished hfinished]
    exact ⟨by simp, hp⟩
  unfold feed
  rw [if_neg hfinished]
  cases r with
  | data bytes =>
      cases bytes with
      | nil =>
          by_cases hempty : p.pending.isEmpty = true
          · simp only [if_pos hempty]
            exact ⟨by simp, hp⟩
          · simp only [if_neg hempty]
            constructor
            · intro line hline
              rw [List.mem_singleton.mp hline]
              exact Line.single_ofRaw_part fun hmem => hp (List.mem_reverse.mp hmem)
            · exact between_fresh p.stream
      | cons b rest => exact single_cut hp (by simp)
  | interrupted => exact ⟨by simp, hp⟩
  | failed fault => exact ⟨by simp, hp⟩
  | panicked => exact ⟨by simp, hp⟩

/-- **So do any reads.** -/
theorem single_feedAll (hp : p.Between) (reads : List Read) :
    ∀ line ∈ (p.feedAll reads).1, line.Single := by
  induction reads generalizing p with
  | nil => simp
  | cons r rest ih =>
      obtain ⟨hlines, hp'⟩ := single_feed hp r
      rw [feedAll_cons]
      intro line hline
      rcases List.mem_append.mp hline with hfirst | hmore
      · exact hlines line hfirst
      · exact ih hp' line hmore

end Pump

/-! ## Splitting a report -/

namespace Report

/-- Lines that end in a line feed each, split at line feeds. -/
theorem splitOn_lines {lines : List String} (hsingle : ∀ line ∈ lines, '\n' ∉ line.toList) :
    (lines.flatMap fun line => line.toList ++ ['\n']).splitOn '\n' =
      lines.map String.toList ++ [[]] := by
  induction lines with
  | nil => rfl
  | cons line rest ih =>
      have hline := hsingle line List.mem_cons_self
      rw [List.flatMap_cons, List.append_assoc, List.singleton_append,
        List.splitOn_append_cons_self_of_not_mem hline,
        ih fun l hl => hsingle l (List.mem_cons_of_mem line hl)]
      rfl

/-- **The pieces of a report** between its line feeds: an empty one, the lines, and an empty one. -/
theorem split_fullText {lines : List String} (hne : lines ≠ [])
    (hsingle : ∀ line ∈ lines, '\n' ∉ line.toList) :
    ((fullText lines).toList.splitOn '\n').map String.ofList = "" :: (lines ++ [""]) := by
  have hstart (rest : List Char) : ('\n' :: rest).splitOn '\n' = [] :: rest.splitOn '\n' := by
    have hfirst : '\n' ∉ ([] : List Char) := List.not_mem_nil
    exact List.splitOn_append_cons_self_of_not_mem hfirst rest
  rw [toList_fullText hne, hstart, splitOn_lines hsingle]
  simp

theorem fullText_eq_empty_iff {lines : List String} : fullText lines = "" ↔ lines = [] := by
  constructor
  · intro htext
    cases lines with
    | nil => rfl
    | cons line rest =>
        have hlist := toList_fullText (List.cons_ne_nil line rest)
        rw [htext] at hlist
        cases hlist
  · rintro rfl
    rfl

end Report

/-! ## The report of a captured stream -/

namespace Capture

/-- A snapshot of a stream that is captured shows single lines. -/
theorem single_of_mem_snapshot (stream : Stream) (reads : List Read) :
    ∀ text ∈ ((Capture.fresh stream).take reads).buffer.snapshot.1, '\n' ∉ text.toList := by
  intro text htext
  obtain ⟨line, hline, rfl⟩ := List.mem_map.mp htext
  apply Pump.single_feedAll (Pump.between_fresh stream) reads line
  rw [LogBuffer.lines_drain, take, lines_deliver] at hline
  exact hline

/-- **It shows the lines of the transcript** of the reads, all but the one that may be under way; and
all of them if the pump has come to the end of the stream. -/
theorem snapshot_transcript {stream : Stream} {reads : List Read} {pieces : List (List UInt8)}
    {ending : Ending} (htranscript : Transcript (Served.ofReads reads) pieces ending) :
    let taken := (Capture.fresh stream).take reads
    taken.buffer.snapshot.1 <+: pieces.map (fun piece => (Line.ofRaw piece).text) ∧
      pieces.length ≤ taken.buffer.snapshot.1.length + 1 ∧
      (taken.pump.finished = true →
        taken.buffer.snapshot.1 = pieces.map fun piece => (Line.ofRaw piece).text) := by
  have hidle : (Pump.fresh stream).Idle := ⟨rfl, rfl⟩
  obtain ⟨q, hq, -, -⟩ := Pump.feedAll_transcript htranscript hidle
  rw [← Pump.drive_served] at hq
  have hshown : ((Capture.fresh stream).take reads).buffer.snapshot.1 =
      ((Pump.fresh stream).feedAll reads).1.map (·.text) := by
    show ((Capture.fresh stream).take reads).buffer.drain.lines.map (·.text) = _
    rw [LogBuffer.lines_drain, take, lines_deliver]
    rfl
  have htexts : (pieces.map Line.ofRaw).map (·.text) =
      pieces.map fun piece => (Line.ofRaw piece).text := List.map_map
  intro taken
  rw [hshown, ← htexts]
  obtain ⟨hbegins, hlength⟩ := (Pump.fresh stream).prefix_drive reads
  rw [hq] at hbegins hlength
  refine ⟨hbegins.map _, ?_, ?_⟩
  · simpa using hlength
  · intro hfinished
    have hdrive : (Pump.fresh stream).drive reads = (Pump.fresh stream).feedAll reads :=
      Pump.drive_of_finished hfinished
    rw [← hdrive, hq]

end Capture

/-- **Reports are read back.** Whatever a stream brings, in whatever reads, what a snapshot shows of it
are the lines of the transcript of the reads, all but the one that may be under way, and all of them
once the pump has come to the end of the stream; and none of them has a line feed in it. So a report of all that a snapshot shows,
written to a stream that takes it in pieces of any size and may be interrupted, does not fail; it is
an empty text if the snapshot is empty; and else its pieces between line feeds are an empty one, the
captured lines as they are, and an empty one. -/
theorem captured_report_read_back (stream : Stream) (reads : List Read)
    (stretches : List SinkStretch) :
    let taken := (Capture.fresh stream).take reads
    let shown := taken.buffer.snapshot.1
    let (result, sink) := Report.write (.fresh stretches .unlimited) .all shown
    let text := Utf8.decodeLossy sink.accepted
    (∀ line ∈ shown, '\n' ∉ line.toList) ∧
      (∃ pieces ending, Transcript (Served.ofReads reads) pieces ending) ∧
      (∀ pieces ending, Transcript (Served.ofReads reads) pieces ending →
        shown <+: pieces.map (fun piece => (Line.ofRaw piece).text) ∧
        pieces.length ≤ shown.length + 1 ∧
        (taken.pump.finished = true →
          shown = pieces.map fun piece => (Line.ofRaw piece).text)) ∧
      result = .ok () ∧ sink.accepted = Utf8.encode text ∧
      (text = "" ↔ shown = []) ∧
      (shown ≠ [] →
        (text.toList.splitOn '\n').map String.ofList = "" :: (shown ++ [""])) := by
  intro taken shown
  have hsingle : ∀ line ∈ shown, '\n' ∉ line.toList := Capture.single_of_mem_snapshot stream reads
  have hwilling : (Sink.fresh stretches .unlimited).Willing := rfl
  have hresult := Report.write_all hwilling shown
  have haccepted : (Report.write (.fresh stretches .unlimited) .all shown).2.accepted =
      Utf8.encode (Report.fullText shown) := Report.accepted_write_all hwilling shown
  generalize Report.write (.fresh stretches .unlimited) .all shown = written
    at hresult haccepted ⊢
  obtain ⟨result, sink⟩ := written
  have hsink : sink.accepted = Utf8.encode (Report.fullText shown) := haccepted
  simp only [hsink, Utf8.decodeLossy_encode]
  refine ⟨hsingle, Transcript.exists_ofReads reads, fun _ _ => Capture.snapshot_transcript, hresult,
    trivial, Report.fullText_eq_empty_iff, ?_⟩
  intro hne
  exact Report.split_fullText hne hsingle

/-- A line that is cut by the reads and a line without its end are shown, and the report is theirs. -/
example :
    let reads := [.data [117], .data [112, 13, 10, 111], .interrupted, .data [110], .data [], .data []]
    let shown := ((Capture.fresh .stdout).take reads).buffer.snapshot.1
    shown = ["up", "on"] ∧ Report.fullText shown = "\nup\non\n" := by
  decide

end ChildWatch
