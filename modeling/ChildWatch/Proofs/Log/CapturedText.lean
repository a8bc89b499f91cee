import ChildWatch.Proofs.Log.PumpTranscript
import ChildWatch.Proofs.Text.Lines

/-! # What is captured of a text

Bytes come in reads of any size, which may end in the middle of a character or between a carriage
return and its line feed. A pump gives the lines of the text that all of them decode to.

* `Cut` — bytes that come in reads, with interruptions in between.
* `Pump.drive_of_cut` — a pump gives the lines of the bytes, however they are cut.
* `lines_of_decoded_text` — which are the lines of the text they decode to.
* `snapshot_of_written` — so strings that are written one below the other are captured as they
  are. -/

namespace ChildWatch

open Text Utf8

/-- **Bytes cut into reads**, none of them empty, with any number of interruptions in between. -/
inductive Cut : List UInt8 → List Read → Prop where
  /-- No bytes are left. -/
  | done : Cut [] []
  /-- A read of some bytes. -/
  | chunk {chunk rest : List UInt8} {reads : List Read} (hne : chunk ≠ []) (more : Cut rest reads) :
      Cut (chunk ++ rest) (.data chunk :: reads)
  /-- A read that is interrupted. -/
  | interrupted {bytes : List UInt8} {reads : List Read} (more : Cut bytes reads) :
      Cut bytes (.interrupted :: reads)

/-- However bytes are cut, they are what is served. -/
theorem Cut.served {bytes : List UInt8} {reads : List Read} (h : Cut bytes reads) :
    reads.flatMap Served.ofRead = bytes.map .byte := by
  induction h with
  | done => rfl
  | @chunk chunk rest reads hne more ih =>
      obtain ⟨b, bs, rfl⟩ := List.exists_cons_of_ne_nil hne
      rw [List.flatMap_cons, ih, Served.ofRead, List.map_append]
  | interrupted more ih =>
      rw [List.flatMap_cons, ih]
      rfl

/-- The transcript of bytes with nothing behind them has the pieces that the bytes are cut into. -/
theorem transcript_pieces (bytes : List UInt8) :
    Transcript (bytes.map .byte ++ [.nothing, .nothing]) (pieces Line.lineFeed bytes) .finished := by
  induction bytes using pieces_induction Line.lineFeed with
  | last part hpart =>
      by_cases hne : part = []
      · subst hne
        exact .finished _
      -- the end of the stream ends the line under way, and is there once more
      · rw [pieces_of_not_mem hpart hne]
        exact .fragment hpart hne (.finished [])
  | piece part rest hpart ih =>
      rw [pieces_append hpart, List.map_append, List.append_assoc]
      exact .line hpart ih

/-- **A pump gives the lines of the bytes**, however they are cut, and stops at their end. -/
theorem Pump.drive_of_cut (stream : Stream) {bytes : List UInt8} {reads : List Read}
    (h : Cut bytes reads) :
    ∃ p, (fresh stream).drive reads = (lines (decodeLossy bytes), p) ∧
      p.outcome = some (.ok (lines (decodeLossy bytes)).length) ∧ p.collected = false := by
  have hidle : (fresh stream).Idle := ⟨rfl, rfl⟩
  obtain ⟨p, hp, hout, hcollected⟩ := feedAll_transcript (transcript_pieces bytes) hidle
  have hserved : (reads ++ [Read.data [], Read.data []]).flatMap Served.ofRead =
      bytes.map .byte ++ [.nothing, .nothing] := by
    rw [List.flatMap_append, h.served]
    rfl
  rw [← hserved, feedAll_served, map_ofRaw_pieces] at hp
  refine ⟨p, hp, ?_, hcollected⟩
  rw [hout, Ending.result, fresh, Nat.zero_add, ← map_ofRaw_pieces, List.length_map]

/-- **Cutting and decoding commute.** The pieces between the line feeds of any bytes, each decoded by
itself, are the lines of the text that all the bytes decode to; and these are the lines that a pump
gives, however the bytes are cut into reads. -/
theorem lines_of_decoded_text (stream : Stream) (bytes : List UInt8) :
    (pieces Line.lineFeed bytes).map Line.ofRaw = lines (decodeLossy bytes) ∧
      ∀ reads, Cut bytes reads →
        ((Pump.fresh stream).drive reads).1 = lines (decodeLossy bytes) := by
  refine ⟨map_ofRaw_pieces bytes, fun reads hcut => ?_⟩
  obtain ⟨p, hdrive, -, -⟩ := Pump.drive_of_cut stream hcut
  rw [hdrive]

/-- A character that is broken off before a carriage return, a byte that is never one of a text, and
a character that is broken off at the end. -/
theorem lines_of_decoded_text_malformed :
    Cut [0xE2, 0x82, 13, 10, 0xFF, 10, 0x61, 13, 0xC3]
        [.data [0xE2], .data [0x82, 13], .interrupted, .data [10, 0xFF, 10, 0x61, 13, 0xC3]] ∧
      ((Pump.fresh .stdout).drive
        [.data [0xE2], .data [0x82, 13], .interrupted, .data [10, 0xFF, 10, 0x61, 13, 0xC3]]).1 =
        [⟨"\uFFFD"⟩, ⟨"\uFFFD"⟩, ⟨"a\r\uFFFD"⟩] := by
  have hcut : Cut [0xE2, 0x82, 13, 10, 0xFF, 10, 0x61, 13, 0xC3]
      [.data [0xE2], .data [0x82, 13], .interrupted, .data [10, 0xFF, 10, 0x61, 13, 0xC3]] :=
    @Cut.chunk [0xE2] _ _ (by decide) (@Cut.chunk [0x82, 13] _ _ (by decide)
      (.interrupted (@Cut.chunk [10, 0xFF, 10, 0x61, 13, 0xC3] _ _ (by decide) .done)))
  refine ⟨hcut, ?_⟩
  obtain ⟨-, hdrive⟩ := lines_of_decoded_text .stdout
    [0xE2, 0x82, 13, 10, 0xFF, 10, 0x61, 13, 0xC3]
  rw [hdrive _ hcut]
  decide

/-- **Written strings are captured as they are.** Strings without a line feed are written one below
the other, each with its line break and the last perhaps without; none that ends in a carriage
return has a bare line feed behind it. However their bytes are cut into reads, the pump comes to the
end of them without a fault, and a snapshot of the buffer it has filled shows the strings, but for a
last one that is empty and has no line break; the buffer is closed. -/
theorem snapshot_of_written (stream : Stream) {above : List (String × LineBreak)} {last : String}
    (hwritable : Writable above last) {reads : List Read} (hcut : Cut (written above last) reads) :
    let strings := above.map (·.1) ++ if last = "" then [] else [last]
    let (result, c) := (Capture.fresh stream).finish reads
    result = .ok strings.length ∧ c.buffer.snapshot.1 = strings ∧
      c.buffer.snapshot.2.closed = true := by
  intro strings
  obtain ⟨p, hdrive, hout, hcollected⟩ := Pump.drive_of_cut stream hcut
  rw [lines_written hwritable] at hdrive hout
  rw [List.length_map] at hout
  rw [Pump.finish_eq hdrive hout hcollected]
  refine ⟨rfl, ?_, rfl⟩
  have htexts : (strings.map Line.mk).map (·.text) = strings := by
    rw [List.map_map]
    exact List.map_id strings
  have hnil : (Capture.fresh stream).buffer.lines ++
      (Capture.fresh stream).buffer.channel.queue = [] := rfl
  rw [LogBuffer.snapshot, LogBuffer.texts, LogBuffer.lines_drain, LogBuffer.queue_drain,
    List.append_nil, LogBuffer.lines_drain]
  exact htexts

/-- A letter of two bytes that is cut between them, a carriage return that is cut from its line feed,
one that is text before a line break of two bytes, and a last string without a line break. -/
theorem snapshot_of_written_cut :
    Writable [("é", .carriageReturnLineFeed), ("a\r", .carriageReturnLineFeed), ("", .lineFeed)] "z" ∧
      Cut (written [("é", .carriageReturnLineFeed), ("a\r", .carriageReturnLineFeed), ("", .lineFeed)]
          "z")
        [.data [0xC3], .interrupted, .data [0xA9, 13], .data [10, 97, 13, 13], .data [10, 10, 122]] ∧
      ((Capture.fresh .stdout).finish
        [.data [0xC3], .interrupted, .data [0xA9, 13], .data [10, 97, 13, 13],
          .data [10, 10, 122]]).2.buffer.snapshot.1 = ["é", "a\r", "", "z"] := by
  have hwritable : Writable
      [("é", .carriageReturnLineFeed), ("a\r", .carriageReturnLineFeed), ("", .lineFeed)] "z" := by
    refine ⟨by decide, by decide, by decide⟩
  have hbytes : written
      [("é", .carriageReturnLineFeed), ("a\r", .carriageReturnLineFeed), ("", .lineFeed)] "z" =
        [0xC3, 0xA9, 13, 10, 97, 13, 13, 10, 10, 122] := by
    simp only [written, encode_eq_flatMap]
    decide
  have hcut : Cut (written
      [("é", .carriageReturnLineFeed), ("a\r", .carriageReturnLineFeed), ("", .lineFeed)] "z")
      [.data [0xC3], .interrupted, .data [0xA9, 13], .data [10, 97, 13, 13],
        .data [10, 10, 122]] := by
    rw [hbytes]
    exact @Cut.chunk [0xC3] _ _ (by decide) (.interrupted (@Cut.chunk [0xA9, 13] _ _ (by decide)
      (@Cut.chunk [10, 97, 13, 13] _ _ (by decide)
        (@Cut.chunk [10, 10, 122] _ _ (by decide) .done))))
  exact ⟨hwritable, hcut, (snapshot_of_written .stdout hwritable hcut).2.1⟩

end ChildWatch
