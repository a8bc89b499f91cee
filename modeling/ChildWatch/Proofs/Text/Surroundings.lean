import ChildWatch.Proofs.Text.Lines
import ChildWatch.Proofs.Text.WellFormed

/-! # Text around malformed bytes

The bytes of a text are decoded to it wherever they stand. They take no byte from what is behind
them, since they are complete, and none of them is taken by what is before them, since they do not
begin with a byte for the middle of a character.

* `run_of_isTail`, `not_isTail_of_encode` — how bytes for the middle of a character are decoded at a
  boundary, and so how the bytes of a text do not begin.
* `run_append_encode`, `decodeLossy_between` — bytes between the bytes of two texts.
* `decodeLossy_singleton` — a byte that makes no character alone.
* `Line.ofRaw_between` — the line of such bytes. -/

namespace ChildWatch.Text

namespace Utf8

variable {b : UInt8}

/-- A byte for the middle of a character is malformed at a boundary. -/
theorem run_of_isTail (hb : IsTail b) (bs : List UInt8) :
    run .boundary (b :: bs) = none :: run .boundary bs := by
  have hlow : 0x80 ≤ b.toNat := UInt8.le_iff_toNat_le.mp hb.1
  have hhigh : b.toNat ≤ 0xBF := UInt8.le_iff_toNat_le.mp hb.2
  rw [run, step]
  rcases stepBoundary_cases b with ⟨hascii, -⟩ | ⟨-, s, -, hlead⟩ | ⟨-, heq⟩
  · exact absurd hb (not_isTail_of_ascii hascii)
  · rcases lead_cases hlead with ⟨hlo, -⟩ | ⟨hlo, -⟩ | ⟨hlo, -⟩ <;> omega
  · rw [heq]
    rfl

/-- **The bytes of a text never begin with one for the middle of a character**: that would be decoded
to something malformed. -/
theorem not_isTail_of_encode {text : String} {more : List UInt8} (h : encode text = b :: more) :
    ¬ IsTail b := by
  intro hb
  have hrun := run_encode text.toList
  rw [← encode_eq_flatMap, h, run_of_isTail hb] at hrun
  have hmem : none ∈ text.toList.map some := hrun ▸ List.mem_cons_self
  simp at hmem

/-- **The bytes of a text are decoded to it behind any others.** -/
theorem run_append_encode (bs : List UInt8) (text : String) :
    run .boundary (bs ++ encode text) = run .boundary bs ++ text.toList.map some := by
  have htext : run .boundary (encode text) = text.toList.map some := by
    rw [encode_eq_flatMap, run_encode]
  cases hbytes : encode text with
  | nil =>
      rw [hbytes] at htext
      have hnil : text.toList.map some = [] := htext.symm
      rw [hnil, List.append_nil, List.append_nil]
  | cons b more =>
      rw [run_append_of_not_tail sound_boundary (not_isTail_of_encode hbytes), ← hbytes, htext]

/-- **Bytes between the bytes of two texts** are decoded as they are alone. -/
theorem decodeLossy_between (before after : String) (bs : List UInt8) :
    decodeLossy (encode before ++ bs ++ encode after) = before ++ decodeLossy bs ++ after := by
  rw [← String.toList_inj, toList_decodeLossy, run_append_encode, encode_eq_flatMap,
    run_encode_append]
  simp only [List.map_append, List.map_map, String.toList_append, toList_decodeLossy]
  congr 1
  · congr 1
    exact List.map_id _
  · exact List.map_id _

/-- **A byte that makes no character alone** is decoded to one replacement character: it starts no
character, or one that is not finished. -/
theorem decodeLossy_singleton (hb : 0x80 ≤ b) : decodeLossy [b] = "\uFFFD" := by
  have hrun : run .boundary [b] = [none] := by
    rcases stepBoundary_cases b with ⟨hascii, -⟩ | ⟨-, s, heq, hlead⟩ | ⟨-, heq⟩
    · exact absurd hascii (UInt8.not_lt.mpr hb)
    · obtain ⟨-, bits, more, lo, hi, rfl⟩ := sound_of_lead hlead
      rw [run, step, heq]
      rfl
    · rw [run, step, heq]
      rfl
  rw [← String.toList_inj, toList_decodeLossy, hrun]
  rfl

end Utf8

open Utf8

/-- Bytes that do not end in a line feed are those of their line. -/
theorem Line.ofRaw_of_getLast?_ne {raw : List UInt8} (h : raw.getLast? ≠ some Line.lineFeed) :
    Line.ofRaw raw = ⟨decodeLossy raw⟩ := by
  rw [Line.ofRaw, Line.body_eq_strip, strip, if_neg h]

/-- **Malformed bytes damage no text around them**, wherever they stand: the line is the text before
them, what they are decoded to alone, and the text behind them. A single byte that makes no character
alone is decoded to one replacement character. -/
theorem Line.ofRaw_between (before after : String) (bs : List UInt8)
    (h : (encode before ++ bs ++ encode after).getLast? ≠ some Line.lineFeed) :
    Line.ofRaw (encode before ++ bs ++ encode after) = ⟨before ++ decodeLossy bs ++ after⟩ ∧
      (∀ b : UInt8, bs = [b] → 0x80 ≤ b → decodeLossy bs = "\uFFFD") := by
  refine ⟨?_, ?_⟩
  · rw [Line.ofRaw_of_getLast?_ne h, decodeLossy_between]
  · rintro b rfl hb
    exact decodeLossy_singleton hb

/-- A character of two bytes that breaks off after the first, right before another that begins with
the same byte: only what has broken off is lost. -/
theorem Line.ofRaw_between_broken_off :
    (encode "né" ++ [0xC3] ++ encode "é\r").getLast? ≠ some Line.lineFeed ∧ 0x80 ≤ (0xC3 : UInt8) ∧
      Line.ofRaw (encode "né" ++ [0xC3] ++ encode "é\r") = ⟨"né" ++ "\uFFFD" ++ "é\r"⟩ := by
  have hlast : (encode "né" ++ [0xC3] ++ encode "é\r").getLast? ≠ some Line.lineFeed := by
    simp only [encode_eq_flatMap]
    decide
  have hhigh : 0x80 ≤ (0xC3 : UInt8) := by decide
  obtain ⟨hline, hsingle⟩ := Line.ofRaw_between "né" "é\r" [0xC3] hlast
  rw [hsingle 0xC3 rfl hhigh] at hline
  exact ⟨hlast, hhigh, hline⟩

end ChildWatch.Text
