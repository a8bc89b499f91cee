import ChildWatch.Proofs.Text.Decoding
import ChildWatch.Text.Line

/-! # The lines of a text

Bytes can be cut into pieces that are decoded one by one, or decoded first and the text cut: the
lines are the same, since a line feed is decoded wherever it stands and comes of nothing else.

* `pieces` — a list cut after each separator.
* `strip` — a piece without its terminator; `Line.body_eq_strip` says that of bytes.
* `lines` — the lines of a text.
* `map_ofRaw_pieces` — the lines of bytes are those of the text they decode to.
* `LineBreak`, `written` — strings written one below the other; `lines_written` reads them back. -/

namespace ChildWatch.Text

section Pieces

variable {α : Type} [DecidableEq α] (sep : α)

/-- **A list cut after each separator.** What is behind the last one is a piece too, if there is
anything. -/
def pieces : List α → List (List α)
  | [] => []
  | x :: xs =>
    if x = sep then [x] :: pieces xs
    else
      match pieces xs with
      | [] => [[x]]
      | piece :: rest => (x :: piece) :: rest

@[simp] theorem pieces_nil : pieces sep [] = [] := rfl

variable {sep}

/-- A list without a separator is one piece. -/
theorem pieces_of_not_mem {part : List α} (hpart : sep ∉ part) (hne : part ≠ []) :
    pieces sep part = [part] := by
  induction part with
  | nil => exact absurd rfl hne
  | cons x part ih =>
      rw [List.mem_cons, not_or] at hpart
      rw [pieces, if_neg (Ne.symm hpart.1)]
      by_cases hnil : part = []
      · rw [hnil, pieces_nil]
      · rw [ih hpart.2 hnil]

/-- A piece goes up to the first separator. -/
theorem pieces_append {part : List α} (hpart : sep ∉ part) (rest : List α) :
    pieces sep (part ++ sep :: rest) = (part ++ [sep]) :: pieces sep rest := by
  induction part with
  | nil =>
      rw [List.nil_append, pieces, if_pos rfl]
      rfl
  | cons x part ih =>
      rw [List.mem_cons, not_or] at hpart
      rw [List.cons_append, pieces, if_neg (Ne.symm hpart.1), ih hpart.2]
      rfl

/-- **Induction on pieces**: a list has no separator, or a first one with a shorter list behind it. -/
theorem pieces_induction (sep : α) {motive : List α → Prop}
    (last : ∀ part, sep ∉ part → motive part)
    (piece : ∀ part rest, sep ∉ part → motive rest → motive (part ++ sep :: rest))
    (xs : List α) : motive xs := by
  suffices h : ∀ part, sep ∉ part → motive (part ++ xs) from h [] List.not_mem_nil
  -- `part` is what has been passed over since the last separator
  induction xs with
  | nil =>
      intro part hpart
      rw [List.append_nil]
      exact last part hpart
  | cons x xs ih =>
      intro part hpart
      by_cases hx : x = sep
      · subst hx
        exact piece part xs hpart (ih [] List.not_mem_nil)
      · have hpart' : sep ∉ part ++ [x] := by
          simp [hpart, Ne.symm hx]
        have hnext := ih (part ++ [x]) hpart'
        rw [List.append_assoc] at hnext
        exact hnext

end Pieces

section Strip

variable {α : Type} [DecidableEq α] (feed ret : α)

/-- **A piece without its terminator**: a line feed at its end, and one carriage return before it. -/
def strip (piece : List α) : List α :=
  if piece.getLast? = some feed then
    if piece.dropLast.getLast? = some ret then piece.dropLast.dropLast else piece.dropLast
  else piece

variable {feed ret}

theorem strip_of_not_mem {piece : List α} (h : feed ∉ piece) : strip feed ret piece = piece := by
  rw [strip, if_neg]
  exact fun hlast => h (List.mem_of_getLast? hlast)

theorem strip_concat {part : List α} (h : part.getLast? ≠ some ret) :
    strip feed ret (part ++ [feed]) = part := by
  rw [strip, List.getLast?_concat, if_pos rfl, List.dropLast_concat, if_neg h]

theorem strip_concat_ret (part : List α) : strip feed ret (part ++ [ret] ++ [feed]) = part := by
  rw [strip, List.getLast?_concat, if_pos rfl, List.dropLast_concat, List.getLast?_concat,
    if_pos rfl, List.dropLast_concat]

/-- A list ends in a carriage return or does not. -/
theorem eq_concat_or_getLast?_ne (ret : α) (part : List α) :
    (∃ init, part = init ++ [ret]) ∨ part.getLast? ≠ some ret := by
  rcases List.eq_nil_or_concat part with rfl | ⟨init, x, rfl⟩
  · right
    simp
  · by_cases hx : x = ret
    · subst hx
      exact Or.inl ⟨init, List.concat_eq_append⟩
    · right
      simp [hx]

end Strip

open Utf8

/-- The bytes of a line are those of its piece without the terminator. -/
theorem Line.body_eq_strip (raw : List UInt8) :
    Line.body raw = strip Line.lineFeed Line.carriageReturn raw := by
  rcases List.eq_nil_or_concat raw with rfl | ⟨init, b, rfl⟩
  · rfl
  · rw [List.concat_eq_append]
    by_cases hb : b = Line.lineFeed
    · subst hb
      rcases eq_concat_or_getLast?_ne Line.carriageReturn init with ⟨text, rfl⟩ | hbare
      · rw [strip_concat_ret]
        simp [Line.body]
      · rw [strip_concat hbare, Line.body, List.reverse_append]
        rcases List.eq_nil_or_concat init with rfl | ⟨text, c, rfl⟩
        · rfl
        · have hc : c ≠ Line.carriageReturn := by simpa using hbare
          simp [hc]
    · rw [strip, List.getLast?_concat, if_neg (by simpa using hb), Line.body, List.reverse_append]
      simp [hb]

/-! ## Lines of decoded bytes -/

/-- **The lines of a text.** -/
def lines (text : String) : List Line :=
  (pieces '\n' text.toList).map fun piece => ⟨String.ofList (strip '\n' '\r' piece)⟩

theorem isAscii_lineFeed : IsAscii '\n' := by decide

theorem isAscii_carriageReturn : IsAscii '\r' := by decide

/-- A line feed in a decoded text comes of one in its bytes. -/
theorem lineFeed_not_mem_decodeLossy {bs : List UInt8} (h : Line.lineFeed ∉ bs) :
    '\n' ∉ (decodeLossy bs).toList := by
  intro hmem
  obtain ⟨b, hb, hnum⟩ := mem_of_mem_decodeLossy isAscii_lineFeed hmem
  have heq : b = Line.lineFeed := UInt8.toNat_inj.mp hnum
  exact h (heq ▸ hb)

/-- A line feed is decoded where it stands. -/
theorem decodeLossy_append_lineFeed (bs more : List UInt8) :
    (decodeLossy (bs ++ Line.lineFeed :: more)).toList =
      (decodeLossy bs).toList ++ '\n' :: (decodeLossy more).toList :=
  decodeLossy_append_ascii (by decide) bs more

/-- So is a carriage return. -/
theorem decodeLossy_append_carriageReturn (bs more : List UInt8) :
    (decodeLossy (bs ++ Line.carriageReturn :: more)).toList =
      (decodeLossy bs).toList ++ '\r' :: (decodeLossy more).toList :=
  decodeLossy_append_ascii (by decide) bs more

/-- A decoded text ends in a carriage return only if its bytes do. -/
theorem getLast?_decodeLossy_ne {bs : List UInt8}
    (h : bs.getLast? ≠ some Line.carriageReturn) :
    (decodeLossy bs).toList.getLast? ≠ some '\r' := by
  intro hlast
  rcases List.eq_nil_or_concat bs with rfl | ⟨init, b, rfl⟩
  · exact absurd hlast (by decide)
  · rw [List.concat_eq_append] at h hlast
    have hnum := eq_of_getLast?_decodeLossy isAscii_carriageReturn hlast
    have heq : b = Line.carriageReturn := UInt8.toNat_inj.mp hnum
    exact h (by rw [heq, List.getLast?_concat])

/-- **A terminated piece** is stripped in bytes as it is in characters. -/
theorem ofRaw_concat (part : List UInt8) :
    Line.ofRaw (part ++ [Line.lineFeed]) =
      ⟨String.ofList (strip '\n' '\r' ((decodeLossy part).toList ++ ['\n']))⟩ := by
  rw [Line.ofRaw, Line.body_eq_strip]
  rcases eq_concat_or_getLast?_ne Line.carriageReturn part with ⟨text, rfl⟩ | hbare
  · have hdecode := decodeLossy_append_carriageReturn text []
    have hnil : (decodeLossy []).toList = [] := rfl
    rw [hnil] at hdecode
    rw [strip_concat_ret, hdecode, strip_concat_ret, String.ofList_toList]
  · rw [strip_concat hbare, strip_concat (getLast?_decodeLossy_ne hbare), String.ofList_toList]

/-- The first line of a decoded text, and the lines behind it. -/
theorem lines_append_lineFeed {part : List UInt8} (h : '\n' ∉ (decodeLossy part).toList)
    (rest : List UInt8) :
    lines (decodeLossy (part ++ Line.lineFeed :: rest)) =
      ⟨String.ofList (strip '\n' '\r' ((decodeLossy part).toList ++ ['\n']))⟩ ::
        lines (decodeLossy rest) := by
  rw [lines, lines, decodeLossy_append_lineFeed, pieces_append h, List.map_cons]

/-- **The lines of bytes are those of the text they decode to.** The induction is on the pieces of
the bytes. -/
theorem map_ofRaw_pieces (bs : List UInt8) :
    (pieces Line.lineFeed bs).map Line.ofRaw = lines (decodeLossy bs) := by
  induction bs using pieces_induction Line.lineFeed with
  | last part hpart =>
      have hfree := lineFeed_not_mem_decodeLossy hpart
      by_cases hne : part = []
      · subst hne
        rfl
      · rw [pieces_of_not_mem hpart hne, lines, pieces_of_not_mem hfree (decodeLossy_ne_nil hne),
          List.map_singleton, List.map_singleton, strip_of_not_mem hfree, Line.ofRaw,
          Line.body_eq_strip, strip_of_not_mem hpart, String.ofList_toList]
  | piece part rest hpart ih =>
      rw [pieces_append hpart, List.map_cons, ih, ofRaw_concat,
        lines_append_lineFeed (lineFeed_not_mem_decodeLossy hpart)]

/-! ## Strings written one below the other -/

/-- What ends a line. -/
inductive LineBreak where
  | lineFeed
  | carriageReturnLineFeed
deriving DecidableEq, Repr

/-- The bytes of a line break. -/
def LineBreak.bytes : LineBreak → List UInt8
  | .lineFeed => [Line.lineFeed]
  | .carriageReturnLineFeed => [Line.carriageReturn, Line.lineFeed]

/-- **Strings one below the other**, each with its line break, and one at the end that has none. -/
def written (above : List (String × LineBreak)) (last : String) : List UInt8 :=
  above.flatMap (fun line => encode line.1 ++ line.2.bytes) ++ encode last

/-- Strings that can be told apart when they are written: none of them has a line feed in it, and
none that ends in a carriage return has a bare line feed behind it. -/
structure Writable (above : List (String × LineBreak)) (last : String) : Prop where
  free : ∀ line ∈ above, '\n' ∉ line.1.toList
  bare : ∀ line ∈ above, line.2 = .lineFeed → line.1.toList.getLast? ≠ some '\r'
  free_last : '\n' ∉ last.toList

/-- The bytes of a string that have no line feed behind them are a line, if there are any. -/
theorem lines_encode {text : String} (h : '\n' ∉ text.toList) :
    lines (decodeLossy (encode text)) = (if text = "" then [] else [text]).map Line.mk := by
  rw [decodeLossy_encode, lines]
  by_cases hnil : text = ""
  · subst hnil
    rfl
  · have hne : text.toList ≠ [] := fun heq => hnil (String.toList_eq_nil_iff.mp heq)
    rw [if_neg hnil, pieces_of_not_mem h hne, List.map_singleton, strip_of_not_mem h,
      String.ofList_toList, List.map_singleton]

/-- The bytes of a string with its line break behind them are a line. -/
theorem lines_encode_append {text : String} {lineBreak : LineBreak} (hfree : '\n' ∉ text.toList)
    (hbare : lineBreak = .lineFeed → text.toList.getLast? ≠ some '\r') (rest : List UInt8) :
    lines (decodeLossy (encode text ++ lineBreak.bytes ++ rest)) =
      ⟨text⟩ :: lines (decodeLossy rest) := by
  cases lineBreak with
  | lineFeed =>
      have hdecode : (decodeLossy (encode text)).toList = text.toList := by
        rw [decodeLossy_encode]
      have hline := lines_append_lineFeed (hdecode ▸ hfree) rest
      rw [hdecode, strip_concat (hbare rfl), String.ofList_toList] at hline
      rw [LineBreak.bytes, List.append_assoc, List.singleton_append, hline]
  | carriageReturnLineFeed =>
      have hdecode : (decodeLossy (encode text ++ [Line.carriageReturn])).toList =
          text.toList ++ ['\r'] := by
        rw [decodeLossy_append_carriageReturn, decodeLossy_encode]
        rfl
      have hfree' : '\n' ∉ (decodeLossy (encode text ++ [Line.carriageReturn])).toList := by
        rw [hdecode]
        simpa using hfree
      have hline := lines_append_lineFeed hfree' rest
      rw [hdecode, strip_concat_ret, String.ofList_toList, List.append_assoc] at hline
      rw [LineBreak.bytes, List.append_assoc]
      exact hline

/-- **Written strings are read back**, but for a last one that is empty. The induction is on the
strings above it. -/
theorem lines_written {above : List (String × LineBreak)} {last : String}
    (h : Writable above last) :
    lines (decodeLossy (written above last)) =
      (above.map (·.1) ++ if last = "" then [] else [last]).map Line.mk := by
  induction above with
  | nil => exact lines_encode h.free_last
  | cons line above ih =>
      have hrest : Writable above last :=
        ⟨fun l hl => h.free l (List.mem_cons_of_mem line hl),
          fun l hl => h.bare l (List.mem_cons_of_mem line hl), h.free_last⟩
      have hfree := h.free line List.mem_cons_self
      have hbare := h.bare line List.mem_cons_self
      have hwritten : written (line :: above) last =
          encode line.1 ++ line.2.bytes ++ written above last := by
        simp only [written, List.flatMap_cons, List.append_assoc]
      rw [hwritten, lines_encode_append hfree hbare, ih hrest, List.map_cons, List.cons_append,
        List.map_cons]

end ChildWatch.Text
