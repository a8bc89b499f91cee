import ChildWatch.Proofs.Text.Decoding
import ChildWatch.Report.Traces

/-! # Reports on willing streams

A stream takes a report in pieces of its own choosing and may be interrupted. That alone makes no
report fail.

* `Sink.Willing` — a sink that never fails; `Willing.write` — one call to it, `Willing.writeAll` —
  calls for all the bytes.
* `Sink.Call` — what one call can come to, on any sink; `Sink.Wrote` — what calls for all the bytes can
  come to, `wrote_writeAll`.
* `Report.wrote_writePieces` — what the pieces of a report come to.
* `Report.write_all` — a report of everything on a willing sink, `accepted_write_all` — what the sink
  has taken then.
* `Report.write_takes_beginning` — what becomes of a report on any sink. -/

namespace ChildWatch

/-- The error that a reply ends the writing with: the sink's own, or that it took nothing of what it
was offered. After any other reply the writing goes on. -/
def WriteReply.error? : WriteReply → Option IoError
  | .took 0 => some Sink.wroteNothing
  | .took _ | .interrupted => none
  | .failed fault => some fault.error

/-- The two ways to end it. -/
theorem WriteReply.error?_eq_some_iff {r : WriteReply} {e : IoError} :
    r.error? = some e ↔
      (∃ fault : IoFault, r = .failed fault ∧ e = fault.error) ∨
        (r = .took 0 ∧ e = Sink.wroteNothing) := by
  cases r with
  | took n => cases n <;> simp [error?, eq_comm]
  | interrupted => simp [error?]
  | failed fault => simp [error?, eq_comm]

namespace Sink

variable {s : Sink} {bytes : List UInt8}

/-- A **willing** sink: it takes its bytes in pieces and may be interrupted, and in the end it takes
everything. -/
def Willing (s : Sink) : Prop := s.ending = .unlimited

/-- The first stretch that is not used up has room, if it is one of room. -/
theorem room_pos_of_dropWhile {stretches rest : List SinkStretch} {n : Nat}
    (h : stretches.dropWhile (· == .room 0) = .room n :: rest) : 0 < n := by
  have hhead := List.head?_dropWhile_not (· == SinkStretch.room 0) stretches
  rw [h] at hhead
  rcases Nat.eq_zero_or_pos n with rfl | hpos
  · simp at hhead
  · exact hpos

/-- **One call to a willing sink** is interrupted or takes some of the bytes; the sink stays willing. -/
theorem Willing.write (hs : s.Willing) (hne : bytes ≠ []) :
    (s.write bytes).2.Willing ∧
      ((s.write bytes).1 = .interrupted ∨ ∃ n, (s.write bytes).1 = .took (n + 1)) := by
  have hlength : 0 < bytes.length := List.length_pos_iff.mpr hne
  rw [Sink.write]
  cases hstretches : s.stretches.dropWhile (· == .room 0) with
  | nil =>
      simp only [show s.ending = .unlimited from hs]
      exact ⟨hs, Or.inr ⟨bytes.length - 1, by rw [Nat.sub_add_cancel hlength]⟩⟩
  | cons stretch rest =>
      cases stretch with
      | interrupted => exact ⟨hs, Or.inl rfl⟩
      | room n =>
          have hroom := room_pos_of_dropWhile hstretches
          have hpos : 0 < min n bytes.length := Nat.lt_min.mpr ⟨hroom, hlength⟩
          exact ⟨hs, Or.inr ⟨min n bytes.length - 1, by rw [Nat.sub_add_cancel hpos]⟩⟩

/-- Calls to a willing sink end without an error, however many of them are made. -/
theorem Willing.writeLoop (hs : s.Willing) (fuel : Nat) (bytes : List UInt8) :
    (writeLoop fuel s bytes).1 = none ∧ (writeLoop fuel s bytes).2.Willing := by
  induction fuel generalizing s bytes with
  | zero => exact ⟨rfl, hs⟩
  | succ fuel ih =>
      rw [Sink.writeLoop]
      cases hempty : bytes.isEmpty with
      | true => exact ⟨rfl, hs⟩
      | false =>
          have hne : bytes ≠ [] := by simpa using hempty
          obtain ⟨hwilling, hreply⟩ := hs.write hne
          generalize s.write bytes = called at hwilling hreply
          obtain ⟨reply, s'⟩ := called
          rcases hreply with hreply | ⟨n, hreply⟩
          · obtain rfl : reply = .interrupted := hreply
            exact ih hwilling bytes
          · obtain rfl : reply = .took (n + 1) := hreply
            exact ih hwilling (bytes.drop (n + 1))

/-- **A willing sink takes all the bytes.** -/
theorem Willing.writeAll (hs : s.Willing) (bytes : List UInt8) :
    (s.writeAll bytes).1 = none ∧ (s.writeAll bytes).2.Willing :=
  hs.writeLoop _ bytes

/-! ## What is taken -/

variable {s' : Sink}

/-- The stretches of a sink that are not used up. -/
def left (s : Sink) : List SinkStretch := s.stretches.dropWhile (· == .room 0)

/-- **What one call can come to.** It takes some of the bytes, and then uses up a stretch unless it
takes them all; or it takes nothing, and the sink is full, interrupted or failing. -/
inductive Call (s : Sink) (bytes : List UInt8) : WriteReply → Sink → Prop where
  | took {n : Nat} {s' : Sink} (haccepted : s'.accepted = s.accepted ++ bytes.take (n + 1))
    (huses : bytes.length ≤ n + 1 ∨ s'.left.length < s.left.length) :
    Call s bytes (.took (n + 1)) s'
  | full {s' : Sink} (haccepted : s'.accepted = s.accepted) : Call s bytes (.took 0) s'
  | interrupted {s' : Sink} (haccepted : s'.accepted = s.accepted)
    (huses : s'.left.length < s.left.length) : Call s bytes .interrupted s'
  | failed {s' : Sink} (fault : IoFault) (haccepted : s'.accepted = s.accepted) :
    Call s bytes (.failed fault) s'

/-- A reply that takes bytes puts them behind what the sink has. -/
theorem accepted_reply_took (s : Sink) (rest : List SinkStretch) (offered : List UInt8) (n : Nat) :
    (s.reply rest offered (.took n)).accepted = s.accepted ++ offered.take n := by
  simp [accepted, reply]

/-- A stretch that is passed over leaves no more of them. -/
theorem length_left_le (rest : List SinkStretch) :
    (rest.dropWhile (· == .room 0)).length ≤ rest.length :=
  (List.dropWhile_sublist _).length_le

theorem call_write (hne : bytes ≠ []) : s.Call bytes (s.write bytes).1 (s.write bytes).2 := by
  have hpos : 0 < bytes.length := List.length_pos_iff.mpr hne
  cases hleft : s.left with
  | nil =>
      have hdrop : s.stretches.dropWhile (· == .room 0) = [] := hleft
      rw [write, hdrop]
      cases hending : s.ending with
      | unlimited =>
          obtain ⟨n, hn⟩ := Nat.exists_eq_add_of_lt hpos
          rw [Nat.zero_add] at hn
          simp only [hn]
          exact .took (accepted_reply_took _ _ _ _) (Or.inl (Nat.le_of_eq hn))
      | broken fault => exact .failed fault rfl
      | full => exact .full (by simp [accepted, reply])
  | cons stretch rest =>
      have hdrop : s.stretches.dropWhile (· == .room 0) = stretch :: rest := hleft
      have huses : (rest.dropWhile (· == .room 0)).length < s.left.length := by
        rw [hleft, List.length_cons]
        exact Nat.lt_succ_of_le (length_left_le rest)
      rw [write, hdrop]
      cases stretch with
      | interrupted => exact .interrupted rfl huses
      | room n =>
          have hroom : 0 < n := room_pos_of_dropWhile hdrop
          obtain ⟨k, hk⟩ := Nat.exists_eq_add_of_lt (Nat.lt_min.mpr ⟨hroom, hpos⟩)
          rw [Nat.zero_add] at hk
          simp only [hk]
          refine .took (accepted_reply_took _ _ _ _) ?_
          -- a stretch that takes only some of the bytes has no room left
          rcases Nat.lt_or_ge n bytes.length with hlt | hge
          · right
            have hfull : n - (k + 1) = 0 := by omega
            rw [hfull]
            exact huses
          · left
            omega

/-- A call adds its reply to those given. -/
theorem replies_write (s : Sink) (bytes : List UInt8) :
    (s.write bytes).2.replies = (s.write bytes).1 :: s.replies := by
  rw [write]
  cases s.stretches.dropWhile (· == .room 0) with
  | nil => cases s.ending <;> rfl
  | cons stretch rest => cases stretch <;> rfl

/-- **What writing comes to.** Either all the bytes are taken, and after every reply the writing went
on; or some of them are, and the last reply is the one that ended it. -/
inductive Wrote (s : Sink) (bytes : List UInt8) : Option IoError → Sink → Prop where
  | whole {s' : Sink} {replies : List WriteReply} (haccepted : s'.accepted = s.accepted ++ bytes)
    (hreplies : s'.replies = replies ++ s.replies) (hon : ∀ r ∈ replies, r.error? = none) :
    Wrote s bytes none s'
  | cut {s' : Sink} {e : IoError} {taken rest : List UInt8} {last : WriteReply}
    {replies : List WriteReply} (hbytes : bytes = taken ++ rest) (hrest : rest ≠ [])
    (haccepted : s'.accepted = s.accepted ++ taken)
    (hreplies : s'.replies = last :: (replies ++ s.replies))
    (hon : ∀ r ∈ replies, r.error? = none) (hlast : last.error? = some e) :
    Wrote s bytes (some e) s'

namespace Wrote

variable {more : List UInt8} {error : Option IoError} {e : IoError} {m s' : Sink}

/-- Nothing is written without a call. -/
theorem nothing (s : Sink) : Wrote s [] none s :=
  .whole (by rw [List.append_nil]) (List.nil_append _).symm (by simp)

/-- After some bytes others may follow. -/
theorem followed (hfirst : Wrote s bytes none m) (hmore : Wrote m more error s') :
    Wrote s (bytes ++ more) error s' := by
  cases hfirst with
  | @whole _ earlier hfirst hearlier honEarlier =>
      have hboth (replies : List WriteReply) (hon : ∀ r ∈ replies, r.error? = none) :
          ∀ r ∈ replies ++ earlier, r.error? = none := by
        intro r hr
        rcases List.mem_append.mp hr with h | h
        · exact hon r h
        · exact honEarlier r h
      cases hmore with
      | @whole _ replies haccepted hreplies hon =>
          refine .whole ?_ ?_ (hboth replies hon)
          · rw [haccepted, hfirst, List.append_assoc]
          · rw [hreplies, hearlier, List.append_assoc]
      | @cut _ _ taken rest last replies hbytes hrest haccepted hreplies hon hlast =>
          have hbytes' : bytes ++ more = (bytes ++ taken) ++ rest := by
            rw [hbytes, List.append_assoc]
          refine .cut hbytes' hrest ?_ ?_ (hboth replies hon) hlast
          · rw [haccepted, hfirst, List.append_assoc]
          · rw [hreplies, hearlier, List.append_assoc]

/-- After an error nothing follows. -/
theorem ended (hcut : Wrote s bytes (some e) s') (more : List UInt8) :
    Wrote s (bytes ++ more) (some e) s' := by
  cases hcut with
  | @cut _ _ taken rest last replies hbytes hrest haccepted hreplies hon hlast =>
      have hbytes' : bytes ++ more = taken ++ (rest ++ more) := by rw [hbytes, List.append_assoc]
      exact .cut hbytes' (by simp [hrest]) haccepted hreplies hon hlast

/-- All the bytes are taken if no error is reported. -/
theorem accepted_eq (h : Wrote s bytes none s') : s'.accepted = s.accepted ++ bytes := by
  cases h with
  | whole haccepted _ _ => exact haccepted

/-- A call that takes some of the bytes. -/
theorem took {n : Nat} (haccepted : s'.accepted = s.accepted ++ bytes.take (n + 1))
    (hreplies : s'.replies = .took (n + 1) :: s.replies) :
    Wrote s (bytes.take (n + 1)) none s' := by
  have hreplies' : s'.replies = [.took (n + 1)] ++ s.replies := hreplies
  exact .whole haccepted hreplies' (by simp [WriteReply.error?])

/-- A call that is interrupted. -/
theorem interrupted (haccepted : s'.accepted = s.accepted)
    (hreplies : s'.replies = .interrupted :: s.replies) : Wrote s [] none s' := by
  have hreplies' : s'.replies = [.interrupted] ++ s.replies := hreplies
  exact .whole (by rw [haccepted, List.append_nil]) hreplies' (by simp [WriteReply.error?])

/-- A call that ends the writing. -/
theorem broken {last : WriteReply} (hne : bytes ≠ []) (haccepted : s'.accepted = s.accepted)
    (hreplies : s'.replies = last :: s.replies) (hlast : last.error? = some e) :
    Wrote s bytes (some e) s' := by
  have haccepted' : s'.accepted = s.accepted ++ [] := by rw [haccepted, List.append_nil]
  have hreplies' : s'.replies = last :: ([] ++ s.replies) := hreplies
  exact .cut (List.nil_append bytes).symm hne haccepted' hreplies' (by simp) hlast

end Wrote

/-- **Calls for the bytes take them all, or up to the first error.** The induction is on the calls that
are left; each of them uses up a stretch or is the last one. -/
theorem wrote_writeLoop {fuel : Nat} (hfuel : bytes = [] ∨ s.left.length + 1 < fuel) :
    Wrote s bytes (writeLoop fuel s bytes).1 (writeLoop fuel s bytes).2 := by
  induction fuel generalizing s bytes with
  | zero =>
      obtain rfl : bytes = [] := hfuel.resolve_right (Nat.not_lt_zero _)
      exact .nothing s
  | succ fuel ih =>
      rw [writeLoop]
      by_cases hempty : bytes.isEmpty = true
      · rw [if_pos hempty, List.isEmpty_iff.mp hempty]
        exact .nothing s
      rw [if_neg hempty]
      have hne : bytes ≠ [] := by simpa using hempty
      have hleft : s.left.length < fuel := by
        have := hfuel.resolve_left hne
        omega
      have hcall := s.call_write hne
      have hreplies := s.replies_write bytes
      generalize s.write bytes = called at hcall hreplies ⊢
      obtain ⟨reply, s'⟩ := called
      cases hcall with
      | @took n _ haccepted huses =>
          have hfuel' : bytes.drop (n + 1) = [] ∨ s'.left.length + 1 < fuel := by
            refine huses.imp List.drop_eq_nil_of_le fun h => ?_
            have h' : s'.left.length < s.left.length := h
            omega
          have hboth := Wrote.followed (.took haccepted hreplies) (ih hfuel')
          rw [List.take_append_drop] at hboth
          exact hboth
      | full haccepted => exact .broken hne haccepted hreplies rfl
      | interrupted haccepted huses =>
          have hfuel' : bytes = [] ∨ s'.left.length + 1 < fuel := by
            have h' : s'.left.length < s.left.length := huses
            exact Or.inr (by omega)
          exact Wrote.followed (.interrupted haccepted hreplies) (ih hfuel')
      | failed fault haccepted => exact .broken hne haccepted hreplies rfl

theorem wrote_writeAll (s : Sink) (bytes : List UInt8) :
    Wrote s bytes (s.writeAll bytes).1 (s.writeAll bytes).2 := by
  refine wrote_writeLoop (Or.inr ?_)
  exact Nat.add_lt_add_right (Nat.lt_succ_of_le (length_left_le s.stretches)) 1

end Sink

namespace Report

open Sink

/-- A willing sink takes all the pieces of a report. -/
theorem writePieces_of_willing {sink : Sink} (hs : sink.Willing) (pieces : List (List UInt8)) :
    (writePieces sink pieces).1 = none := by
  induction pieces generalizing sink with
  | nil => rfl
  | cons piece rest ih =>
      rw [writePieces]
      obtain ⟨hnone, hwilling⟩ := hs.writeAll piece
      generalize sink.writeAll piece = called at hnone hwilling
      obtain ⟨error, sink'⟩ := called
      obtain rfl : error = none := hnone
      exact ih hwilling

/-- **A report of everything does not fail on a willing sink.** -/
theorem write_all {sink : Sink} (hs : sink.Willing) (lines : List String) :
    (write sink .all lines).1 = .ok () := by
  have hnone := writePieces_of_willing hs (pieces lines)
  simp only [write, render]
  generalize writePieces sink (pieces lines) = written at hnone
  obtain ⟨error, sink'⟩ := written
  obtain rfl : error = none := hnone
  rfl

/-- **Pieces come to what all their bytes come to**: an error in one of them is the end. -/
theorem wrote_writePieces (sink : Sink) (pieces : List (List UInt8)) :
    Wrote sink pieces.flatten (writePieces sink pieces).1 (writePieces sink pieces).2 := by
  induction pieces generalizing sink with
  | nil => exact .nothing sink
  | cons piece rest ih =>
      rw [writePieces, List.flatten_cons]
      have hpiece := wrote_writeAll sink piece
      generalize sink.writeAll piece = called at hpiece ⊢
      obtain ⟨_ | e, sink'⟩ := called
      · exact hpiece.followed (ih sink')
      · exact hpiece.ended rest.flatten

/-- The text of a report, character by character. -/
theorem toList_fullText {lines : List String} (hne : lines ≠ []) :
    (fullText lines).toList = '\n' :: lines.flatMap fun line => line.toList ++ ['\n'] := by
  have hempty : ¬ lines.isEmpty = true := by simpa using hne
  have htext : ("\n" : String).toList = ['\n'] := by decide
  rw [fullText, if_neg hempty]
  simp [String.toList_join, List.flatMap_map, htext]

/-- The pieces of a report are the bytes of its text. -/
theorem flatten_pieces (lines : List String) :
    (pieces lines).flatten = Text.Utf8.encode (fullText lines) := by
  rw [Text.Utf8.encode_eq_flatMap]
  by_cases hne : lines = []
  · subst hne
    rfl
  · have hempty : ¬ lines.isEmpty = true := by simpa using hne
    have hfeed : String.utf8EncodeChar '\n' = [10] := by decide
    rw [toList_fullText hne, pieces, if_neg hempty, List.flatten_cons, List.flatMap_cons, hfeed,
      List.flatMap_assoc, List.flatMap_def, List.flatMap_def, List.flatten_flatten, List.map_map]
    simp [Text.Utf8.encode_eq_flatMap, Function.comp_def, hfeed]

/-- **A willing sink has taken the whole text of the report.** -/
theorem accepted_write_all {sink : Sink} (hs : sink.Willing) (lines : List String) :
    (write sink .all lines).2.accepted = sink.accepted ++ Text.Utf8.encode (fullText lines) := by
  have hwrote := wrote_writePieces sink (pieces lines)
  rw [writePieces_of_willing hs (pieces lines), flatten_pieces] at hwrote
  have htaken := hwrote.accepted_eq
  rw [← htaken]
  simp only [write, render]
  generalize writePieces sink (pieces lines) = written
  obtain ⟨_ | e, sink'⟩ := written
  · rfl
  · rfl

/-! ## Reports on any sink -/

/-- The whole text of a report in a mode; only one of them prints lines. -/
def textOf : TraceMode → List String → String
  | .all, lines => fullText lines
  | .none, _ | .target, _ => ""

/-- A mode that is not refused has the pieces of its text written. -/
theorem write_of_ne_target (sink : Sink) {mode : TraceMode} (hmode : mode ≠ .target)
    (lines : List String) :
    ∃ error, (write sink mode lines).1 = error.elim (.ok ()) (.error <| .io ·) ∧
      Wrote sink (Text.Utf8.encode (textOf mode lines)) error (write sink mode lines).2 := by
  have hwritten (shown : List String) (hrender : render mode lines = .ok shown)
      (htext : textOf mode lines = fullText shown) :
      ∃ error, (write sink mode lines).1 = error.elim (.ok ()) (.error <| .io ·) ∧
        Wrote sink (Text.Utf8.encode (textOf mode lines)) error (write sink mode lines).2 := by
    have hwrote := wrote_writePieces sink (pieces shown)
    rw [flatten_pieces, ← htext] at hwrote
    rw [write, hrender]
    simp only
    generalize writePieces sink (pieces shown) = written at hwrote ⊢
    obtain ⟨_ | e, sink'⟩ := written
    · exact ⟨none, rfl, hwrote⟩
    · exact ⟨some e, rfl, hwrote⟩
  cases mode with
  | all => exact hwritten lines rfl rfl
  | none => exact hwritten [] rfl rfl
  | target => exact absurd rfl hmode

/-- **Reports on any sink.** A sink may take the bytes in pieces of any size, be interrupted, and in
the end fail or take nothing more. What it takes of a report is a beginning of the whole text, and the
report succeeds exactly if nothing of the text is missing. If it does not, it ends with the error that
the last reply brought, the sink's own or that nothing was taken; and no call was made after that
reply. Reports by target are refused, and the sink is left as it is. -/
theorem write_takes_beginning (sink : Sink) (mode : TraceMode) (lines : List String) :
    write sink .target lines = (.error (.traceModeUnsupported .target), sink) ∧
      (mode ≠ .target →
        ∃ taken rest replies,
          Text.Utf8.encode (textOf mode lines) = taken ++ rest ∧
          (write sink mode lines).2.accepted = sink.accepted ++ taken ∧
          ((write sink mode lines).1 = .ok () ↔ rest = []) ∧
          (∀ r ∈ replies, WriteReply.error? r = none) ∧
          (rest = [] → (write sink mode lines).2.replies = replies ++ sink.replies) ∧
          (rest ≠ [] →
            ∃ e last, (write sink mode lines).1 = .error (.io e) ∧
              ((∃ fault : IoFault, last = .failed fault ∧ e = fault.error) ∨
                (last = .took 0 ∧ e = Sink.wroteNothing)) ∧
              (write sink mode lines).2.replies = last :: (replies ++ sink.replies))) := by
  refine ⟨rfl, fun hmode => ?_⟩
  obtain ⟨error, hresult, hwrote⟩ := write_of_ne_target sink hmode lines
  rw [hresult]
  cases hwrote with
  | @whole _ replies haccepted hreplies hon =>
      refine ⟨_, [], replies, (List.append_nil _).symm, haccepted, ?_, hon, fun _ => hreplies, ?_⟩
      · simp
      · intro hne
        exact absurd rfl hne
  | @cut _ e taken rest last replies hbytes hrest haccepted hreplies hon hlast =>
      refine ⟨taken, rest, replies, hbytes, haccepted, ?_, hon, ?_, fun _ => ?_⟩
      · simp [hrest]
      · intro hnil
        exact absurd hnil hrest
      · exact ⟨e, last, rfl, WriteReply.error?_eq_some_iff.mp hlast, hreplies⟩

end Report

end ChildWatch
