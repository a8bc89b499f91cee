import ChildWatch.Pattern
import ChildWatch.Proofs.Regex.Acceptance
import Mathlib.Data.List.Infix

/-! # Literal patterns

A pattern in which every character stands for itself is looked for in the same lines as a piece of
text and as a regular expression.

* `Regex.metacharacters` — the characters that do not stand for themselves.
* `Regex.Reader.run_literal`, `Regex.Expr.parse_literal` — a text without them is read as its
  characters, one after the other.
* `Regex.Expr.accepts_literal` — these accept that text and no other.
* `literal_found_either_way` — the two ways to look for it. -/

namespace ChildWatch

namespace Regex

/-- **The characters with a meaning of their own** in a pattern. -/
def metacharacters : List Char := "\\.+*?()|[]\x7B\x7D^$".toList

namespace Reader

variable {s : State} {c : Char}

/-- The part that a character makes which stands for itself. -/
def leaf (c : Char) : Part := ⟨.char c, 0, true⟩

/-- **A character without a meaning of its own stands for itself**, if case counts. -/
theorem step_literal (hs : s.flags.caseless = false) (hc : c ∉ metacharacters) (rest : List Char) :
    step s c rest = .ok (s.push (leaf c), rest) := by
  unfold step
  split
  case h_13 =>
    rw [charExpr, Flags.fold, hs]
    rfl
  all_goals exact absurd (by decide) hc

/-- **A text of such characters is read as its characters**, one after the other. The induction is on
the text; the latest part comes first. -/
theorem run_literal {text : List Char} {fuel : Nat} (hfuel : text.length ≤ fuel)
    (hs : s.flags = .initial) (htext : ∀ c ∈ text, c ∉ metacharacters) :
    run fuel s text = .ok { s with level := { s.level with
      parts := (text.map leaf).reverse ++ s.level.parts } } := by
  induction text generalizing fuel s with
  | nil =>
      have hskip : s.flags.skip [] = [] := by rw [hs]; rfl
      cases fuel with
      | zero => rfl
      | succ fuel =>
          rw [run, hskip]
          rfl
  | cons c rest ih =>
      obtain ⟨fuel, rfl⟩ := Nat.exists_eq_succ_of_ne_zero (Nat.ne_zero_of_lt hfuel)
      have hskip : s.flags.skip (c :: rest) = c :: rest := by rw [hs]; rfl
      have hstep := step_literal (s := s) (by rw [hs]; rfl) (htext c List.mem_cons_self) rest
      have hrest := ih (s := s.push (leaf c)) (Nat.le_of_succ_le_succ hfuel) hs
        fun c' hc' => htext c' (List.mem_cons_of_mem c hc')
      rw [run, hskip]
      simp only [hstep, bind, Except.bind, hrest]
      simp [State.push]

end Reader

namespace Expr

/-- Characters one after the other. -/
def literal (text : List Char) : Expr := seqOf (text.map char)

/-- **A pattern without metacharacters is read as its characters**, if it is not too large. -/
theorem parse_literal {pattern : String} {e : Expr}
    (hliteral : ∀ c ∈ pattern.toList, c ∉ metacharacters) (hparse : parse pattern = .ok e) :
    e = literal pattern.toList := by
  have hrun := Reader.run_literal (s := Reader.start) (Nat.le_refl _) rfl hliteral
  have hwhole : (Reader.choice ⟨(pattern.toList.map Reader.leaf).reverse ++ [], []⟩).expr =
      literal pattern.toList := by
    simp only [Reader.choice, Reader.sequence, literal, List.append_nil, List.reverse_reverse,
      List.map_map]
    rfl
  rw [parse] at hparse
  simp only [hrun, bind, Except.bind] at hparse
  split at hparse
  · cases hparse
  split at hparse
  · cases hparse
  split at hparse
  · cases hparse
  · rw [← hwhole]
    exact (Except.ok.inj hparse).symm

@[simp] theorem literal_cons_cons (c d : Char) (text : List Char) :
    literal (c :: d :: text) = .seq (.char c) (literal (d :: text)) := rfl

/-- There is nothing to repeat in it. -/
theorem ordered_literal (text : List Char) : (literal text).Ordered := by
  induction text with
  | nil => trivial
  | cons c rest ih =>
      cases rest with
      | nil => trivial
      | cons d rest => exact ⟨trivial, ih⟩

theorem accepts_char {c : Char} {word : List Char} {b a : Option Char} :
    (char c).Accepts b word a ↔ word = [c] := by
  constructor
  · intro h
    cases h with
    | set hc =>
        rw [CharClass.has_single, decide_eq_true_eq] at hc
        rw [hc]
  · rintro rfl
    exact .set (by rw [CharClass.has_single, decide_eq_true_eq])

/-- **They accept that text and no other**, whatever stands around it. -/
theorem accepts_literal {text word : List Char} {b a : Option Char} :
    (literal text).Accepts b word a ↔ word = text := by
  induction text generalizing word b with
  | nil =>
      constructor
      · intro h
        cases h with
        | empty => rfl
      · rintro rfl
        exact .empty
  | cons c rest ih =>
      cases rest with
      | nil => exact accepts_char
      | cons d rest =>
          rw [literal_cons_cons, accepts_seq]
          constructor
          · rintro ⟨u, v, rfl, hu, hv⟩
            rw [accepts_char.mp hu, ih.mp hv]
            rfl
          · rintro rfl
            exact ⟨[c], d :: rest, rfl, accepts_char.mpr rfl, ih.mpr rfl⟩

end Expr

end Regex

namespace Pattern

/-- A piece of text is looked for in every place of a line. -/
theorem occursIn_iff {piece text : List Char} : occursIn piece text = true ↔ piece <:+: text := by
  induction text with
  | nil => rw [occursIn, List.isEmpty_iff, List.infix_nil]
  | cons c rest ih =>
      rw [occursIn, Bool.or_eq_true, List.isPrefixOf_iff_prefix, ih, List.infix_cons_iff]

/-- A piece of text is found as an expression exactly where it stands. -/
theorem occursIn_literal {piece text : List Char} :
    (Regex.Expr.literal piece).occursIn text = true ↔ piece <:+: text := by
  rw [Regex.Expr.occursIn_iff (Regex.Expr.ordered_literal piece)]
  constructor
  · rintro ⟨before, word, after, rfl, hword⟩
    rw [Regex.Expr.accepts_literal.mp hword]
    exact List.infix_append before piece after
  · rintro ⟨before, after, rfl⟩
    exact ⟨before, piece, after, rfl, Regex.Expr.accepts_literal.mpr rfl⟩

end Pattern

/-- **Literal text is found either way.** If a pattern without metacharacters is a regular expression
at all, every line that holds it as a piece of text holds it as an expression, and no other line
does: both look for the characters one after the other, anywhere in the line. -/
theorem literal_found_either_way {needle : String} {p : Pattern}
    (hliteral : ∀ c ∈ needle.toList, c ∉ Regex.metacharacters)
    (hregex : Pattern.regex needle = .ok p) (line : Text.Line) :
    p.accepts line = (Pattern.substring needle).accepts line ∧
      (p.accepts line = true ↔ needle.toList <:+: line.text.toList) := by
  rw [Pattern.regex] at hregex
  cases hparse : Regex.Expr.parse needle with
  | error fault => simp [hparse] at hregex
  | ok e =>
      rw [hparse] at hregex
      obtain rfl : (⟨needle, .expression e⟩ : Pattern) = p := Except.ok.inj hregex
      have hexpression : Pattern.accepts ⟨needle, .expression e⟩ line = true ↔
          needle.toList <:+: line.text.toList := by
        rw [Regex.Expr.parse_literal hliteral hparse]
        exact Pattern.occursIn_literal
      have hpiece : (Pattern.substring needle).accepts line = true ↔
          needle.toList <:+: line.text.toList := Pattern.occursIn_iff
      exact ⟨Bool.eq_iff_iff.mpr (hexpression.trans hpiece.symm), hexpression⟩

/-- A text beyond ASCII that overlaps with itself. -/
theorem literal_found_overlapping :
    (∀ c ∈ "éé-".toList, c ∉ Regex.metacharacters) ∧
      ∃ p, Pattern.regex "éé-" = .ok p ∧ p.accepts ⟨"éééé-"⟩ = true := by
  have hall : "éé-".toList.all (decide <| · ∉ Regex.metacharacters) = true := by decide
  have hliteral : ∀ c ∈ "éé-".toList, c ∉ Regex.metacharacters :=
    fun c hc => of_decide_eq_true (List.all_eq_true.mp hall c hc)
  have hread : (Pattern.regex "éé-").isOk = true := by decide +kernel
  cases hregex : Pattern.regex "éé-" with
  | error fault =>
      rw [hregex] at hread
      cases hread
  | ok p =>
      refine ⟨hliteral, p, rfl, ?_⟩
      rw [(literal_found_either_way hliteral hregex ⟨"éééé-"⟩).1]
      decide

end ChildWatch
