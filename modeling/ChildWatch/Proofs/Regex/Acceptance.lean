import ChildWatch.Proofs.Regex.Words
import ChildWatch.Regex.Search
import Mathlib.Tactic.Tauto

/-! # What marked expressions accept

A marked expression accepts words from its start, and from each of its marks; the search moves the
marks over a text so that they stand where something has been accepted.

* `Marked.Passes`, `Marked.Resumes` — the words that are accepted from the start, and from a mark.
* `Marked.resumes_shift` — moving the marks takes the first character off.
* `Marked.search_iff` — what the search tells.
* `Expr.accepts_rep` — how often a repetition is run through.
* `Expr.passes_ofExpr` — a marked expression accepts what the expression does.
* `Expr.occursIn_iff` — the search finds an expression exactly in the texts with a part that it
  accepts. -/

namespace ChildWatch.Regex

open ChildWatch.Regex.Expr

/-! ## Marked expressions -/

namespace Marked

/-- **The words accepted from the start.** Marks do not count. -/
def Passes : Marked → Words
  | empty => .nothing
  | set s _ => fun _ w _ => ∃ c, w = [c] ∧ s.has c = true
  | assertion s => fun b w a => w = [] ∧ s.holds ⟨b, a⟩ = true
  | seq x y => x.Passes.seq y.Passes
  | alt x y => x.Passes.either y.Passes
  | star x => x.Passes.many

/-- **The words accepted from a mark** to the end of the expression. -/
def Resumes : Marked → Words
  | empty | assertion _ => fun _ _ _ => False
  | set _ mark => fun _ w _ => mark = true ∧ w = []
  | seq x y => y.Resumes.either (x.Resumes.seq y.Passes)
  | alt x y => x.Resumes.either y.Resumes
  | star x => x.Resumes.seq x.Passes.many

variable {m : Marked} {b a : Option Char} {c : Char} {w : List Char}

/-- What can be passed over accepts the empty word. -/
theorem skips_iff : m.skips ⟨b, a⟩ = true ↔ m.Passes b [] a := by
  induction m with
  | empty => simp [skips, Passes, Words.nothing]
  | set s mark => simp [skips, Passes]
  | assertion s => simp [skips, Passes]
  | seq x y ihx ihy => simp [skips, Passes, Words.seq_nil_iff, ihx, ihy]
  | alt x y ihx ihy => simp [skips, Passes, Words.either, ihx, ihy]
  | star x ih => simp [skips, Passes, Words.many_nil]

/-- A mark at the end goes on with the empty word. -/
theorem ends_iff : m.ends ⟨b, a⟩ = true ↔ m.Resumes b [] a := by
  induction m with
  | empty => simp [ends, Resumes]
  | set s mark => simp [ends, Resumes]
  | assertion s => simp [ends, Resumes]
  | seq x y ihx ihy =>
      simp [ends, Resumes, Words.either, Words.seq_nil_iff, ihx, ihy, skips_iff, and_comm]
  | alt x y ihx ihy => simp [ends, Resumes, Words.either, ihx, ihy]
  | star x ih => simp [ends, Resumes, Words.seq_nil_iff, Words.many_nil, ih]

/-- Moving the marks does not change what is accepted from the start. -/
@[simp] theorem passes_shift (g : Gap) (c : Char) (enter : Bool) (m : Marked) :
    (m.shift g c enter).Passes = m.Passes := by
  induction m generalizing enter with
  | empty => rfl
  | set s mark => rfl
  | assertion s => rfl
  | seq x y ihx ihy => rw [shift, Passes, ihx, ihy, Passes]
  | alt x y ihx ihy => rw [shift, Passes, ihx, ihy, Passes]
  | star x ih => rw [shift, Passes, ih, Passes]

/-- **Moving the marks takes the first character off**: what is accepted from the new marks is what
was accepted behind that character from the old ones, and from the start if the expression is
entered. The induction is on the expression. -/
theorem resumes_shift {enter : Bool} :
    (m.shift ⟨b, some c⟩ c enter).Resumes (some c) w a ↔
      m.Resumes b (c :: w) a ∨ (enter = true ∧ m.Passes b (c :: w) a) := by
  induction m generalizing enter w a with
  | empty => simp [shift, Resumes, Passes, Words.nothing]
  | set s mark =>
      simp only [shift, Resumes, Passes, Bool.and_eq_true, List.cons.injEq]
      constructor
      · rintro ⟨⟨henter, hhas⟩, rfl⟩
        exact Or.inr ⟨henter, c, ⟨rfl, rfl⟩, hhas⟩
      · rintro (⟨-, hnil⟩ | ⟨henter, d, ⟨rfl, rfl⟩, hhas⟩)
        · cases hnil
        · exact ⟨⟨henter, hhas⟩, rfl⟩
  | assertion s => simp [shift, Resumes, Passes]
  | seq x y ihx ihy =>
      -- `y` is entered from the marks that end `x`, or from the start where `x` can be passed over
      have hbehind := Words.seq_behind_iff (Q := y.Passes) (w := w) (a := a)
        (S := (x.shift ⟨b, some c⟩ c enter).Resumes) fun _ _ => ihx
      simp only [shift, Resumes, Passes, Words.either, passes_shift, ihy, hbehind,
        Words.seq_cons_iff, Bool.or_eq_true, Bool.and_eq_true, ends_iff, skips_iff]
      tauto
  | alt x y ihx ihy =>
      simp only [shift, Resumes, Passes, Words.either, ihx, ihy]
      tauto
  | star x ih =>
      -- `x` is entered anew from its own end; empty rounds may be left out
      have hbehind := Words.seq_behind_iff (Q := x.Passes.many) (w := w) (a := a)
        (S := (x.shift ⟨b, some c⟩ c (enter || x.ends ⟨b, some c⟩)).Resumes) fun _ _ => ih
      simp only [shift, Resumes, Passes, passes_shift, hbehind, Words.seq_cons_iff,
        Words.many_cons_iff, Bool.or_eq_true, ends_iff]
      tauto

/-! ## Searching -/

/-- **Found** at the end of a word: something that ends there is accepted from a mark, or from the
start at some place of the word. -/
def Found (m : Marked) : Words := m.Resumes.either (Words.any.seq m.Passes)

theorem found_nil : m.Found b [] a ↔ m.skips ⟨b, a⟩ = true ∨ m.ends ⟨b, a⟩ = true := by
  rw [Found, Words.either, Words.seq_nil_iff, skips_iff, ends_iff]
  simp [Words.any, or_comm]

theorem found_cons :
    m.Found b (c :: w) a ↔ (m.shift ⟨b, some c⟩ c true).Found (some c) w a := by
  have hany : Words.any.behind b c = Words.any := rfl
  simp only [Found, Words.either, passes_shift, resumes_shift, Words.seq_cons_iff, hany]
  simp [Words.any, or_assoc]

/-- **The search tells whether something is found** at the end of some beginning of the text. The
induction is on the text. -/
theorem search_iff {text : List Char} :
    m.search b text = true ↔ ∃ p q, text = p ++ q ∧ m.Found b p (headOr q none) := by
  induction text generalizing m b with
  | nil =>
      have hnow : m.search b [] = true ↔ m.Found b [] none := by
        rw [search, found_nil, Bool.or_eq_true]
      rw [hnow]
      constructor
      · intro hfound
        exact ⟨[], [], rfl, hfound⟩
      · rintro ⟨p, q, hnil, hfound⟩
        obtain ⟨rfl, rfl⟩ := List.append_eq_nil_iff.mp hnil.symm
        exact hfound
  | cons c rest ih =>
      have hnow : (m.skips ⟨b, some c⟩ || m.ends ⟨b, some c⟩) = true ↔ m.Found b [] (some c) := by
        rw [found_nil, Bool.or_eq_true]
      rw [search, Bool.or_eq_true, hnow, ih]
      constructor
      · rintro (hfound | ⟨p, q, rfl, hfound⟩)
        · exact ⟨[], c :: rest, rfl, hfound⟩
        · exact ⟨c :: p, q, rfl, found_cons.mpr hfound⟩
      · rintro ⟨p, q, heq, hfound⟩
        cases p with
        | nil =>
            obtain rfl : c :: rest = q := heq
            exact Or.inl hfound
        | cons d p =>
            obtain ⟨rfl, rfl⟩ := List.cons_eq_cons.mp heq
            exact Or.inr ⟨p, q, rfl, found_cons.mp hfound⟩

/-! ## Copies -/

/-- Copies one after the other accept as many words. -/
theorem passes_pow (m : Marked) (n : Nat) : (m.pow n).Passes = m.Passes.times n := by
  induction n using Nat.strongRecOn with
  | ind n ih =>
      rw [pow]
      split
      · rename_i hzero
        rw [hzero]
        rfl
      split
      · rename_i hone
        rw [hone, Words.times_one]
      · rw [Passes, ih (n / 2) (by omega), ih (n - n / 2) (by omega), ← Words.times_add]
        congr 1
        omega

/-! ## Expressions without marks -/

/-- An expression **without marks** accepts nothing from them. -/
def Unmarked (m : Marked) : Prop := ∀ b w a, ¬ m.Resumes b w a

theorem Unmarked.seq {x y : Marked} (hx : x.Unmarked) (hy : y.Unmarked) :
    (Marked.seq x y).Unmarked := by
  rintro b w a (hright | ⟨u, v, -, hleft, -⟩)
  · exact hy _ _ _ hright
  · exact hx _ _ _ hleft

theorem Unmarked.alt {x y : Marked} (hx : x.Unmarked) (hy : y.Unmarked) :
    (Marked.alt x y).Unmarked := by
  rintro b w a (hleft | hright)
  · exact hx _ _ _ hleft
  · exact hy _ _ _ hright

theorem Unmarked.star {x : Marked} (hx : x.Unmarked) : (Marked.star x).Unmarked := by
  rintro b w a ⟨u, v, -, hround, -⟩
  exact hx _ _ _ hround

theorem unmarked_empty : Marked.empty.Unmarked := fun _ _ _ => id

theorem Unmarked.pow {x : Marked} (hx : x.Unmarked) (n : Nat) : (x.pow n).Unmarked := by
  induction n using Nat.strongRecOn with
  | ind n ih =>
      rw [Marked.pow]
      split
      · exact unmarked_empty
      split
      · exact hx
      · exact (ih (n / 2) (by omega)).seq (ih (n - n / 2) (by omega))

end Marked

/-! ## Expressions -/

namespace Expr

/-- The bounds of every repetition are **in order**. -/
def Ordered : Expr → Prop
  | empty | set _ | assertion _ => True
  | seq x y | alt x y => x.Ordered ∧ y.Ordered
  | rep x least most => (∀ k, most = some k → least ≤ k) ∧ x.Ordered

theorem accepts_seq (x y : Expr) : (seq x y).Accepts = Words.seq x.Accepts y.Accepts := by
  funext b w a
  apply propext
  constructor
  · intro h
    cases h with
    | seq hx hy => exact ⟨_, _, rfl, hx, hy⟩
  · rintro ⟨u, v, rfl, hx, hy⟩
    exact .seq hx hy

theorem accepts_alt (x y : Expr) : (alt x y).Accepts = Words.either x.Accepts y.Accepts := by
  funext b w a
  apply propext
  constructor
  · intro h
    cases h with
    | altLeft hx => exact Or.inl hx
    | altRight hy => exact Or.inr hy
  · rintro (hx | hy)
    · exact .altLeft hx
    · exact .altRight hy

/-- **A repetition** is run through so many times, at least and at most. -/
theorem accepts_rep {x : Expr} {least : Nat} {most : Option Nat} {b a : Option Char}
    {w : List Char} : (rep x least most).Accepts b w a ↔
      ∃ n, least ≤ n ∧ (∀ k, most = some k → n ≤ k) ∧ Words.times x.Accepts n b w a := by
  constructor
  · intro h
    generalize he : rep x least most = e at h
    induction h generalizing least most with
    | repDone =>
        cases he
        exact ⟨0, Nat.le_refl 0, fun _ _ => Nat.zero_le _, rfl⟩
    | @repMore _ _ _ _ u v _ hmost hx _ _ ih =>
        cases he
        obtain ⟨n, hleast, hn, hmore⟩ := ih rfl
        refine ⟨n + 1, by omega, ?_, u, v, rfl, hx, hmore⟩
        rintro k rfl
        have hk : k ≠ 0 := fun hzero => hmost (congrArg some hzero)
        have := hn (k - 1) rfl
        omega
    | _ => cases he
  · rintro ⟨n, hleast, hn, hw⟩
    induction n generalizing least most b w with
    | zero =>
        obtain rfl : least = 0 := Nat.le_zero.mp hleast
        obtain rfl : w = [] := hw
        exact .repDone
    | succ n ih =>
        obtain ⟨u, v, rfl, hx, hmore⟩ := hw
        refine .repMore ?_ hx (ih (by omega) ?_ hmore)
        · intro hzero
          exact absurd (hn 0 hzero) (Nat.not_succ_le_zero n)
        · intro k hk
          obtain ⟨k', rfl, rfl⟩ := Option.map_eq_some_iff.mp hk
          have := hn k' rfl
          omega

/-- There are no marks before the search. -/
theorem unmarked_ofExpr (e : Expr) : (Marked.ofExpr e).Unmarked := by
  induction e with
  | empty => exact Marked.unmarked_empty
  | set s => exact fun _ _ _ h => Bool.false_ne_true h.1
  | assertion s => exact fun _ _ _ => id
  | seq x y ihx ihy => exact ihx.seq ihy
  | alt x y ihx ihy => exact ihx.alt ihy
  | rep x least most ih =>
      have hleast := ih.pow least
      cases most with
      | none =>
          rw [Marked.ofExpr]
          split
          · exact ih.star
          · exact hleast.seq ih.star
      | some most =>
          have hoptional := (ih.alt Marked.unmarked_empty).pow (most - least)
          rw [Marked.ofExpr]
          split
          · exact hleast
          split
          · exact hoptional
          · exact hleast.seq hoptional

/-- A repetition without an upper bound is written out as the copies that must be, and a loop. -/
theorem passes_rep_none (x : Expr) (least : Nat) :
    (Marked.ofExpr (rep x least none)).Passes =
      Words.seq ((Marked.ofExpr x).Passes.times least) (Marked.ofExpr x).Passes.many := by
  rw [Marked.ofExpr]
  split
  · rename_i hzero
    rw [hzero, Words.times, Words.nothing_seq]
    rfl
  · rw [Marked.Passes, Marked.passes_pow]
    rfl

/-- A repetition with one is written out as the copies that must be, and those that may be. -/
theorem passes_rep_some (x : Expr) (least most : Nat) :
    (Marked.ofExpr (rep x least (some most))).Passes =
      Words.seq ((Marked.ofExpr x).Passes.times least)
        (((Marked.ofExpr x).Passes.either .nothing).times (most - least)) := by
  rw [Marked.ofExpr]
  split
  · rename_i hge
    rw [Nat.sub_eq_zero_of_le hge, Words.times, Words.seq_nothing, Marked.passes_pow]
  split
  · rename_i hzero
    rw [hzero, Words.times, Words.nothing_seq, Marked.passes_pow]
    rfl
  · rw [Marked.Passes, Marked.passes_pow, Marked.passes_pow]
    rfl

/-- **A marked expression accepts what the expression does.** -/
theorem passes_ofExpr {e : Expr} (he : e.Ordered) : (Marked.ofExpr e).Passes = e.Accepts := by
  induction e with
  | empty =>
      funext b w a
      apply propext
      constructor
      · rintro rfl
        exact .empty
      · intro h
        cases h with
        | empty => rfl
  | set s =>
      funext b w a
      apply propext
      constructor
      · rintro ⟨c, rfl, hc⟩
        exact .set hc
      · intro h
        cases h with
        | set hc => exact ⟨_, rfl, hc⟩
  | assertion s =>
      funext b w a
      apply propext
      constructor
      · rintro ⟨rfl, hs⟩
        exact .assertion hs
      · intro h
        cases h with
        | assertion hs => exact ⟨rfl, hs⟩
  | seq x y ihx ihy => rw [Marked.ofExpr, Marked.Passes, ihx he.1, ihy he.2, accepts_seq]
  | alt x y ihx ihy => rw [Marked.ofExpr, Marked.Passes, ihx he.1, ihy he.2, accepts_alt]
  | rep x least most ih =>
      obtain ⟨hbounds, hx⟩ := he
      funext b w a
      apply propext
      rw [accepts_rep]
      cases most with
      | none =>
          rw [passes_rep_none, ih hx, Words.times_seq_many]
          simp
      | some most =>
          have hle : least ≤ most := hbounds most rfl
          rw [passes_rep_some, ih hx, Words.times_seq_times_either, Nat.add_sub_cancel' hle]
          simp

/-- **The search finds an expression exactly in the texts with a part that it accepts**, between the
characters that stand around that part. -/
theorem occursIn_iff {e : Expr} (he : e.Ordered) {text : List Char} :
    e.occursIn text = true ↔
      ∃ before word after, text = before ++ word ++ after ∧
        e.Accepts (lastOr none before) word (headOr after none) := by
  rw [occursIn, Marked.search_iff]
  constructor
  · rintro ⟨p, after, rfl, hmark | ⟨before, word, rfl, -, hword⟩⟩
    · exact absurd hmark (e.unmarked_ofExpr _ _ _)
    · rw [passes_ofExpr he] at hword
      exact ⟨before, word, after, rfl, hword⟩
  · rintro ⟨before, word, after, rfl, hword⟩
    rw [← passes_ofExpr he] at hword
    exact ⟨before ++ word, after, rfl, Or.inr ⟨before, word, rfl, trivial, hword⟩⟩

end Expr

end ChildWatch.Regex
