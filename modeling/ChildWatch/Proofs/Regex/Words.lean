import ChildWatch.Regex.Expr

/-! # Words between neighbours

Whether a word is accepted may depend on the characters before and after it, since assertions look at
them. So words are put together with their neighbours.

* `Words` — sets of words between neighbours.
* `Words.seq`, `Words.times`, `Words.many` — words one after the other; `seq_assoc`, `times_add` — how
  they are grouped does not matter.
* `Words.seq_cons_iff`, `Words.many_cons_iff` — which of them the first character belongs to. -/

namespace ChildWatch.Regex

open ChildWatch.Regex.Expr

/-! ## Neighbours -/

/-- A character that is followed by others is not the last. -/
@[simp] theorem lastOr_cons (b : Option Char) (c : Char) (w : List Char) :
    lastOr b (c :: w) = lastOr (some c) w := by
  rw [lastOr, lastOr, List.getLast?_cons]
  cases w.getLast? <;> rfl

theorem headOr_append (u v : List Char) (a : Option Char) :
    headOr (u ++ v) a = headOr u (headOr v a) := by
  rw [headOr, headOr, headOr, List.head?_append, Option.or_assoc]

theorem lastOr_append (b : Option Char) (u v : List Char) :
    lastOr b (u ++ v) = lastOr (lastOr b u) v := by
  rw [lastOr, lastOr, lastOr, List.getLast?_append, Option.or_assoc]

/-! ## Sets of words between neighbours -/

/-- A set of **words between neighbours**: the character before, the word, and the character after. -/
abbrev Words := Option Char → List Char → Option Char → Prop

namespace Words

/-- The empty word. -/
def nothing : Words := fun _ w _ => w = []

/-- Any word. -/
def any : Words := fun _ _ _ => True

/-- The words of either of two sets. -/
def either (P Q : Words) : Words := fun b w a => P b w a ∨ Q b w a

/-- A word of one set and then a word of another; each is the neighbour of the other. -/
def seq (P Q : Words) : Words := fun b w a =>
  ∃ u v, w = u ++ v ∧ P b u (headOr v a) ∧ Q (lastOr b u) v a

/-- So many words of a set, one after the other. -/
def times (P : Words) : Nat → Words
  | 0 => nothing
  | n + 1 => P.seq (P.times n)

/-- Any number of words of a set. -/
def many (P : Words) : Words := fun b w a => ∃ n, P.times n b w a

/-- What is left of the words that begin with a character, once that has been taken. -/
def behind (P : Words) (b : Option Char) (c : Char) : Words := fun _ w a => P b (c :: w) a

variable {P Q R : Words} {b a : Option Char} {c : Char} {w : List Char}

theorem seq_assoc (P Q R : Words) : (P.seq Q).seq R = P.seq (Q.seq R) := by
  funext b w a
  apply propext
  constructor
  · rintro ⟨_, t, rfl, ⟨u, v, rfl, hP, hQ⟩, hR⟩
    rw [← headOr_append] at hP
    rw [lastOr_append] at hR
    exact ⟨u, v ++ t, List.append_assoc u v t, hP, v, t, rfl, hQ, hR⟩
  · rintro ⟨u, _, rfl, hP, v, t, rfl, hQ, hR⟩
    rw [headOr_append] at hP
    rw [← lastOr_append] at hR
    exact ⟨u ++ v, t, (List.append_assoc u v t).symm, ⟨u, v, rfl, hP, hQ⟩, hR⟩

@[simp] theorem nothing_seq (P : Words) : nothing.seq P = P := by
  funext b w a
  apply propext
  constructor
  · rintro ⟨_, v, rfl, rfl, hP⟩
    exact hP
  · intro hP
    exact ⟨[], w, rfl, rfl, hP⟩

@[simp] theorem seq_nothing (P : Words) : P.seq nothing = P := by
  funext b w a
  apply propext
  constructor
  · rintro ⟨u, _, rfl, hP, rfl⟩
    rw [List.append_nil]
    exact hP
  · intro hP
    exact ⟨w, [], (List.append_nil w).symm, hP, rfl⟩

@[simp] theorem times_one (P : Words) : P.times 1 = P := seq_nothing P

theorem times_add (P : Words) (m n : Nat) : P.times (m + n) = (P.times m).seq (P.times n) := by
  induction m with
  | zero => rw [Nat.zero_add, times, nothing_seq]
  | succ m ih => rw [Nat.succ_add, times, ih, times, seq_assoc]

/-- Words that may be left out: as many of them as are not. -/
theorem times_either_nothing {k : Nat} :
    (P.either nothing).times k b w a ↔ ∃ j ≤ k, P.times j b w a := by
  induction k generalizing b w with
  | zero => simp [times]
  | succ k ih =>
      constructor
      · rintro ⟨u, v, rfl, hP | rfl, hmore⟩
        · obtain ⟨j, hj, hmore⟩ := ih.mp hmore
          exact ⟨j + 1, Nat.succ_le_succ hj, u, v, rfl, hP, hmore⟩
        · obtain ⟨j, hj, hmore⟩ := ih.mp hmore
          exact ⟨j, Nat.le_succ_of_le hj, hmore⟩
      · rintro ⟨j, hj, hw⟩
        cases j with
        | zero => exact ⟨[], w, rfl, Or.inr rfl, ih.mpr ⟨0, Nat.zero_le k, hw⟩⟩
        | succ j =>
            obtain ⟨u, v, rfl, hP, hmore⟩ := hw
            exact ⟨u, v, rfl, Or.inl hP, ih.mpr ⟨j, Nat.le_of_succ_le_succ hj, hmore⟩⟩

/-- So many words and then any number: at least so many. -/
theorem times_seq_many {k : Nat} :
    (P.times k).seq P.many b w a ↔ ∃ n, k ≤ n ∧ P.times n b w a := by
  constructor
  · rintro ⟨u, v, rfl, hu, n, hv⟩
    refine ⟨k + n, Nat.le_add_right k n, ?_⟩
    rw [times_add]
    exact ⟨u, v, rfl, hu, hv⟩
  · rintro ⟨n, hk, hw⟩
    obtain ⟨j, rfl⟩ := Nat.exists_eq_add_of_le hk
    rw [times_add] at hw
    obtain ⟨u, v, rfl, hu, hv⟩ := hw
    exact ⟨u, v, rfl, hu, j, hv⟩

/-- So many words and then some that may be left out: at least so many, and not more than all. -/
theorem times_seq_times_either {k j : Nat} :
    (P.times k).seq ((P.either nothing).times j) b w a ↔
      ∃ n, k ≤ n ∧ n ≤ k + j ∧ P.times n b w a := by
  constructor
  · rintro ⟨u, v, rfl, hu, hv⟩
    obtain ⟨i, hi, hv⟩ := times_either_nothing.mp hv
    refine ⟨k + i, Nat.le_add_right k i, Nat.add_le_add_left hi k, ?_⟩
    rw [times_add]
    exact ⟨u, v, rfl, hu, hv⟩
  · rintro ⟨n, hk, hn, hw⟩
    obtain ⟨i, rfl⟩ := Nat.exists_eq_add_of_le hk
    rw [times_add] at hw
    obtain ⟨u, v, rfl, hu, hv⟩ := hw
    exact ⟨u, v, rfl, hu, times_either_nothing.mpr ⟨i, Nat.le_of_add_le_add_left hn, hv⟩⟩

theorem many_nil : P.many b [] a := ⟨0, rfl⟩

/-- The empty word is put together from empty words only. -/
theorem seq_nil_iff : P.seq Q b [] a ↔ P b [] a ∧ Q b [] a := by
  constructor
  · rintro ⟨u, v, hnil, hP, hQ⟩
    obtain ⟨rfl, rfl⟩ := List.append_eq_nil_iff.mp hnil.symm
    exact ⟨hP, hQ⟩
  · rintro ⟨hP, hQ⟩
    exact ⟨[], [], rfl, hP, hQ⟩

/-- **The first character** of two words is that of the second if the first word is empty. -/
theorem seq_cons_iff : P.seq Q b (c :: w) a ↔
    (P b [] (some c) ∧ Q b (c :: w) a) ∨ (P.behind b c).seq Q (some c) w a := by
  constructor
  · rintro ⟨u, v, heq, hP, hQ⟩
    cases u with
    | nil =>
        obtain rfl : c :: w = v := heq
        exact Or.inl ⟨hP, hQ⟩
    | cons d u =>
        obtain ⟨rfl, rfl⟩ := List.cons_eq_cons.mp heq
        rw [lastOr_cons] at hQ
        exact Or.inr ⟨u, v, rfl, hP, hQ⟩
  · rintro (⟨hP, hQ⟩ | ⟨u, v, rfl, hP, hQ⟩)
    · exact ⟨[], c :: w, rfl, hP, hQ⟩
    · rw [← lastOr_cons b c u] at hQ
      exact ⟨c :: u, v, rfl, hP, hQ⟩

/-- The first character of many words is that of the first word that is not empty; the empty ones
before it change nothing. -/
theorem many_cons_iff : P.many b (c :: w) a ↔ (P.behind b c).seq P.many (some c) w a := by
  constructor
  · rintro ⟨n, hn⟩
    induction n with
    | zero => cases hn
    | succ n ih =>
        rcases seq_cons_iff.mp hn with ⟨-, hmore⟩ | ⟨u, v, rfl, hP, hmore⟩
        · exact ih hmore
        · exact ⟨u, v, rfl, hP, n, hmore⟩
  · rintro ⟨u, v, rfl, hP, n, hmore⟩
    exact ⟨n + 1, seq_cons_iff.mpr (Or.inr ⟨u, v, rfl, hP, hmore⟩)⟩

/-- Words that go on with those of two sets behind a character do so before any other words. -/
theorem seq_behind_iff {S : Words} {enter : Prop}
    (hS : ∀ u a, S (some c) u a ↔ P b (c :: u) a ∨ (enter ∧ R b (c :: u) a)) :
    S.seq Q (some c) w a ↔
      (P.behind b c).seq Q (some c) w a ∨ (enter ∧ (R.behind b c).seq Q (some c) w a) := by
  constructor
  · rintro ⟨u, v, rfl, hu, hQ⟩
    rcases (hS u _).mp hu with hP | ⟨henter, hR⟩
    · exact Or.inl ⟨u, v, rfl, hP, hQ⟩
    · exact Or.inr ⟨henter, u, v, rfl, hR, hQ⟩
  · rintro (⟨u, v, rfl, hP, hQ⟩ | ⟨henter, u, v, rfl, hR, hQ⟩)
    · exact ⟨u, v, rfl, (hS u _).mpr (Or.inl hP), hQ⟩
    · exact ⟨u, v, rfl, (hS u _).mpr (Or.inr ⟨henter, hR⟩), hQ⟩

end Words

end ChildWatch.Regex
