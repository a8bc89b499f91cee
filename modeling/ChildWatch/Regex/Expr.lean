import ChildWatch.Regex.CharClass

/-! # Regular expressions

Expressions over classes of characters with assertions about the place between two characters.

* `Gap`, `Assertion.holds` — a place in a text and what can be asked of it.
* `Expr` — the expressions.
* `Expr.Accepts` — the words an expression accepts between two neighbouring characters.
* `Expr.weight` — about how large the expression is once its repetitions are written out. -/

namespace ChildWatch.Regex

/-- A place in a text: the character before it and the one after it. -/
structure Gap where
  before : Option Char
  after : Option Char
deriving DecidableEq, Repr

/-- Which characters make up words. -/
inductive WordRule where
  | all
  | ascii
deriving DecidableEq, Repr

/-- Whether a neighbour is a character of a word; the end of the text is none. -/
def WordRule.isWord (rule : WordRule) : Option Char → Bool
  | none => false
  | some c =>
    match rule with
    | .all => CharClass.word.has c
    | .ascii => CharClass.asciiWord.has c

/-- What can be asserted of a place. -/
inductive Assertion where
  | textStart
  | textEnd
  | lineStart
  | lineEnd
  | lineStartCrlf
  | lineEndCrlf
  | wordBoundary (rule : WordRule)
  | notWordBoundary (rule : WordRule)
  | wordStart (rule : WordRule)
  | wordEnd (rule : WordRule)
  | wordStartHalf (rule : WordRule)
  | wordEndHalf (rule : WordRule)
deriving DecidableEq, Repr

/-- **Whether an assertion holds** at a place. A carriage return and the line feed after it make one
line end when both count as line ends. -/
def Assertion.holds (g : Gap) : Assertion → Bool
  | textStart => g.before.isNone
  | textEnd => g.after.isNone
  | lineStart => g.before.isNone || g.before == some '\n'
  | lineEnd => g.after.isNone || g.after == some '\n'
  | lineStartCrlf =>
    g.before.isNone || g.before == some '\n' ||
      (g.before == some '\r' && g.after != some '\n')
  | lineEndCrlf =>
    g.after.isNone || g.after == some '\r' ||
      (g.after == some '\n' && g.before != some '\r')
  | wordBoundary rule => rule.isWord g.before != rule.isWord g.after
  | notWordBoundary rule => rule.isWord g.before == rule.isWord g.after
  | wordStart rule => !rule.isWord g.before && rule.isWord g.after
  | wordEnd rule => rule.isWord g.before && !rule.isWord g.after
  | wordStartHalf rule => !rule.isWord g.before
  | wordEndHalf rule => !rule.isWord g.after

/-- A regular expression. `rep e least most` is `e` at least `least` times and at most `most`
times. -/
inductive Expr where
  | empty
  | set (c : CharClass)
  | assertion (a : Assertion)
  | seq (a b : Expr)
  | alt (a b : Expr)
  | rep (e : Expr) (least : Nat) (most : Option Nat)

namespace Expr

/-- The character before a place that a word leads up to. -/
def lastOr (before : Option Char) (word : List Char) : Option Char := word.getLast?.or before

/-- The character after a place from which a word goes on. -/
def headOr (word : List Char) (after : Option Char) : Option Char := word.head?.or after

/-- **Acceptance**: `Accepts e before word after` says that `e` accepts `word` where it stands
between the characters `before` and `after`. -/
inductive Accepts : Expr → Option Char → List Char → Option Char → Prop where
  | empty {b a} : Accepts .empty b [] a
  | set {cls b c a} : cls.has c = true → Accepts (.set cls) b [c] a
  | assertion {s b a} : s.holds ⟨b, a⟩ = true → Accepts (.assertion s) b [] a
  | seq {e f b u v a} : Accepts e b u (headOr v a) → Accepts f (lastOr b u) v a →
      Accepts (.seq e f) b (u ++ v) a
  | altLeft {e f b w a} : Accepts e b w a → Accepts (.alt e f) b w a
  | altRight {e f b w a} : Accepts f b w a → Accepts (.alt e f) b w a
  | repDone {e most b a} : Accepts (.rep e 0 most) b [] a
  | repMore {e least most b u v a} : most ≠ some 0 → Accepts e b u (headOr v a) →
      Accepts (.rep e (least - 1) (most.map (· - 1))) (lastOr b u) v a →
      Accepts (.rep e least most) b (u ++ v) a

/-- The expression of one character. -/
def char (c : Char) : Expr := set (.single c)

/-- Expressions one after the other. -/
def seqOf : List Expr → Expr
  | [] => empty
  | [e] => e
  | e :: rest => seq e (seqOf rest)

/-- A choice between expressions. -/
def altOf : List Expr → Expr
  | [] => empty
  | [e] => e
  | e :: rest => alt e (altOf rest)

/-- About how many bytes the expression takes in a compiled pattern. Every place a branch can start
from counts, and each copy that a repetition stands for. -/
def weight : Expr → Nat
  | empty => 32
  | set c => c.weight
  | assertion _ => 32
  | seq a b => a.weight + b.weight
  | alt a b => a.weight + b.weight + 40
  | rep e least none => (max least 1) * e.weight + 40
  | rep e least (some most) => least * e.weight + (most - least) * (e.weight + 40) + 32

end Expr

end ChildWatch.Regex
