import ChildWatch.Regex.Expr

/-! # Search in a text

An expression is run over a text by marking: the marked sets of an expression are those that have
just taken a character. Each character moves the marks on, so a search takes time in proportion to
the length of the text, however the expression is written.

* `Marked` — an expression with repetitions written out and a mark at each set.
* `Marked.skips`, `Marked.ends`, `Marked.shift` — passing over it, being at its end, and taking a
  character.
* `Expr.occursIn` — whether the expression accepts some part of a text. -/

namespace ChildWatch.Regex

/-- An expression whose sets carry marks. -/
inductive Marked where
  | empty
  | set (c : CharClass) (mark : Bool)
  | assertion (a : Assertion)
  | seq (a b : Marked)
  | alt (a b : Marked)
  | star (a : Marked)

namespace Marked

/-- `n` copies one after the other, as a tree of little height. -/
def pow (m : Marked) (n : Nat) : Marked :=
  if n = 0 then empty
  else if n = 1 then m
  else seq (pow m (n / 2)) (pow m (n - n / 2))
termination_by n
decreasing_by all_goals omega

/-- The unmarked expression, with its repetitions written out. -/
def ofExpr : Expr → Marked
  | .empty => empty
  | .set c => set c false
  | .assertion a => assertion a
  | .seq a b => seq (ofExpr a) (ofExpr b)
  | .alt a b => alt (ofExpr a) (ofExpr b)
  | .rep e least none =>
    if least = 0 then star (ofExpr e) else seq (pow (ofExpr e) least) (star (ofExpr e))
  | .rep e least (some most) =>
    if most ≤ least then pow (ofExpr e) least
    else
      let optional := pow (alt (ofExpr e) empty) (most - least)
      if least = 0 then optional else seq (pow (ofExpr e) least) optional

/-- Whether the expression can be passed over at a place without taking a character. -/
def skips (g : Gap) : Marked → Bool
  | empty => true
  | set _ _ => false
  | assertion a => a.holds g
  | seq a b => a.skips g && b.skips g
  | alt a b => a.skips g || b.skips g
  | star _ => true

/-- Whether a mark lies where the expression may end at a place. -/
def ends (g : Gap) : Marked → Bool
  | empty => false
  | set _ mark => mark
  | assertion _ => false
  | seq a b => b.ends g || (b.skips g && a.ends g)
  | alt a b => a.ends g || b.ends g
  | star a => a.ends g

/-- The marks after taking the character `c` at a place; with `enter` the expression may also be
entered there. -/
def shift (g : Gap) (c : Char) (enter : Bool) : Marked → Marked
  | empty => empty
  | set s _ => set s (enter && s.has c)
  | assertion a => assertion a
  | seq a b => seq (a.shift g c enter) (b.shift g c (a.ends g || (enter && a.skips g)))
  | alt a b => alt (a.shift g c enter) (b.shift g c enter)
  | star a => star (a.shift g c (enter || a.ends g))

/-- Whether the expression has been passed, or can be passed over, at some place from here on. -/
def search (m : Marked) (before : Option Char) : List Char → Bool
  | [] => let g : Gap := ⟨before, none⟩; m.skips g || m.ends g
  | c :: rest =>
    let g : Gap := ⟨before, some c⟩
    m.skips g || m.ends g || (m.shift g c true).search (some c) rest

end Marked

/-- **Whether the expression accepts some part of a text.** -/
def Expr.occursIn (e : Expr) (text : List Char) : Bool := (Marked.ofExpr e).search none text

end ChildWatch.Regex
