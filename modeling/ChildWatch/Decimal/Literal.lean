/-! # Decimal literals

The text of a number as people type it: an optional sign, then digits with at most one point and an
optional power of ten, or one of the words for infinity and for "not a number".

* `Literal.parse` — reads one literal, the whole text; both ways to fail are told apart.
* `Literal.Magnitude` — what stands after the sign. -/

namespace ChildWatch.Decimal

/-- The unsigned part of a literal. `decimal digits exponent` stands for `digits · 10 ^ exponent`. -/
inductive Magnitude where
  | decimal (digits : Nat) (exponent : Int)
  | infinite
  | notANumber
deriving DecidableEq, Repr

/-- A literal: its sign and its unsigned part. -/
structure Literal where
  negative : Bool
  magnitude : Magnitude
deriving DecidableEq, Repr

/-- Why a text is not a literal. -/
inductive LiteralError where
  | empty
  | malformed
deriving DecidableEq, Repr

/-- The fixed wording of each cause. -/
def LiteralError.message : LiteralError → String
  | .empty => "cannot parse float from empty string"
  | .malformed => "invalid float literal"

namespace Literal

/-- The value of an ASCII digit. -/
def digitValue (c : Char) : Nat := c.toNat - '0'.toNat

/-- The number written by ASCII digits, continuing from `acc`. -/
def digitsValue (acc : Nat) (cs : List Char) : Nat :=
  cs.foldl (fun n c => 10 * n + digitValue c) acc

/-- A sign, if the text starts with one, and the rest. -/
def takeSign : List Char → Bool × List Char
  | '-' :: rest => (true, rest)
  | '+' :: rest => (false, rest)
  | rest => (false, rest)

/-- The exponent's digits are taken in only while it is below `2 ^ 16`: beyond that every value is
zero or out of range anyway. -/
def exponentValue (cs : List Char) : Nat :=
  cs.foldl (fun n c => if n < 65536 then 10 * n + digitValue c else n) 0

/-- The power of ten after the digits: nothing, or `e` or `E`, a sign and at least one digit. -/
def parseExponent : List Char → Option Int
  | [] => some 0
  | e :: rest =>
    if e = 'e' ∨ e = 'E' then
      let (negative, digits) := takeSign rest
      if digits.isEmpty ∨ !digits.all Char.isDigit then none
      else
        let n : Int := exponentValue digits
        some (if negative then -n else n)
    else none

/-- Digits with at most one point among or beside them, at least one digit in all, then the power
of ten. -/
def parseDecimal (cs : List Char) : Option Magnitude :=
  let whole := cs.takeWhile Char.isDigit
  let rest := cs.dropWhile Char.isDigit
  let (places, rest) := match rest with
    | '.' :: more => (more.takeWhile Char.isDigit, more.dropWhile Char.isDigit)
    | _ => ([], rest)
  if whole.isEmpty && places.isEmpty then none
  else
    (parseExponent rest).map fun e =>
      .decimal (digitsValue 0 (whole ++ places)) (e - places.length)

/-- The words, in any mix of upper and lower case. -/
def parseWord (cs : List Char) : Option Magnitude :=
  let word := String.ofList (cs.map Char.toLower)
  if word = "inf" ∨ word = "infinity" then some .infinite
  else if word = "nan" then some .notANumber
  else none

/-- **Reading a literal**: the whole text must be one. -/
def parse (text : String) : Except LiteralError Literal :=
  let cs := text.toList
  if cs.isEmpty then .error .empty
  else
    let (negative, rest) := takeSign cs
    match parseDecimal rest <|> parseWord rest with
    | some m => .ok ⟨negative, m⟩
    | none => .error .malformed

end Literal

end ChildWatch.Decimal
