import ChildWatch.Decimal.Literal
import ChildWatch.Toml.Reader.Text

/-! # Numbers, dates and words

A value that is no string, table or array is a run of letters, digits and signs. What it is follows
from its form.

* `Scalar.ofWord` — the value of such a run.
* `readWord` — the next one of a text. -/

namespace ChildWatch.Toml

open Decimal

/-- Digits with single low lines between them, without the low lines. -/
def plainDigits? (isDigit : Char → Bool) : List Char → Option (List Char)
  | [] => none
  | [d] => if isDigit d then some [d] else none
  | d :: '_' :: rest =>
    if isDigit d then (plainDigits? isDigit rest).map (d :: ·) else none
  | d :: rest => if isDigit d then (plainDigits? isDigit rest).map (d :: ·) else none

/-- The number of digits of a base. -/
def digitsValue (base : Nat) (digits : List Char) : Nat :=
  digits.foldl (fun n d => base * n + (Reader.hexValue? d).getD 0) 0

/-- A decimal number without a sign: no low line at its ends, no zero before other digits. -/
def wholeDigits? (cs : List Char) : Option (List Char) :=
  match cs with
  | '0' :: _ :: _ => none
  | cs => plainDigits? Char.isDigit cs

/-- An integer: decimal with or without a sign, or in base 16, 8 or 2 without. -/
def integer? (cs : List Char) : Option Int :=
  match cs with
  | '0' :: 'x' :: digits =>
    (plainDigits? (fun c => (Reader.hexValue? c).isSome) digits).map (digitsValue 16 ·)
  | '0' :: 'o' :: digits =>
    (plainDigits? (fun c => '0' ≤ c && c ≤ '7') digits).map (digitsValue 8 ·)
  | '0' :: 'b' :: digits =>
    (plainDigits? (fun c => c == '0' || c == '1') digits).map (digitsValue 2 ·)
  | '-' :: digits => (wholeDigits? digits).map fun ds => -(digitsValue 10 ds : Int)
  | '+' :: digits => (wholeDigits? digits).map (digitsValue 10 ·)
  | digits => (wholeDigits? digits).map (digitsValue 10 ·)

/-- A sign, if there is one, and the rest. -/
def takeSign : List Char → List Char × List Char
  | '-' :: rest => (['-'], rest)
  | '+' :: rest => ([], rest)
  | rest => ([], rest)

/-- The power of ten of a number, from its letter on. -/
def power? : List Char → Option (List Char)
  | [] => some []
  | e :: rest =>
    if e = 'e' ∨ e = 'E' then
      let (sign, digits) := takeSign rest
      (plainDigits? Char.isDigit digits).map fun ds => 'e' :: (sign ++ ds)
    else none

/-- A number with a point or a power of ten, as a plain decimal literal. -/
def floatText? (cs : List Char) : Option (List Char) :=
  let (sign, body) := takeSign cs
  let whole := body.takeWhile fun c => c.isDigit || c == '_'
  let rest := body.dropWhile fun c => c.isDigit || c == '_'
  match wholeDigits? whole with
  | none => none
  | some whole =>
    match rest with
    | [] => none
    | '.' :: rest =>
      let places := rest.takeWhile fun c => c.isDigit || c == '_'
      match plainDigits? Char.isDigit places with
      | none => none
      | some places =>
        (power? (rest.dropWhile fun c => c.isDigit || c == '_')).map fun p =>
          sign ++ whole ++ '.' :: places ++ p
    | rest => (power? rest).map fun p => sign ++ whole ++ p

/-- The value of a decimal literal, if it is not too large. -/
def floatValue? (text : List Char) : Option FloatValue :=
  match Literal.parse (String.ofList text) with
  | .ok ⟨negative, .decimal digits exponent⟩ =>
    let (num, den) := ratioOfPower digits 10 exponent
    (Binary.round? num den).map (.finite negative)
  | _ => none

/-- The words for what is no finite number. -/
def floatWord? (word : String) : Option FloatValue :=
  match word with
  | "inf" | "+inf" => some (.infinite false)
  | "-inf" => some (.infinite true)
  | "nan" | "+nan" | "-nan" => some .notANumber
  | _ => none

/-! ## Dates and times -/

/-- A number of exactly so many digits, and the rest. -/
def fixedDigits? (count : Nat) (cs : List Char) : Option (Nat × List Char) :=
  let digits := cs.take count
  if digits.length = count ∧ digits.all Char.isDigit then
    some (digitsValue 10 digits, cs.drop count)
  else none

/-- The rest after a character that must come next. -/
def expect? (k : Char) : List Char → Option (List Char)
  | c :: rest => if c = k then some rest else none
  | [] => none

/-- How many days a month has. -/
def daysIn (year month : Nat) : Nat :=
  if month = 2 then
    if year % 4 = 0 ∧ (year % 100 ≠ 0 ∨ year % 400 = 0) then 29 else 28
  else if month = 4 ∨ month = 6 ∨ month = 9 ∨ month = 11 then 30
  else 31

/-- A date, and the rest. -/
def date? (cs : List Char) : Option (List Char) := do
  let (year, cs) ← fixedDigits? 4 cs
  let (month, cs) ← fixedDigits? 2 (← expect? '-' cs)
  let (day, cs) ← fixedDigits? 2 (← expect? '-' cs)
  guard (1 ≤ month ∧ month ≤ 12 ∧ 1 ≤ day ∧ day ≤ daysIn year month)
  return cs

/-- The part of a second after its point, and the rest. -/
def fraction? : List Char → Option (List Char)
  | '.' :: cs =>
    if (cs.takeWhile Char.isDigit).isEmpty then none else some (cs.dropWhile Char.isDigit)
  | cs => some cs

/-- The seconds of a time, which may be missing, and the rest. -/
def seconds? : List Char → Option (List Char)
  | ':' :: cs => do
    let (second, cs) ← fixedDigits? 2 cs
    guard (second ≤ 60)
    fraction? cs
  | cs => some cs

/-- A time of day, and the rest. -/
def time? (cs : List Char) : Option (List Char) := do
  let (hour, cs) ← fixedDigits? 2 cs
  let (minute, cs) ← fixedDigits? 2 (← expect? ':' cs)
  guard (hour ≤ 23 ∧ minute ≤ 59)
  seconds? cs

/-- Whether a text is the offset of a time zone, or nothing. -/
def isOffset : List Char → Bool
  | [] => true
  | ['Z'] => true
  | ['z'] => true
  | sign :: cs =>
    (sign == '+' || sign == '-') &&
      (do
        let (hour, cs) ← fixedDigits? 2 cs
        let (minute, cs) ← fixedDigits? 2 (← expect? ':' cs)
        guard (hour ≤ 23 ∧ minute ≤ 59 ∧ cs = [])).isSome

/-- Whether a text is a date, a time, or both with an offset or without. -/
def isDatetime (cs : List Char) : Bool :=
  match date? cs with
  | some [] => true
  | some (k :: rest) =>
    (k == 'T' || k == 't' || k == ' ') &&
      (match time? rest with
        | some rest => isOffset rest
        | none => false)
  | none => time? cs == some []

/-! ## Words -/

namespace Scalar

/-- The largest integer of a document, `2 ^ 128 - 1`. -/
def maxInteger : Int := 340282366920938463463374607431768211455

/-- The least integer of a document, `-(2 ^ 127)`. -/
def minInteger : Int := -170141183460469231731687303715884105728

/-- **The value of a word.** -/
def ofWord (cs : List Char) : Except Cause Scalar :=
  let word := String.ofList cs
  if word = "true" then .ok (.boolean true)
  else if word = "false" then .ok (.boolean false)
  else
    match integer? cs with
    | some n =>
      if n ≤ maxInteger ∧ minInteger ≤ n then .ok (.integer n)
      else .error .numberTooLarge
    | none =>
      match floatWord? word with
      | some x => .ok (.float x)
      | none =>
        match floatText? cs with
        | some text =>
          match floatValue? text with
          | some x => .ok (.float x)
          | none => .error .numberTooLarge
        | none => if isDatetime cs then .ok .datetime else .error .badNumber

/-- Whether a scalar is an integer beyond 64 bits with a sign. -/
def isWide : Scalar → Bool
  | .integer n => n < -9223372036854775808 || 9223372036854775808 ≤ n
  | _ => false

end Scalar

namespace Reader

/-- The characters of words. -/
def isWordChar (c : Char) : Bool :=
  c.isAlphanum || c == '_' || c == '+' || c == '-' || c == '.' || c == ':'

/-- A blank between a date and a time belongs to the word. -/
def joinsTime (word rest : List Char) : Bool :=
  date? word == some [] &&
    (match rest with
      | ' ' :: a :: b :: ':' :: _ => a.isDigit && b.isDigit
      | _ => false)

/-- **The next word** and its value. -/
def readWord (c : Cursor) : Result Scalar :=
  let (word, next) := c.takeWhile isWordChar
  let (word, next) :=
    if joinsTime word next.rest then
      let (time, next) := (next.drop 1).takeWhile isWordChar
      (word ++ ' ' :: time, next)
    else (word, next)
  if word.isEmpty then fail c .missingValue
  else
    match Scalar.ofWord word with
    | .ok s => .ok (s, { next with wide := next.wide || s.isWide })
    | .error cause => .error ⟨⟨c.pos, next.pos⟩, cause⟩

end Reader

end ChildWatch.Toml
