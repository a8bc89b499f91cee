/-! # Arithmetic of a shell script

Expressions over whole numbers of 64 bits, which wrap around.

* `Arithmetic.evaluate` — the value of an expression, and the variables after it. -/

namespace ChildWatch.Shell

/-- The values of variables, latest first. -/
abbrev Variables := List (String × String)

/-- The value of a variable. -/
def Variables.get? (vs : Variables) (name : String) : Option String :=
  (vs.find? (·.1 == name)).map (·.2)

/-- The variables with another value for one. -/
def Variables.set (vs : Variables) (name value : String) : Variables :=
  if vs.any (·.1 == name) then vs.map fun v => if v.1 == name then (name, value) else v
  else vs ++ [(name, value)]

/-- The variables without one. -/
def Variables.unset (vs : Variables) (name : String) : Variables := vs.filter (·.1 != name)

namespace Arithmetic

/-- A number brought into the range of 64 bits with a sign, by multiples of `2 ^ 64`. -/
def wrap (n : Int) : Int := n.bmod 18446744073709551616

/-- The digits of a number in a base, or none if a character is no digit of it. -/
def digits? (base : Nat) (cs : List Char) : Option Int :=
  if cs.isEmpty then none
  else cs.foldl (fun n c => do
    let n ← n
    let d := if c.isDigit then c.toNat - 48 else c.toLower.toNat - 87
    if c.isAlphanum && d < base then some (n * base + (d : Int)) else none) (some 0)

/-- A number as it is written: decimal, octal after a zero, hexadecimal after a zero and an x. -/
def number? (cs : List Char) : Option Int :=
  match cs with
  | '0' :: 'x' :: rest | '0' :: 'X' :: rest => digits? 16 rest
  | '0' :: c :: rest => digits? 8 (c :: rest)
  | cs => digits? 10 cs

/-- The number at the start of a text: as many characters as are digits of its base. -/
def numberStart (cs : List Char) : List Char :=
  match cs with
  | '0' :: x :: rest =>
    if x = 'x' || x = 'X' then
      '0' :: x :: rest.takeWhile fun c => (digits? 16 [c]).isSome
    else '0' :: (x :: rest).takeWhile fun c => (digits? 8 [c]).isSome
  | cs => cs.takeWhile Char.isDigit

/-- A number with a sign before it, and blanks around it. -/
def signed? (s : String) : Option Int :=
  let cs := s.toList.filter fun c => !c.isWhitespace
  match cs with
  | '-' :: rest => (number? rest).map (- ·)
  | '+' :: rest => number? rest
  | cs => number? cs

/-- The operators between two operands, by how loosely they bind; longer spellings come first. -/
def levels : List (List String) :=
  [["||"], ["&&"], ["|"], ["^"], ["&"], ["==", "!="], ["<=", ">=", "<", ">"], ["<<", ">>"],
    ["+", "-"], ["*", "/", "%"]]

/-- One for what holds, and zero for what does not. -/
def truth (b : Bool) : Int := if b then 1 else 0

/-- The value of two operands; division by zero has none. -/
def apply (op : String) (a b : Int) : Option Int :=
  match op with
  | "||" => some (truth (a ≠ 0 || b ≠ 0))
  | "&&" => some (truth (a ≠ 0 && b ≠ 0))
  | "|" => some (Int64.ofInt a ||| Int64.ofInt b).toInt
  | "^" => some (Int64.ofInt a ^^^ Int64.ofInt b).toInt
  | "&" => some (Int64.ofInt a &&& Int64.ofInt b).toInt
  | "==" => some (truth (a = b))
  | "!=" => some (truth (a ≠ b))
  | "<=" => some (truth (a ≤ b))
  | ">=" => some (truth (b ≤ a))
  | "<" => some (truth (a < b))
  | ">" => some (truth (b < a))
  | "<<" => some (Int64.ofInt a <<< Int64.ofInt b).toInt
  | ">>" => some (Int64.ofInt a >>> Int64.ofInt b).toInt
  | "+" => some (wrap (a + b))
  | "-" => some (wrap (a - b))
  | "*" => some (wrap (a * b))
  | "/" => if b = 0 then none else some (wrap (a.tdiv b))
  | "%" => if b = 0 then none else some (wrap (a.tmod b))
  | _ => none

/-- The text after blanks. -/
def skip (cs : List Char) : List Char := cs.dropWhile Char.isWhitespace

/-- What follows a spelling at the start of a text. -/
def after? (spelling : String) (cs : List Char) : Option (List Char) :=
  if spelling.toList.isPrefixOf cs then some (cs.drop spelling.length) else none

/-- The operator of a level at the start of a text. An operator that goes on as a longer one, or that
assigns, is not it. -/
def operator? (ops : List String) (cs : List Char) : Option (String × List Char) :=
  (ops.findSome? fun op => (after? op cs).map fun rest => (op, rest)).filter fun (op, rest) =>
    match op, rest with
    | "|", '|' :: _ | "&", '&' :: _ | "<", '<' :: _ | ">", '>' :: _ => false
    | op, '=' :: _ => ["==", "!=", "<=", ">="].contains op
    | _, _ => true

/-- A name at the start of a text, and what follows it. -/
def name? (cs : List Char) : Option (String × List Char) :=
  match cs with
  | c :: _ =>
    if c.isAlpha || c = '_' then
      let inName := fun (c : Char) => c.isAlphanum || c = '_'
      some (String.ofList (cs.takeWhile inName), cs.dropWhile inName)
    else none
  | [] => none

/-- The operator of an assignment after a name, empty for a plain one, and what follows it. -/
def assigns? (cs : List Char) : Option (String × List Char) :=
  match skip cs with
  | '=' :: '=' :: _ => none
  | cs => ["", "+", "-", "*", "/", "%", "&", "|", "^", "<<", ">>"].findSome? fun op =>
    (after? (op ++ "=") cs).map fun rest => (op, rest)

/-- What is said of a division by zero. -/
def divisionByZero : String := "division by zero"

/-- What is said where an operand is missing. -/
def expectingPrimary : String := "expecting primary"

mutual

/-- An expression: an assignment, or a choice between two values. -/
def expression : Nat → Variables → List Char → Except String (Int × Variables × List Char)
  | 0, _, _ => .error expectingPrimary
  | fuel + 1, vs, cs => do
    let cs := skip cs
    match (name? cs).bind fun (name, rest) => (assigns? rest).map fun (op, rest) => (name, op, rest) with
    | some (name, op, rest) =>
      let (value, vs, rest) ← expression fuel vs rest
      let old := ((vs.get? name).bind signed?).getD 0
      match if op.isEmpty then some value else apply op old value with
      | none => .error divisionByZero
      | some value => .ok (value, vs.set name (toString value), rest)
    | none =>
      let (test, vs, rest) ← binary fuel 0 vs cs
      match skip rest with
      | '?' :: rest =>
        let (yes, vsYes, rest) ← expression fuel vs rest
        match skip rest with
        | ':' :: rest =>
          let (no, vsNo, rest) ← expression fuel vs rest
          .ok (if test ≠ 0 then (yes, vsYes, rest) else (no, vsNo, rest))
        | _ => .error "expecting ':'"
      | rest => .ok (test, vs, rest)

/-- Operands joined by the operators of a level and of those that bind tighter. -/
def binary : Nat → Nat → Variables → List Char → Except String (Int × Variables × List Char)
  | 0, _, _, _ => .error expectingPrimary
  | fuel + 1, level, vs, cs =>
    match levels[level]? with
    | none => unary fuel vs cs
    | some ops => do
      let (first, vs, rest) ← binary fuel (level + 1) vs cs
      binaryRest fuel level ops first vs rest

/-- More operands of a level. -/
def binaryRest : Nat → Nat → List String → Int → Variables → List Char →
    Except String (Int × Variables × List Char)
  | 0, _, _, _, _, _ => .error expectingPrimary
  | fuel + 1, level, ops, a, vs, cs =>
    match operator? ops (skip cs) with
    | none => .ok (a, vs, cs)
    | some (op, rest) => do
      let (b, vs, rest) ← binary fuel (level + 1) vs rest
      match apply op a b with
      | none => .error divisionByZero
      | some value => binaryRest fuel level ops value vs rest

/-- An operand with signs before it. -/
def unary : Nat → Variables → List Char → Except String (Int × Variables × List Char)
  | 0, _, _ => .error expectingPrimary
  | fuel + 1, vs, cs =>
    match skip cs with
    | '-' :: rest => do
      let (n, vs, rest) ← unary fuel vs rest
      .ok (wrap (-n), vs, rest)
    | '+' :: rest => unary fuel vs rest
    | '!' :: rest => do
      let (n, vs, rest) ← unary fuel vs rest
      .ok (truth (n = 0), vs, rest)
    | '~' :: rest => do
      let (n, vs, rest) ← unary fuel vs rest
      .ok (wrap (-n - 1), vs, rest)
    | '(' :: rest => do
      let (n, vs, rest) ← expression fuel vs rest
      match skip rest with
      | ')' :: rest => .ok (n, vs, rest)
      | _ => .error "expecting ')'"
    | cs =>
      match name? cs with
      | some (name, rest) =>
        match vs.get? name with
        | none => .ok (0, vs, rest)
        | some "" => .ok (0, vs, rest)
        | some value =>
          match signed? value with
          | some n => .ok (wrap n, vs, rest)
          | none => .error ("Illegal number: " ++ value)
      | none =>
        let word := numberStart cs
        match number? word with
        | some n => .ok (wrap n, vs, cs.drop word.length)
        | none => .error expectingPrimary

end

/-- **The value of an expression**, and the variables after it. No expression at all is zero. -/
def evaluate (vs : Variables) (source : String) : Except String (Int × Variables) :=
  let cs := skip source.toList
  if cs.isEmpty then .ok (0, vs)
  else
    match expression (16 * cs.length + 32) vs cs with
    | .error e => .error (e ++ ": \"" ++ source ++ "\"")
    | .ok (n, vs, rest) =>
      if (skip rest).isEmpty then .ok (n, vs) else .error ("expecting EOF: \"" ++ source ++ "\"")

end Arithmetic

end ChildWatch.Shell
