import ChildWatch.Shell.Arithmetic

/-! # Conditions

* `Test.evaluate` — whether the condition that some words spell holds. -/

namespace ChildWatch.Shell.Test

/-- What is known of the files that conditions ask about: whether a path leads to anything, to a
file, to a directory, to a file that is not empty, or to one that can be run. -/
structure Files where
  exists? : String → Bool
  isFile : String → Bool
  isDirectory : String → Bool
  isFilled : String → Bool
  isRunnable : String → Bool

/-- The number that a word spells. -/
def number (s : String) : Except String Int :=
  match Arithmetic.signed? s with
  | some n => .ok n
  | none => .error ("Illegal number: " ++ s)

/-- A condition on one word. -/
def unary? (files : Files) (op : String) : Option (String → Bool) :=
  match op with
  | "-n" => some (· ≠ "")
  | "-z" => some (· = "")
  | "-e" => some files.exists?
  | "-f" => some files.isFile
  | "-d" => some files.isDirectory
  | "-s" => some files.isFilled
  | "-r" | "-w" => some files.exists?
  | "-x" => some fun path => files.isRunnable path || files.isDirectory path
  | "-h" | "-L" | "-p" | "-t" | "-b" | "-c" | "-S" => some fun _ => false
  | _ => none

/-- A condition on two words. -/
def binary? (op : String) : Option (String → String → Except String Bool) :=
  let compare := fun (p : Int → Int → Bool) a b => do .ok (p (← number a) (← number b))
  match op with
  | "=" | "==" => some fun a b => .ok (a == b)
  | "!=" => some fun a b => .ok (a != b)
  | "<" => some fun a b => .ok (a < b)
  | ">" => some fun a b => .ok (b < a)
  | "-eq" => some (compare fun a b => a == b)
  | "-ne" => some (compare fun a b => a != b)
  | "-lt" => some (compare fun a b => a < b)
  | "-le" => some (compare fun a b => a ≤ b)
  | "-gt" => some (compare fun a b => b < a)
  | "-ge" => some (compare fun a b => b ≤ a)
  | _ => none

mutual

/-- Conditions of which one has to hold. -/
def anyOf (files : Files) : Nat → List String → Except String (Bool × List String)
  | 0, _ => .error "argument expected"
  | fuel + 1, ws => do
    let (a, rest) ← allOf files fuel ws
    match rest with
    | "-o" :: rest => do
      let (b, rest) ← anyOf files fuel rest
      .ok (a || b, rest)
    | rest => .ok (a, rest)

/-- Conditions of which all have to hold. -/
def allOf (files : Files) : Nat → List String → Except String (Bool × List String)
  | 0, _ => .error "argument expected"
  | fuel + 1, ws => do
    let (a, rest) ← primary files fuel ws
    match rest with
    | "-a" :: rest => do
      let (b, rest) ← allOf files fuel rest
      .ok (a && b, rest)
    | rest => .ok (a, rest)

/-- One condition. -/
def primary (files : Files) : Nat → List String → Except String (Bool × List String)
  | 0, _ => .error "argument expected"
  | fuel + 1, ws =>
    match ws with
    | [] => .ok (false, [])
    | [a] => .ok (a ≠ "", [])
    | a :: op :: rest =>
      match binary? op, rest with
      | some p, b :: rest => do .ok (← p a b, rest)
      | some _, [] => .error (op ++ ": argument expected")
      | none, _ =>
        if a = "!" then do
          let (b, rest) ← primary files fuel (op :: rest)
          .ok (!b, rest)
        else if a = "(" then do
          let (b, rest) ← anyOf files fuel (op :: rest)
          match rest with
          | ")" :: rest => .ok (b, rest)
          | _ => .error "closing paren expected"
        else
          match unary? files a with
          | some p => .ok (p op, rest)
          | none => .ok (a ≠ "", op :: rest)

end

/-- **Whether a condition holds.** No words at all hold nothing. If words are left over, the one before
them is at fault. -/
def evaluate (files : Files) (ws : List String) : Except String Bool :=
  if ws.isEmpty then .ok false
  else
    match anyOf files (4 * ws.length + 4) ws with
    | .error e => .error e
    | .ok (b, []) => .ok b
    | .ok (_, rest) =>
      .error ((ws.take (ws.length - rest.length)).getLast?.getD "" ++ ": unexpected operator")

end ChildWatch.Shell.Test
