import ChildWatch.Toml.Value

/-! # Strings and blanks of a document

* `readString` — a string in double or single quotes, on one line or on several.
* `skipBlanks`, `skipLines` — what stands between values. -/

namespace ChildWatch.Toml.Reader

/-- A reader takes in some text and moves on, or says what is wrong. -/
abbrev Result (α : Type) := Except Fault (α × Cursor)

/-- The fault of the next character. -/
def fail {α : Type} (c : Cursor) (cause : Cause) : Except Fault α := .error (c.fault cause)

/-! ## Blanks, comments and line ends -/

/-- A blank within a line. -/
def isBlank (c : Char) : Bool := c == ' ' || c == '\t'

/-- A character that may stand in a comment or a string as it is. -/
def isPlain (c : Char) : Bool := c == '\t' || (32 ≤ c.toNat && c.toNat != 127)

/-- The place after blanks. -/
def skipBlanks (c : Cursor) : Cursor := (c.takeWhile isBlank).2

/-- The place after a comment, if there is one. -/
def skipComment (c : Cursor) : Cursor :=
  match c.rest with
  | '#' :: _ => (c.takeWhile isPlain).2
  | _ => c

/-- The place after a line end, if there is one: a line feed, alone or after a carriage return. -/
def lineEnd? (c : Cursor) : Option Cursor :=
  match c.rest with
  | '\n' :: _ => some (c.drop 1)
  | '\r' :: '\n' :: _ => some (c.drop 2)
  | _ => none

/-- The rest of a line that holds nothing more: blanks, a comment, and the line end or the end of the
text. -/
def finishLine (c : Cursor) : Except Fault Cursor :=
  let c := skipComment (skipBlanks c)
  match lineEnd? c with
  | some c => .ok c
  | none => if c.rest.isEmpty then .ok c else fail c .unexpected

/-- The place after blanks, comments and line ends. -/
def skipLines : Nat → Cursor → Cursor
  | 0, c => c
  | fuel + 1, c =>
    let c := skipComment (skipBlanks c)
    match lineEnd? c with
    | some c => skipLines fuel c
    | none => c

/-- The place after everything between values, within brackets. -/
def skipSpace (c : Cursor) : Cursor := skipLines (c.rest.length + 1) c

/-! ## Strings -/

/-- The value of a hexadecimal digit. -/
def hexValue? (c : Char) : Option Nat :=
  if c.isDigit then some (c.toNat - 48)
  else if 'a' ≤ c ∧ c ≤ 'f' then some (c.toNat - 87)
  else if 'A' ≤ c ∧ c ≤ 'F' then some (c.toNat - 55)
  else none

/-- The character of so many hexadecimal digits. -/
def hexEscape (count : Nat) (c : Cursor) : Result Char :=
  let digits := c.rest.take count
  match digits.mapM hexValue? with
  | none => fail c .unknownEscape
  | some values =>
    let n := values.foldl (fun sum d => 16 * sum + d) 0
    if values.length ≠ count then fail c .unknownEscape
    else if h : n.isValidChar then .ok (Char.ofNatAux n h, c.drop count)
    else fail c .unknownEscape

/-- The character of an escape, from after the backslash. -/
def escape (c : Cursor) : Result Char :=
  match c.rest with
  | [] => fail c .unclosedString
  | k :: rest =>
    let next := c.past k rest
    match k with
    | 'b' => .ok ('\x08', next)
    | 't' => .ok ('\t', next)
    | 'n' => .ok ('\n', next)
    | 'f' => .ok ('\x0C', next)
    | 'r' => .ok ('\r', next)
    | 'e' => .ok ('\x1B', next)
    | '"' => .ok ('"', next)
    | '\\' => .ok ('\\', next)
    | 'x' => hexEscape 2 next
    | 'u' => hexEscape 4 next
    | 'U' => hexEscape 8 next
    | _ => fail c .unknownEscape

/-- The rest of a string on one line; `done` is what has been read, latest first. Single quotes take
everything as it stands. -/
def oneLine (quote : Char) : Nat → List Char → Cursor → Result String
  | 0, _, c => fail c .unclosedString
  | fuel + 1, done, c =>
    match c.rest with
    | [] => fail c .unclosedString
    | k :: rest =>
      let next := c.past k rest
      if k = quote then .ok (String.ofList done.reverse, next)
      else if k = '\\' ∧ quote = '"' then
        match escape next with
        | .error f => .error f
        | .ok (char, next) => oneLine quote fuel (char :: done) next
      else if isPlain k then oneLine quote fuel (k :: done) next
      else fail c .badCharacter

/-- A backslash at the end of a line joins it to the next text: blanks and line ends after it are
passed over, if there is a line end among them. -/
def joinLines? (c : Cursor) : Option Cursor :=
  let c := skipBlanks c
  match lineEnd? c with
  | none => none
  | some c =>
    let blank := fun k => isBlank k || k == '\n' || k == '\r'
    some (c.takeWhile blank).2

/-- The rest of a string on several lines. Three quotes close it; one or two more before them belong
to the text. -/
def manyLines (quote : Char) : Nat → List Char → Cursor → Result String
  | 0, _, c => fail c .unclosedString
  | fuel + 1, done, c =>
    match c.rest with
    | [] => fail c .unclosedString
    | k :: rest =>
      let next := c.past k rest
      if k = quote then
        let quotes := (c.rest.takeWhile (· == quote)).length
        if quotes < 3 then manyLines quote fuel (k :: done) next
        else
          let kept := min (quotes - 3) 2
          .ok (String.ofList (List.replicate kept quote ++ done).reverse, c.drop (kept + 3))
      else if k = '\\' ∧ quote = '"' then
        match joinLines? next with
        | some next => manyLines quote fuel done next
        | none =>
          match escape next with
          | .error f => .error f
          | .ok (char, next) => manyLines quote fuel (char :: done) next
      else
        match lineEnd? c with
        | some next =>
          let ended := c.rest.take (c.rest.length - next.rest.length)
          manyLines quote fuel (ended.reverse ++ done) next
        | none => if isPlain k then manyLines quote fuel (k :: done) next else fail c .badCharacter

/-- **A string**, from its first quote. A line end right after three opening quotes is dropped.
`several` tells whether three quotes are allowed. -/
def readString (several : Bool) (c : Cursor) : Result String :=
  match c.rest with
  | quote :: rest =>
    if several && (c.rest.take 3 == [quote, quote, quote]) then
      let c := c.drop 3
      let c := (lineEnd? c).getD c
      manyLines quote (c.rest.length + 1) [] c
    else oneLine quote (rest.length + 1) [] (c.past quote rest)
  | [] => fail c .missingValue

end ChildWatch.Toml.Reader
