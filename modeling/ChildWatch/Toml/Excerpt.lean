import ChildWatch.Toml.Value

/-! # Excerpts

A fault is reported with the line it lies in and with carets below it.

* `Place.of` — the line and column of a byte of a text.
* `Excerpt.render` — the report. -/

namespace ChildWatch.Toml

/-- The lines of a text, at its line feeds; a carriage return belongs to its line. -/
def splitLines : List Char → List (List Char)
  | [] => [[]]
  | c :: rest =>
    if c = '\n' then [] :: splitLines rest
    else
      match splitLines rest with
      | [] => [[c]]
      | line :: more => (c :: line) :: more

/-- A place in a text: its line and column, counted from zero in characters. -/
structure Place where
  line : Nat
  column : Nat
deriving DecidableEq, Repr

/-- The place of a byte of a text. -/
def Place.of (text : List Char) (byte : Nat) : Place :=
  go text byte ⟨0, 0⟩
where
  /-- The place so many bytes after `here`. -/
  go : List Char → Nat → Place → Place
    | [], _, here => here
    | c :: rest, left, here =>
      if left = 0 then here
      else
        go rest (left - c.utf8Size)
          (if c = '\n' then ⟨here.line + 1, 0⟩ else ⟨here.line, here.column + 1⟩)

namespace Excerpt

/-- So many copies of a character. -/
def repeated (n : Nat) (c : Char) : String := String.ofList (List.replicate n c)

/-- How many carets mark a span that starts in a column of a line: one for each byte, up to the end of
the line, and one at least. -/
def carets (span : Span) (line : List Char) (column : Nat) : Nat :=
  max 1 (min (span.stop - span.start) (Cursor.width line - column))

/-- **The report of a fault**: where it lies, the line with its number, the carets, and the
reason. -/
def render (text : String) (span : Span) (reason : String) : String :=
  let chars := text.toList
  let place := Place.of chars span.start
  let line := (splitLines chars)[place.line]?.getD []
  let number := toString (place.line + 1)
  let margin := repeated (number.length + 1) ' ' ++ "|"
  "TOML parse error at line " ++ number ++ ", column " ++ toString (place.column + 1) ++ "\n" ++
    margin ++ "\n" ++
    number ++ " | " ++ String.ofList line ++ "\n" ++
    margin ++ repeated (place.column + 1) ' ' ++
      repeated (carets span line place.column) '^' ++ "\n" ++
    reason ++ "\n"

end Excerpt

end ChildWatch.Toml
