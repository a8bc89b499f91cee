import ChildWatch.Decimal.Binary

/-! # Documents of tables and values

What a configuration text holds: tables of keys and values, each with the place it stands at.

* `Span` — a stretch of the text, in bytes.
* `Node`, `Entry` — values and tables.
* `Fault` — what is wrong with a text, and where. -/

namespace ChildWatch.Toml

/-- A stretch of a text, from a byte up to another. -/
structure Span where
  start : Nat
  stop : Nat
deriving DecidableEq, Repr

/-- A key and where it stands. -/
structure Key where
  text : String
  span : Span
deriving DecidableEq, Repr

/-- A number with a point or a power of ten. -/
inductive FloatValue where
  | finite (negative : Bool) (magnitude : Decimal.Binary)
  | infinite (negative : Bool)
  | notANumber
deriving DecidableEq, Repr

/-- A value that is no table and no array. -/
inductive Scalar where
  | string (s : String)
  | integer (n : Int)
  | float (x : FloatValue)
  | boolean (b : Bool)
  | datetime
deriving DecidableEq, Repr

/-- How a table came about: by a header of its own (or as the whole document), because a header named
a table below it, because a dotted key named something in it, or in braces. -/
inductive TableOrigin where
  | header
  | implied
  | dotted
  | inline
deriving DecidableEq, Repr

/-- A value: a scalar, an array written in brackets, the tables of a repeated header, or a table. A
table is a list of keys with the places and values they have. -/
inductive Node where
  | scalar (s : Scalar)
  | array (items : List Node)
  | tables (items : List (List (Key × Span × Node)))
  | table (origin : TableOrigin) (entries : List (Key × Span × Node))

/-- A key of a table, where its value stands, and the value. -/
abbrev Entry := Key × Span × Node

/-- What is wrong with a text. -/
inductive Cause where
  | unexpected
  | unclosedString
  | unknownEscape
  | badCharacter
  | badNumber
  | numberTooLarge
  | badDate
  | missingValue
  | duplicateKey
  | nestedTooDeeply
deriving DecidableEq, Repr

/-- The wording of each cause. -/
def Cause.message : Cause → String
  | .unexpected => "this was not expected here"
  | .unclosedString => "the string is not closed"
  | .unknownEscape => "the escape has no meaning"
  | .badCharacter => "this character must be escaped"
  | .badNumber => "the value is not valid"
  | .numberTooLarge => "the number is too large"
  | .badDate => "the date or time is not valid"
  | .missingValue => "a value is missing"
  | .duplicateKey => "the key is given twice"
  | .nestedTooDeeply => "the values are nested too deeply"

/-- A cause and where it lies. -/
structure Fault where
  span : Span
  cause : Cause
deriving DecidableEq, Repr

/-- A place in a text: the characters from there on, and how many bytes lie before. `wide` tells that
an integer beyond 64 bits has been read. -/
structure Cursor where
  rest : List Char
  pos : Nat
  wide : Bool
deriving DecidableEq, Repr

namespace Cursor

/-- The place before some text. -/
def ofText (text : List Char) : Cursor := ⟨text, 0, false⟩

/-- How many bytes some characters take. -/
def width (cs : List Char) : Nat := cs.foldl (fun n c => n + c.utf8Size) 0

/-- The place after a character that has been read; `rest` is what follows it. -/
def past (c : Cursor) (read : Char) (rest : List Char) : Cursor :=
  { c with rest := rest, pos := c.pos + read.utf8Size }

/-- The place after some characters. -/
def drop (c : Cursor) (n : Nat) : Cursor :=
  { c with rest := c.rest.drop n, pos := c.pos + width (c.rest.take n) }

/-- The characters up to the first that fails a test, and the place there. -/
def takeWhile (c : Cursor) (p : Char → Bool) : List Char × Cursor :=
  let taken := c.rest.takeWhile p
  (taken, { c with rest := c.rest.dropWhile p, pos := c.pos + width taken })

/-- The fault of the next character. -/
def fault (c : Cursor) (cause : Cause) : Fault :=
  ⟨⟨c.pos, c.pos + (c.rest.head?.map Char.utf8Size).getD 0⟩, cause⟩

end Cursor

end ChildWatch.Toml
