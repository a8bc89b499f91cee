import ChildWatch.Text.Utf8

/-! # Lines of output

A line as captured from a child: text without its terminator.

* `Line.ofRaw` — from raw bytes: one line feed at the end and one carriage return before it are
  dropped, then the bytes are decoded lossily.
* `Line.body` — the bytes that remain. -/

namespace ChildWatch.Text

/-- A captured line. -/
structure Line where
  text : String
deriving DecidableEq, Repr, Inhabited

namespace Line

/-- The line feed. -/
def lineFeed : UInt8 := 10

/-- The carriage return. -/
def carriageReturn : UInt8 := 13

/-- The bytes of a line without its terminator: a line feed, or a carriage return and a line feed.
A carriage return elsewhere is text. -/
def body (raw : List UInt8) : List UInt8 :=
  match raw.reverse with
  | b :: rest =>
    if b = lineFeed then
      match rest with
      | c :: rest' => if c = carriageReturn then rest'.reverse else rest.reverse
      | [] => []
    else raw
  | [] => raw

/-- **A line from raw bytes.** -/
def ofRaw (raw : List UInt8) : Line := ⟨Utf8.decodeLossy (body raw)⟩

end Line

end ChildWatch.Text
